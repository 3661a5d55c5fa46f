import FrameworkFfi.Library.Program.Frame

/-!
# Programs that return and keep an invariant

`Succeeds r I m Q` is total correctness with an invariant: from every state that
satisfies `I` the run of `m` in `r` returns, `I` holds of the state it leaves and
`Q` of the value. The rules follow the constructions programs are built from.
-/

namespace Effect

variable {ρ σ ε α β ι : Type} {r : ρ} {I : σ → Prop}

/-- From every state with `I` the run of `m` returns a value with `Q` and leaves a
state with `I`. -/
def Succeeds (r : ρ) (I : σ → Prop) (m : Program ρ σ ε α) (Q : α → Prop) : Prop :=
  ∀ s, I s → ∃ a s', Returns m r s a s' ∧ I s' ∧ Q a

theorem Succeeds.mono {m : Program ρ σ ε α} {Q Q' : α → Prop} (h : Succeeds r I m Q)
    (hQ : ∀ a, Q a → Q' a) : Succeeds r I m Q' := by
  intro s hs
  obtain ⟨a, s', hr, hs', ha⟩ := h s hs
  exact ⟨a, s', hr, hs', hQ a ha⟩

theorem succeeds_pure {a : α} {Q : α → Prop} (h : Q a) :
    Succeeds r I (pure a : Program ρ σ ε α) Q :=
  fun s hs => ⟨a, s, returns_pure_self, hs, h⟩

theorem succeeds_view {f : ρ → α} {Q : α → Prop} (h : Q (f r)) :
    Succeeds r I (view f : Program ρ σ ε α) Q :=
  fun s hs => ⟨f r, s, returns_view_self, hs, h⟩

theorem succeeds_act {f : ρ → σ → α × σ} {Q : α → Prop}
    (h : ∀ s, I s → I (f r s).2 ∧ Q (f r s).1) :
    Succeeds r I (act f : Program ρ σ ε α) Q :=
  fun s hs => ⟨_, _, returns_act.mpr ⟨rfl, rfl⟩, (h s hs).1, (h s hs).2⟩

theorem Succeeds.bind {m : Program ρ σ ε α} {k : α → Program ρ σ ε β} {P : α → Prop}
    {Q : β → Prop} (hm : Succeeds r I m P) (hk : ∀ a, P a → Succeeds r I (k a) Q) :
    Succeeds r I (m >>= k) Q := by
  intro s hs
  obtain ⟨a, s₁, hr, hs₁, ha⟩ := hm s hs
  obtain ⟨b, s', hr', hs', hb⟩ := hk a ha s₁ hs₁
  exact ⟨b, s', hr.bind_iff.mpr hr', hs', hb⟩

theorem Succeeds.foldlM {g : β → ι → Program ρ σ ε β} {J : β → Prop} {xs : List ι}
    (hg : ∀ b, ∀ i ∈ xs, J b → Succeeds r I (g b i) J) {b : β} (hb : J b) :
    Succeeds r I (xs.foldlM g b) J := by
  induction xs generalizing b with
  | nil => exact succeeds_pure hb
  | cons x xs ih =>
      rw [List.foldlM_cons]
      refine (hg b x List.mem_cons_self hb).bind fun b' hb' => ?_
      exact ih (fun b'' i hi => hg b'' i (List.mem_cons_of_mem x hi)) hb'

end Effect
