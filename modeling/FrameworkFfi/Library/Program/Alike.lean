import FrameworkFfi.Library.Program.Basic

/-!
# Two runs side by side

`Alike R Q p q` says that what a run of `p` and a run of `q` return is related by `Q`, when
`R` relates their environments. The two runs may start from any two states, so a program
that is alike to itself for equality returns the same wherever `R` holds, whatever was done
before.
-/

namespace Effect

variable {ρ σ ε α β γ δ ι : Type} {R : ρ → ρ → Prop}

/-- The runs of two programs in related environments return related values. -/
def Alike (R : ρ → ρ → Prop) (Q : α → β → Prop) (p : Program ρ σ ε α)
    (q : Program ρ σ ε β) : Prop :=
  ∀ r r' s s' a b s₁ s₂, R r r' → Returns p r s a s₁ → Returns q r' s' b s₂ → Q a b

theorem alike_trivial (p : Program ρ σ ε α) (q : Program ρ σ ε β) :
    Alike R (fun _ _ => True) p q := fun _ _ _ _ _ _ _ _ _ _ _ => trivial

variable {Q : α → β → Prop} {p : Program ρ σ ε α} {q : Program ρ σ ε β}

theorem alike_pure {a : α} {b : β} (h : Q a b) :
    Alike R Q (pure a : Program ρ σ ε α) (pure b) := by
  intro r r' s s' a' b' s₁ s₂ hR ha hb
  obtain ⟨rfl, -⟩ := returns_pure.mp ha
  obtain ⟨rfl, -⟩ := returns_pure.mp hb
  exact h

theorem alike_abort (e : ε) : Alike R Q (abort e : Program ρ σ ε α) q := by
  intro r r' s s' a b s₁ s₂ hR ha hb
  exact absurd ha returns_abort

theorem alike_view {f : ρ → α} {g : ρ → β} (h : ∀ r r', R r r' → Q (f r) (g r')) :
    Alike R Q (view f : Program ρ σ ε α) (view g) := by
  intro r r' s s' a b s₁ s₂ hR ha hb
  obtain ⟨rfl, -⟩ := returns_view.mp ha
  obtain ⟨rfl, -⟩ := returns_view.mp hb
  exact h r r' hR

theorem alike_act {f : ρ → σ → α × σ} {g : ρ → σ → β × σ}
    (h : ∀ r r' s s', R r r' → Q (f r s).1 (g r' s').1) :
    Alike R Q (act f : Program ρ σ ε α) (act g) := by
  intro r r' s s' a b s₁ s₂ hR ha hb
  obtain ⟨rfl, -⟩ := returns_act.mp ha
  obtain ⟨rfl, -⟩ := returns_act.mp hb
  exact h r r' s s' hR

theorem Alike.bind {T : γ → δ → Prop} {k : α → Program ρ σ ε γ} {l : β → Program ρ σ ε δ}
    (hp : Alike R Q p q) (hk : ∀ a b, Q a b → Alike R T (k a) (l b)) :
    Alike R T (p >>= k) (q >>= l) := by
  intro r r' s s' c d s₁ s₂ hR hc hd
  obtain ⟨a, t₁, ha, hka⟩ := returns_bind.mp hc
  obtain ⟨b, t₂, hb, hlb⟩ := returns_bind.mp hd
  exact hk a b (hp r r' s s' a b t₁ t₂ hR ha hb) r r' t₁ t₂ c d s₁ s₂ hR hka hlb

theorem Alike.then {T : γ → δ → Prop} {p q : Program ρ σ ε α} {k : α → Program ρ σ ε γ}
    {l : α → Program ρ σ ε δ} (hp : Alike R Eq p q) (hk : ∀ a, Alike R T (k a) (l a)) :
    Alike R T (p >>= k) (q >>= l) := by
  refine hp.bind ?_
  rintro a _ rfl
  exact hk a

theorem Alike.mono {T : α → β → Prop} (h : Alike R Q p q) (hQ : ∀ a b, Q a b → T a b) :
    Alike R T p q :=
  fun r r' s s' a b s₁ s₂ hR ha hb => hQ a b (h r r' s s' a b s₁ s₂ hR ha hb)

/-- By induction on the list: the two folds go on from related values after each round. -/
theorem Alike.foldlM {f : α → ι → Program ρ σ ε α} {g : β → ι → Program ρ σ ε β}
    {l : List ι} (h : ∀ a b, ∀ i ∈ l, Q a b → Alike R Q (f a i) (g b i)) {a : α} {b : β}
    (hab : Q a b) : Alike R Q (l.foldlM f a) (l.foldlM g b) := by
  induction l generalizing a b with
  | nil => exact alike_pure hab
  | cons i l ih =>
      rw [List.foldlM_cons, List.foldlM_cons]
      refine (h a b i List.mem_cons_self hab).bind fun a' b' hab' => ?_
      exact ih (fun a b j hj => h a b j (List.mem_cons_of_mem _ hj)) hab'

end Effect
