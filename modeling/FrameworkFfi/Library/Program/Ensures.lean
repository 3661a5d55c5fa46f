import FrameworkFfi.Library.Program.Basic

/-!
# What the result of a program satisfies

`Ensures m P` says that whatever a run of `m` returns satisfies `P`, from every
state. The rules follow the constructions programs are built from; a loop needs
an invariant of its accumulator.
-/

namespace Effect

variable {ρ σ ε α β ι : Type}

/-- Every value that a run of `m` returns satisfies `P`. -/
def Ensures (m : Program ρ σ ε α) (P : α → Prop) : Prop :=
  ∀ r s a s', Returns m r s a s' → P a

theorem ensures_trivial (m : Program ρ σ ε α) : Ensures m fun _ => True :=
  fun _ _ _ _ _ => trivial

theorem ensures_pure {a : α} {P : α → Prop} (h : P a) :
    Ensures (pure a : Program ρ σ ε α) P := by
  intro r s b s' hr
  obtain ⟨rfl, -⟩ := returns_pure.mp hr
  exact h

theorem Ensures.bind {m : Program ρ σ ε α} {k : α → Program ρ σ ε β} {P : α → Prop}
    {Q : β → Prop} (hm : Ensures m P) (hk : ∀ a, P a → Ensures (k a) Q) :
    Ensures (m >>= k) Q := by
  intro r s b s' h
  obtain ⟨a, s₁, h₁, h₂⟩ := returns_bind.mp h
  exact hk a (hm r s a s₁ h₁) r s₁ b s' h₂

theorem Ensures.of_forall {m : Program ρ σ ε α} {k : α → Program ρ σ ε β} {Q : β → Prop}
    (hk : ∀ a, Ensures (k a) Q) : Ensures (m >>= k) Q :=
  (ensures_trivial m).bind fun a _ => hk a

theorem Ensures.foldlM {g : β → ι → Program ρ σ ε β} {I : β → Prop}
    (hg : ∀ b i, I b → Ensures (g b i) I) (xs : List ι) {b : β} (hb : I b) :
    Ensures (xs.foldlM g b) I := by
  induction xs generalizing b with
  | nil => exact ensures_pure hb
  | cons x xs ih =>
      rw [List.foldlM_cons]
      exact (hg b x hb).bind fun b' hb' => ih hb'

end Effect
