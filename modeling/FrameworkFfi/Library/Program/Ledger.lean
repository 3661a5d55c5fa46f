import FrameworkFfi.Library.Program.Frame

/-!
# What a program adds to a ledger

A ledger is a list in the state that a program appends to. `Settles f given m made`
says that a run of `m` that finds the entries `given` at the end of the ledger
`f` leaves the entries `made a` in their place, where `a` is what it returns.
Whatever stands before them is the frame. It is part of the definition, so the
frame rule holds of every program.
-/

namespace Effect

variable {ρ σ ε α β τ ι : Type}

/-- The run of `m` replaces the last entries `given` of the ledger `f` by those of
its result. -/
def Settles (f : σ → List τ) (given : List τ) (m : Program ρ σ ε α) (made : α → List τ) :
    Prop :=
  ∀ r s a s', Returns m r s a s' → ∀ frame, f s = frame ++ given → f s' = frame ++ made a

section Rules

variable {f : σ → List τ} {given : List τ}

theorem settles_pure {a : α} {made : α → List τ} (h : made a = given) :
    Settles f given (pure a : Program ρ σ ε α) made := by
  intro r s b s' hr frame hs
  obtain ⟨rfl, rfl⟩ := returns_pure.mp hr
  rw [hs, h]

theorem Settles.bind {m : Program ρ σ ε α} {k : α → Program ρ σ ε β} {made : α → List τ}
    {made' : β → List τ} (hm : Settles f given m made)
    (hk : ∀ a, Settles f (made a) (k a) made') : Settles f given (m >>= k) made' := by
  intro r s b s' h frame hs
  obtain ⟨a, s₁, h₁, h₂⟩ := returns_bind.mp h
  exact hk a r s₁ b s' h₂ frame (hm r s a s₁ h₁ frame hs)

/-- The frame rule. -/
theorem Settles.frame {m : Program ρ σ ε α} {made : α → List τ} (h : Settles f [] m made) :
    Settles f given m fun a => given ++ made a := by
  intro r s a s' hr frame hs
  rw [h r s a s' hr (frame ++ given) (by rw [hs, List.append_nil]), List.append_assoc]

/-- What a program adds that starts from nothing. -/
theorem Settles.appends {m : Program ρ σ ε α} {made : α → List τ} (h : Settles f [] m made)
    {r : ρ} {s s' : σ} {a : α} (hr : Returns m r s a s') : f s' = f s ++ made a :=
  h r s a s' hr (f s) (List.append_nil _).symm

end Rules

end Effect
