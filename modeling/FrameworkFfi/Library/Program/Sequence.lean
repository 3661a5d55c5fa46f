import FrameworkFfi.Library.Program.Basic

/-!
# Calls one after the other

`Sequence run P r s calls s'` says that the programs `run i` were run one after
the other from `s`, each from a state that satisfies `P i`, and that the last
one left `s'`. The list holds the calls with what they returned, the first call
first.
-/

namespace Effect

variable {ρ σ ε α ι : Type}

inductive Sequence (run : ι → Program ρ σ ε α) (P : ι → σ → Prop) (r : ρ) :
    σ → List (ι × α) → σ → Prop
  | nil (s : σ) : Sequence run P r s [] s
  | cons {s s₁ s' : σ} {i : ι} {a : α} {calls : List (ι × α)} (hP : P i s)
      (hcall : Returns (run i) r s a s₁) (hrest : Sequence run P r s₁ calls s') :
      Sequence run P r s ((i, a) :: calls) s'

namespace Sequence

variable {run : ι → Program ρ σ ε α} {P : ι → σ → Prop} {r : ρ} {s s' : σ}
  {calls : List (ι × α)}

theorem mono {Q : ι → σ → Prop} (h : Sequence run P r s calls s')
    (hPQ : ∀ i s, P i s → Q i s) : Sequence run Q r s calls s' := by
  induction h with
  | nil s => exact .nil s
  | cons hP hcall _ ih => exact .cons (hPQ _ _ hP) hcall ih

/-- What every call preserves, a run preserves. -/
theorem preserves {I : σ → Prop} (h : Sequence run P r s calls s')
    (hcall : ∀ i s a s', P i s → Returns (run i) r s a s' → I s → I s') (hs : I s) : I s' := by
  induction h with
  | nil s => exact hs
  | cons hP hreturns _ ih => exact ih (hcall _ _ _ _ hP hreturns hs)

/-- What every call appends to a list, a run appends call by call. -/
theorem appends {τ : Type} {f : σ → List τ} {g : ι × α → List τ}
    (h : Sequence run P r s calls s')
    (hcall : ∀ i s a s', P i s → Returns (run i) r s a s' → f s' = f s ++ g (i, a)) :
    f s' = f s ++ calls.flatMap g := by
  induction h with
  | nil s => exact (List.append_nil _).symm
  | cons hP hreturns _ ih =>
      rw [ih, hcall _ _ _ _ hP hreturns, List.flatMap_cons, List.append_assoc]

end Sequence

end Effect
