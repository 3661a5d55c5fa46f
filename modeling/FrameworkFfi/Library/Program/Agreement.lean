import FrameworkFfi.Library.Program.Basic

/-!
# Programs that do not tell two environments apart

`Agrees R m` says that the runs of `m` in two environments that `R` relates are
the same run, and that `R` still relates the environments in the state where it
ends. The relation depends on the state, so it can speak of what is still to
come.
-/

namespace Effect

variable {ρ σ ε α β : Type} {R : ρ → ρ → σ → Prop}

/-- Related environments have the same run of `m` and are related after it. -/
def Agrees (R : ρ → ρ → σ → Prop) (m : Program ρ σ ε α) : Prop :=
  ∀ r r' s, R r r' s → m r' s = m r s ∧ ∀ a s', Returns m r s a s' → R r r' s'

theorem agrees_pure (a : α) : Agrees R (pure a : Program ρ σ ε α) := by
  intro r r' s hR
  refine ⟨rfl, fun b s' h => ?_⟩
  obtain ⟨-, rfl⟩ := returns_pure.mp h
  exact hR

theorem agrees_view {f : ρ → α} (hf : ∀ r r' s, R r r' s → f r' = f r) :
    Agrees R (view f : Program ρ σ ε α) := by
  intro r r' s hR
  refine ⟨by rw [view, view, hf r r' s hR], fun b s' h => ?_⟩
  obtain ⟨-, rfl⟩ := returns_view.mp h
  exact hR

theorem agrees_act {f : ρ → σ → α × σ} (hf : ∀ r r' s, R r r' s → f r' s = f r s)
    (hR : ∀ r r' s, R r r' s → R r r' (f r s).2) : Agrees R (act f : Program ρ σ ε α) := by
  intro r r' s hrel
  refine ⟨by rw [act, act, hf r r' s hrel], fun b s' h => ?_⟩
  obtain ⟨-, rfl⟩ := returns_act.mp h
  exact hR r r' s hrel

theorem Agrees.bind {m : Program ρ σ ε α} {k : α → Program ρ σ ε β} (hm : Agrees R m)
    (hk : ∀ a, Agrees R (k a)) : Agrees R (m >>= k) := by
  intro r r' s hR
  obtain ⟨heq, hafter⟩ := hm r r' s hR
  refine ⟨?_, fun b s' h => ?_⟩
  · rw [bind_apply, bind_apply, heq]
    cases hrun : m r s with
    | error e => rfl
    | ok p => exact (hk p.1 r r' p.2 (hafter p.1 p.2 hrun)).1
  · obtain ⟨a, s₁, h₁, h₂⟩ := returns_bind.mp h
    exact (hk a r r' s₁ (hafter a s₁ h₁)).2 b s' h₂

/-- Two runs of a program that does not tell its environments apart. -/
theorem Agrees.returns_unique {m : Program ρ σ ε α} (hm : Agrees R m) {r r' : ρ}
    {s s₁ s₂ : σ} {a₁ a₂ : α} (hR : R r r' s) (h₁ : Returns m r s a₁ s₁)
    (h₂ : Returns m r' s a₂ s₂) : a₂ = a₁ ∧ s₂ = s₁ ∧ R r r' s₁ := by
  obtain ⟨heq, hafter⟩ := hm r r' s hR
  have hsame : Returns m r s a₂ s₂ := heq.symm.trans h₂
  obtain ⟨ha, hs⟩ := hsame.unique h₁
  exact ⟨ha, hs, hafter a₁ s₁ h₁⟩

end Effect
