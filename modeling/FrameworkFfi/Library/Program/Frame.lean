import FrameworkFfi.Library.Program.Basic

/-!
# What a program leaves alone and where it can stop

`Keeps f m` says that a run of `m` which returns has not changed the part `f`
of the state, `Avoids e m` that no run of `m` stops with `e`, and `Safe m` that
no run stops at all. They are closed under the constructions programs are built
from, so a fact about a composed program follows from the facts about its
parts.
-/

namespace Effect

variable {ρ σ ε α β τ ι : Type}

/-- Every run of `m` that returns leaves the part `f` of the state unchanged. -/
def Keeps (f : σ → τ) (m : Program ρ σ ε α) : Prop :=
  ∀ r s a s', Returns m r s a s' → f s' = f s

/-- No run of `m` stops with `e`. -/
def Avoids (e : ε) (m : Program ρ σ ε α) : Prop :=
  ∀ r s, ¬ Aborts m r s e

/-- No run of `m` stops abnormally. -/
def Safe (m : Program ρ σ ε α) : Prop :=
  ∀ e, Avoids e m

theorem keeps_pure {f : σ → τ} (a : α) : Keeps f (pure a : Program ρ σ ε α) := by
  intro r s b s' h
  obtain ⟨-, rfl⟩ := returns_pure.mp h
  rfl

theorem keeps_abort {f : σ → τ} (e : ε) : Keeps f (abort e : Program ρ σ ε α) := by
  intro r s b s' h
  exact (returns_abort h).elim

theorem keeps_view {f : σ → τ} (g : ρ → α) : Keeps f (view g : Program ρ σ ε α) := by
  intro r s b s' h
  obtain ⟨-, rfl⟩ := returns_view.mp h
  rfl

theorem keeps_act {f : σ → τ} {g : ρ → σ → α × σ} (h : ∀ r s, f (g r s).2 = f s) :
    Keeps f (act g : Program ρ σ ε α) := by
  intro r s b s' hr
  obtain ⟨-, rfl⟩ := returns_act.mp hr
  exact h r s

theorem Keeps.bind {f : σ → τ} {m : Program ρ σ ε α} {k : α → Program ρ σ ε β}
    (hm : Keeps f m) (hk : ∀ a, Keeps f (k a)) : Keeps f (m >>= k) := by
  intro r s b s' h
  obtain ⟨a, s₁, h₁, h₂⟩ := returns_bind.mp h
  exact (hk a r s₁ b s' h₂).trans (hm r s a s₁ h₁)

theorem Keeps.foldlM {f : σ → τ} {g : β → ι → Program ρ σ ε β}
    (h : ∀ b i, Keeps f (g b i)) (xs : List ι) (b : β) : Keeps f (xs.foldlM g b) := by
  induction xs generalizing b with
  | nil => exact keeps_pure b
  | cons x xs ih =>
      rw [List.foldlM_cons]
      exact (h b x).bind fun b' => ih b'

theorem safe_pure (a : α) : Safe (pure a : Program ρ σ ε α) := fun _ _ _ => aborts_pure

theorem safe_view (g : ρ → α) : Safe (view g : Program ρ σ ε α) := fun _ _ _ => aborts_view

theorem safe_act (g : ρ → σ → α × σ) : Safe (act g : Program ρ σ ε α) :=
  fun _ _ _ => aborts_act

theorem Avoids.bind {e : ε} {m : Program ρ σ ε α} {k : α → Program ρ σ ε β}
    (hm : Avoids e m) (hk : ∀ a, Avoids e (k a)) : Avoids e (m >>= k) := by
  intro r s h
  rcases aborts_bind.mp h with h' | ⟨a, s₁, -, h'⟩
  · exact hm r s h'
  · exact hk a r s₁ h'

theorem Avoids.foldlM {e : ε} {g : β → ι → Program ρ σ ε β} (h : ∀ b i, Avoids e (g b i))
    (xs : List ι) (b : β) : Avoids e (xs.foldlM g b) := by
  induction xs generalizing b with
  | nil => exact safe_pure b e
  | cons x xs ih =>
      rw [List.foldlM_cons]
      exact (h b x).bind fun b' => ih b'

theorem Safe.bind {m : Program ρ σ ε α} {k : α → Program ρ σ ε β} (hm : Safe m)
    (hk : ∀ a, Safe (k a)) : Safe (m >>= k) :=
  fun e => (hm e).bind fun a => hk a e

theorem Safe.foldlM {g : β → ι → Program ρ σ ε β} (h : ∀ b i, Safe (g b i)) (xs : List ι)
    (b : β) : Safe (xs.foldlM g b) :=
  fun e => Avoids.foldlM (fun b i => h b i e) xs b

/-- The run of `m` in `r` from `s` returns. -/
def Completes (m : Program ρ σ ε α) (r : ρ) (s : σ) : Prop :=
  ∃ a s', Returns m r s a s'

theorem Safe.returns {m : Program ρ σ ε α} (h : Safe m) (r : ρ) (s : σ) :
    Completes m r s := by
  rcases returns_or_aborts m r s with h' | ⟨e, h'⟩
  · exact h'
  · exact absurd h' (h e r s)

theorem completes_pure (a : α) (r : ρ) (s : σ) :
    Completes (pure a : Program ρ σ ε α) r s :=
  ⟨a, s, rfl⟩

/-- The first part has been run: the rest decides whether the run returns. -/
theorem Returns.completes_bind_iff {m : Program ρ σ ε α} {k : α → Program ρ σ ε β} {a : α}
    {r : ρ} {s s₁ : σ} (h : Returns m r s a s₁) :
    Completes (m >>= k) r s ↔ Completes (k a) r s₁ := by
  constructor
  · rintro ⟨b, s', hr⟩
    exact ⟨b, s', h.bind_iff.mp hr⟩
  · rintro ⟨b, s', hr⟩
    exact ⟨b, s', h.bind_iff.mpr hr⟩

/-- When the rest always returns, the first part decides. -/
theorem completes_bind_iff_of_safe {m : Program ρ σ ε α} {k : α → Program ρ σ ε β}
    (hk : ∀ a, Safe (k a)) (r : ρ) (s : σ) :
    Completes (m >>= k) r s ↔ Completes m r s := by
  constructor
  · rintro ⟨b, s', h⟩
    obtain ⟨a, s₁, h₁, -⟩ := returns_bind.mp h
    exact ⟨a, s₁, h₁⟩
  · rintro ⟨a, s₁, h⟩
    exact h.completes_bind_iff.mpr ((hk a).returns r s₁)

end Effect
