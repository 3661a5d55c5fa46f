import FrameworkFfi.Library.Program.Frame
import FrameworkFfi.Library.Program.Sequence

/-!
# Runs as lists of events

An event is one change of the state, made by `after` in an environment. `Performs
after P m` says
that every run of `m` which returns takes its state through events that satisfy
`P`. It is closed under the constructions programs are built from, so it is
proved once for a program; whatever the events keep, or preserve, the program
then keeps or preserves, and so does a run of many programs.
-/

namespace Effect

variable {ρ σ ε η α β ι τ : Type}

/-- Every run of `m` that returns is a list of events that satisfy `P`. -/
def Performs (after : ρ → σ → η → σ) (P : η → Prop) (m : Program ρ σ ε α) : Prop :=
  ∀ r s a s', Returns m r s a s' →
    ∃ events : List η, (∀ event ∈ events, P event) ∧ s' = events.foldl (after r) s

section Rules

variable {after : ρ → σ → η → σ} {P Q : η → Prop}

theorem performs_pure (a : α) : Performs after P (pure a : Program ρ σ ε α) := by
  intro r s b s' h
  obtain ⟨-, rfl⟩ := returns_pure.mp h
  exact ⟨[], List.forall_mem_nil _, rfl⟩

theorem performs_abort (e : ε) : Performs after P (abort e : Program ρ σ ε α) := by
  intro r s a s' h
  exact (returns_abort h).elim

theorem performs_view (f : ρ → α) : Performs after P (view f : Program ρ σ ε α) := by
  intro r s a s' h
  obtain ⟨-, rfl⟩ := returns_view.mp h
  exact ⟨[], List.forall_mem_nil _, rfl⟩

theorem performs_of_event {m : Program ρ σ ε α}
    (h : ∀ r s a s', Returns m r s a s' → ∃ event, P event ∧ s' = after r s event) :
    Performs after P m := by
  intro r s a s' hr
  obtain ⟨event, hevent, rfl⟩ := h r s a s' hr
  exact ⟨[event], List.forall_mem_singleton.mpr hevent, rfl⟩

theorem Performs.mono {m : Program ρ σ ε α} (h : Performs after P m)
    (hPQ : ∀ event, P event → Q event) : Performs after Q m := by
  intro r s a s' hr
  obtain ⟨events, hevents, hs'⟩ := h r s a s' hr
  exact ⟨events, fun event hevent => hPQ event (hevents event hevent), hs'⟩

theorem Performs.bind {m : Program ρ σ ε α} {k : α → Program ρ σ ε β} (hm : Performs after P m)
    (hk : ∀ a, Performs after P (k a)) : Performs after P (m >>= k) := by
  intro r s b s' h
  obtain ⟨a, s₁, h₁, h₂⟩ := returns_bind.mp h
  obtain ⟨events, hevents, rfl⟩ := hm r s a s₁ h₁
  obtain ⟨more, hmore, rfl⟩ := hk a r _ b s' h₂
  refine ⟨events ++ more, fun event hevent => ?_, List.foldl_append.symm⟩
  rcases List.mem_append.mp hevent with hevent | hevent
  · exact hevents event hevent
  · exact hmore event hevent

theorem Performs.foldlM {g : β → ι → Program ρ σ ε β} (h : ∀ b i, Performs after P (g b i))
    (xs : List ι) (b : β) : Performs after P (xs.foldlM g b) := by
  induction xs generalizing b with
  | nil => exact performs_pure b
  | cons x xs ih =>
      rw [List.foldlM_cons]
      exact (h b x).bind fun b' => ih b'

end Rules

section Consequences

variable {P : η → Prop}

/-- What every event keeps, a list of events keeps. -/
theorem foldl_keeps {step : σ → η → σ} {f : σ → τ}
    (h : ∀ s event, P event → f (step s event) = f s) {events : List η}
    (hevents : ∀ event ∈ events, P event) (s : σ) : f (events.foldl step s) = f s := by
  induction events generalizing s with
  | nil => rfl
  | cons event events ih =>
      rw [List.forall_mem_cons] at hevents
      rw [List.foldl_cons, ih hevents.2, h s event hevents.1]

/-- What every event preserves, a list of events preserves. -/
theorem foldl_preserves {step : σ → η → σ} {I : σ → Prop}
    (h : ∀ s event, P event → I s → I (step s event)) {events : List η}
    (hevents : ∀ event ∈ events, P event) {s : σ} (hs : I s) : I (events.foldl step s) := by
  induction events generalizing s with
  | nil => exact hs
  | cons event events ih =>
      rw [List.forall_mem_cons] at hevents
      exact ih hevents.2 (h s event hevents.1 hs)

variable {after : ρ → σ → η → σ} {m : Program ρ σ ε α}

theorem Performs.keeps (hm : Performs after P m) {f : σ → τ}
    (h : ∀ r s event, P event → f (after r s event) = f s) : Keeps f m := by
  intro r s a s' hr
  obtain ⟨events, hevents, rfl⟩ := hm r s a s' hr
  exact foldl_keeps (h r) hevents s

theorem Performs.preserves (hm : Performs after P m) {r : ρ} {I : σ → Prop}
    (h : ∀ s event, P event → I s → I (after r s event)) {s s' : σ} {a : α}
    (hr : Returns m r s a s') (hs : I s) : I s' := by
  obtain ⟨events, hevents, rfl⟩ := hm r s a s' hr
  exact foldl_preserves h hevents hs

end Consequences

end Effect
