import Mathlib.Logic.Basic

/-!
# Programs over an environment, a state and an abnormal end

A program reads an environment `ρ`, threads a state `σ` and either returns a
value or stops with an `ε`. `Returns m r s a s'` and `Aborts m r s e` are the
two ways a run can end; a run ends in exactly one of them. The lemmas invert a
run of a composed program into the runs of its parts, so that a proof about a
`do` block peels it apart one step at a time.
-/

namespace Effect

/-- A program with environment `ρ`, state `σ` and abnormal end `ε`. -/
abbrev Program (ρ σ ε : Type) : Type → Type := ReaderT ρ (StateT σ (Except ε))

variable {ρ σ ε α β ι : Type}

/-- The run of `m` in `r` from `s` returns `a` and leaves the state `s'`. -/
def Returns (m : Program ρ σ ε α) (r : ρ) (s : σ) (a : α) (s' : σ) : Prop :=
  m r s = .ok (a, s')

/-- The run of `m` in `r` from `s` stops with `e`. -/
def Aborts (m : Program ρ σ ε α) (r : ρ) (s : σ) (e : ε) : Prop :=
  m r s = .error e

/-- Stop with `e`. -/
def abort (e : ε) : Program ρ σ ε α := fun _ _ => .error e

/-- The part `f` of the environment. -/
def view (f : ρ → α) : Program ρ σ ε α := fun r s => .ok (f r, s)

/-- One atomic action: it reads the environment and the state, returns a value
and replaces the state. -/
def act (f : ρ → σ → α × σ) : Program ρ σ ε α := fun r s => .ok (f r s)

theorem returns_or_aborts (m : Program ρ σ ε α) (r : ρ) (s : σ) :
    (∃ a s', Returns m r s a s') ∨ ∃ e, Aborts m r s e := by
  unfold Returns Aborts
  cases h : m r s with
  | ok p => exact .inl ⟨p.1, p.2, rfl⟩
  | error e => exact .inr ⟨e, rfl⟩

theorem Returns.unique {m : Program ρ σ ε α} {r : ρ} {s s₁ s₂ : σ} {a₁ a₂ : α}
    (h₁ : Returns m r s a₁ s₁) (h₂ : Returns m r s a₂ s₂) : a₁ = a₂ ∧ s₁ = s₂ := by
  have h : (a₁, s₁) = (a₂, s₂) := Except.ok.inj (h₁.symm.trans h₂)
  exact Prod.mk.inj h

theorem Returns.not_aborts {m : Program ρ σ ε α} {r : ρ} {s s' : σ} {a : α} {e : ε}
    (h : Returns m r s a s') : ¬ Aborts m r s e := by
  intro h'
  have : (Except.ok (a, s') : Except ε (α × σ)) = .error e := h.symm.trans h'
  cases this

@[simp] theorem returns_pure {a b : α} {r : ρ} {s s' : σ} :
    Returns (pure a : Program ρ σ ε α) r s b s' ↔ b = a ∧ s' = s := by
  constructor
  · intro h
    have h' : (a, s) = (b, s') := Except.ok.inj h
    exact ⟨(congrArg Prod.fst h').symm, (congrArg Prod.snd h').symm⟩
  · rintro ⟨rfl, rfl⟩
    rfl

theorem returns_pure_self {a : α} {r : ρ} {s : σ} :
    Returns (pure a : Program ρ σ ε α) r s a s := rfl

@[simp] theorem aborts_pure {a : α} {r : ρ} {s : σ} {e : ε} :
    ¬ Aborts (pure a : Program ρ σ ε α) r s e := by
  intro h
  cases h

@[simp] theorem returns_abort {a : α} {r : ρ} {s s' : σ} {e : ε} :
    ¬ Returns (abort e : Program ρ σ ε α) r s a s' := by
  intro h
  cases h

@[simp] theorem returns_act {f : ρ → σ → α × σ} {a : α} {r : ρ} {s s' : σ} :
    Returns (act f : Program ρ σ ε α) r s a s' ↔ a = (f r s).1 ∧ s' = (f r s).2 := by
  constructor
  · intro h
    have h' : f r s = (a, s') := Except.ok.inj h
    exact ⟨(congrArg Prod.fst h').symm, (congrArg Prod.snd h').symm⟩
  · rintro ⟨rfl, rfl⟩
    rfl

@[simp] theorem aborts_act {f : ρ → σ → α × σ} {r : ρ} {s : σ} {e : ε} :
    ¬ Aborts (act f : Program ρ σ ε α) r s e := by
  intro h
  cases h

@[simp] theorem returns_view {f : ρ → α} {a : α} {r : ρ} {s s' : σ} :
    Returns (view f : Program ρ σ ε α) r s a s' ↔ a = f r ∧ s' = s := by
  constructor
  · intro h
    have h' : (f r, s) = (a, s') := Except.ok.inj h
    exact ⟨(congrArg Prod.fst h').symm, (congrArg Prod.snd h').symm⟩
  · rintro ⟨rfl, rfl⟩
    rfl

theorem returns_view_self {f : ρ → α} {r : ρ} {s : σ} :
    Returns (view f : Program ρ σ ε α) r s (f r) s := rfl

@[simp] theorem aborts_view {f : ρ → α} {r : ρ} {s : σ} {e : ε} :
    ¬ Aborts (view f : Program ρ σ ε α) r s e := by
  intro h
  cases h

theorem bind_apply (m : Program ρ σ ε α) (k : α → Program ρ σ ε β) (r : ρ) (s : σ) :
    (m >>= k) r s = (m r s).bind fun p => k p.1 r p.2 := rfl

/-- A composed program returns exactly when its first part returns and the rest
returns from there. -/
theorem returns_bind {m : Program ρ σ ε α} {k : α → Program ρ σ ε β} {b : β} {r : ρ}
    {s s' : σ} :
    Returns (m >>= k) r s b s' ↔
      ∃ a s₁, Returns m r s a s₁ ∧ Returns (k a) r s₁ b s' := by
  unfold Returns
  rw [bind_apply]
  cases h : m r s with
  | error e =>
      constructor
      · intro h'
        cases h'
      · rintro ⟨a, s₁, h', -⟩
        cases h'
  | ok p =>
      constructor
      · intro h'
        exact ⟨p.1, p.2, rfl, h'⟩
      · rintro ⟨a, s₁, h', hk⟩
        cases h'
        exact hk

/-- A composed program stops exactly when its first part stops, or returns and
the rest stops from there. -/
theorem aborts_bind {m : Program ρ σ ε α} {k : α → Program ρ σ ε β} {r : ρ} {s : σ}
    {e : ε} :
    Aborts (m >>= k) r s e ↔
      Aborts m r s e ∨ ∃ a s₁, Returns m r s a s₁ ∧ Aborts (k a) r s₁ e := by
  unfold Returns Aborts
  rw [bind_apply]
  cases h : m r s with
  | error e' =>
      constructor
      · intro h'
        cases h'
        exact .inl rfl
      · rintro (h' | ⟨a, s₁, h', -⟩)
        · cases h'
          rfl
        · cases h'
  | ok p =>
      constructor
      · intro h'
        exact .inr ⟨p.1, p.2, rfl, h'⟩
      · rintro (h' | ⟨a, s₁, h', hk⟩)
        · cases h'
        · cases h'
          exact hk

/-- The first part has been run: the rest decides. -/
theorem Returns.bind_iff {m : Program ρ σ ε α} {k : α → Program ρ σ ε β} {a : α} {b : β}
    {r : ρ} {s s₁ s' : σ} (h : Returns m r s a s₁) :
    Returns (m >>= k) r s b s' ↔ Returns (k a) r s₁ b s' := by
  rw [returns_bind]
  constructor
  · rintro ⟨a', s₂, h', hk⟩
    obtain ⟨rfl, rfl⟩ := h.unique h'
    exact hk
  · intro hk
    exact ⟨a, s₁, h, hk⟩

/-- A loop whose rounds return and leave the state alone is a pure loop. -/
theorem returns_foldlM {g : β → ι → Program ρ σ ε β} {f : β → ι → β} {r : ρ} {s : σ}
    (h : ∀ b i, Returns (g b i) r s (f b i) s) (xs : List ι) (b : β) :
    Returns (xs.foldlM g b) r s (xs.foldl f b) s := by
  induction xs generalizing b with
  | nil => exact returns_pure_self
  | cons x xs ih =>
      rw [List.foldlM_cons, List.foldl_cons, (h b x).bind_iff]
      exact ih (f b x)

end Effect
