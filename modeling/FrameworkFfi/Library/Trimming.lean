import Mathlib.Data.List.DropRight

/-!
# Trimming the ends of a list

A trimmed list does not end in what was trimmed. Trimming one class of elements
and then another can leave a list that ends in the first class again: exactly if
the list has elements of the second class between two of the first.
-/

namespace Trimming

variable {α : Type*}

/-- The last element is one of a class. -/
def EndsIn (p : α → Bool) (l : List α) : Prop := ∃ a, l.getLast? = some a ∧ p a

/-- The first element is one of a class. -/
def StartsIn (p : α → Bool) (l : List α) : Prop := ∃ a, l.head? = some a ∧ p a

/-- Elements of the second class stand between an element of the first class and the
end, where nothing but the first class follows them. -/
def Hides (p q : α → Bool) (l : List α) : Prop :=
  ∃ before a middle tail, p a ∧ middle ≠ [] ∧ (∀ b ∈ middle, q b) ∧ (∀ b ∈ tail, p b) ∧
    l = before ++ a :: middle ++ tail

section OneClass

variable {p : α → Bool} {l : List α}

@[simp] theorem not_endsIn_nil : ¬ EndsIn p ([] : List α) := by simp [EndsIn]

@[simp] theorem endsIn_concat {a : α} : EndsIn p (l ++ [a]) ↔ p a := by simp [EndsIn]

@[simp] theorem not_startsIn_nil : ¬ StartsIn p ([] : List α) := by simp [StartsIn]

@[simp] theorem startsIn_cons {a : α} : StartsIn p (a :: l) ↔ p a := by simp [StartsIn]

theorem rdropWhile_eq_self_iff : l.rdropWhile p = l ↔ ¬ EndsIn p l := by
  induction l using List.reverseRecOn with
  | nil => simp
  | append_singleton l a _ => simp

theorem dropWhile_eq_self_iff : l.dropWhile p = l ↔ ¬ StartsIn p l := by
  cases l with
  | nil => simp
  | cons a l => simp

theorem not_endsIn_rdropWhile : ¬ EndsIn p (l.rdropWhile p) :=
  rdropWhile_eq_self_iff.mp (List.rdropWhile_idempotent p l)

theorem not_startsIn_dropWhile : ¬ StartsIn p (l.dropWhile p) :=
  dropWhile_eq_self_iff.mp (List.dropWhile_idempotent p l)

/-- What is trimmed can stand at the end any number of times. -/
theorem rdropWhile_append_of_forall {tail : List α} (h : ∀ a ∈ tail, p a) :
    (l ++ tail).rdropWhile p = l.rdropWhile p := by
  induction tail using List.reverseRecOn with
  | nil => rw [List.append_nil]
  | append_singleton tail a ih =>
      have hinit : ∀ b ∈ tail, p b := fun b hb => h b (List.mem_append_left [a] hb)
      rw [← List.append_assoc, List.rdropWhile_concat_pos p _ a (h a (by simp)), ih hinit]

/-- A list that ends in no element of the class is what is left of it with a tail. -/
theorem rdropWhile_append_of_not_endsIn {tail : List α} (hl : ¬ EndsIn p l)
    (h : ∀ a ∈ tail, p a) : (l ++ tail).rdropWhile p = l := by
  rw [rdropWhile_append_of_forall h, rdropWhile_eq_self_iff.mpr hl]

/-- A list is its trimmed form and what was trimmed. -/
theorem exists_eq_rdropWhile_append (p : α → Bool) (l : List α) :
    ∃ tail, (∀ a ∈ tail, p a) ∧ l = l.rdropWhile p ++ tail :=
  ⟨l.rtakeWhile p, fun _ => List.mem_rtakeWhile_imp, List.rdropWhile_append_rtakeWhile.symm⟩

end OneClass

section TwoClasses

variable {p q : α → Bool} {l : List α}

/-- The front has no part in how a list ends, unless all of it is trimmed. -/
theorem endsIn_of_endsIn_dropWhile (h : EndsIn p (l.dropWhile q)) : EndsIn p l := by
  obtain ⟨a, hlast, ha⟩ := h
  obtain ⟨front, hfront⟩ := List.dropWhile_suffix q (l := l)
  refine ⟨a, ?_, ha⟩
  rw [← hfront, List.getLast?_append, hlast, Option.some_or]

theorem endsIn_dropWhile_iff (hpq : ∀ a, p a → ¬ q a) :
    EndsIn p (l.dropWhile q) ↔ EndsIn p l := by
  refine ⟨endsIn_of_endsIn_dropWhile, ?_⟩
  rintro ⟨a, hlast, ha⟩
  obtain ⟨before, rfl⟩ := List.getLast?_eq_some_iff.mp hlast
  rw [List.dropWhile_append]
  by_cases hall : (before.dropWhile q).isEmpty
  · rw [if_pos hall, List.dropWhile_cons_of_neg (hpq a ha)]
    exact ⟨a, rfl, ha⟩
  · rw [if_neg hall, endsIn_concat]
    exact ha

/-- After the second trim the list ends in the first class exactly if it hid it. -/
theorem endsIn_rdropWhile_rdropWhile_iff (hpq : ∀ a, p a → ¬ q a) :
    EndsIn p ((l.rdropWhile p).rdropWhile q) ↔ Hides p q l := by
  constructor
  · rintro ⟨a, hlast, ha⟩
    obtain ⟨before, hbefore⟩ := List.getLast?_eq_some_iff.mp hlast
    obtain ⟨tail, htail, hl⟩ := exists_eq_rdropWhile_append p l
    obtain ⟨middle, hmiddle, htrimmed⟩ := exists_eq_rdropWhile_append q (l.rdropWhile p)
    rw [hbefore] at htrimmed
    refine ⟨before, a, middle, tail, ha, ?_, hmiddle, htail, ?_⟩
    · rintro rfl
      rw [List.append_nil] at htrimmed
      have hends : EndsIn p (l.rdropWhile p) := by rw [htrimmed, endsIn_concat]; exact ha
      exact not_endsIn_rdropWhile hends
    · rw [hl, htrimmed]
      simp
  · rintro ⟨before, a, middle, tail, ha, hne, hmiddle, htail, rfl⟩
    have hlast : ¬ EndsIn p (before ++ a :: middle) := by
      obtain ⟨init, b, rfl⟩ := List.eq_nil_or_concat' middle |>.resolve_left hne
      have hb : ¬ p b := fun hb => hpq b hb (hmiddle b (by simp))
      rw [← List.cons_append, ← List.append_assoc, endsIn_concat]
      exact hb
    have hfirst : ¬ EndsIn q (before ++ [a]) := by
      rw [endsIn_concat]
      exact hpq a ha
    rw [rdropWhile_append_of_not_endsIn hlast htail, List.append_cons before,
      rdropWhile_append_of_not_endsIn hfirst hmiddle, endsIn_concat]
    exact ha

end TwoClasses

end Trimming
