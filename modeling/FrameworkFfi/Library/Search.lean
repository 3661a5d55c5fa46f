import Mathlib.Data.List.Basic

/-!
# What a search looks at

A search for the first element with a property looks at the elements before it
and at the element itself, and at every element when there is none.
-/

namespace Search

variable {α : Type} {p : α → Bool} {a : α} {as bs : List α}

/-- The elements that a search for the first one with `p` looks at. -/
def examined (p : α → Bool) : List α → List α
  | [] => []
  | a :: as => if p a then [a] else a :: examined p as

theorem examined_cons_of_pos (h : p a = true) : examined p (a :: as) = [a] := if_pos h

theorem examined_cons_of_neg (h : p a = false) : examined p (a :: as) = a :: examined p as := by
  rw [examined, h, if_neg Bool.false_ne_true]

/-- Nothing is found in a list: neither at its head nor behind it. -/
theorem find?_cons_none (h : (a :: as).find? p = none) : p a = false ∧ as.find? p = none := by
  rw [List.find?_eq_none] at h
  exact ⟨Bool.eq_false_iff.mpr (h a List.mem_cons_self),
    List.find?_eq_none.mpr fun b hb => h b (List.mem_cons_of_mem a hb)⟩

/-- Elements behind the one that is found are not looked at. -/
theorem examined_append_of_some (h : as.find? p = some a) :
    examined p (as ++ bs) = examined p as := by
  induction as with
  | nil => cases h
  | cons b as ih =>
      rw [List.cons_append]
      cases hb : p b with
      | true => rw [examined_cons_of_pos hb, examined_cons_of_pos hb]
      | false =>
          rw [List.find?_cons_of_neg (by simp [hb])] at h
          rw [examined_cons_of_neg hb, examined_cons_of_neg hb, ih h]

/-- A search that finds nothing in the first list goes on to the second. -/
theorem examined_append_of_none (h : as.find? p = none) :
    examined p (as ++ bs) = as ++ examined p bs := by
  induction as with
  | nil => rfl
  | cons a as ih =>
      obtain ⟨ha, hrest⟩ := find?_cons_none h
      rw [List.cons_append, examined_cons_of_neg ha, ih hrest, List.cons_append]

theorem examined_of_none (h : as.find? p = none) : examined p as = as := by
  have hall : examined p (as ++ []) = as ++ examined p [] := examined_append_of_none h
  rwa [List.append_nil, examined, List.append_nil] at hall

end Search
