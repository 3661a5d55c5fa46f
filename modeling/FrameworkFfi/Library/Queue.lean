import Mathlib.Algebra.Group.Nat.Defs
import Mathlib.Data.List.Basic
import Mathlib.Tactic.Common

/-!
# Bounded queues with keyed entries

A queue that is filled at the back and trimmed at the front while it is longer
than a limit. After any number of pushes it holds the last `limit` entries ever
pushed, so an entry is still there exactly when fewer than `limit` entries were
pushed after it. A search by key then finds an entry and no other one, as long
as no two entries share a key.
-/

namespace BoundedQueue

variable {α κ ν : Type}

/-- Remove entries from the front while the queue is longer than `limit`. -/
def trim (limit : ℕ) : List α → List α
  | [] => []
  | x :: xs => if limit < (x :: xs).length then trim limit xs else x :: xs

/-- Add an entry at the back, then trim. -/
def push (limit : ℕ) (queue : List α) (x : α) : List α :=
  trim limit (queue ++ [x])

/-- The last `limit` entries of a history. -/
def window (limit : ℕ) (history : List α) : List α :=
  history.drop (history.length - limit)

theorem trim_eq_window (limit : ℕ) (xs : List α) : trim limit xs = window limit xs := by
  induction xs with
  | nil => rw [window, List.drop_nil, trim]
  | cons x xs ih =>
      by_cases h : limit < (x :: xs).length
      · have hlen : (x :: xs).length - limit = (xs.length - limit) + 1 := by
          simp only [List.length_cons] at h ⊢
          omega
        rw [trim, if_pos h, ih, window, window, hlen, List.drop_succ_cons]
      · have hlen : (x :: xs).length - limit = 0 := by omega
        rw [trim, if_neg h, window, hlen, List.drop_zero]

theorem length_window_le (limit : ℕ) (xs : List α) : (window limit xs).length ≤ limit := by
  rw [window, List.length_drop]
  omega

/-- Pushing onto the window of a history gives the window of the longer history. -/
theorem push_window (limit : ℕ) (history : List α) (x : α) :
    push limit (window limit history) x = window limit (history ++ [x]) := by
  have hwindow : window limit history ++ [x] =
      (history ++ [x]).drop (history.length - limit) := by
    rw [window, List.drop_append_of_le_length (Nat.sub_le _ _)]
  rw [push, trim_eq_window, hwindow, window, window, List.drop_drop]
  congr 1
  simp only [List.length_drop, List.length_append, List.length_singleton]
  omega

/-- A run of pushes onto the window of a history. -/
theorem foldl_push_window (limit : ℕ) (history pushed : List α) :
    pushed.foldl (push limit) (window limit history) = window limit (history ++ pushed) := by
  induction pushed generalizing history with
  | nil => rw [List.foldl_nil, List.append_nil]
  | cons x pushed ih =>
      rw [List.foldl_cons, push_window, ih, List.append_assoc, List.singleton_append]

/-- An entry is in the window exactly when fewer than `limit` entries follow it
in the history. -/
theorem mem_window_iff (limit : ℕ) (history : List α) (x : α) :
    x ∈ window limit history ↔
      ∃ k, history[k]? = some x ∧ history.length - (k + 1) < limit := by
  constructor
  · intro hx
    obtain ⟨i, hi⟩ := List.mem_iff_getElem?.mp hx
    rw [window, List.getElem?_drop] at hi
    have hlt := (List.getElem?_eq_some_iff.mp hi).1
    exact ⟨history.length - limit + i, hi, by omega⟩
  · rintro ⟨k, hk, hlimit⟩
    have hlt := (List.getElem?_eq_some_iff.mp hk).1
    refine List.mem_iff_getElem?.mpr ⟨k - (history.length - limit), ?_⟩
    rw [window, List.getElem?_drop]
    have hindex : history.length - limit + (k - (history.length - limit)) = k := by omega
    rw [hindex]
    exact hk

theorem window_sublist (limit : ℕ) (history : List α) :
    List.Sublist (window limit history) history :=
  List.drop_sublist _ _

theorem mem_of_mem_push {limit : ℕ} {queue : List α} {x y : α} (h : y ∈ push limit queue x) :
    y ∈ queue ∨ y = x := by
  rw [push, trim_eq_window] at h
  have hmem := (window_sublist limit (queue ++ [x])).subset h
  rwa [List.mem_append, List.mem_singleton] at hmem

/-! ### Search by key -/

/-- The value of the first entry with a key. -/
def lookup [DecidableEq κ] (queue : List (κ × ν)) (key : κ) : Option ν :=
  (queue.find? fun entry => entry.1 = key).map Prod.snd

theorem mem_of_lookup [DecidableEq κ] {queue : List (κ × ν)} {key : κ} {value : ν}
    (h : lookup queue key = some value) : (key, value) ∈ queue := by
  obtain ⟨entry, hfind, hvalue⟩ := Option.map_eq_some_iff.mp h
  have hkey : entry.1 = key := by simpa using List.find?_some hfind
  have hentry : entry = (key, value) := Prod.ext hkey hvalue
  rw [← hentry]
  exact List.mem_of_find?_eq_some hfind

/-- With distinct keys a search finds exactly the entries of the queue. -/
theorem lookup_eq_some_iff [DecidableEq κ] {queue : List (κ × ν)}
    (hkeys : (queue.map Prod.fst).Nodup) (key : κ) (value : ν) :
    lookup queue key = some value ↔ (key, value) ∈ queue := by
  constructor
  · exact mem_of_lookup
  · intro hmem
    induction queue with
    | nil => cases hmem
    | cons entry queue ih =>
        rw [List.map_cons, List.nodup_cons] at hkeys
        by_cases hkey : entry.1 = key
        · have hentry : (key, value) = entry := by
            rcases List.mem_cons.mp hmem with h | h
            · exact h
            · exact absurd (List.mem_map.mpr ⟨_, h, hkey.symm⟩) hkeys.1
          simp [lookup, ← hentry]
        · have hne : (key, value) ≠ entry := by
            rintro rfl
            exact hkey rfl
          have htail := ih hkeys.2 ((List.mem_cons.mp hmem).resolve_left hne)
          simpa [lookup, List.find?_cons, hkey] using htail

/-- The entry that was pushed last is found when no earlier one has its key. -/
theorem lookup_push_of_fresh [DecidableEq κ] {limit : ℕ} (hlimit : 0 < limit)
    {queue : List (κ × ν)} {key : κ} (hfresh : ∀ entry ∈ queue, entry.1 ≠ key) (value : ν) :
    lookup (push limit queue (key, value)) key = some value := by
  rw [push, trim_eq_window]
  have hlast : (key, value) ∈ window limit (queue ++ [(key, value)]) := by
    rw [mem_window_iff]
    refine ⟨queue.length, ?_, ?_⟩
    · rw [List.getElem?_append_right (Nat.le_refl _), Nat.sub_self]
      rfl
    · rw [List.length_append, List.length_singleton]
      omega
  cases hlookup : lookup (window limit (queue ++ [(key, value)])) key with
  | none =>
      have hnone := List.find?_eq_none.mp (Option.map_eq_none_iff.mp hlookup) _ hlast
      simp at hnone
  | some found =>
      have hmem := (window_sublist _ _).subset (mem_of_lookup hlookup)
      rcases List.mem_append.mp hmem with hqueue | hself
      · exact absurd rfl (hfresh _ hqueue)
      · rw [(Prod.mk.inj (List.mem_singleton.mp hself)).2]

end BoundedQueue
