import Mathlib.Data.Nat.Bitwise

/-!
# Masks of flags

A mask has one bit for each flag. It is put together one flag after another, each
of which adds its bit or nothing, and its bits are those of the flags that were
set.
-/

namespace FlagMask

variable {ι : Type*}

/-- What one flag adds to a mask. -/
def mark (bit : ι → ℕ) (set : ι → Bool) (flag : ι) : ℕ :=
  if set flag then 2 ^ bit flag else 0

/-- The mask of the flags that are set. -/
def mask (bit : ι → ℕ) (set : ι → Bool) (flags : List ι) : ℕ :=
  flags.foldl (fun marked flag => marked ||| mark bit set flag) 0

section

variable {bit : ι → ℕ} {set : ι → Bool}

theorem testBit_mark {flag : ι} {k : ℕ} :
    (mark bit set flag).testBit k = true ↔ set flag = true ∧ bit flag = k := by
  unfold mark
  cases set flag with
  | true => simp [Nat.testBit_two_pow]
  | false => simp

theorem testBit_foldl_mark (flags : List ι) (marked k : ℕ) :
    (flags.foldl (fun marked flag => marked ||| mark bit set flag) marked).testBit k = true ↔
      marked.testBit k = true ∨ ∃ flag ∈ flags, set flag = true ∧ bit flag = k := by
  induction flags generalizing marked with
  | nil => simp
  | cons flag flags ih =>
      rw [List.foldl_cons, ih, Nat.testBit_or, Bool.or_eq_true, testBit_mark, or_assoc]
      simp

theorem testBit_mask {flags : List ι} {k : ℕ} :
    (mask bit set flags).testBit k = true ↔ ∃ flag ∈ flags, set flag = true ∧ bit flag = k := by
  rw [mask, testBit_foldl_mark]
  simp

end

end FlagMask
