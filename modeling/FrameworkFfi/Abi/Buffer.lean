import Mathlib.Tactic.Common

/-!
# Byte buffers on the boundary

`FrameworkByteBuffer` is what the managed side holds of a vector whose ownership
crossed the boundary: an address, a length and a capacity. The address `0` is
the null pointer. A buffer of capacity zero owns no allocation, so only the
others have to be given back.
-/

namespace FrameworkFfi

structure FrameworkByteBuffer where
  ptr : Nat
  length : Int32
  capacity : Int32
  deriving DecidableEq

namespace FrameworkByteBuffer

/-- `FrameworkByteBuffer::default`, the null buffer. -/
def default : FrameworkByteBuffer := ⟨0, 0, 0⟩

/-- The allocation a buffer stands for, as a list of at most one buffer. -/
def owned (buffer : FrameworkByteBuffer) : List FrameworkByteBuffer :=
  if buffer.capacity = 0 then [] else [buffer]

@[simp] theorem owned_default : default.owned = [] := rfl

theorem owned_of_capacity_eq_zero {buffer : FrameworkByteBuffer} (h : buffer.capacity = 0) :
    buffer.owned = [] := if_pos h

theorem owned_of_capacity_ne_zero {buffer : FrameworkByteBuffer} (h : buffer.capacity ≠ 0) :
    buffer.owned = [buffer] := if_neg h

theorem owned_eq_nil_iff {buffer : FrameworkByteBuffer} :
    buffer.owned = [] ↔ buffer.capacity = 0 := by
  constructor
  · intro h
    by_contra hne
    rw [owned_of_capacity_ne_zero hne] at h
    cases h
  · exact owned_of_capacity_eq_zero

/-- Two allocations do not overlap. -/
def Apart (buffer other : FrameworkByteBuffer) : Prop :=
  buffer.ptr + buffer.capacity.toInt.toNat ≤ other.ptr ∨
    other.ptr + other.capacity.toInt.toNat ≤ buffer.ptr

theorem Apart.symm {buffer other : FrameworkByteBuffer} (h : buffer.Apart other) :
    other.Apart buffer := Or.symm h

end FrameworkByteBuffer

end FrameworkFfi
