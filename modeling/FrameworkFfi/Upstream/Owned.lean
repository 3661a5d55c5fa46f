import Mathlib.Algebra.Group.Nat.Defs
import Mathlib.Tactic.Common

/-!
# Owned vectors and strings

A vector or a string that the source owns is its contents together with the
capacity of its allocation. The capacity is at least what is stored, and that
is a field, so no vector with a capacity below its length can be written down.
-/

namespace FrameworkFfi

/-- A `Vec<u8>`. -/
structure ByteVec where
  bytes : List UInt8
  capacity : ℕ
  length_le : bytes.length ≤ capacity

namespace ByteVec

def length (vec : ByteVec) : ℕ := vec.bytes.length

def exact (bytes : List UInt8) : ByteVec := ⟨bytes, bytes.length, Nat.le_refl _⟩

@[simp] theorem capacity_exact (bytes : List UInt8) :
    (exact bytes).capacity = bytes.length := rfl

end ByteVec

def utf8Bytes (text : String) : List UInt8 := text.toByteArray.data.toList

/-- A `String`. -/
structure OwnedString where
  text : String
  capacity : ℕ
  length_le : (utf8Bytes text).length ≤ capacity

namespace OwnedString

/-- `str::to_string` and `String::clone`, which allocate what they copy. -/
def exact (text : String) : OwnedString := ⟨text, (utf8Bytes text).length, Nat.le_refl _⟩

@[simp] theorem capacity_exact (text : String) :
    (exact text).capacity = (utf8Bytes text).length := rfl

/-- `String::into_bytes`. -/
def intoBytes (string : OwnedString) : ByteVec :=
  ⟨utf8Bytes string.text, string.capacity, string.length_le⟩

@[simp] theorem capacity_intoBytes (string : OwnedString) :
    string.intoBytes.capacity = string.capacity := rfl

end OwnedString

end FrameworkFfi
