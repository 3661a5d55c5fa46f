import FrameworkFfi.Abi.Status
import FrameworkFfi.Host.Text
import FrameworkFfi.Runtime

/-!
# Bytes of the caller

A `*const u8` that a caller passes in is null or points to memory that the
caller promised to be readable. A length comes with it where the source reads
more than a fixed number of bytes.
-/

namespace FrameworkFfi

/-- A `*const u8`: null, or the bytes from there on. -/
abbrev BytePtr := Option (ℕ → UInt8)

/-- `slice::from_raw_parts`. -/
def sliceFromRawParts (memory : ℕ → UInt8) (length : ℕ) : List UInt8 :=
  (List.range length).map memory

/-- `borrow_utf8`. -/
def borrowUtf8 (ptr : BytePtr) (length : Int32) : StatusResult String :=
  match ptr with
  | none => .error (.withCode .nullPointer 0)
  | some memory =>
      if length < 0 then .error (.withCode .invalidArgument length)
      else match fromUtf8 (sliceFromRawParts memory length.toNatClampNeg) with
        | .ok text => .ok text
        | .error _ => .error (.withCode .invalidArgument length)

end FrameworkFfi
