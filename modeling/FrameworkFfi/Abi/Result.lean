import FrameworkFfi.Abi.Buffer
import FrameworkFfi.Abi.Status

/-!
# Result records

A result record of the ABI is a status followed by the fields of what was asked
for. `FrameworkResult` is that shape; `value` holds the other fields. Truth values
are reported as bytes.
-/

namespace FrameworkFfi

@[ext] structure FrameworkResult (α : Type) where
  status : FrameworkStatus
  value : α

/-- `u8::from` on a truth value. -/
def byteOfBool (b : Bool) : UInt8 := if b then 1 else 0

@[simp] theorem byteOfBool_true : byteOfBool true = 1 := rfl

@[simp] theorem byteOfBool_false : byteOfBool false = 0 := rfl

theorem byteOfBool_ne_zero (b : Bool) : byteOfBool b ≠ 0 ↔ b = true := by
  cases b with
  | true => exact ⟨fun _ => rfl, fun _ => by decide⟩
  | false => exact ⟨fun h => absurd rfl h, fun h => absurd h Bool.false_ne_true⟩

end FrameworkFfi
