import FrameworkFfi.Upstream.Owned
import Mathlib.Data.List.DropRight

/-!
# Texts from bytes

Decoding of UTF-8, with the error of a text that is none, and the trimming the
EC text fields are read with.
-/

namespace FrameworkFfi

/-- `str::Utf8Error`. -/
structure Utf8Error where
  validUpTo : ℕ
  errorLen : Option ℕ
  deriving DecidableEq

namespace Utf8Error

/-- The `{:?}` rendering of the error length. -/
def errorLenText (error : Utf8Error) : String :=
  match error.errorLen with
  | none => "None"
  | some length => s!"Some({length})"

/-- The `{:?}` rendering of the error. -/
def text (error : Utf8Error) : String :=
  s!"Utf8Error \x7b valid_up_to: {error.validUpTo}, error_len: {error.errorLenText} \x7d"

end Utf8Error

def isContinuation (byte : UInt8) : Bool := 0x80 ≤ byte ∧ byte ≤ 0xBF

/-- The second bytes a first byte of a three-byte sequence allows. -/
def isSecondOfThree (first second : UInt8) : Bool :=
  if first = 0xE0 then 0xA0 ≤ second ∧ second ≤ 0xBF
  else if first = 0xED then 0x80 ≤ second ∧ second ≤ 0x9F
  else isContinuation second

/-- The second bytes a first byte of a four-byte sequence allows. -/
def isSecondOfFour (first second : UInt8) : Bool :=
  if first = 0xF0 then 0x90 ≤ second ∧ second ≤ 0xBF
  else if first = 0xF4 then 0x80 ≤ second ∧ second ≤ 0x8F
  else isContinuation second

/-- What stands at the front of a text: a sequence of a number of bytes, or the
length of an error, which is `none` when the text ends too early. -/
def utf8Step (first : UInt8) (rest : List UInt8) : Except (Option ℕ) ℕ :=
  if first < 0x80 then .ok 1
  else if 0xC2 ≤ first ∧ first ≤ 0xDF then
    match rest with
    | [] => .error none
    | second :: _ => if isContinuation second then .ok 2 else .error (some 1)
  else if 0xE0 ≤ first ∧ first ≤ 0xEF then
    match rest with
    | [] => .error none
    | second :: rest =>
      if !isSecondOfThree first second then .error (some 1)
      else match rest with
        | [] => .error none
        | third :: _ => if isContinuation third then .ok 3 else .error (some 2)
  else if 0xF0 ≤ first ∧ first ≤ 0xF4 then
    match rest with
    | [] => .error none
    | second :: rest =>
      if !isSecondOfFour first second then .error (some 1)
      else match rest with
        | [] => .error none
        | third :: rest =>
          if !isContinuation third then .error (some 2)
          else match rest with
            | [] => .error none
            | fourth :: _ => if isContinuation fourth then .ok 4 else .error (some 3)
  else .error (some 1)

/-- The first error of a text, where `validUpTo` bytes stand before it. -/
def utf8Error (validUpTo : ℕ) (bytes : List UInt8) : Utf8Error :=
  match bytes with
  | [] => ⟨validUpTo, none⟩
  | first :: rest =>
    match utf8Step first rest with
    | .error length => ⟨validUpTo, length⟩
    | .ok length => utf8Error (validUpTo + length) (rest.drop (length - 1))
termination_by bytes.length
decreasing_by
  rw [List.length_drop, List.length_cons]
  omega

/-- `str::from_utf8`. -/
def fromUtf8 (bytes : List UInt8) : Except Utf8Error String :=
  match String.fromUTF8? ⟨bytes.toArray⟩ with
  | some text => .ok text
  | none => .error (utf8Error 0 bytes)

/-- `trim_end_matches(char::from(0))`. -/
def trimEndNuls (text : String) : String :=
  String.ofList (text.toList.rdropWhile fun c => c.toNat = 0)

/-- `char::is_whitespace`. -/
def isWhitespace (c : Char) : Bool :=
  (0x09 ≤ c.toNat ∧ c.toNat ≤ 0x0D) ∨ c.toNat = 0x20 ∨ c.toNat = 0x85 ∨ c.toNat = 0xA0 ∨
    c.toNat = 0x1680 ∨ (0x2000 ≤ c.toNat ∧ c.toNat ≤ 0x200A) ∨ c.toNat = 0x2028 ∨
    c.toNat = 0x2029 ∨ c.toNat = 0x202F ∨ c.toNat = 0x205F ∨ c.toNat = 0x3000

/-- `str::trim`. -/
def trim (text : String) : String :=
  String.ofList ((text.toList.rdropWhile isWhitespace).dropWhile isWhitespace)

/-! ### Sizes -/

/-- A decoded text is stored as the bytes it was decoded from. -/
theorem utf8Bytes_of_fromUtf8 {bytes : List UInt8} {text : String}
    (h : fromUtf8 bytes = .ok text) : utf8Bytes text = bytes := by
  unfold fromUtf8 String.fromUTF8? at h
  by_cases hvalid : ByteArray.IsValidUTF8 ⟨bytes.toArray⟩
  · rw [dif_pos hvalid] at h
    obtain rfl := Except.ok.inj h
    rfl
  · rw [dif_neg hvalid] at h
    cases h

theorem fromUtf8_utf8Bytes (text : String) : fromUtf8 (utf8Bytes text) = .ok text := by
  have hbytes : (⟨(utf8Bytes text).toArray⟩ : ByteArray) = text.toByteArray := by
    rw [utf8Bytes, Array.toArray_toList]
  rw [fromUtf8, hbytes, String.fromUTF8?, dif_pos text.isValidUTF8]
  rfl

theorem fromUtf8_eq_ok_iff {bytes : List UInt8} {text : String} :
    fromUtf8 bytes = .ok text ↔ bytes = utf8Bytes text :=
  ⟨fun h => (utf8Bytes_of_fromUtf8 h).symm, fun h => h ▸ fromUtf8_utf8Bytes text⟩

theorem utf8Bytes_append (a b : String) : utf8Bytes (a ++ b) = utf8Bytes a ++ utf8Bytes b := by
  rw [utf8Bytes, String.toByteArray_append, ByteArray.data_append, Array.toList_append]
  rfl

theorem utf8Bytes_nuls (count : ℕ) :
    utf8Bytes (String.ofList (List.replicate count (Char.ofNat 0))) =
      List.replicate count 0 := by
  induction count with
  | zero => rfl
  | succ count ih =>
      have hone : utf8Bytes (String.ofList [Char.ofNat 0]) = [0] := by decide
      rw [List.replicate_succ, List.replicate_succ, ← List.singleton_append, String.ofList_append,
        utf8Bytes_append, hone, ih, List.singleton_append]

/-- A part of a text is stored in no more bytes than the text. -/
theorem length_utf8Bytes_ofList_le {chars : List Char} {text : String}
    (h : chars <:+: text.toList) :
    (utf8Bytes (String.ofList chars)).length ≤ (utf8Bytes text).length := by
  obtain ⟨before, after, happend⟩ := h
  have htext : text = String.ofList (before ++ chars ++ after) := by
    rw [happend, String.ofList_toList]
  have hsize : ∀ s : String, (utf8Bytes s).length = s.toByteArray.size := fun s =>
    Array.length_toList
  rw [hsize, hsize, htext, String.toByteArray_ofList, String.toByteArray_ofList,
    List.utf8Encode_append, List.utf8Encode_append, ByteArray.size_append,
    ByteArray.size_append]
  omega

theorem length_trimEndNuls_le (text : String) :
    (utf8Bytes (trimEndNuls text)).length ≤ (utf8Bytes text).length :=
  length_utf8Bytes_ofList_le (List.rdropWhile_prefix _ _).isInfix

theorem length_trim_le (text : String) :
    (utf8Bytes (trim text)).length ≤ (utf8Bytes text).length :=
  length_utf8Bytes_ofList_le
    ((List.dropWhile_suffix _).isInfix.trans (List.rdropWhile_prefix _ _).isInfix)

end FrameworkFfi
