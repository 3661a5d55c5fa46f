import FrameworkFfi.PanicSafety
import FrameworkFfi.Pd
import FrameworkFfi.Status.Report
import FrameworkFfi.Versions

/-!
# The sizes of the messages

The messages this crate makes itself hold a few numbers and a fixed text, so they
are short: no number in them has more digits than the sizes it counts allow.
-/

namespace FrameworkFfi

/-! ### Texts -/

/-- A text that can be copied into any other without filling a buffer. -/
def Short (text : String) : Prop := (utf8Bytes text).length < 2 ^ 20

/-- A character is stored in four bytes at most. -/
theorem length_utf8Bytes_le (text : String) : (utf8Bytes text).length ≤ 4 * text.length := by
  have hone : ∀ c : Char, (utf8Bytes (String.ofList [c])).length ≤ 4 := by
    intro c
    have hsize : (utf8Bytes (String.ofList [c])).length = (String.singleton c).utf8ByteSize := by
      rw [utf8Bytes, Array.length_toList, String.singleton_eq_ofList]
      rfl
    rw [hsize, String.utf8ByteSize_singleton]
    exact c.utf8Size_le_four
  have hchars : ∀ chars : List Char,
      (utf8Bytes (String.ofList chars)).length ≤ 4 * chars.length := by
    intro chars
    induction chars with
    | nil => exact Nat.le_refl 0
    | cons c chars ih =>
        have hfirst := hone c
        rw [← List.singleton_append, String.ofList_append, utf8Bytes_append, List.length_append,
          List.length_append, List.length_singleton]
        omega
  have htext := hchars text.toList
  rw [String.ofList_toList] at htext
  exact htext

theorem short_of_length {text : String} (h : text.length < 2 ^ 18) : Short text := by
  have hbytes := length_utf8Bytes_le text
  unfold Short
  omega

theorem length_toString_le {n k : ℕ} (hk : 0 < k) (h : n < 10 ^ k) : (toString n).length ≤ k :=
  (Nat.length_repr_le_iff hk).mpr h

theorem length_toString_of_lt {n : ℕ} (h : n < 2 ^ 32) : (toString n).length ≤ 10 :=
  length_toString_le (Nat.succ_pos 9) (Nat.lt_trans h (by decide))

theorem length_toString_int32 (n : Int32) : (toString n).length ≤ 11 := by
  have hle := n.le_toInt
  have hlt := n.toInt_lt
  show (Int.repr n.toInt).length ≤ 11
  cases hn : n.toInt with
  | ofNat k =>
      rw [hn] at hlt
      have hk : (k : ℤ) < 2 ^ 31 := hlt
      have hdigits : (toString k).length ≤ 10 := length_toString_of_lt (by omega)
      exact Nat.le_succ_of_le hdigits
  | negSucc k =>
      rw [hn] at hle
      have hdigits : (toString (k + 1)).length ≤ 10 := length_toString_of_lt (by omega)
      have hsign : "-".length = 1 := by decide
      show ("-" ++ toString (k + 1)).length ≤ 11
      rw [String.length_append]
      omega

/-! ### Decoding errors -/

/-- A step reads bytes that are there, and its error tells at most three. -/
theorem utf8Step_le (first : UInt8) (rest : List UInt8) :
    (∀ length, utf8Step first rest = .ok length → length ≤ rest.length + 1) ∧
      ∀ length, utf8Step first rest = .error (some length) → length ≤ 3 := by
  rcases rest with _ | ⟨second, _ | ⟨third, _ | ⟨fourth, rest⟩⟩⟩ <;> simp only [utf8Step] <;>
    split_ifs <;> simp

/-- An error lies inside the text, by induction on the steps before it. -/
theorem utf8Error_le (validUpTo : ℕ) (bytes : List UInt8) :
    (utf8Error validUpTo bytes).validUpTo ≤ validUpTo + bytes.length ∧
      ∀ length, (utf8Error validUpTo bytes).errorLen = some length → length ≤ 3 := by
  induction validUpTo, bytes using utf8Error.induct with
  | case1 validUpTo =>
      rw [utf8Error]
      exact ⟨Nat.le_add_right _ _, fun length h => by cases h⟩
  | case2 validUpTo first rest length hstep =>
      rw [utf8Error, hstep]
      refine ⟨Nat.le_add_right _ _, fun told htold => ?_⟩
      obtain rfl : length = some told := htold
      exact (utf8Step_le first rest).2 told hstep
  | case3 validUpTo first rest length hstep ih =>
      rw [utf8Error, hstep]
      refine ⟨ih.1.trans ?_, ih.2⟩
      have hlength := (utf8Step_le first rest).1 length hstep
      rw [List.length_drop, List.length_cons]
      omega

section ErrorText

variable {error : Utf8Error}

theorem length_errorLenText_le (h : ∀ length, error.errorLen = some length → length ≤ 3) :
    error.errorLenText.length ≤ 16 := by
  unfold Utf8Error.errorLenText
  cases herror : error.errorLen with
  | none => decide
  | some length =>
      have hdigits : (toString length).length ≤ 10 := by
        have hlength := h length herror
        exact length_toString_of_lt (by omega)
      have hopen : (toString "Some(").length = 5 := by decide
      have hclose : (toString ")").length = 1 := by decide
      simp only [String.length_append]
      omega

theorem length_text_le (hdigits : (toString error.validUpTo).length ≤ 10)
    (hlenText : (toString error.errorLenText).length ≤ 16) : error.text.length ≤ 66 := by
  have hopen : (toString "Utf8Error \x7b valid_up_to: ").length = 25 := by decide
  have hmiddle : (toString ", error_len: ").length = 13 := by decide
  have hclose : (toString " \x7d").length = 2 := by decide
  unfold Utf8Error.text
  simp only [String.length_append]
  omega

end ErrorText

/-- The error of a text that is not too long has a short rendering. -/
theorem length_text_of_fromUtf8 {bytes : List UInt8} {error : Utf8Error}
    (h : fromUtf8 bytes = .error error) (hfew : bytes.length < 2 ^ 31) :
    error.text.length ≤ 66 := by
  have herror : utf8Error 0 bytes = error := by
    unfold fromUtf8 at h
    split at h
    · cases h
    · exact Except.error.inj h
  obtain ⟨hvalid, hlen⟩ := utf8Error_le 0 bytes
  rw [herror] at hvalid hlen
  exact length_text_le (length_toString_of_lt (by omega)) (length_errorLenText_le hlen)

/-! ### Messages -/

/-- An error whose message is short, if it has one. -/
def EcError.Short (error : EcError) : Prop := ∀ message ∈ error.messages, FrameworkFfi.Short message

/-- A result that is an error with `E` or a value with `P`. -/
def Ends {ε α : Type} (E : ε → Prop) (P : α → Prop) : Except ε α → Prop
  | .ok a => P a
  | .error error => E error

theorem Ends.map {ε α β : Type} {E : ε → Prop} {P : α → Prop} {Q : β → Prop} {f : α → β}
    {result : Except ε α} (h : Ends E P result) (hf : ∀ a, P a → Q (f a)) :
    Ends E Q (result.map f) := by
  cases result with
  | ok a => exact hf a h
  | error error => exact h

theorem Ends.bind {ε α β : Type} {E : ε → Prop} {P : α → Prop} {Q : β → Prop}
    {f : α → Except ε β} {result : Except ε α} (h : Ends E P result)
    (hf : ∀ a, P a → Ends E Q (f a)) : Ends E Q (result.bind f) := by
  cases result with
  | ok a => exact hf a h
  | error error => exact h

/-- An answer of the controller with this property, or an error with a short message. -/
abbrev Answered {α : Type} (P : α → Prop) : EcResult α → Prop := Ends EcError.Short P

theorem short_deviceError {message : String} (h : message.length < 2 ^ 18) :
    (EcError.deviceError message).Short :=
  List.forall_mem_singleton.mpr (short_of_length h)

section Made

/-- The last entry of a sweep, or an error about the port. -/
theorem answered_lastPdInfo {port : UInt8} {infos : List (EcResult UsbPdPowerInfo)}
    (h : ∀ info ∈ infos, Answered (fun _ => True) info) :
    Answered (fun _ => True) (lastPdInfo port infos) := by
  unfold lastPdInfo
  cases hlast : infos.getLast? with
  | some info => exact h info (List.mem_of_getLast? hlast)
  | none =>
      refine short_deviceError ?_
      have hport : (toString port).length ≤ 10 :=
        length_toString_of_lt (Nat.lt_trans port.toNat_lt (by decide))
      have hopen : (toString "No PD port ").length = 11 := by decide
      simp only [String.length_append]
      omega

theorem answered_gpuSerialOfReply (response : EcResponseGetGpuSerial) :
    Answered (fun serial => serial.capacity < 2 ^ 31) (gpuSerialOfReply response) := by
  cases hserial : gpuSerialOfReply response with
  | ok serial => exact capacity_gpuSerialOfReply hserial
  | error error =>
      unfold gpuSerialOfReply at hserial
      by_cases hvalid : response.valid = 0
      · rw [if_pos hvalid] at hserial
        obtain rfl := Except.error.inj hserial
        exact short_deviceError (by decide)
      · rw [if_neg hvalid] at hserial
        cases htext : fromUtf8 response.serial with
        | ok text =>
            rw [htext] at hserial
            cases hserial
        | error garbled =>
            rw [htext] at hserial
            obtain rfl := Except.error.inj hserial
            have hgarbled : (toString garbled.text).length ≤ 66 :=
              length_text_of_fromUtf8 htext (Nat.lt_trans response.serial_length_lt (by decide))
            have hopen : (toString "GPU serial is not valid UTF-8: ").length = 31 := by decide
            refine short_deviceError ?_
            simp only [String.length_append]
            omega

theorem answered_sensorNameOfReply {sensorName : List UInt8} (h : sensorName.length < 2 ^ 31) :
    Answered (fun name => name.capacity < 2 ^ 31) (sensorNameOfReply sensorName) := by
  unfold sensorNameOfReply
  cases htext : fromUtf8 sensorName with
  | ok text =>
      have hnuls := length_trimEndNuls_le text
      rw [utf8Bytes_of_fromUtf8 htext] at hnuls
      exact Nat.lt_of_le_of_lt hnuls h
  | error garbled =>
      have hgarbled : (toString garbled.text).length ≤ 66 := length_text_of_fromUtf8 htext h
      have hopen : (toString "Failed to decode sensor name: ").length = 30 := by decide
      refine short_deviceError ?_
      simp only [String.length_append]
      omega

theorem answered_port80Entries {numEntries : UInt32} {data : List UInt8} :
    Answered (fun entries => entries.length = 2 * numEntries.toNat)
      (port80Entries numEntries data) := by
  unfold port80Entries
  by_cases hshort : data.length < 2 * numEntries.toNat
  · rw [if_pos hshort]
    have hentries : (toString numEntries).length ≤ 10 := length_toString_of_lt numEntries.toNat_lt
    have hlength : (toString data.length).length ≤ 20 := by
      have hlt := numEntries.toNat_lt
      have hbound : data.length < 10 ^ 20 := Nat.lt_trans (by omega : _ < 2 ^ 33) (by decide)
      exact length_toString_le (Nat.succ_pos 19) hbound
    have hopen : (toString "Expected ").length = 9 := by decide
    have hmiddle : (toString " entries, got ").length = 14 := by decide
    have hclose : (toString " bytes").length = 6 := by decide
    refine short_deviceError ?_
    simp only [String.length_append]
    omega
  · rw [if_neg hshort]
    exact List.length_take_of_le (Nat.le_of_not_lt hshort)

end Made

end FrameworkFfi
