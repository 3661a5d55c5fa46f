import FrameworkFfi.Controls
import FrameworkFfi.Host.Silent
import FrameworkFfi.Library.Trimming
import FrameworkFfi.Thermal

/-!
# The text fields of the controller

A text field holds a text that is filled up with NULs. The names of sensors and of
GPIOs are read back exactly, and what is read of them never ends in a NUL. The
serial of the GPU is trimmed of NULs first and of white space next, so a NUL that
stands before white space comes to light: such a serial is the only one that is
not read back as it was read.
-/

namespace FrameworkFfi

open Effect Trimming

/-! ### Texts -/

def isNul (c : Char) : Bool := c.toNat = 0

def EndsInNul (text : String) : Prop := EndsIn isNul text.toList

/-- A text without white space around it and without a NUL at its end. -/
structure IsBare (text : String) : Prop where
  nul : ¬ EndsInNul text
  front : ¬ StartsIn isWhitespace text.toList
  back : ¬ EndsIn isWhitespace text.toList

/-- A text in a field of `size` bytes, filled up with NULs. -/
def nulPadded (size : ℕ) (text : String) : List UInt8 :=
  utf8Bytes text ++ List.replicate (size - (utf8Bytes text).length) 0

/-- The bytes are those of a text that has a NUL, white space after it, and then
nothing but NULs. -/
def HidesNul (bytes : List UInt8) : Prop :=
  ∃ text, bytes = utf8Bytes text ∧ Hides isNul isWhitespace text.toList

/-! ### Fields -/

/-- A text field: which texts it is meant for, the bytes it holds on a machine and
the text that a call reads of it. -/
structure TextField where
  normal : String → Prop
  stores : Machine → World → List UInt8 → Prop
  reads : Machine → World → String → Prop

namespace TextField

/-- Stored in a field of `size` bytes the text is what is read, and nothing else is. -/
def ReadsBack (field : TextField) (size : ℕ) (text : String) : Prop :=
  (utf8Bytes text).length ≤ size ∧ ∀ m w, field.stores m w (nulPadded size text) →
    ∀ read, field.reads m w read ↔ read = text

/-- What a field of this size is meant for is read back, and so is what is read when
the field holds these bytes. -/
structure NormalForm (field : TextField) (bytes : List UInt8) : Prop where
  exact : ∀ text, field.normal text → (utf8Bytes text).length ≤ bytes.length →
    field.ReadsBack bytes.length text
  normal : ∀ m w text, field.stores m w bytes → field.reads m w text →
    field.normal text ∧ field.ReadsBack bytes.length text

end TextField

/-- A call succeeds with an answer of this text. -/
def ReadsText {α : Type} (query : Ffi (EcResult α)) (textOf : α → String) (m : Machine)
    (w : World) (text : String) : Prop :=
  ∃ a w', Returns query m w (.ok a) w' ∧ textOf a = text

def sensorNameField (index : UInt8) : TextField where
  normal text := ¬ EndsInNul text
  stores m w bytes := ∃ reply, m.answer (.tempSensorGetInfo index)
    (w.asked (.tempSensorGetInfo index)) = .ok reply ∧ reply.sensorName = bytes
  reads := ReadsText (getTempSensorInfo index) fun info => info.name.text

def gpioNameField (index : UInt8) : TextField where
  normal text := ¬ EndsInNul text
  stores m w bytes := ∃ reply, m.answer (.gpioGetInfo index)
    (w.asked (.gpioGetInfo index)) = .ok reply ∧ reply.name = bytes
  reads := ReadsText (gpioInfoAt index) fun info => info.name.text

/-- The serial of the GPU, when it is valid. -/
def gpuSerialField : TextField where
  normal := IsBare
  stores m w bytes := ∃ reply, m.answer (.getGpuSerial 0) (w.asked (.getGpuSerial 0)) =
    .ok reply ∧ reply.valid ≠ 0 ∧ reply.serial = bytes
  reads := ReadsText getGpuSerial fun serial => serial.text

/-! ### Trimming a text -/

section Trimmed

variable {text : String}

theorem not_isWhitespace_of_isNul {c : Char} (h : isNul c) : ¬ isWhitespace c := by
  have hcode : c.toNat = 0 := of_decide_eq_true h
  simp [isWhitespace, hcode]

theorem toList_trimEndNuls : (trimEndNuls text).toList = text.toList.rdropWhile isNul :=
  String.toList_ofList

theorem toList_trim :
    (trim text).toList = (text.toList.rdropWhile isWhitespace).dropWhile isWhitespace :=
  String.toList_ofList

theorem not_endsInNul_trimEndNuls : ¬ EndsInNul (trimEndNuls text) := by
  rw [EndsInNul, toList_trimEndNuls]
  exact not_endsIn_rdropWhile

theorem trimEndNuls_append_nuls (h : ¬ EndsInNul text) (count : ℕ) :
    trimEndNuls (text ++ String.ofList (List.replicate count (Char.ofNat 0))) = text := by
  rw [← String.toList_inj, toList_trimEndNuls, String.toList_append, String.toList_ofList]
  refine rdropWhile_append_of_not_endsIn h fun c hc => ?_
  rw [List.eq_of_mem_replicate hc]
  rfl

theorem trim_of_isBare (h : IsBare text) : trim text = text := by
  rw [← String.toList_inj, toList_trim, rdropWhile_eq_self_iff.mpr h.back,
    dropWhile_eq_self_iff.mpr h.front]

/-- The serial that is read ends in a NUL exactly if the text hides one. -/
theorem endsInNul_trim_trimEndNuls_iff :
    EndsInNul (trim (trimEndNuls text)) ↔ Hides isNul isWhitespace text.toList := by
  rw [EndsInNul, toList_trim, toList_trimEndNuls,
    endsIn_dropWhile_iff fun _ => not_isWhitespace_of_isNul,
    endsIn_rdropWhile_rdropWhile_iff fun _ => not_isWhitespace_of_isNul]

/-- The trim leaves no white space, so a hidden NUL is all that can go wrong. -/
theorem isBare_trim_trimEndNuls_iff :
    IsBare (trim (trimEndNuls text)) ↔ ¬ Hides isNul isWhitespace text.toList := by
  rw [← endsInNul_trim_trimEndNuls_iff]
  refine ⟨IsBare.nul, fun hnul => ⟨hnul, ?_, fun hback => ?_⟩⟩
  · rw [toList_trim]
    exact not_startsIn_dropWhile
  · rw [toList_trim] at hback
    exact not_endsIn_rdropWhile (endsIn_of_endsIn_dropWhile hback)

end Trimmed

/-! ### Decoding -/

/-- A field filled up with NULs holds a text that is filled up with NULs. -/
theorem fromUtf8_nulPadded (size : ℕ) (text : String) :
    fromUtf8 (nulPadded size text) = .ok (text ++ String.ofList
      (List.replicate (size - (utf8Bytes text).length) (Char.ofNat 0))) := by
  rw [nulPadded, ← utf8Bytes_nuls, ← utf8Bytes_append, fromUtf8_utf8Bytes]

namespace TextField

variable {field : TextField} {decode : List UInt8 → Option String} {bytes : List UInt8}

/-- What is read of the field is what its bytes are decoded to. -/
def DecodesBy (field : TextField) (decode : List UInt8 → Option String) : Prop :=
  ∀ m w bytes, field.stores m w bytes → ∀ text, field.reads m w text ↔ decode bytes = some text

/-- A decoder that undoes the padding and makes no text longer gives a normal form
exactly if it decodes to a text that the field is meant for. -/
theorem normalForm_iff (hdecodes : field.DecodesBy decode)
    (hpadded : ∀ size text, field.normal text → decode (nulPadded size text) = some text)
    (hshort : ∀ text, decode bytes = some text → (utf8Bytes text).length ≤ bytes.length)
    (hstored : ∃ m w, field.stores m w bytes) :
    field.NormalForm bytes ↔ ∀ text, decode bytes = some text → field.normal text := by
  have hexact : ∀ text, field.normal text → (utf8Bytes text).length ≤ bytes.length →
      field.ReadsBack bytes.length text := by
    intro text hnormal hfits
    refine ⟨hfits, fun m w hstores read => ?_⟩
    rw [hdecodes m w _ hstores, hpadded _ text hnormal, Option.some.injEq, eq_comm]
  constructor
  · intro hform text htext
    obtain ⟨m, w, hstores⟩ := hstored
    exact (hform.normal m w text hstores ((hdecodes m w bytes hstores text).mpr htext)).1
  · refine fun hnormal => ⟨hexact, fun m w text hstores hreads => ?_⟩
    have htext := (hdecodes m w bytes hstores text).mp hreads
    exact ⟨hnormal text htext, hexact text (hnormal text htext) (hshort text htext)⟩

end TextField

/-- The bytes as a text that is trimmed, when they are one. -/
def decodeTrimmed (trimmed : String → String) (bytes : List UInt8) : Option String :=
  match fromUtf8 bytes with
  | .ok text => some (trimmed text)
  | .error _ => none

theorem decodeTrimmed_eq_some_iff {trimmed : String → String} {bytes : List UInt8}
    {text : String} :
    decodeTrimmed trimmed bytes = some text ↔
      ∃ decoded, bytes = utf8Bytes decoded ∧ trimmed decoded = text := by
  simp only [← fromUtf8_eq_ok_iff, decodeTrimmed]
  cases fromUtf8 bytes with
  | ok decoded => simp
  | error error => simp

theorem readsText_iff {α : Type} {query : Ffi (EcResult α)} {textOf : α → String} {m : Machine}
    {w w₁ : World} {result : EcResult α} (h : Returns query m w result w₁) {text : String} :
    ReadsText query textOf m w text ↔ ∃ a, result = .ok a ∧ textOf a = text := by
  constructor
  · rintro ⟨a, w', hquery, htext⟩
    exact ⟨a, (h.unique hquery).1, htext⟩
  · rintro ⟨a, rfl, htext⟩
    exact ⟨a, w₁, h, htext⟩

theorem decodesBy_sensorNameField (index : UInt8) :
    (sensorNameField index).DecodesBy (decodeTrimmed trimEndNuls) := by
  rintro m w bytes ⟨reply, hreply, rfl⟩ text
  have hread : Returns (getTempSensorInfo index) m w
      ((sensorNameOfReply reply.sensorName).map fun name => ⟨name, reply.sensorType⟩)
      (w.record (.tempSensorGetInfo index)) :=
    (returns_andThen_of_ok (returns_ask_of_eq hreply)).mpr returns_pure_self
  rw [decodeTrimmed]
  refine (readsText_iff hread).trans ?_
  rw [sensorNameOfReply]
  cases fromUtf8 reply.sensorName with
  | ok decoded => simp [Except.map, OwnedString.exact]
  | error error => simp [Except.map]

theorem decodesBy_gpioNameField (index : UInt8) :
    (gpioNameField index).DecodesBy fun bytes => some (textOrEmpty bytes) := by
  rintro m w bytes ⟨reply, hreply, rfl⟩ text
  have hread : Returns (gpioInfoAt index) m w (.ok (gpioInfoOfReply reply))
      (w.record (.gpioGetInfo index)) :=
    returns_converted hreply
  refine (readsText_iff hread).trans ?_
  simp [gpioInfoOfReply, OwnedString.exact]

theorem decodesBy_gpuSerialField :
    gpuSerialField.DecodesBy (decodeTrimmed fun text => trim (trimEndNuls text)) := by
  rintro m w bytes ⟨reply, hreply, hvalid, rfl⟩ text
  have hread : Returns getGpuSerial m w (gpuSerialOfReply reply) (w.record (.getGpuSerial 0)) :=
    returns_converted hreply
  rw [decodeTrimmed]
  refine (readsText_iff hread).trans ?_
  rw [gpuSerialOfReply, if_neg hvalid]
  cases fromUtf8 reply.serial with
  | ok decoded => simp [OwnedString.exact]
  | error error => simp

/-! ### The three fields -/

theorem normalForm_sensorNameField (index : UInt8) (bytes : List UInt8) :
    (sensorNameField index).NormalForm bytes := by
  refine (TextField.normalForm_iff (decodesBy_sensorNameField index) ?_ ?_ ?_).mpr ?_
  · intro size text hnormal
    rw [decodeTrimmed, fromUtf8_nulPadded]
    exact congrArg some (trimEndNuls_append_nuls hnormal _)
  · intro text htext
    obtain ⟨decoded, rfl, rfl⟩ := decodeTrimmed_eq_some_iff.mp htext
    exact length_trimEndNuls_le decoded
  · exact ⟨Machine.silent.answering (.tempSensorGetInfo index) (.ok ⟨bytes, 0⟩), .fresh,
      ⟨bytes, 0⟩, Machine.answer_answering_self _ _ _ _, rfl⟩
  · intro text htext
    obtain ⟨decoded, -, rfl⟩ := decodeTrimmed_eq_some_iff.mp htext
    exact not_endsInNul_trimEndNuls

/-- A name that is no text is read as the empty one. -/
theorem exists_textOrEmpty_eq (bytes : List UInt8) :
    ∃ decoded, textOrEmpty bytes = trimEndNuls decoded ∧
      (utf8Bytes decoded).length ≤ bytes.length := by
  unfold textOrEmpty
  cases hdecoded : fromUtf8 bytes with
  | ok decoded => exact ⟨decoded, rfl, (congrArg List.length (utf8Bytes_of_fromUtf8 hdecoded)).le⟩
  | error error => exact ⟨"", rfl, Nat.zero_le _⟩

theorem normalForm_gpioNameField (index : UInt8) (bytes : List UInt8) :
    (gpioNameField index).NormalForm bytes := by
  refine (TextField.normalForm_iff (decodesBy_gpioNameField index) ?_ ?_ ?_).mpr ?_
  · intro size text hnormal
    rw [textOrEmpty, fromUtf8_nulPadded]
    exact congrArg some (trimEndNuls_append_nuls hnormal _)
  · intro text htext
    obtain ⟨decoded, hdecoded, hshort⟩ := exists_textOrEmpty_eq bytes
    obtain rfl := hdecoded.symm.trans (Option.some.inj htext)
    exact (length_trimEndNuls_le decoded).trans hshort
  · exact ⟨Machine.silent.answering (.gpioGetInfo index) (.ok ⟨0, bytes, 0⟩), .fresh,
      ⟨0, bytes, 0⟩, Machine.answer_answering_self _ _ _ _, rfl⟩
  · intro text htext
    obtain ⟨decoded, hdecoded, -⟩ := exists_textOrEmpty_eq bytes
    obtain rfl := hdecoded.symm.trans (Option.some.inj htext)
    exact not_endsInNul_trimEndNuls

theorem normalForm_gpuSerialField_iff (response : EcResponseGetGpuSerial) :
    gpuSerialField.NormalForm response.serial ↔ ¬ HidesNul response.serial := by
  rw [TextField.normalForm_iff decodesBy_gpuSerialField]
  · -- the bytes are those of at most one text
    constructor
    · rintro hnormal ⟨decoded, hdecoded, hhides⟩
      have hbare := hnormal _ (decodeTrimmed_eq_some_iff.mpr ⟨decoded, hdecoded, rfl⟩)
      exact isBare_trim_trimEndNuls_iff.mp hbare hhides
    · intro hhides text htext
      obtain ⟨decoded, hdecoded, rfl⟩ := decodeTrimmed_eq_some_iff.mp htext
      exact isBare_trim_trimEndNuls_iff.mpr fun h => hhides ⟨decoded, hdecoded, h⟩
  · intro size text hbare
    rw [decodeTrimmed, fromUtf8_nulPadded]
    refine congrArg some ?_
    rw [trimEndNuls_append_nuls hbare.nul, trim_of_isBare hbare]
  · intro text htext
    obtain ⟨decoded, hdecoded, rfl⟩ := decodeTrimmed_eq_some_iff.mp htext
    rw [hdecoded]
    exact (length_trim_le _).trans (length_trimEndNuls_le decoded)
  · let valid : EcResponseGetGpuSerial := { response with valid := 1 }
    exact ⟨Machine.silent.answering (.getGpuSerial 0) (.ok valid), .fresh, valid,
      Machine.answer_answering_self _ _ _ _, (by decide : (1 : UInt8) ≠ 0), rfl⟩

/-- The names are normal forms whatever the fields hold. The serial is one exactly if
it does not have a NUL and white space before its filling. -/
theorem textFields_normalForm_iff (index : UInt8) (bytes : List UInt8)
    (response : EcResponseGetGpuSerial) :
    (sensorNameField index).NormalForm bytes ∧ (gpioNameField index).NormalForm bytes ∧
      (gpuSerialField.NormalForm response.serial ↔ ¬ HidesNul response.serial) :=
  ⟨normalForm_sensorNameField index bytes, normalForm_gpioNameField index bytes,
    normalForm_gpuSerialField_iff response⟩

/-- A serial `A` with a space between two NULs. -/
def spacedSerial : EcResponseGetGpuSerial := ⟨1, [0x41, 0x00, 0x20, 0x00], by decide⟩

def spacedMachine : Machine :=
  Machine.silent.answering (.getGpuSerial 0) (.ok spacedSerial)

/-- The space is trimmed last and leaves a NUL at the end of what is read. -/
theorem spacedSerial_endsInNul :
    gpuSerialField.stores spacedMachine .fresh spacedSerial.serial ∧
      gpuSerialField.reads spacedMachine .fresh "A\x00" ∧ EndsInNul "A\x00" ∧
        ¬ gpuSerialField.NormalForm spacedSerial.serial := by
  have hstores : gpuSerialField.stores spacedMachine .fresh spacedSerial.serial :=
    ⟨spacedSerial, Machine.answer_answering_self _ _ _ _, by decide, rfl⟩
  have hreads : gpuSerialField.reads spacedMachine .fresh "A\x00" :=
    (decodesBy_gpuSerialField _ _ _ hstores _).mpr
      (decodeTrimmed_eq_some_iff.mpr ⟨"A\x00 \x00", by decide, by decide⟩)
  have hends : EndsInNul "A\x00" := ⟨Char.ofNat 0, by decide, by decide⟩
  exact ⟨hstores, hreads, hends, fun hform =>
    (hform.normal _ _ _ hstores hreads).1.nul hends⟩

end FrameworkFfi
