import FrameworkFfi.Exports.Diagnostics
import FrameworkFfi.Host.Silent
import FrameworkFfi.Library.LittleEndian

/-!
# The saved panic data

A record of panic data is a header of four bytes, a body, the size of the record
and a magic word. The parser reads the header from the front and the two words
from the end, so it undoes the serialization of every record, and it calls valid
what is the serialization of a record with the right size and magic.
-/

namespace FrameworkFfi

open Effect LittleEndian

/-- `struct panic_data`, whatever its size and magic words say. -/
structure PanicData where
  arch : UInt8
  structVersion : UInt8
  flags : UInt8
  reserved : UInt8
  body : List UInt8
  structSize : UInt32
  magic : UInt32

namespace PanicData

def serialize (data : PanicData) : List UInt8 :=
  [data.arch, data.structVersion, data.flags, data.reserved] ++ data.body ++
    leBytes 4 data.structSize.toNat ++ leBytes 4 data.magic.toNat

theorem length_serialize (data : PanicData) :
    data.serialize.length = data.body.length + 12 := by
  simp only [serialize, List.length_append, List.length_cons, List.length_nil, length_leBytes]
  omega

end PanicData

section Words

variable {m : Machine} {w w' : World}

theorem toNat_byte_shiftLeft (byte : UInt8) {i : UInt32} {k : ℕ} (hi : i.toNat = k)
    (hk : k ≤ 24) : (byte.toUInt32 <<< i).toNat = byte.toNat <<< k := by
  have hbyte := byte.toNat_lt
  have hpow : 2 ^ k ≤ 2 ^ 24 := Nat.pow_le_pow_right (by decide) hk
  rw [UInt32.toNat_shiftLeft, hi, Nat.mod_eq_of_lt (by omega : k < 32), UInt8.toNat_toUInt32,
    Nat.shiftLeft_eq]
  exact Nat.mod_eq_of_lt (by nlinarith)

/-- `u32::from_le_bytes`. -/
theorem u32_fromLeBytes (b₀ b₁ b₂ b₃ : UInt8) :
    b₀.toUInt32 ||| b₁.toUInt32 <<< 8 ||| b₂.toUInt32 <<< 16 ||| b₃.toUInt32 <<< 24 =
      UInt32.ofNat (leValue [b₀, b₁, b₂, b₃]) := by
  have h₀ := b₀.toNat_lt
  have h₁ := b₁.toNat_lt
  have h₂ := b₂.toNat_lt
  have h₃ := b₃.toNat_lt
  have hshift₁ : (b₁.toUInt32 <<< 8).toNat = b₁.toNat <<< 8 :=
    toNat_byte_shiftLeft b₁ rfl (by decide)
  have hshift₂ : (b₂.toUInt32 <<< 16).toNat = b₂.toNat <<< 16 :=
    toNat_byte_shiftLeft b₂ rfl (by decide)
  have hshift₃ : (b₃.toUInt32 <<< 24).toNat = b₃.toNat <<< 24 :=
    toNat_byte_shiftLeft b₃ rfl (by decide)
  have hlow : b₀.toNat ||| b₁.toNat <<< 8 = b₀.toNat + 2 ^ 8 * b₁.toNat :=
    or_shiftLeft_of_lt h₀ _
  have hmiddle : b₀.toNat + 2 ^ 8 * b₁.toNat ||| b₂.toNat <<< 16 =
      b₀.toNat + 2 ^ 8 * b₁.toNat + 2 ^ 16 * b₂.toNat :=
    or_shiftLeft_of_lt (by omega) _
  apply UInt32.toNat_inj.mp
  rw [UInt32.toNat_or, UInt32.toNat_or, UInt32.toNat_or, UInt8.toNat_toUInt32, hshift₁,
    hshift₂, hshift₃, hlow, hmiddle, or_shiftLeft_of_lt (by omega), UInt32.toNat_ofNat']
  simp only [leValue_cons, leValue_nil]
  omega

theorem returns_u32At {front back : List UInt8} {word : List UInt8} (hword : word.length = 4) :
    Returns (u32At (front ++ word ++ back) front.length) m w (UInt32.ofNat (leValue word)) w := by
  obtain ⟨b₀, b₁, b₂, b₃, rfl⟩ : ∃ b₀ b₁ b₂ b₃, word = [b₀, b₁, b₂, b₃] :=
    List.length_eq_four.mp hword
  have hat : ∀ (k : ℕ) (byte : UInt8), [b₀, b₁, b₂, b₃][k]? = some byte →
      (front ++ [b₀, b₁, b₂, b₃] ++ back)[front.length + k]? = some byte := by
    intro k byte hbyte
    have hk : k < 4 := (List.getElem?_eq_some_iff.mp hbyte).1
    rw [List.append_assoc, List.getElem?_append_right (by omega), Nat.add_sub_cancel_left,
      List.getElem?_append_left (by simpa using hk), hbyte]
  refine (returns_byteAt (hat 0 b₀ rfl)).bind_iff.mpr ?_
  refine (returns_byteAt (hat 1 b₁ rfl)).bind_iff.mpr ?_
  refine (returns_byteAt (hat 2 b₂ rfl)).bind_iff.mpr ?_
  refine (returns_byteAt (hat 3 b₃ rfl)).bind_iff.mpr ?_
  exact returns_pure.mpr ⟨(u32_fromLeBytes b₀ b₁ b₂ b₃).symm, rfl⟩

theorem ofNat_leValue_leBytes (word : UInt32) :
    UInt32.ofNat (leValue (leBytes 4 word.toNat)) = word := by
  rw [leValue_leBytes_of_lt word.toNat_lt, UInt32.ofNat_toNat]

theorem leBytes_ofNat_leValue {word : List UInt8} (hlength : word.length = 4) :
    leBytes 4 (UInt32.ofNat (leValue word)).toNat = word := by
  have hlt := leValue_lt word
  rw [hlength] at hlt
  have hvalue : (UInt32.ofNat (leValue word)).toNat = leValue word := by
    rw [UInt32.toNat_ofNat']
    exact Nat.mod_eq_of_lt hlt
  have hbytes := leBytes_leValue word
  rw [hlength] at hbytes
  rw [hvalue, hbytes]

end Words

/-! ### The parser on a serialized record -/

section Parser

variable {m : Machine} {w : World} {data : ByteVec} {record : PanicData}

/-- Data of twelve bytes or more is the serialization of a record. -/
theorem exists_serialize {bytes : List UInt8} (h : 12 ≤ bytes.length) :
    ∃ record : PanicData, record.serialize = bytes := by
  obtain ⟨arch, structVersion, flags, reserved, rest, rfl⟩ :
      ∃ arch structVersion flags reserved rest,
        bytes = arch :: structVersion :: flags :: reserved :: rest := by
    match bytes, h with
    | arch :: structVersion :: flags :: reserved :: rest, _ => exact ⟨_, _, _, _, _, rfl⟩
  have hrest : 8 ≤ rest.length := by
    simp only [List.length_cons] at h
    omega
  let body := rest.take (rest.length - 8)
  let size := (rest.drop (rest.length - 8)).take 4
  let magic := (rest.drop (rest.length - 8)).drop 4
  have hsize : size.length = 4 := by
    simp only [size, List.length_take, List.length_drop]
    omega
  have hmagic : magic.length = 4 := by
    simp only [magic, List.length_drop]
    omega
  refine ⟨⟨arch, structVersion, flags, reserved, body, UInt32.ofNat (leValue size),
    UInt32.ofNat (leValue magic)⟩, ?_⟩
  rw [PanicData.serialize, leBytes_ofNat_leValue hsize, leBytes_ofNat_leValue hmagic,
    List.append_assoc, List.append_assoc, List.take_append_drop, List.take_append_drop]
  rfl

theorem length_of_serialize (h : data.bytes = record.serialize) :
    data.length = record.body.length + 12 := by
  rw [ByteVec.length, h, PanicData.length_serialize]

/-- The size word lies eight bytes before the end. -/
theorem returns_structSize (h : data.bytes = record.serialize) :
    Returns (u32At data.bytes (data.length - 8)) m w record.structSize w := by
  let header := [record.arch, record.structVersion, record.flags, record.reserved]
  have hread : Returns (u32At (header ++ record.body ++ leBytes 4 record.structSize.toNat ++
      leBytes 4 record.magic.toNat) (header ++ record.body).length) m w
      (UInt32.ofNat (leValue (leBytes 4 record.structSize.toNat))) w :=
    returns_u32At (length_leBytes 4 record.structSize.toNat)
  have hoffset : data.length - 8 = (header ++ record.body).length := by
    rw [length_of_serialize h, List.length_append]
    simp only [header, List.length_cons, List.length_nil]
    omega
  rw [ofNat_leValue_leBytes] at hread
  rw [hoffset, h]
  exact hread

theorem returns_magic (h : data.bytes = record.serialize) :
    Returns (u32At data.bytes (data.length - 4)) m w record.magic w := by
  let header := [record.arch, record.structVersion, record.flags, record.reserved]
  have hread : Returns (u32At (header ++ record.body ++ leBytes 4 record.structSize.toNat ++
      leBytes 4 record.magic.toNat ++ []) (header ++ record.body ++
        leBytes 4 record.structSize.toNat).length) m w
      (UInt32.ofNat (leValue (leBytes 4 record.magic.toNat))) w :=
    returns_u32At (length_leBytes 4 record.magic.toNat)
  have hoffset : data.length - 4 =
      (header ++ record.body ++ leBytes 4 record.structSize.toNat).length := by
    rw [length_of_serialize h, List.length_append, List.length_append, length_leBytes]
    simp only [header, List.length_cons, List.length_nil]
    omega
  rw [ofNat_leValue_leBytes, List.append_nil] at hread
  rw [hoffset, h]
  exact hread

theorem returns_parsePanicInfo (h : data.bytes = record.serialize) :
    Returns (parsePanicInfo data) m w
      { data
        arch := record.arch
        structVersion := record.structVersion
        flags := record.flags
        structSize := record.structSize
        magic := record.magic
        isValid := record.magic = m.upstream.panicDataMagic ∧
          record.structSize.toNat = data.length } w := by
  have harch : Returns (byteAt data.bytes 0) m w record.arch w :=
    returns_byteAt (by rw [h]; rfl)
  have hstructVersion : Returns (byteAt data.bytes 1) m w record.structVersion w :=
    returns_byteAt (by rw [h]; rfl)
  have hflags : Returns (byteAt data.bytes 2) m w record.flags w :=
    returns_byteAt (by rw [h]; rfl)
  refine returns_view_self.bind_iff.mpr ?_
  refine (returns_structSize h).bind_iff.mpr ?_
  refine (returns_magic h).bind_iff.mpr ?_
  refine harch.bind_iff.mpr ?_
  refine hstructVersion.bind_iff.mpr ?_
  exact hflags.bind_iff.mpr returns_pure_self

theorem returns_getPanicInfo_of_short
    (hdata : m.answer .getPanicInfo (w.asked .getPanicInfo) = .ok data)
    (hlength : data.length < 12) :
    Returns getPanicInfo m w
      (.ok ⟨data, 0, 0, 0, 0, 0, false⟩) (w.record .getPanicInfo) := by
  refine returns_bind.mpr ⟨_, _, returns_ask_self, ?_⟩
  rw [hdata]
  show Returns (if data.length < 12 then _ else _) m _ _ _
  rw [if_pos hlength]
  exact returns_pure_self

theorem returns_getPanicInfo_of_serialize
    (hdata : m.answer .getPanicInfo (w.asked .getPanicInfo) = .ok data)
    (h : data.bytes = record.serialize) :
    Returns getPanicInfo m w
      (.ok
        { data
          arch := record.arch
          structVersion := record.structVersion
          flags := record.flags
          structSize := record.structSize
          magic := record.magic
          isValid := record.magic = m.upstream.panicDataMagic ∧
            record.structSize.toNat = data.length }) (w.record .getPanicInfo) := by
  have hlength : ¬ data.length < 12 := by
    rw [length_of_serialize h]
    omega
  refine returns_bind.mpr ⟨_, _, returns_ask_self, ?_⟩
  rw [hdata]
  show Returns (if data.length < 12 then _ else _) m _ _ _
  rw [if_neg hlength]
  exact (returns_parsePanicInfo h).bind_iff.mpr (returns_pure_self)

/-- No data makes the parser panic. -/
theorem safe_getPanicInfo : Safe getPanicInfo := by
  intro e m w habort
  cases hdata : m.answer .getPanicInfo (w.asked .getPanicInfo) with
  | error error =>
      have hfailed : Returns getPanicInfo m w (.error error) (w.record .getPanicInfo) := by
        refine returns_bind.mpr ⟨_, _, returns_ask_self, ?_⟩
        rw [hdata]
        exact returns_pure_self
      exact hfailed.not_aborts habort
  | ok data =>
      by_cases hlength : data.length < 12
      · exact (returns_getPanicInfo_of_short hdata hlength).not_aborts habort
      · obtain ⟨record, hrecord⟩ := exists_serialize (Nat.le_of_not_lt hlength)
        exact (returns_getPanicInfo_of_serialize hdata hrecord.symm).not_aborts habort

/-- A record that the controller means to be read: its magic word is the expected
one and its size is that of the whole record. -/
def PanicData.WellFormed (record : PanicData) (magic : UInt32) : Prop :=
  record.magic = magic ∧ record.structSize.toNat = record.serialize.length

theorem exists_panicInfo
    (hdata : m.answer .getPanicInfo (w.asked .getPanicInfo) = .ok data) :
    ∃ info, Returns getPanicInfo m w (.ok info) (w.record .getPanicInfo) ∧ info.data = data ∧
      (info.isValid = true ↔ ∃ record : PanicData, record.serialize = data.bytes ∧
        record.WellFormed m.upstream.panicDataMagic) := by
  by_cases hlength : data.length < 12
  · refine ⟨_, returns_getPanicInfo_of_short hdata hlength, rfl, ?_⟩
    refine iff_of_false (by simp) ?_
    rintro ⟨record, hrecord, -⟩
    rw [ByteVec.length, ← hrecord, PanicData.length_serialize] at hlength
    omega
  · obtain ⟨record, hrecord⟩ := exists_serialize (Nat.le_of_not_lt hlength)
    have hread := returns_getPanicInfo_of_serialize hdata hrecord.symm
    refine ⟨_, hread, rfl, ?_⟩
    constructor
    · intro hvalid
      obtain ⟨hmagic, hsize⟩ := of_decide_eq_true hvalid
      exact ⟨record, hrecord, hmagic, by rw [hsize, hrecord]; rfl⟩
    · rintro ⟨other, hother, hmagic, hsize⟩
      have hinfo := ((returns_getPanicInfo_of_serialize hdata hother.symm).unique hread).1
      rw [← congrArg PanicInfo.isValid (Except.ok.inj hinfo)]
      refine decide_eq_true ⟨hmagic, ?_⟩
      rw [hsize, hother]
      rfl

end Parser

/-- The parser panics on no answer, hands the data on as it is and calls valid
exactly what is a well-formed record. It reads back the words of every record,
well-formed or not. -/
theorem getPanicInfo_parses (m : Machine) (w : World) :
    (∀ e, ¬ Aborts getPanicInfo m w e) ∧
      (∀ data, m.answer .getPanicInfo (w.asked .getPanicInfo) = .ok data →
        ∃ info, Returns getPanicInfo m w (.ok info) (w.record .getPanicInfo) ∧
          info.data = data ∧
          (info.isValid = true ↔ ∃ record : PanicData, record.serialize = data.bytes ∧
            record.WellFormed m.upstream.panicDataMagic)) ∧
      (∀ record : PanicData, ∀ data,
        m.answer .getPanicInfo (w.asked .getPanicInfo) = .ok data →
          data.bytes = record.serialize →
            ∃ info, Returns getPanicInfo m w (.ok info) (w.record .getPanicInfo) ∧
              info.arch = record.arch ∧ info.structVersion = record.structVersion ∧
              info.flags = record.flags ∧ info.structSize = record.structSize ∧
              info.magic = record.magic) := by
  refine ⟨fun e => safe_getPanicInfo e m w, fun data hdata => exists_panicInfo hdata, ?_⟩
  intro record data hdata hbytes
  exact ⟨_, returns_getPanicInfo_of_serialize hdata hbytes, rfl, rfl, rfl, rfl, rfl⟩

def bareRecord : PanicData := ⟨1, 2, 1, 0, [], 12, 0x21636E50⟩

/-- A controller that has saved it. -/
def bareRecordMachine : Machine :=
  Machine.silent.answering .getPanicInfo (.ok (.exact bareRecord.serialize))

theorem getPanicInfo_parses_bare :
    ∃ info, Returns getPanicInfo bareRecordMachine .fresh (.ok info)
        (World.fresh.record .getPanicInfo) ∧ info.isValid = true := by
  obtain ⟨info, hrun, -, hvalid⟩ := (getPanicInfo_parses bareRecordMachine .fresh).2.1 _
    (Machine.answer_answering_self _ _ _ _)
  exact ⟨info, hrun, hvalid.mpr ⟨bareRecord, rfl, rfl, rfl⟩⟩

end FrameworkFfi
