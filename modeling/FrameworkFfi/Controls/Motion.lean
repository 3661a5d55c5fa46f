import FrameworkFfi.Exports.Controls
import FrameworkFfi.Thermal.Lossless

/-!
# Nothing is lost in a motion reading

The accelerometers and the light sensors are read from the memory of the
controller. Every axis and both light values determine the bytes they were read
from. The angle of the lid determines its word as well, except that a word of all
ones is told like the value that stands for no reliable angle.
-/

namespace FrameworkFfi

open Effect LittleEndian

/-- A read of the memory answers exactly the bytes it asks for, or nothing. -/
def Machine.ReadsExactly (m : Machine) : Prop :=
  ∀ offset length n bytes, m.answer (.readMemory offset length) n = some bytes →
    bytes.length = length.toNat

/-- What the next read of a part of the memory answers. -/
def Machine.memoryAt (m : Machine) (w : World) (offset length : UInt16) : Option (List UInt8) :=
  m.answer (.readMemory offset length) (w.asked (.readMemory offset length))

/-! ### The words of a slice -/

def bytePair (data : List UInt8) (offset : ℕ) : List UInt8 := (data.drop offset).take 2

def wordAt (data : List UInt8) (offset : ℕ) : UInt16 :=
  UInt16.ofNat (leValue (bytePair data offset))

def axisBytes (axis : Int16) : List UInt8 := leBytes 2 axis.toUInt16.toNat

section Words

variable {m : Machine} {w : World} {data : List UInt8} {offset : ℕ}

theorem bytePair_eq (h : offset + 1 < data.length) :
    bytePair data offset = [data[offset], data[offset + 1]] := by
  rw [bytePair, List.drop_eq_getElem_cons (by omega), List.drop_eq_getElem_cons h]
  rfl

theorem returns_u16At (h : offset + 1 < data.length) :
    Returns (u16At data offset) m w (wordAt data offset) w := by
  have hlow : data[offset]? = some data[offset] := List.getElem?_eq_getElem (by omega)
  have hhigh : data[offset + 1]? = some data[offset + 1] := List.getElem?_eq_getElem h
  unfold u16At
  rw [(returns_byteAt hlow).bind_iff, (returns_byteAt hhigh).bind_iff, u16FromLeBytes_eq, wordAt,
    bytePair_eq h]
  exact returns_pure_self

theorem returns_i16At (h : offset + 1 < data.length) :
    Returns (i16At data offset) m w (wordAt data offset).toInt16 w := by
  unfold i16At
  rw [(returns_u16At h).bind_iff]
  exact returns_pure_self

theorem leBytes_word (h : offset + 1 < data.length) :
    leBytes 2 (wordAt data offset).toNat = bytePair data offset := by
  have hlength : (bytePair data offset).length = 2 := by rw [bytePair_eq h]; rfl
  have hlt := leValue_lt (bytePair data offset)
  rw [hlength] at hlt
  rw [wordAt, UInt16.toNat_ofNat_of_lt' hlt]
  conv_lhs => rw [← hlength]
  exact leBytes_leValue _

theorem axisBytes_word (h : offset + 1 < data.length) :
    axisBytes (wordAt data offset).toInt16 = bytePair data offset := by
  rw [axisBytes, UInt16.toUInt16_toInt16, leBytes_word h]

/-- Three words make up a slice of six bytes. -/
theorem bytePairs_of_length_six (h : data.length = 6) :
    bytePair data 0 ++ (bytePair data 2 ++ bytePair data 4) = data := by
  have hlast : bytePair data 4 = data.drop 4 := List.take_of_length_le (by
    rw [List.length_drop, h])
  have hdrop : data.drop 4 = (data.drop 2).drop 2 := by rw [List.drop_drop]
  rw [hlast, bytePair, bytePair, hdrop, List.take_append_drop, List.drop_zero,
    List.take_append_drop]

end Words

/-! ### The readings -/

def AccelData.baseBytes (data : AccelData) : List UInt8 :=
  axisBytes data.baseX ++ (axisBytes data.baseY ++ axisBytes data.baseZ)

def AccelData.lidBytes (data : AccelData) : List UInt8 :=
  axisBytes data.lidX ++ (axisBytes data.lidY ++ axisBytes data.lidZ)

/-- The angle word `angle` is told as `degrees`. -/
def ToldAngle (angle : List UInt8) (degrees : Int16) : Prop :=
  if leValue angle = 500 ∨ leValue angle = 0xFFFF then degrees = -1
  else degrees ≠ -1 ∧ axisBytes degrees = angle

/-- What a reading says of the three slices it is made from. -/
structure LosslessMotion (angle base lid : List UInt8) (data : AccelData) : Prop where
  base : data.baseBytes = base
  lid : data.lidBytes = lid
  angle : ToldAngle angle data.lidAngleDegrees

theorem toldAngle_lidAngleDegrees {angle : List UInt8} (h : angle.length = 2) :
    ToldAngle angle (lidAngleDegrees (wordAt angle 0)) := by
  have hpair : bytePair angle 0 = angle := List.take_of_length_le (by
    rw [List.length_drop, h])
  have hbytes : axisBytes (wordAt angle 0).toInt16 = bytePair angle 0 :=
    axisBytes_word (by omega)
  have hlt := leValue_lt angle
  rw [wordAt, hpair] at hbytes ⊢
  rw [h] at hlt
  have hword : (UInt16.ofNat (leValue angle)).toNat = leValue angle :=
    UInt16.toNat_ofNat_of_lt' hlt
  unfold ToldAngle lidAngleDegrees
  by_cases hunreliable : leValue angle = 500
  · rw [if_pos (.inl hunreliable), hunreliable, if_pos (by rfl)]
  · have hne : UInt16.ofNat (leValue angle) ≠ lidAngleUnreliable := by
      intro heq
      exact hunreliable (hword.symm.trans (congrArg UInt16.toNat heq))
    rw [if_neg hne]
    by_cases hones : leValue angle = 0xFFFF
    · rw [if_pos (.inr hones), hones]
      decide
    · rw [if_neg (by omega)]
      refine ⟨fun heq => hones ?_, hbytes⟩
      have hback : UInt16.ofNat (leValue angle) = (-1 : Int16).toUInt16 := by
        rw [← heq, UInt16.toUInt16_toInt16]
      rw [← hword, hback]
      rfl

def motionReading (angle base lid : List UInt8) : AccelData :=
  { lidAngleDegrees := lidAngleDegrees (wordAt angle 0)
    baseX := (wordAt base 0).toInt16
    baseY := (wordAt base 2).toInt16
    baseZ := (wordAt base 4).toInt16
    lidX := (wordAt lid 0).toInt16
    lidY := (wordAt lid 2).toInt16
    lidZ := (wordAt lid 4).toInt16 }

theorem losslessMotion_motionReading {angle base lid : List UInt8} (hangle : angle.length = 2)
    (hbase : base.length = 6) (hlid : lid.length = 6) :
    LosslessMotion angle base lid (motionReading angle base lid) := by
  have haxes : ∀ {data : List UInt8}, data.length = 6 →
      axisBytes (wordAt data 0).toInt16 ++ (axisBytes (wordAt data 2).toInt16 ++
        axisBytes (wordAt data 4).toInt16) = data := by
    intro data hdata
    rw [axisBytes_word (by omega), axisBytes_word (by omega), axisBytes_word (by omega),
      bytePairs_of_length_six hdata]
  exact ⟨haxes hbase, haxes hlid, toldAngle_lidAngleDegrees hangle⟩

section Runs

variable {m : Machine} {w : World}

theorem returns_accelDataOfMemory {angle base lid : List UInt8} (hangle : angle.length = 2)
    (hbase : base.length = 6) (hlid : lid.length = 6) :
    Returns (accelDataOfMemory angle base lid) m w (motionReading angle base lid) w := by
  unfold accelDataOfMemory
  rw [(returns_u16At (by omega)).bind_iff, (returns_i16At (by omega)).bind_iff,
    (returns_i16At (by omega)).bind_iff, (returns_i16At (by omega)).bind_iff,
    (returns_i16At (by omega)).bind_iff, (returns_i16At (by omega)).bind_iff,
    (returns_i16At (by omega)).bind_iff]
  exact returns_pure_self

theorem memoryAt_record_of_ne {offset length : UInt16} {request : HostRequest}
    (h : .readMemory offset length ≠ request) :
    m.memoryAt (w.record request) offset length = m.memoryAt w offset length := by
  rw [Machine.memoryAt, w.asked_record_of_ne h, Machine.memoryAt]

theorem returns_readMemory {offset length : UInt16} {bytes : Option (List UInt8)}
    (h : m.memoryAt w offset length = bytes) :
    Returns (ask (.readMemory offset length)) m w bytes
      (w.record (.readMemory offset length)) :=
  returns_ask_of_eq h

section AndThenSome

variable {α β : Type} {first : Ffi (Option α)} {rest : α → Ffi (Option β)} {w₁ w' : World}

theorem returns_andThenSome_of_some {a : α} {result : Option β}
    (h : Returns first m w (some a) w₁) :
    Returns (andThenSome first rest) m w result w' ↔ Returns (rest a) m w₁ result w' :=
  h.bind_iff

theorem returns_andThenSome_of_none (h : Returns first m w none w₁) :
    Returns (andThenSome first rest) m w none w₁ :=
  h.bind_iff.mpr returns_pure_self

end AndThenSome

/-- The word of the lid angle and the slices of the two accelerometers, when all three
are read. -/
def Machine.motionMemory (m : Machine) (w : World) :
    Option (List UInt8 × List UInt8 × List UInt8) :=
  (m.memoryAt w ecMemmapAccData 2).bind fun angle =>
    (m.memoryAt w (ecMemmapAccData + 2) 6).bind fun base =>
      (m.memoryAt w (ecMemmapAccData + 8) 6).map fun lid => (angle, base, lid)

theorem returns_getAccelData (hm : m.ReadsExactly) :
    ∃ w', Returns getAccelData m w ((m.motionMemory w).map fun memory =>
      motionReading memory.1 memory.2.1 memory.2.2) w' := by
  unfold getAccelData Machine.motionMemory
  cases hangle : m.memoryAt w ecMemmapAccData 2 with
  | none => exact ⟨_, returns_andThenSome_of_none (returns_readMemory hangle)⟩
  | some angle =>
      let w₁ := w.record (.readMemory ecMemmapAccData 2)
      have hbase₁ : m.memoryAt w₁ (ecMemmapAccData + 2) 6 =
          m.memoryAt w (ecMemmapAccData + 2) 6 := memoryAt_record_of_ne (by decide)
      have hlid₁ : m.memoryAt w₁ (ecMemmapAccData + 8) 6 =
          m.memoryAt w (ecMemmapAccData + 8) 6 := memoryAt_record_of_ne (by decide)
      rw [← hbase₁, ← hlid₁]
      have hfirst := returns_readMemory hangle
      cases hbase : m.memoryAt w₁ (ecMemmapAccData + 2) 6 with
      | none =>
          exact ⟨_, (returns_andThenSome_of_some hfirst).mpr
            (returns_andThenSome_of_none (returns_readMemory hbase))⟩
      | some base =>
          let w₂ := w₁.record (.readMemory (ecMemmapAccData + 2) 6)
          have hlid₂ : m.memoryAt w₂ (ecMemmapAccData + 8) 6 =
              m.memoryAt w₁ (ecMemmapAccData + 8) 6 := memoryAt_record_of_ne (by decide)
          rw [← hlid₂]
          have hsecond := returns_readMemory hbase
          cases hlid : m.memoryAt w₂ (ecMemmapAccData + 8) 6 with
          | none =>
              exact ⟨_, (returns_andThenSome_of_some hfirst).mpr
                ((returns_andThenSome_of_some hsecond).mpr
                  (returns_andThenSome_of_none (returns_readMemory hlid)))⟩
          | some lid =>
              let w₃ := w₂.record (.readMemory (ecMemmapAccData + 8) 6)
              have hreading : Returns (accelDataOfMemory angle base lid) m w₃
                  (motionReading angle base lid) w₃ :=
                returns_accelDataOfMemory (hm _ _ _ _ hangle) (hm _ _ _ _ hbase)
                  (hm _ _ _ _ hlid)
              exact ⟨w₃, (returns_andThenSome_of_some hfirst).mpr
                ((returns_andThenSome_of_some hsecond).mpr
                  ((returns_andThenSome_of_some (returns_readMemory hlid)).mpr
                    (hreading.bind_iff.mpr returns_pure_self)))⟩

theorem returns_getAls (hm : m.ReadsExactly) :
    ∃ w', Returns getAls m w ((m.memoryAt w ecMemmapAls 4).map fun als =>
      ((wordAt als 0).toUInt32, (wordAt als 2).toUInt32)) w' := by
  unfold getAls
  cases hals : m.memoryAt w ecMemmapAls 4 with
  | none => exact ⟨_, returns_andThenSome_of_none (returns_readMemory hals)⟩
  | some als =>
      have hlength : als.length = 4 := hm _ _ _ _ hals
      refine ⟨w.record (.readMemory ecMemmapAls 4),
        (returns_andThenSome_of_some (returns_readMemory hals)).mpr ?_⟩
      rw [(returns_u16At (by omega)).bind_iff, (returns_u16At (by omega)).bind_iff]
      exact returns_pure_self

theorem returns_exported_someReply {α β : Type} (record : α → β) {query : Ffi (Option α)}
    {empty : β} {handle : FrameworkEcHandle} {answer : Option α} {w' : World}
    (h : Returns query m w answer w') :
    Returns (exported (some handle) empty fun _ => someReply query fun a => pure (record a)) m w
      (reported empty ((answer.map record).elim (.error (.withCode .dataUnavailable 0)) .ok))
      w' := by
  refine returns_bind.mpr ⟨_, w', h.bind_iff.mpr ?_, returns_pure_self⟩
  cases answer <;> exact returns_pure_self

theorem losslessMotion_of_motionMemory (hm : m.ReadsExactly) {angle base lid : List UInt8}
    (h : m.motionMemory w = some (angle, base, lid)) :
    LosslessMotion angle base lid (motionReading angle base lid) := by
  obtain ⟨angle', hangle, hrest⟩ := Option.bind_eq_some_iff.mp h
  obtain ⟨base', hbase, hrest⟩ := Option.bind_eq_some_iff.mp hrest
  obtain ⟨lid', hlid, hmemory⟩ := Option.map_eq_some_iff.mp hrest
  obtain ⟨rfl, rfl, rfl⟩ : angle' = angle ∧ base' = base ∧ lid' = lid := by
    simpa using hmemory
  exact losslessMotion_motionReading (hm _ _ _ _ hangle) (hm _ _ _ _ hbase) (hm _ _ _ _ hlid)

end Runs

def AlsReading.bytes (reading : AlsReading) : List UInt8 :=
  leBytes 2 reading.lux0.toNat ++ leBytes 2 reading.lux1.toNat

theorem alsReading_bytes {als : List UInt8} (h : als.length = 4) :
    AlsReading.bytes ⟨(wordAt als 0).toUInt32, (wordAt als 2).toUInt32⟩ = als := by
  have hlast : bytePair als 2 = als.drop 2 := List.take_of_length_le (by
    rw [List.length_drop, h])
  rw [AlsReading.bytes, UInt16.toNat_toUInt32, UInt16.toNat_toUInt32, leBytes_word (by omega),
    leBytes_word (by omega), hlast, bytePair, List.drop_zero, List.take_append_drop]

/-- On a machine whose reads are as long as they are asked for, both calls return. They
succeed exactly when every read is answered, and what they tell is lossless. -/
theorem motion_lossless {m : Machine} (hm : m.ReadsExactly) (handle : FrameworkEcHandle)
    (w : World) :
    (∃ result w', Returns (frameworkEcGetAccelData (some handle)) m w result w' ∧
      (m.motionMemory w = none → result.status = .withCode .dataUnavailable 0) ∧
      ∀ angle base lid, m.motionMemory w = some (angle, base, lid) →
        result.status = .success ∧ LosslessMotion angle base lid result.value) ∧
    ∃ result w', Returns (frameworkEcGetAlsReading (some handle)) m w result w' ∧
      (m.memoryAt w ecMemmapAls 4 = none → result.status = .withCode .dataUnavailable 0) ∧
      ∀ als, m.memoryAt w ecMemmapAls 4 = some als →
        result.status = .success ∧ result.value.bytes = als := by
  constructor
  · obtain ⟨w', h⟩ := returns_getAccelData hm
    refine ⟨_, w', returns_exported_someReply id h, fun hnone => ?_, fun angle base lid hsome => ?_⟩
    · rw [hnone]
      rfl
    · rw [hsome]
      exact ⟨rfl, losslessMotion_of_motionMemory hm hsome⟩
  · obtain ⟨w', h⟩ := returns_getAls hm
    let record : UInt32 × UInt32 → AlsReading := fun lux => ⟨lux.1, lux.2⟩
    refine ⟨_, w', returns_exported_someReply record h, fun hnone => ?_, fun als hsome => ?_⟩
    · rw [hnone]
      rfl
    · rw [hsome]
      exact ⟨rfl, alsReading_bytes (hm _ _ _ _ hsome)⟩

theorem Machine.ReadsExactly.answering {m : Machine} (hm : m.ReadsExactly)
    {offset length : UInt16} {bytes : List UInt8} (h : bytes.length = length.toNat) :
    (m.answering (.readMemory offset length) (some bytes)).ReadsExactly := by
  intro other length' n answer hanswer
  unfold Machine.answering at hanswer
  by_cases hsame : HostRequest.readMemory offset length = .readMemory other length'
  · obtain ⟨rfl, rfl⟩ := HostRequest.readMemory.inj hsame
    simp only [dif_pos] at hanswer
    obtain rfl := Option.some.inj hanswer
    exact h
  · simp only [dif_neg hsame] at hanswer
    exact hm other length' n answer hanswer

/-- A machine that lies still with its lid at a right angle. -/
def stillMachine : Machine :=
  ((Machine.silent.answering (.readMemory ecMemmapAccData 2) (some [90, 0])).answering
    (.readMemory (ecMemmapAccData + 2) 6) (some [0, 0, 0, 0, 0, 0x40])).answering
    (.readMemory (ecMemmapAccData + 8) 6) (some [0, 0xC0, 0, 0, 0, 0])

theorem motion_lossless_still :
    ∃ result w', Returns (frameworkEcGetAccelData (some ⟨.crosEc⟩)) stillMachine .fresh result
        w' ∧ result.status = .success ∧
      result.value.lidBytes = [0, 0xC0, 0, 0, 0, 0] := by
  have hsilent : Machine.silent.ReadsExactly := fun _ _ _ _ h => by cases h
  have hm : stillMachine.ReadsExactly := ((hsilent.answering rfl).answering rfl).answering rfl
  obtain ⟨⟨result, w', h, -, hsome⟩, -⟩ := motion_lossless hm ⟨.crosEc⟩ .fresh
  obtain ⟨hstatus, hlossless⟩ := hsome [90, 0] [0, 0, 0, 0, 0, 0x40] [0, 0xC0, 0, 0, 0, 0] rfl
  exact ⟨result, w', h, hstatus, hlossless.lid⟩

end FrameworkFfi
