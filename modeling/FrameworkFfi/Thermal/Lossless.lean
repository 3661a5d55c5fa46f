import FrameworkFfi.Host.Silent
import FrameworkFfi.Library.LittleEndian
import FrameworkFfi.Thermal
import Mathlib.Data.Fin.VecNotation
import Mathlib.Data.List.OfFn

/-!
# Nothing is lost in a thermal snapshot

A snapshot gives each sensor byte and each fan word as a state and a number. The
two determine the byte or the word, so the raw memory can be written back from
the snapshot. The count of the fans is the number of fans with a state, in the
snapshot as in the capabilities.
-/

namespace FrameworkFfi

open Effect LittleEndian

/-! ### The memory -/

/-- The two blocks of the memory map that a snapshot is made from. -/
structure ThermalMemory where
  temps : FixedArray 15 UInt8
  fans : FixedArray 8 UInt8

/-- The byte of a sensor. The snapshot has eight of the fifteen. -/
def ThermalMemory.temp (memory : ThermalMemory) (i : Fin 8) : UInt8 :=
  memory.temps (i.castLE (by decide))

/-- The bytes of a fan, the low one first. -/
def ThermalMemory.fanBytes (memory : ThermalMemory) (i : Fin 4) : List UInt8 :=
  [memory.fans ⟨2 * i, by omega⟩, memory.fans ⟨2 * i + 1, by omega⟩]

def ThermalMemory.fanWord (memory : ThermalMemory) (i : Fin 4) : UInt16 :=
  UInt16.ofNat (leValue (memory.fanBytes i))

/-- The next reads of both blocks answer exactly the bytes of `memory`. -/
structure Machine.ReadsThermal (m : Machine) (w : World) (memory : ThermalMemory) : Prop where
  temps : m.answer (.readMemory ecMemmapTempSensor 0x0F)
    (w.asked (.readMemory ecMemmapTempSensor 0x0F)) = some (List.ofFn memory.temps)
  fans : m.answer (.readMemory ecMemmapFan 0x08)
    (w.asked (.readMemory ecMemmapFan 0x08)) = some (List.ofFn memory.fans)

/-! ### The encoder -/

def encodeTemperature (state : FrameworkTemperatureState) (celsius : Int16) : UInt8 :=
  match state with
  | .notPresent => 0xFF
  | .error => 0xFE
  | .notPowered => 0xFD
  | .notCalibrated => 0xFC
  | .ok => (celsius + 73).toUInt16.toUInt8

def encodeFan (state : FrameworkFanState) (rpm : UInt16) : UInt16 :=
  match state with
  | .notPresent => 0xFFFF
  | .stalled => 0xFFFE
  | .ok => rpm

namespace FrameworkThermalSnapshot

def encodeTemperatures (snapshot : FrameworkThermalSnapshot) : List UInt8 :=
  (List.finRange 8).map fun i =>
    encodeTemperature (snapshot.temperature i).state (snapshot.temperature i).celsius

def encodeFans (snapshot : FrameworkThermalSnapshot) : List UInt8 :=
  (List.finRange 4).flatMap fun i =>
    leBytes 2 (encodeFan (snapshot.fan i).state (snapshot.fan i).rpm).toNat

/-- The same states and numbers. The names may differ. -/
structure SameReadings (snapshot other : FrameworkThermalSnapshot) : Prop where
  temperature : ∀ i, (snapshot.temperature i).state = (other.temperature i).state ∧
    (snapshot.temperature i).celsius = (other.temperature i).celsius
  fan : ∀ i, (snapshot.fan i).state = (other.fan i).state ∧
    (snapshot.fan i).rpm = (other.fan i).rpm

def presentFans (snapshot : FrameworkThermalSnapshot) : ℕ :=
  (List.finRange 4).countP fun i => (snapshot.fan i).state ≠ .notPresent

end FrameworkThermalSnapshot

/-- What a snapshot says of the memory it is made from. -/
structure Lossless (memory : ThermalMemory) (snapshot : FrameworkThermalSnapshot) : Prop where
  temperatures : snapshot.encodeTemperatures = (List.ofFn memory.temps).take 8
  fanWords : ∀ i, encodeFan (snapshot.fan i).state (snapshot.fan i).rpm = memory.fanWord i
  fans : snapshot.encodeFans = List.ofFn memory.fans
  celsius_of_ne_ok : ∀ i, (snapshot.temperature i).state ≠ .ok →
    (snapshot.temperature i).celsius = 0
  celsius_of_ok : ∀ i, (snapshot.temperature i).state = .ok →
    (snapshot.temperature i).celsius.toInt = (memory.temp i).toNat - 73 ∧
      -73 ≤ (snapshot.temperature i).celsius.toInt ∧
      (snapshot.temperature i).celsius.toInt ≤ 178
  rpm_of_ne_ok : ∀ i, (snapshot.fan i).state ≠ .ok → (snapshot.fan i).rpm = 0
  /-- A fan that runs at 0 rpm is told from one that is stalled or absent. -/
  idle_iff : ∀ i, memory.fanWord i = 0 ↔
    (snapshot.fan i).state = .ok ∧ (snapshot.fan i).rpm = 0
  fanCount : snapshot.fanCount.toNat = snapshot.presentFans

/-! ### One sensor and one fan -/

section Readings

theorem encodeTemperature_parseTempSensor (byte : UInt8) :
    encodeTemperature (.ofStatus (parseTempSensor byte).status) (parseTempSensor byte).celsius =
      byte := by
  unfold parseTempSensor
  split_ifs with h₁ h₂ h₃ h₄
  · exact h₁.symm
  · exact h₂.symm
  · exact h₃.symm
  · exact h₄.symm
  · show (Int16.ofNat byte.toNat - 73 + 73).toUInt16.toUInt8 = byte
    rw [Int16.sub_add_cancel]
    simp

/-- The subtraction of `parse_temp_sensor` does not wrap. -/
theorem toInt_celsius (byte : UInt8) :
    (Int16.ofNat byte.toNat - 73).toInt = (byte.toNat : ℤ) - 73 := by
  have hlt := byte.toNat_lt
  have hbyte : (Int16.ofNat byte.toNat).toInt = byte.toNat :=
    Int16.toInt_ofNat_of_lt (by omega)
  have hoffset : (73 : Int16).toInt = 73 := rfl
  rw [Int16.toInt_sub, hbyte, hoffset]
  exact Int.bmod_eq_of_le (by omega) (by omega)

theorem celsius_parseTempSensor_of_ne_ok {byte : UInt8}
    (h : FrameworkTemperatureState.ofStatus (parseTempSensor byte).status ≠ .ok) :
    (parseTempSensor byte).celsius = 0 := by
  unfold parseTempSensor at h ⊢
  split_ifs at h ⊢ with h₁ h₂ h₃ h₄
  · rfl
  · rfl
  · rfl
  · rfl
  · exact absurd rfl h

theorem celsius_parseTempSensor_of_ok {byte : UInt8}
    (h : FrameworkTemperatureState.ofStatus (parseTempSensor byte).status = .ok) :
    (parseTempSensor byte).celsius.toInt = byte.toNat - 73 ∧
      -73 ≤ (parseTempSensor byte).celsius.toInt ∧
      (parseTempSensor byte).celsius.toInt ≤ 178 := by
  unfold parseTempSensor at h ⊢
  split_ifs at h ⊢ with h₁ h₂ h₃ h₄
  · cases h
  · cases h
  · cases h
  · cases h
  · have hlt := byte.toNat_lt
    have hsentinels : byte.toNat ≠ 0xFF ∧ byte.toNat ≠ 0xFE ∧ byte.toNat ≠ 0xFD ∧
        byte.toNat ≠ 0xFC :=
      ⟨fun heq => h₁ (UInt8.toNat_inj.mp heq), fun heq => h₂ (UInt8.toNat_inj.mp heq),
        fun heq => h₃ (UInt8.toNat_inj.mp heq), fun heq => h₄ (UInt8.toNat_inj.mp heq)⟩
    show (Int16.ofNat byte.toNat - 73).toInt = _ ∧ -73 ≤ (Int16.ofNat byte.toNat - 73).toInt ∧
      (Int16.ofNat byte.toNat - 73).toInt ≤ 178
    rw [toInt_celsius]
    omega

theorem encodeFan_parseFan (word : UInt16) :
    encodeFan (fanState (parseFan word).present (parseFan word).stalled) (parseFan word).rpm =
      word := by
  unfold parseFan
  split_ifs with h₁ h₂
  · exact h₁.symm
  · exact h₂.symm
  · rfl

theorem rpm_parseFan_of_ne_ok {word : UInt16}
    (h : fanState (parseFan word).present (parseFan word).stalled ≠ .ok) :
    (parseFan word).rpm = 0 := by
  unfold parseFan at h ⊢
  split_ifs at h ⊢ with h₁ h₂
  · rfl
  · rfl
  · exact absurd rfl h

theorem parseFan_idle_iff {word : UInt16} :
    word = 0 ↔ fanState (parseFan word).present (parseFan word).stalled = .ok ∧
      (parseFan word).rpm = 0 := by
  unfold parseFan
  split_ifs with h₁ h₂
  · rw [h₁]
    decide
  · rw [h₂]
    decide
  · exact (and_iff_right rfl).symm

theorem fanState_ne_notPresent_iff {present stalled : Bool} :
    fanState present stalled ≠ .notPresent ↔ present = true := by
  cases present <;> cases stalled <;> decide

end Readings

/-! ### The loop over the fans -/

section Loop

variable {m : Machine} {w w' : World} {memory : ThermalMemory}

/-- `u16::from_le_bytes`. -/
theorem u16FromLeBytes_eq (low high : UInt8) :
    u16FromLeBytes low high = UInt16.ofNat (leValue [low, high]) := by
  have hlow := low.toNat_lt
  have hhigh := high.toNat_lt
  have hshift : (high.toUInt16 <<< 8).toNat = high.toNat <<< 8 := by
    have height : (8 : UInt16).toNat % 16 = 8 := rfl
    rw [UInt16.toNat_shiftLeft, height, UInt8.toNat_toUInt16, Nat.shiftLeft_eq]
    exact Nat.mod_eq_of_lt (by omega)
  apply UInt16.toNat_inj.mp
  rw [u16FromLeBytes, UInt16.toNat_or, hshift, UInt8.toNat_toUInt16, or_shiftLeft_of_lt hlow,
    UInt16.toNat_ofNat']
  simp only [leValue_cons, leValue_nil]
  omega

/-- One round of the loop over the fans, on the words. -/
def countFan (word : Fin 4 → UInt16) (state : FixedArray 4 FanSlot × UInt8) (i : Fin 4) :
    FixedArray 4 FanSlot × UInt8 :=
  (Function.update state.1 i (parseFan (word i)),
    if (parseFan (word i)).present then state.2 + 1 else state.2)

theorem returns_readFan (state : FixedArray 4 FanSlot × UInt8) (i : Fin 4) :
    Returns (readFan (List.ofFn memory.fans) state i) m w
      (countFan memory.fanWord state i) w := by
  have hread : ∀ (k : Fin 8), Returns (byteAt (List.ofFn memory.fans) k) m w
      (memory.fans k) w := by
    intro k
    apply returns_byteAt
    rw [List.getElem?_ofFn, dif_pos k.isLt]
  have hlow : Returns (byteAt (List.ofFn memory.fans) (i * 2)) m w
      (memory.fans ⟨2 * i, by omega⟩) w := by
    rw [Nat.mul_comm]
    exact hread ⟨2 * i, by omega⟩
  have hhigh : Returns (byteAt (List.ofFn memory.fans) (1 + i * 2)) m w
      (memory.fans ⟨2 * i + 1, by omega⟩) w := by
    rw [Nat.mul_comm, Nat.add_comm]
    exact hread ⟨2 * i + 1, by omega⟩
  refine hlow.bind_iff.mpr (hhigh.bind_iff.mpr (returns_pure.mpr ⟨?_, rfl⟩))
  rw [u16FromLeBytes_eq]
  rfl

/-- The loop writes the fans it has come to and counts those that are present. -/
theorem foldl_countFan (word : Fin 4 → UInt16) (indices : List (Fin 4))
    (state : FixedArray 4 FanSlot × UInt8) :
    indices.foldl (countFan word) state =
      (fun i => if i ∈ indices then parseFan (word i) else state.1 i,
        state.2 + UInt8.ofNat (indices.countP fun i => (parseFan (word i)).present)) := by
  induction indices generalizing state with
  | nil => simp
  | cons index indices ih =>
      rw [List.foldl_cons, ih]
      refine Prod.ext (funext fun i => ?_) ?_
      · by_cases hi : i = index
        · subst hi
          simp [countFan]
        · simp [countFan, hi]
      · show (countFan word state index).2 + _ = _
        rw [List.countP_cons, countFan]
        split_ifs
        · rw [UInt8.ofNat_add, UInt8.add_assoc, UInt8.add_comm 1]
          rfl
        · rw [Nat.add_zero]

theorem returns_readFans :
    Returns (readFans (List.ofFn memory.fans)) m w
      (fun i => parseFan (memory.fanWord i),
        UInt8.ofNat ((List.finRange 4).countP fun i => (parseFan (memory.fanWord i)).present))
      w := by
  have hloop : Returns (readFans (List.ofFn memory.fans)) m w
      ((List.finRange 4).foldl (countFan memory.fanWord) (fun _ => ⟨0, false, false⟩, 0)) w :=
    returns_foldlM returns_readFan _ _
  rw [foldl_countFan] at hloop
  simpa using hloop

end Loop

/-! ### The snapshot -/

section Snapshot

variable {m : Machine} {w w' : World} {memory : ThermalMemory}

/-- What the crate reads from the memory. -/
def ThermalMemory.snapshot (memory : ThermalMemory) : ThermalSnapshot :=
  { temperatures := fun i => parseTempSensor (memory.temp i)
    fans := fun i => parseFan (memory.fanWord i)
    fanCount := UInt8.ofNat
      ((List.finRange 4).countP fun i => (parseFan (memory.fanWord i)).present) }

theorem parseTemperatures_ofFn (temps : FixedArray 15 UInt8) (i : Fin 8) :
    parseTemperatures (List.ofFn temps) i =
      parseTempSensor (temps (i.castLE (by decide))) := by
  have hi : (List.ofFn temps)[i.val]? = some (temps (i.castLE (by decide))) := by
    rw [List.getElem?_ofFn, dif_pos (by omega)]
    rfl
  rw [parseTemperatures, hi]

theorem returns_thermalSnapshot (h : m.ReadsThermal w memory) :
    Returns thermalSnapshot m w (some memory.snapshot)
      ((w.record (.readMemory ecMemmapTempSensor 0x0F)).record
        (.readMemory ecMemmapFan 0x08)) := by
  refine returns_bind.mpr ⟨_, _, returns_ask_self, ?_⟩
  rw [h.temps]
  refine returns_bind.mpr ⟨_, _, returns_ask_self, ?_⟩
  rw [World.asked_record_of_ne w (by decide), h.fans]
  refine returns_readFans.bind_iff.mpr (returns_pure.mpr ⟨?_, rfl⟩)
  have htemperatures : parseTemperatures (List.ofFn memory.temps) =
      memory.snapshot.temperatures := funext fun i => parseTemperatures_ofFn memory.temps i
  rw [htemperatures]
  rfl

theorem returns_buildThermalSnapshot (h : m.ReadsThermal w memory) :
    Returns buildThermalSnapshot m w (some (memory.snapshot.toFfi m.platform m.family))
      ((w.record (.readMemory ecMemmapTempSensor 0x0F)).record
        (.readMemory ecMemmapFan 0x08)) :=
  (returns_thermalSnapshot h).bind_iff.mpr (returns_view_self)

theorem trace_featureEnabled {feature : EcFeatureCode} {result : StatusResult Bool}
    (h : Returns (featureEnabled feature) m w result w') :
    w'.trace = .getFeatures :: w.trace := by
  obtain ⟨flags, w₁, hflags, hrest⟩ := returns_bind.mp h
  obtain ⟨reply, w₂, hreply, hstatus⟩ := returns_bind.mp hflags
  obtain ⟨-, rfl⟩ := returns_ask.mp hreply
  have htrace : w₁.trace = .getFeatures :: w.trace :=
    keeps_orStatus (fun _ _ => rfl) _ m _ flags w₁ hstatus
  cases flags with
  | error status =>
      obtain ⟨-, rfl⟩ := returns_pure.mp hrest
      exact htrace
  | ok flags =>
      obtain ⟨index, w₃, hindex, hpure⟩ := returns_bind.mp hrest
      obtain ⟨-, rfl⟩ := returns_view.mp hindex
      obtain ⟨-, rfl⟩ := returns_pure.mp hpure
      exact htrace

theorem Machine.ReadsThermal.of_featureEnabled {feature : EcFeatureCode}
    {result : StatusResult Bool} (h : m.ReadsThermal w memory)
    (hfeature : Returns (featureEnabled feature) m w result w') :
    m.ReadsThermal w' memory := by
  have hasked : ∀ offset length, w'.asked (.readMemory offset length) =
      w.asked (.readMemory offset length) := by
    intro offset length
    rw [World.asked, World.asked, trace_featureEnabled hfeature,
      List.count_cons_of_ne (by simp)]
  exact ⟨by rw [hasked, h.temps], by rw [hasked, h.fans]⟩

theorem fanCount_of_buildFanCapabilities (h : m.ReadsThermal w memory)
    {capabilities : FrameworkFanCapabilities}
    (hbuild : Returns buildFanCapabilities m w (.ok capabilities) w') :
    capabilities.fanCount = memory.snapshot.fanCount := by
  obtain ⟨fanControl, w₁, hfanControl, h₁⟩ := returns_bind.mp hbuild
  have hread₁ := h.of_featureEnabled hfanControl
  cases fanControl with
  | error status => cases (returns_pure.mp h₁).1
  | ok fanControl =>
      obtain ⟨thermal, w₂, hthermal, h₂⟩ := returns_bind.mp h₁
      have hread₂ := hread₁.of_featureEnabled hthermal
      cases thermal with
      | error status => cases (returns_pure.mp h₂).1
      | ok thermal =>
          have h₃ := (returns_thermalSnapshot hread₂).bind_iff.mp h₂
          obtain ⟨hcapabilities, -⟩ := returns_pure.mp h₃
          rw [Except.ok.inj hcapabilities]
          rfl

theorem leBytes_fanWord (memory : ThermalMemory) (i : Fin 4) :
    leBytes 2 (memory.fanWord i).toNat = memory.fanBytes i := by
  have hlt : leValue (memory.fanBytes i) < 256 ^ 2 := leValue_lt (memory.fanBytes i)
  rw [ThermalMemory.fanWord, UInt16.toNat_ofNat', Nat.mod_eq_of_lt (by omega)]
  exact leBytes_leValue (memory.fanBytes i)

theorem flatMap_fanBytes (memory : ThermalMemory) :
    (List.finRange 4).flatMap memory.fanBytes = List.ofFn memory.fans := rfl

theorem lossless_toFfi (memory : ThermalMemory) (platform : Option Platform)
    (family : Option PlatformFamily) :
    Lossless memory (memory.snapshot.toFfi platform family) where
  temperatures := by
    have htemps : (List.ofFn memory.temps).take 8 = (List.finRange 8).map memory.temp := rfl
    rw [htemps]
    exact List.map_congr_left fun i _ => encodeTemperature_parseTempSensor (memory.temp i)
  fanWords i := encodeFan_parseFan (memory.fanWord i)
  fans := by
    rw [← flatMap_fanBytes]
    refine List.flatMap_congr fun i _ => ?_
    rw [← leBytes_fanWord]
    exact congrArg (fun word : UInt16 => leBytes 2 word.toNat)
      (encodeFan_parseFan (memory.fanWord i))
  celsius_of_ne_ok i h := celsius_parseTempSensor_of_ne_ok h
  celsius_of_ok i h := celsius_parseTempSensor_of_ok h
  rpm_of_ne_ok i h := rpm_parseFan_of_ne_ok h
  idle_iff i := parseFan_idle_iff
  fanCount := by
    have hcount : (memory.snapshot.toFfi platform family).presentFans =
        (List.finRange 4).countP fun i => (parseFan (memory.fanWord i)).present := by
      refine List.countP_congr fun i _ => ?_
      rw [decide_eq_true_iff]
      exact fanState_ne_notPresent_iff
    have hle : (List.finRange 4).countP (fun i => (parseFan (memory.fanWord i)).present) ≤ 4 :=
      List.countP_le_length
    rw [hcount]
    show (UInt8.ofNat _).toNat = _
    rw [UInt8.toNat_ofNat']
    exact Nat.mod_eq_of_lt (by omega)

/-- Snapshots with the same readings are made from the same bytes. -/
theorem raw_eq_of_sameReadings {memory' : ThermalMemory}
    {snapshot snapshot' : FrameworkThermalSnapshot} (h : Lossless memory snapshot)
    (h' : Lossless memory' snapshot') (hsame : snapshot'.SameReadings snapshot) :
    memory'.temp = memory.temp ∧ memory'.fans = memory.fans := by
  have htemperatures : snapshot'.encodeTemperatures = snapshot.encodeTemperatures := by
    refine List.map_congr_left fun i _ => ?_
    rw [(hsame.temperature i).1, (hsame.temperature i).2]
  have hfans : snapshot'.encodeFans = snapshot.encodeFans := by
    refine List.flatMap_congr fun i _ => ?_
    rw [(hsame.fan i).1, (hsame.fan i).2]
  rw [h'.temperatures, h.temperatures] at htemperatures
  rw [h'.fans, h.fans] at hfans
  refine ⟨?_, List.ofFn_injective hfans⟩
  have hmap : (List.finRange 8).map memory'.temp = (List.finRange 8).map memory.temp :=
    htemperatures
  funext i
  exact List.map_inj_left.mp hmap i (List.mem_finRange i)

end Snapshot

/-- A machine that answers the bytes it was asked for gives a snapshot from which
they can be written back. Machines whose snapshots have the same readings had the
same bytes, and the capabilities count the same fans. -/
theorem buildThermalSnapshot_lossless (m : Machine) (w : World) (memory : ThermalMemory)
    (h : m.ReadsThermal w memory) :
    ∃ snapshot w', Returns buildThermalSnapshot m w (some snapshot) w' ∧
      Lossless memory snapshot ∧
      (∀ m' w₁ memory' snapshot' w₂, Machine.ReadsThermal m' w₁ memory' →
        Returns buildThermalSnapshot m' w₁ (some snapshot') w₂ →
          snapshot'.SameReadings snapshot →
            memory'.temp = memory.temp ∧ memory'.fans = memory.fans) ∧
      (∀ m' w₁ capabilities w₂, Machine.ReadsThermal m' w₁ memory →
        Returns buildFanCapabilities m' w₁ (.ok capabilities) w₂ →
          capabilities.fanCount = snapshot.fanCount) := by
  refine ⟨_, _, returns_buildThermalSnapshot h, lossless_toFfi memory _ _, ?_, ?_⟩
  · intro m' w₁ memory' snapshot' w₂ hread hbuild hsame
    obtain ⟨heq, -⟩ := hbuild.unique (returns_buildThermalSnapshot hread)
    obtain rfl := Option.some.inj heq
    exact raw_eq_of_sameReadings (lossless_toFfi memory _ _) (lossless_toFfi memory' _ _) hsame
  · intro m' w₁ capabilities w₂ hread hbuild
    exact fanCount_of_buildFanCapabilities hread hbuild

/-- A memory with an idle, a stalled and two absent fans. -/
def idleFanMemory : ThermalMemory :=
  { temps := fun _ => 0xFF
    fans := ![0x00, 0x00, 0xFE, 0xFF, 0xFF, 0xFF, 0xFF, 0xFF] }

def idleFanMachine : Machine :=
  { Machine.silent with
    answer := fun request _ =>
      match request with
      | .readMemory offset _ =>
          some (if offset = 0 then List.ofFn idleFanMemory.temps
            else List.ofFn idleFanMemory.fans)
      | other => other.silence }

theorem buildThermalSnapshot_lossless_idle :
    ∃ snapshot w', Returns buildThermalSnapshot idleFanMachine .fresh (some snapshot) w' ∧
      Lossless idleFanMemory snapshot := by
  obtain ⟨snapshot, w', hbuild, hlossless, -⟩ :=
    buildThermalSnapshot_lossless idleFanMachine .fresh idleFanMemory ⟨rfl, rfl⟩
  exact ⟨snapshot, w', hbuild, hlossless⟩

end FrameworkFfi
