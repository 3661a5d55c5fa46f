import FrameworkFfi.Accounting.Release
import FrameworkFfi.Host.Silent

/-!
# The two records with many buffers

The result of the peripherals has eight slots and the data of the smart battery
ten texts and blobs. Both are handed out in the order of their fields and taken
back by a function of their own.
-/

namespace FrameworkFfi

open Effect

/-! ### The peripherals -/

def peripheralSlot (peripheral : PeripheralVersion) (productName : FrameworkByteBuffer) :
    FrameworkPeripheralVersion :=
  { present := 1
    versionMajor := peripheral.version.major
    versionMinor := peripheral.version.minor
    versionSubMinor := peripheral.version.subMinor
    vendorId := peripheral.vendorId
    productId := peripheral.productId
    productName }

theorem countP_lt_finRange_eight (n : ℕ) :
    ((List.finRange 8).countP fun i => i.val < n) = min 8 n := by
  have hsmall : ∀ n < 8, ((List.finRange 8).countP fun i => i.val < n) = n := by decide
  by_cases hn : n < 8
  · rw [hsmall n hn, Nat.min_eq_right hn.le]
  · have hall : ∀ i ∈ List.finRange 8, decide (i.val < n) = true :=
      fun i _ => decide_eq_true (by omega)
    rw [List.countP_eq_length.mpr hall, List.length_finRange, Nat.min_eq_left (by omega)]

/-- The first eight peripherals have a slot each, in order, with a buffer made from
the name of the peripheral, and the other slots are default. -/
structure PeripheralRecord (found : List PeripheralVersion) (versions : PeripheralVersions) :
    Prop where
  count : versions.count.toNat = min 8 found.length
  present : versions.count.toNat =
    (List.finRange 8).countP fun i => (versions.peripheral i).present = 1
  filled : ∀ (i : Fin 8) peripheral, found[i.val]? = some peripheral → ∃ productName,
    MadeFrom peripheral.productName.intoBytes productName ∧
      versions.peripheral i = peripheralSlot peripheral productName
  rest : ∀ i : Fin 8, found.length ≤ i → versions.peripheral i = defaultPeripheralVersion

section Peripherals

variable {m : Machine} {w w' : World}

theorem returns_fillPeripheralSlot {versions filled : PeripheralVersions} {i : Fin 8}
    {peripheral : PeripheralVersion}
    (h : Returns (fillPeripheralSlot versions (i, peripheral)) m w filled w') :
    ∃ productName, MadeFrom peripheral.productName.intoBytes productName ∧
      filled.peripheral = Function.update versions.peripheral i
        (peripheralSlot peripheral productName) ∧
      filled.count = versions.count + 1 := by
  obtain ⟨productName, w₁, hname, hpure⟩ := returns_bind.mp h
  obtain ⟨rfl, -⟩ := returns_pure.mp hpure
  exact ⟨productName, madeFrom_of_returns hname, rfl, rfl⟩

/-- The loop over the slots from slot `d` on fills them from `found`. -/
structure FilledFrom (d : ℕ) (found : List PeripheralVersion)
    (versions filled : PeripheralVersions) : Prop where
  count : filled.count = versions.count + UInt8.ofNat (min (8 - d) found.length)
  kept : ∀ i : Fin 8, i < d ∨ d + found.length ≤ i →
    filled.peripheral i = versions.peripheral i
  slots : ∀ (i : Fin 8) k peripheral, i = d + k → found[k]? = some peripheral → ∃ productName,
    MadeFrom peripheral.productName.intoBytes productName ∧
      filled.peripheral i = peripheralSlot peripheral productName

theorem filledFrom_nil (d : ℕ) (versions : PeripheralVersions) :
    FilledFrom d [] versions versions where
  count := by simp
  kept _ _ := rfl
  slots i k peripheral _ hk := by
    rw [List.getElem?_nil] at hk
    cases hk

theorem filledFrom_eight (found : List PeripheralVersion) (versions : PeripheralVersions) :
    FilledFrom 8 found versions versions where
  count := by simp
  kept _ _ := rfl
  slots i k peripheral hi _ := by omega

theorem FilledFrom.cons {d : ℕ} (hd : d < 8) {first : PeripheralVersion}
    {found : List PeripheralVersion} {versions next filled : PeripheralVersions}
    (hfill : Returns (fillPeripheralSlot versions (⟨d, hd⟩, first)) m w next w')
    (h : FilledFrom (d + 1) found next filled) : FilledFrom d (first :: found) versions filled := by
  obtain ⟨productName, hmade, hperipheral, hcount⟩ := returns_fillPeripheralSlot hfill
  refine ⟨?_, fun i hi => ?_, fun i k peripheral hi hk => ?_⟩
  · have hmin : min (8 - d) (first :: found).length = 1 + min (8 - (d + 1)) found.length := by
      rw [List.length_cons]
      omega
    rw [h.count, hcount, hmin, UInt8.ofNat_add, UInt8.add_assoc]
    rfl
  · rw [List.length_cons] at hi
    have hne : i ≠ ⟨d, hd⟩ := by
      intro heq
      rw [heq] at hi
      simp only at hi
      omega
    rw [h.kept i (by omega), hperipheral, Function.update_of_ne hne]
  · cases k with
    | zero =>
        obtain rfl : first = peripheral := by simpa using hk
        have hself : i = ⟨d, hd⟩ := Fin.ext (by simpa using hi)
        refine ⟨productName, hmade, ?_⟩
        rw [h.kept i (by omega), hperipheral, hself, Function.update_self]
    | succ k =>
        rw [List.getElem?_cons_succ] at hk
        exact h.slots i k peripheral (by omega) hk

theorem drop_finRange_eight {d : ℕ} (hd : d < 8) :
    (List.finRange 8).drop d = ⟨d, hd⟩ :: (List.finRange 8).drop (d + 1) := by
  rw [List.drop_eq_getElem_cons (by simpa using hd), List.getElem_finRange]
  rfl

theorem filledFrom_of_returns {d : ℕ} (hd : d ≤ 8) {found : List PeripheralVersion}
    {versions filled : PeripheralVersions}
    (h : Returns ((((List.finRange 8).drop d).zip found).foldlM fillPeripheralSlot versions) m w
      filled w') :
    FilledFrom d found versions filled := by
  induction found generalizing d versions w with
  | nil =>
      rw [List.zip_nil_right] at h
      obtain ⟨rfl, -⟩ := returns_pure.mp h
      exact filledFrom_nil d filled
  | cons first found ih =>
      rcases Nat.eq_or_lt_of_le hd with rfl | hlt
      · have hdone : (List.finRange 8).drop 8 = [] := List.drop_of_length_le (by simp)
        rw [hdone, List.zip_nil_left] at h
        obtain ⟨rfl, -⟩ := returns_pure.mp h
        exact filledFrom_eight (first :: found) filled
      · rw [drop_finRange_eight hlt, List.zip_cons_cons, List.foldlM_cons] at h
        obtain ⟨next, w₁, hfill, hloop⟩ := returns_bind.mp h
        exact FilledFrom.cons hlt hfill (ih hlt hloop)

theorem peripheralRecord_peripheralSlots {found : List PeripheralVersion}
    {versions : PeripheralVersions} (h : Returns (peripheralSlots found) m w versions w') :
    PeripheralRecord found versions := by
  have hloop : Returns ((((List.finRange 8).drop 0).zip found).foldlM fillPeripheralSlot
      emptyPeripheralVersions) m w versions w' := h
  obtain ⟨hcount, hkept, hfilled⟩ := filledFrom_of_returns (Nat.zero_le 8) hloop
  have hcount' : versions.count.toNat = min 8 found.length := by
    rw [hcount]
    show (0 + UInt8.ofNat (min (8 - 0) found.length)).toNat = _
    rw [UInt8.zero_add, UInt8.toNat_ofNat', Nat.sub_zero]
    exact Nat.mod_eq_of_lt (by omega)
  have hrest : ∀ i : Fin 8, found.length ≤ i →
      versions.peripheral i = defaultPeripheralVersion :=
    fun i hi => hkept i (.inr (by omega))
  have hfill : ∀ (i : Fin 8) peripheral, found[i.val]? = some peripheral → ∃ productName,
      MadeFrom peripheral.productName.intoBytes productName ∧
        versions.peripheral i = peripheralSlot peripheral productName :=
    fun i peripheral hi => hfilled i i peripheral (Nat.zero_add _).symm hi
  refine ⟨hcount', ?_, hfill, hrest⟩
  have hpresent : ∀ i : Fin 8, (versions.peripheral i).present = 1 ↔ i.val < found.length := by
    intro i
    by_cases hi : i.val < found.length
    · obtain ⟨productName, -, hslot⟩ := hfill i _ (List.getElem?_eq_getElem hi)
      rw [hslot]
      exact iff_of_true rfl hi
    · rw [hrest i (Nat.le_of_not_lt hi)]
      exact iff_of_false (by decide) hi
  rw [hcount']
  simp only [hpresent]
  exact (countP_lt_finRange_eight found.length).symm

theorem PeripheralRecord.made {found : List PeripheralVersion} {versions : PeripheralVersions}
    (h : PeripheralRecord found versions) : ∀ buffer ∈ versions.buffers, buffer.Made := by
  intro buffer hbuffer
  obtain ⟨i, -, rfl⟩ := List.mem_map.mp hbuffer
  by_cases hi : i.val < found.length
  · obtain ⟨productName, hmade, hslot⟩ := h.filled i _ (List.getElem?_eq_getElem hi)
    rw [hslot]
    exact .inr ⟨_, hmade⟩
  · rw [h.rest i (Nat.le_of_not_lt hi)]
    exact .inl rfl

/-- The record with its names replaced by the null buffer. -/
def PeripheralVersions.nulled (versions : PeripheralVersions) : PeripheralVersions :=
  { versions with
    peripheral := fun i => { versions.peripheral i with productName := ⟨0, 0, 0⟩ } }

/-- What one round of `framework_peripheral_versions_free` leaves. -/
def leftPeripheral (versions : PeripheralVersions) (i : Fin 8) : PeripheralVersions :=
  { versions with
    peripheral := Function.update versions.peripheral i
      { versions.peripheral i with productName := .default } }

theorem foldl_leftPeripheral (indices : List (Fin 8)) (versions : PeripheralVersions)
    (i : Fin 8) : (indices.foldl leftPeripheral versions).peripheral i =
      if i ∈ indices then versions.nulled.peripheral i else versions.peripheral i := by
  induction indices generalizing versions with
  | nil => rfl
  | cons index indices ih =>
      rw [List.foldl_cons, ih]
      by_cases hi : i = index
      · subst hi
        simp [leftPeripheral, PeripheralVersions.nulled, FrameworkByteBuffer.default]
      · simp [leftPeripheral, PeripheralVersions.nulled, hi]

theorem count_foldl_leftPeripheral (indices : List (Fin 8)) (versions : PeripheralVersions) :
    (indices.foldl leftPeripheral versions).count = versions.count := by
  induction indices generalizing versions with
  | nil => rfl
  | cons index indices ih => exact ih _

theorem frameworkPeripheralVersionsFree_some (versions : PeripheralVersions) :
    frameworkPeripheralVersionsFree (some versions) =
      destroyAll versions.buffers >>= fun () => pure (some versions.nulled) := by
  have hloop : (List.finRange 8).foldlM freePeripheralSlot versions =
      destroyAll versions.buffers >>= fun () =>
        pure ((List.finRange 8).foldl leftPeripheral versions) := by
    refine foldlM_destroy (fun versions i j hne => ?_) (List.nodup_finRange 8) versions
    show (Function.update versions.peripheral i _ j).productName = _
    rw [Function.update_of_ne hne]
  have hleft : (List.finRange 8).foldl leftPeripheral versions = versions.nulled := by
    ext i
    · exact congrArg UInt8.toNat (count_foldl_leftPeripheral _ _)
    · rw [foldl_leftPeripheral, if_pos (List.mem_finRange i)]
  rw [frameworkPeripheralVersionsFree, hloop, hleft, bind_assoc]
  simp only [pure_bind]

theorem null_nulled (versions : PeripheralVersions) :
    ∀ buffer ∈ versions.nulled.buffers, buffer = .default := by
  intro buffer hbuffer
  obtain ⟨i, -, rfl⟩ := List.mem_map.mp hbuffer
  rfl

theorem allocatesFresh_peripheralSlots (found : List PeripheralVersion) :
    AllocatesFresh (peripheralSlots found) :=
  AllocatesFresh.foldlM (fun _ _ => (allocatesFresh_fromVec _).bind fun _ =>
    allocatesFresh_pure _) _ _

theorem releasedOnce_peripheralVersions {found : List PeripheralVersion}
    {versions : PeripheralVersions} (h : Returns (peripheralSlots found) m w versions w') :
    HandedOut w w' versions.buffers ∧
      ReleasedOnce frameworkPeripheralVersionsFree PeripheralVersions.buffers versions
        versions.nulled m w w' := by
  have hout := (handsOver_peripheralSlots found).handedOut (allocatesFresh_peripheralSlots found) h
  exact ⟨hout, releasedOnce_of_destroyAll frameworkPeripheralVersionsFree_some
    null_nulled (fun _ => rfl)
    (peripheralRecord_peripheralSlots h).made hout.ledger⟩

end Peripherals

/-! ### The smart battery -/

/-- The texts and blobs of a battery, in the order of the record. -/
def BatteryData.vecs (data : BatteryData) : List ByteVec :=
  [data.deviceName.intoBytes, data.manufacturerName.intoBytes, data.deviceChemistry.intoBytes,
    data.stateOfHealth, data.firmwareVersion, data.lifetime1, data.lifetime2, data.lifetime3,
    data.lifetime4, data.lifetime5]

section SmartBattery

variable {m : Machine} {w w' : World}

theorem madeFrom_intoFfi {data : BatteryData} {record : FrameworkSmartBatteryData}
    (h : Returns (FrameworkSmartBatteryData.intoFfi data) m w record w') :
    List.Forall₂ MadeFrom data.vecs record.buffers := by
  unfold FrameworkSmartBatteryData.intoFfi at h
  obtain ⟨deviceName, w₁, h₁, h⟩ := returns_bind.mp h
  obtain ⟨manufacturerName, w₂, h₂, h⟩ := returns_bind.mp h
  obtain ⟨deviceChemistry, w₃, h₃, h⟩ := returns_bind.mp h
  obtain ⟨stateOfHealth, w₄, h₄, h⟩ := returns_bind.mp h
  obtain ⟨firmwareVersion, w₅, h₅, h⟩ := returns_bind.mp h
  obtain ⟨lifetime1, w₆, h₆, h⟩ := returns_bind.mp h
  obtain ⟨lifetime2, w₇, h₇, h⟩ := returns_bind.mp h
  obtain ⟨lifetime3, w₈, h₈, h⟩ := returns_bind.mp h
  obtain ⟨lifetime4, w₉, h₉, h⟩ := returns_bind.mp h
  obtain ⟨lifetime5, w₁₀, h₁₀, h⟩ := returns_bind.mp h
  obtain ⟨rfl, -⟩ := returns_pure.mp h
  exact .cons (madeFrom_of_returns h₁) <| .cons (madeFrom_of_returns h₂) <|
    .cons (madeFrom_of_returns h₃) <| .cons (madeFrom_of_returns h₄) <|
    .cons (madeFrom_of_returns h₅) <| .cons (madeFrom_of_returns h₆) <|
    .cons (madeFrom_of_returns h₇) <| .cons (madeFrom_of_returns h₈) <|
    .cons (madeFrom_of_returns h₉) <| .cons (madeFrom_of_returns h₁₀) .nil

theorem allocatesFresh_intoFfi (data : BatteryData) :
    AllocatesFresh (FrameworkSmartBatteryData.intoFfi data) := by
  unfold FrameworkSmartBatteryData.intoFfi
  iterate 10 refine (allocatesFresh_fromVec _).bind fun _ => ?_
  exact allocatesFresh_pure _

/-- The record with its texts and blobs replaced by the null buffer. -/
def FrameworkSmartBatteryData.nulled (data : FrameworkSmartBatteryData) :
    FrameworkSmartBatteryData :=
  { data with
    deviceName := ⟨0, 0, 0⟩
    manufacturerName := ⟨0, 0, 0⟩
    deviceChemistry := ⟨0, 0, 0⟩
    stateOfHealth := ⟨0, 0, 0⟩
    firmwareVersion := ⟨0, 0, 0⟩
    lifetime1 := ⟨0, 0, 0⟩
    lifetime2 := ⟨0, 0, 0⟩
    lifetime3 := ⟨0, 0, 0⟩
    lifetime4 := ⟨0, 0, 0⟩
    lifetime5 := ⟨0, 0, 0⟩ }

theorem frameworkSmartBatteryDataFree_some (data : FrameworkSmartBatteryData) :
    frameworkSmartBatteryDataFree (some data) =
      destroyAll data.buffers >>= fun () => pure (some data.nulled) := by
  have hround : freeBatteryField = fun data field =>
      (data.get field).destroy >>= fun () => pure (data.set field .default) := rfl
  have hfields : freedBatteryFields.map data.get = data.buffers := rfl
  have hleft : freedBatteryFields.foldl (fun data field => data.set field .default) data =
      data.nulled := by
    cases data
    rfl
  rw [frameworkSmartBatteryDataFree, hround,
    foldlM_destroy (fun data _ _ hne => data.get_set_of_ne hne .default) (by decide), hfields,
    hleft, bind_assoc]
  simp only [pure_bind]

theorem null_nulled_smartBattery (data : FrameworkSmartBatteryData) :
    ∀ buffer ∈ data.nulled.buffers, buffer = .default := by
  have hbuffers : data.nulled.buffers = List.replicate 10 .default := rfl
  intro buffer hbuffer
  rw [hbuffers] at hbuffer
  exact List.eq_of_mem_replicate hbuffer

theorem releasedOnce_smartBattery {data : BatteryData} {record : FrameworkSmartBatteryData}
    (h : Returns (FrameworkSmartBatteryData.intoFfi data) m w record w') :
    HandedOut w w' record.buffers ∧
      ReleasedOnce frameworkSmartBatteryDataFree FrameworkSmartBatteryData.buffers record
        record.nulled m w w' := by
  have hout := (handsOver_intoFfi data).handedOut (allocatesFresh_intoFfi data) h
  exact ⟨hout, releasedOnce_of_destroyAll frameworkSmartBatteryDataFree_some
    null_nulled_smartBattery (fun _ => rfl) (made_of_forall₂ (madeFrom_intoFfi h))
    hout.ledger⟩

end SmartBattery

/-- Both records own one buffer for each peripheral that has a slot and for each
text and blob, on allocations that lie apart, and any positive number of calls of
their free functions destroys each buffer once and leaves null buffers. -/
theorem aggregates_releasedOnce (m : Machine) :
    (∀ found w result w', Returns (peripheralVersionsResult (pure found)) m w result w' →
      result.status = .success ∧ PeripheralRecord found result.value ∧
        HandedOut w w' result.value.buffers ∧
        ReleasedOnce frameworkPeripheralVersionsFree PeripheralVersions.buffers result.value
          result.value.nulled m w w') ∧
      (∀ data w record w', Returns (FrameworkSmartBatteryData.intoFfi data) m w record w' →
        List.Forall₂ MadeFrom data.vecs record.buffers ∧
          HandedOut w w' record.buffers ∧
          ReleasedOnce frameworkSmartBatteryDataFree FrameworkSmartBatteryData.buffers record
            record.nulled m w w') := by
  constructor
  · intro found w result w' h
    obtain ⟨reply, w₁, hreply, hresult⟩ := returns_bind.mp h
    rw [pure_bind] at hreply
    obtain ⟨versions, w₂, hslots, hpure⟩ := returns_bind.mp hreply
    obtain ⟨rfl, rfl⟩ := returns_pure.mp hpure
    obtain ⟨rfl, rfl⟩ := returns_pure.mp hresult
    exact ⟨rfl, peripheralRecord_peripheralSlots hslots, releasedOnce_peripheralVersions hslots⟩
  · intro data w record w' h
    exact ⟨madeFrom_intoFfi h, releasedOnce_smartBattery h⟩

def namedCamera : PeripheralVersion :=
  { vendorId := 0x32AC
    productId := 0x001C
    version := ⟨1, 0, 2⟩
    productName := .exact "Webcam" }

/-- A battery with two texts and an empty one, which answers no unseal key. -/
def sealedBattery : BatteryData :=
  { mode := 0
    serialNum := 77
    manufactureDate := 0x5821
    temperature := 2982
    voltage := 15400
    cellVoltage1 := 3850
    cellVoltage2 := 3850
    cellVoltage3 := 3850
    cellVoltage4 := 3850
    cycleCount := 12
    current := 0
    avgCurrent := 0
    relStateOfCharge := 80
    absStateOfCharge := 78
    remainingCapacity := 3100
    fullChargeCapacity := 3900
    chargingCurrent := 0
    chargingVoltage := 17800
    batteryStatus := 0x00E0
    designCapacity := 3915
    designVoltage := 15480
    operationStatus := 0
    safetyAlert := 0
    safetyStatus := 0
    pfAlert := 0
    pfStatus := 0
    deviceName := .exact "Name"
    manufacturerName := .exact "Maker"
    deviceChemistry := .exact ""
    stateOfHealth := .exact []
    firmwareVersion := .exact [2, 0]
    lifetime1 := .exact []
    lifetime2 := .exact []
    lifetime3 := .exact []
    lifetime4 := .exact []
    lifetime5 := .exact [] }

/-- Of nine cameras eight have a slot, and a record of the battery is given back by the
first of two calls. -/
theorem aggregates_releasedOnce_nine :
    (∃ result w', Returns (peripheralVersionsResult (pure (List.replicate 9 namedCamera))) .silent
        .fresh result w' ∧
      result.value.count.toNat = 8 ∧ HandedOut .fresh w' result.value.buffers) ∧
    ∃ record w' w'', Returns (FrameworkSmartBatteryData.intoFfi sealedBattery) .silent .fresh
        record w' ∧
      w'.outstanding.length = 3 ∧
      Returns (freeTimes frameworkSmartBatteryDataFree (some record) 2) .silent w'
        (some record.nulled) w'' ∧
      w''.outstanding = [] := by
  obtain ⟨hperipherals, hbattery⟩ := aggregates_releasedOnce .silent
  constructor
  · have hr : Returns (peripheralVersionsResult (pure (List.replicate 9 namedCamera))) .silent
        .fresh _ _ := rfl
    obtain ⟨-, hrecord, hout, -⟩ := hperipherals _ .fresh _ _ hr
    exact ⟨_, _, hr, hrecord.count, hout⟩
  · have hr : Returns (FrameworkSmartBatteryData.intoFfi sealedBattery) .silent .fresh _ _ := rfl
    obtain ⟨-, -, hreleased⟩ := hbattery _ .fresh _ _ hr
    obtain ⟨w'', hfree, hperm⟩ := hreleased.balanced
    refine ⟨_, _, w'', hr, rfl, ?_, hperm.eq_nil⟩
    -- one call and two calls destroy the same
    have hone := hreleased.calls 0
    rw [freeTimes, freeTimes, pure_bind] at hone
    rw [hreleased.calls 1, ← hone]
    exact hfree

end FrameworkFfi
