import FrameworkFfi.Inventory.WellFormed
import Mathlib.Data.Fin.VecNotation

/-!
# Every inventory is well formed
-/

namespace FrameworkFfi

open Effect

/-! ### The slots and the detached entries -/

theorem PlacedOk.applyCapability {i : Fin 6} {slot : FrameworkExpansionCardModuleDescriptor}
    (h : PlacedOk i slot) (platform : FrameworkPlatform) :
    PlacedOk i (applyCapability platform i slot) where
  descriptor := h.descriptor
  slot := ⟨h.slot.slotIndex, h.slot.slotKind, h.slot.boardId, h.slot.cardType⟩

section OneShot

variable (upstream : Upstream) (platform : FrameworkPlatform) (usbCSlotCount : UInt8)
  (pd : FixedArray 6 FrameworkEcPdPortState) (cards : DetectedCards)

theorem oneShot_slot_of_le {i : Fin 6} (h : usbCSlotCount.toNat ≤ i.val)
    (table : UsbSlotTable) :
    (oneShot upstream platform usbCSlotCount pd cards table).usbSlots i = table.usbSlots i := by
  have hslot : (oneShot upstream platform usbCSlotCount pd cards table).usbSlots i =
      assignedSlots usbCSlotCount.toNat pd cards upstream table.usbSlots i :=
    if_neg (Nat.not_lt.mpr h)
  have hcard : cardAt usbCSlotCount.toNat pd cards i = none := by
    refine Option.eq_none_iff_forall_ne_some.mpr fun card hcard => ?_
    exact absurd (lt_of_cardAt hcard) (Nat.not_lt.mpr h)
  rw [hslot, assignedSlots_apply, hcard]
  exact if_neg (Nat.not_lt.mpr h)

end OneShot

theorem toNat_detachedCount (modules : List FrameworkModuleDescriptor)
    (before : FixedArray 4 FrameworkModuleDescriptor) :
    (firstDetached modules before).detachedCount.toNat = min 4 modules.length := by
  have hlt : min 4 modules.length < 2 ^ 8 := by omega
  exact UInt8.toNat_ofNat_of_lt' hlt

theorem ofNat_toNatClampNeg {slotIndex : Int32} (h : ¬ slotIndex < 0) :
    Int32.ofNat slotIndex.toNatClampNeg = slotIndex := by
  rw [Int32.not_lt, Int32.le_iff_toInt_le, Int32.toInt_zero] at h
  have hmax := slotIndex.toInt_lt
  apply Int32.toInt_inj.mp
  rw [Int32.toInt_ofNat_of_lt]
  · exact Int.toNat_of_nonneg h
  · have hclamp : slotIndex.toNatClampNeg = slotIndex.toInt.toNat := rfl
    omega

/-- The guard of the loop over the input modules is the bound of the top row. -/
theorem toNatClampNeg_lt_five {slotIndex : Int32} (h : ¬ (slotIndex < 0 ∨ 5 ≤ slotIndex)) :
    slotIndex.toNatClampNeg < 5 := by
  rw [not_or, Int32.not_lt, Int32.not_le, Int32.le_iff_toInt_le, Int32.lt_iff_toInt_lt,
    Int32.toInt_zero] at h
  have hfive : (5 : Int32).toInt = 5 := rfl
  have hclamp : slotIndex.toNatClampNeg = slotIndex.toInt.toNat := rfl
  omega

theorem mainboardPdPortCount_le (family : Option PlatformFamily) :
    (mainboardPdPortCount family).toNat ≤ 6 := by
  rcases family with _ | family
  · decide
  · cases family <;> decide

section Detached

variable (upstream : Upstream) (cards : List EnumeratedCard)

end Detached

theorem safe_featureEnabled (feature : EcFeatureCode) : Safe (featureEnabled feature) :=
  safe_andThen ((safe_ask _).bind fun _ => safe_orStatus _) fun _ =>
    (safe_view _).bind fun _ => safe_pure _

theorem safe_detectUsbLocal (isMatch : UsbMatch) : Safe (detectUsbLocal isMatch) :=
  (safe_ask _).bind fun _ => safe_pure _

theorem safe_placeInputModule (upstream : Upstream)
    (topRow : FixedArray 5 FrameworkModuleDescriptor) (module : UsbModuleObservation) :
    Safe (placeInputModule upstream topRow module) := by
  unfold placeInputModule
  split_ifs with hguard
  · exact safe_pure _
  · rw [checkIndex_of_lt (toNatClampNeg_lt_five hguard)]
    exact (safe_pure _).bind fun _ => safe_pure _

theorem safe_detectInputDeck : Safe detectInputDeck := by
  refine (safe_view _).bind fun upstream => (safe_ask _).bind fun deck => ?_
  refine Safe.bind ?_ fun modules => ?_
  · exact (safe_view _).bind fun _ => (safe_ask _).bind fun _ => safe_pure _
  · exact (Safe.foldlM (safe_placeInputModule upstream) modules _).bind fun _ => safe_pure _

theorem safe_detectDeckOrKeyboard (family : Option PlatformFamily) :
    Safe (detectDeckOrKeyboard family) := by
  unfold detectDeckOrKeyboard
  split_ifs
  · exact safe_detectInputDeck.bind fun _ => safe_pure _
  · refine Safe.bind ?_ fun _ => safe_pure _
    exact (safe_featureEnabled _).bind fun _ => safe_pure _

theorem safe_detectTouchpad (family : Option PlatformFamily)
    (touchpadDevices : List HidModuleObservation) (inputTouchpad : FrameworkModuleDescriptor) :
    Safe (detectTouchpad family touchpadDevices inputTouchpad) := by
  unfold detectTouchpad
  split_ifs
  · exact safe_pure _
  · refine Safe.bind ?_ fun _ => safe_pure _
    exact (safe_featureEnabled _).bind fun _ => (safe_ask _).bind fun _ => safe_pure _

theorem safe_fpLedAnswers : Safe fpLedAnswers := by
  refine (safe_ask _).bind fun reply => ?_
  cases reply with
  | ok level => exact safe_pure _
  | error error => exact safe_pure _

theorem safe_detectFingerprintReader : Safe detectFingerprintReader := by
  refine Safe.bind ?_ fun present => ?_
  · refine (safe_featureEnabled _).bind fun enabled => ?_
    split_ifs
    · exact safe_pure _
    · exact safe_fpLedAnswers
  · split_ifs
    · exact safe_fpLedAnswers.bind fun _ => safe_pure _
    · exact safe_pure _

theorem safe_detectHidLocal (isMatch : Upstream → HidDevice → Bool) :
    Safe (do
      let upstream ← view Machine.upstream
      let devices ← ask .hidDeviceList
      pure (hidObservations (isMatch upstream) devices) : Ffi _) :=
  (safe_view _).bind fun _ => (safe_ask _).bind fun _ => safe_pure _

theorem safe_detectInternalModules (family : Option PlatformFamily) :
    Safe (detectInternalModules family) := by
  refine (safe_detectDeckOrKeyboard family).bind fun deck => ?_
  refine (safe_detectHidLocal touchpadMatch).bind fun touchpadDevices => ?_
  refine (safe_detectTouchpad family touchpadDevices _).bind fun touchpads => ?_
  refine safe_detectFingerprintReader.bind fun fingerprintReader => ?_
  refine Safe.bind ((safe_detectHidLocal touchscreenMatch).bind fun _ => safe_pure _)
    fun touchscreen => ?_
  refine Safe.bind ?_ fun webcam => safe_pure _
  exact ((safe_view _).bind fun _ => safe_detectUsbLocal _).bind fun _ => safe_pure _

theorem returns_populateUsbSlots_inventory (m : Machine) (w : World) :
    Returns (populateUsbSlots (mainboardPdPortCount m.family) m.frameworkPlatform
        emptyUsbSlotTable) m w
      (oneShot m.upstream m.frameworkPlatform (mainboardPdPortCount m.family)
        (m.pdPortStates w) (m.detectedCards w) emptyUsbSlotTable)
      (w.recordAll (slotRequests (mainboardPdPortCount m.family).toNat)) :=
  returns_populateUsbSlots (mainboardPdPortCount_le m.family) m.frameworkPlatform rfl m w

/-- A returned inventory consists of the one-shot slots, of internal modules and
of an expansion bay that returned as well. -/
theorem returns_buildModuleInventory {m : Machine} {w w' : World}
    {inventory : FrameworkModuleInventory} :
    Returns buildModuleInventory m w inventory w' ↔
      ∃ internals w₁ expansionBay,
        Returns (detectInternalModules m.family) m
          (w.recordAll (slotRequests (mainboardPdPortCount m.family).toNat)) internals w₁ ∧
        Returns buildExpansionBayModule m w₁ expansionBay w' ∧
        inventory = moduleInventory (mainboardPdPortCount m.family)
          (oneShot m.upstream m.frameworkPlatform (mainboardPdPortCount m.family)
            (m.pdPortStates w) (m.detectedCards w) emptyUsbSlotTable) internals expansionBay := by
  have hfamily : Returns (view Machine.family : Ffi _) m w m.family w :=
    returns_view_self
  have hplatform : Returns (view Machine.frameworkPlatform : Ffi _) m w m.frameworkPlatform w :=
    returns_view_self
  unfold buildModuleInventory
  rw [hfamily.bind_iff, hplatform.bind_iff,
    (returns_populateUsbSlots_inventory m w).bind_iff, returns_bind]
  simp only [returns_bind, returns_pure]
  constructor
  · rintro ⟨internals, w₁, hinternals, expansionBay, w₂, hbay, rfl, rfl⟩
    exact ⟨internals, w₁, expansionBay, hinternals, hbay, rfl⟩
  · rintro ⟨internals, w₁, expansionBay, hinternals, hbay, rfl⟩
    exact ⟨internals, w₁, hinternals, expansionBay, w', hbay, rfl, rfl⟩

end FrameworkFfi
