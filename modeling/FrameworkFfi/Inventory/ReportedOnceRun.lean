import FrameworkFfi.Inventory.ReportedOnce
import Mathlib.Data.List.Induction

/-!
# Every inventory reports each entry once
-/

namespace FrameworkFfi

open Effect

variable {buses : Enumerations}

/-- A descriptor has the ids of the entry behind it, and none when there is no
entry. -/
def FrameworkModuleDescriptor.Reports (d : FrameworkModuleDescriptor)
    (entry : Option (BusEntry buses)) : Prop :=
  match entry with
  | some entry => d.bus.HasIds ∧ d.present = 1 ∧ d.vendorId = entry.vendorId.toUInt32 ∧
      d.productId = entry.productId.toUInt32
  | none => ¬ d.bus.HasIds

theorem reports_none_default :
    defaultModuleDescriptor.Reports (none : Option (BusEntry buses)) := by
  rintro (h | h | h) <;> cases h

/-! ### Expansion cards -/

section Cards

variable {upstream : Upstream}

theorem reports_place (card : CardOrigin buses)
    (slot : FrameworkExpansionCardModuleDescriptor) (i : Fin 6) :
    (card.card.place upstream slot i).base.Reports (some card.entry) := by
  cases card with
  | hid k => exact ⟨.inr (.inr rfl), rfl, rfl, rfl⟩
  | usb kind k => exact ⟨kind.hasIds_slotBus, rfl, rfl, rfl⟩

theorem reports_detach (card : CardOrigin buses) :
    (card.card.detach upstream).Reports (some card.entry) := by
  cases card with
  | hid k => exact ⟨.inr (.inl rfl), rfl, rfl, rfl⟩
  | usb kind k => exact ⟨.inl rfl, rfl, rfl, rfl⟩

variable (platform : FrameworkPlatform) (usbCSlotCount : UInt8)
  (pd : FixedArray 6 FrameworkEcPdPortState)

theorem reports_slot (i : Fin 6) :
    ((oneShot upstream platform usbCSlotCount pd (buses.cards upstream)
      emptyUsbSlotTable).usbSlots i).base.Reports
        ((buses.slotOrigin upstream usbCSlotCount.toNat pd i).map CardOrigin.entry) := by
  have hcard : cardAt usbCSlotCount.toNat pd (buses.cards upstream) i =
      (buses.slotOrigin upstream usbCSlotCount.toNat pd i).map CardOrigin.card :=
    Enumerations.cardAt_cards usbCSlotCount.toNat pd i
  rcases Nat.lt_or_ge i.val usbCSlotCount.toNat with hi | hi
  · have hslot : (oneShot upstream platform usbCSlotCount pd (buses.cards upstream)
        emptyUsbSlotTable).usbSlots i =
          applyCapability platform i (assignedSlots usbCSlotCount.toNat pd
            (buses.cards upstream) upstream emptyUsbSlotTable.usbSlots i) := if_pos hi
    rw [hslot, base_applyCapability, assignedSlots_of_lt hi, hcard]
    cases buses.slotOrigin upstream usbCSlotCount.toNat pd i with
    | none => exact not_holdsCard_freshSlot
    | some card => exact reports_place card _ i
  · rw [oneShot_slot_of_le upstream platform usbCSlotCount pd _ hi]
    cases horigin : buses.slotOrigin upstream usbCSlotCount.toNat pd i with
    | none => exact reports_none_default
    | some card =>
        rw [horigin] at hcard
        exact absurd (lt_of_cardAt hcard) (Nat.not_lt.mpr hi)

theorem reports_detached (k : Fin 4) :
    ((oneShot upstream platform usbCSlotCount pd (buses.cards upstream)
      emptyUsbSlotTable).detachedModules.detached k).Reports
        ((buses.unassigned upstream usbCSlotCount.toNat pd)[k.val]?.map CardOrigin.entry) := by
  have hdetached : (oneShot upstream platform usbCSlotCount pd (buses.cards upstream)
      emptyUsbSlotTable).detachedModules.detached k =
        ((buses.unassigned upstream usbCSlotCount.toNat pd)[k.val]?.map fun card =>
          card.card.detach upstream).getD defaultModuleDescriptor := by
    simp only [oneShot, firstDetached, Enumerations.unassignedCards_cards, List.map_map,
      List.getElem?_map]
    rfl
  rw [hdetached]
  cases (buses.unassigned upstream usbCSlotCount.toNat pd)[k.val]? with
  | none => exact reports_none_default
  | some card => exact reports_detach card

end Cards

/-! ### The top row and the webcam -/

section Internals

variable {m : Machine} {w w' : World}

def placedTopRow (upstream : Upstream) (topRow : FixedArray 5 FrameworkModuleDescriptor)
    (module : UsbModuleObservation) : FixedArray 5 FrameworkModuleDescriptor := fun i =>
  if module.slotIndex = Int32.ofNat i then usbTopRowEntry upstream i module else topRow i

theorem returns_placeInputModule (upstream : Upstream)
    (topRow : FixedArray 5 FrameworkModuleDescriptor) (module : UsbModuleObservation) :
    Returns (placeInputModule upstream topRow module) m w
      (placedTopRow upstream topRow module) w := by
  unfold placeInputModule
  split_ifs with hguard
  · refine returns_pure.mpr ⟨?_, rfl⟩
    funext i
    have hin : ∀ i : Fin 5, ¬ (Int32.ofNat i < 0 ∨ 5 ≤ Int32.ofNat i) := by decide
    refine if_neg fun heq => hin i ?_
    rw [← heq]
    exact hguard
  · rw [checkIndex_of_lt (toNatClampNeg_lt_five hguard)]
    refine returns_pure.mpr ⟨?_, rfl⟩
    funext i
    by_cases hi : i.val = module.slotIndex.toNatClampNeg
    · have hindex : i = ⟨module.slotIndex.toNatClampNeg, toNatClampNeg_lt_five hguard⟩ :=
        Fin.ext hi
      rw [← hindex, Function.update_self, placedTopRow, hi]
      exact if_pos (ofNat_toNatClampNeg (not_or.mp hguard).1).symm
    · rw [Function.update_of_ne fun heq => hi (congrArg Fin.val heq)]
      have hclamp : ∀ i : Fin 5, (Int32.ofNat i).toNatClampNeg = i.val := by decide
      refine if_neg fun heq => hi ?_
      rw [heq, hclamp]

/-- The last input module of a slot is the one that is reported. -/
theorem foldl_placedTopRow (upstream : Upstream)
    (topRow : FixedArray 5 FrameworkModuleDescriptor) (modules : List UsbModuleObservation)
    (i : Fin 5) :
    modules.foldl (placedTopRow upstream) topRow i =
      ((modules.reverse.find? fun module => module.slotIndex = Int32.ofNat i).map
        (usbTopRowEntry upstream i)).getD (topRow i) := by
  induction modules using List.reverseRecOn with
  | nil => rfl
  | append_singleton modules module ih =>
      rw [List.foldl_concat, List.reverse_concat, List.find?_cons, placedTopRow]
      by_cases hslot : module.slotIndex = Int32.ofNat i
      · simp [hslot]
      · simp [hslot, ih]

theorem inputTopRowCount_pos_iff {family : Option PlatformFamily} :
    inputTopRowCount family > 0 ↔ family = some .framework16 := by
  unfold inputTopRowCount
  split_ifs with h
  · exact iff_of_true (by decide) h
  · exact iff_of_false (by decide) h

theorem reports_none_deckEntries (reply : EcResult InputDeckStatus) (i : Fin 5) :
    ((deckEntries reply).1 i).Reports (none : Option (BusEntry buses)) := by
  cases reply with
  | ok deck => rintro (h | h | h) <;> cases h
  | error error => exact reports_none_default

theorem reports_usbTopRowEntry (upstream : Upstream) (i : Fin 5)
    (k : Fin buses.usb.length) :
    (usbTopRowEntry upstream i ((buses.usb.get k).observation inputModuleSlot)).Reports
      (some (.usb k : BusEntry buses)) := ⟨.inl rfl, rfl, rfl, rfl⟩

variable (husb : ∀ k, m.answer .usbDevices k = some buses.usb)
include husb

theorem detectInputModulesLocal_eq {modules : List UsbModuleObservation}
    (h : Returns detectInputModulesLocal m w modules w') :
    modules = (buses.recognised m.upstream .inputModules).map fun k =>
      (buses.usb.get k).observation inputModuleSlot := by
  obtain ⟨upstream, w₁, hupstream, hdetect⟩ := returns_bind.mp h
  obtain ⟨rfl, rfl⟩ := returns_view.mp hupstream
  obtain ⟨devices, w₂, hdevices, hpure⟩ := returns_bind.mp hdetect
  obtain ⟨rfl, rfl⟩ := returns_ask.mp hdevices
  obtain ⟨rfl, -⟩ := returns_pure.mp hpure
  rw [husb]
  exact usbObservations_eq m.upstream buses .inputModules inputModuleSlot

theorem detectCamerasLocal_eq {devices : List UsbModuleObservation}
    (h : Returns detectCamerasLocal m w devices w') :
    devices = (buses.recognised m.upstream .cameras).map fun k =>
      (buses.usb.get k).observation unplaced := by
  obtain ⟨upstream, w₁, hupstream, hdetect⟩ := returns_bind.mp h
  obtain ⟨rfl, rfl⟩ := returns_view.mp hupstream
  obtain ⟨rfl, -⟩ := hdetect.unique (returns_detectUsbLocal _ m _)
  rw [Machine.usbEnumeration, husb]
  exact usbObservations_eq m.upstream buses .cameras unplaced

theorem reports_topRow_of_deck
    {deck : FixedArray 5 FrameworkModuleDescriptor × FrameworkModuleDescriptor}
    (h : Returns detectInputDeck m w deck w') (i : Fin 5) :
    (deck.1 i).Reports
      ((buses.topRowOrigin m.upstream (some .framework16) i).map .usb) := by
  obtain ⟨upstream, w₁, hupstream, hdeck⟩ := returns_bind.mp h
  obtain ⟨rfl, -⟩ := returns_view.mp hupstream
  obtain ⟨reply, w₂, -, hread⟩ := returns_bind.mp hdeck
  obtain ⟨modules, w₃, hmodules, hplace⟩ := returns_bind.mp hread
  obtain ⟨topRow, w₄, hloop, hpure⟩ := returns_bind.mp hplace
  obtain ⟨rfl, -⟩ := returns_pure.mp hpure
  obtain ⟨htopRow, -⟩ := hloop.unique
    (returns_foldlM (returns_placeInputModule m.upstream) modules _)
  rw [detectInputModulesLocal_eq husb hmodules] at htopRow
  show (topRow i).Reports _
  have hfind : ((buses.recognised m.upstream .inputModules).reverse.map fun k =>
        (buses.usb.get k).observation inputModuleSlot).find?
          (fun module => module.slotIndex = Int32.ofNat i) =
      (buses.topRowOrigin m.upstream (some .framework16) i).map fun k =>
        (buses.usb.get k).observation inputModuleSlot := List.find?_map
  rw [htopRow, foldl_placedTopRow, ← List.map_reverse, hfind]
  cases buses.topRowOrigin m.upstream (some .framework16) i with
  | none => exact reports_none_deckEntries reply i
  | some k => exact reports_usbTopRowEntry m.upstream i k

theorem reports_topRow {family : Option PlatformFamily}
    {deck : (FixedArray 5 FrameworkModuleDescriptor × FrameworkModuleDescriptor) ×
      FrameworkModuleDescriptor}
    (h : Returns (detectDeckOrKeyboard family) m w deck w') (i : Fin 5) :
    (deck.1.1 i).Reports ((buses.topRowOrigin m.upstream family i).map .usb) := by
  unfold detectDeckOrKeyboard at h
  split_ifs at h with hfamily
  · obtain rfl := inputTopRowCount_pos_iff.mp hfamily
    obtain ⟨entries, w₁, hdeck, hpure⟩ := returns_bind.mp h
    obtain ⟨rfl, -⟩ := returns_pure.mp hpure
    exact reports_topRow_of_deck husb hdeck i
  · obtain ⟨keyboard, w₁, -, hpure⟩ := returns_bind.mp h
    obtain ⟨rfl, -⟩ := returns_pure.mp hpure
    rw [Enumerations.topRowOrigin, if_neg (mt inputTopRowCount_pos_iff.mpr hfamily)]
    exact reports_none_default

theorem reports_webcam {webcam : FrameworkModuleDescriptor}
    (h : Returns detectWebcam m w webcam w') :
    webcam.Reports ((buses.webcamOrigin m.upstream).map .usb) := by
  obtain ⟨devices, w₁, hdevices, hpure⟩ := returns_bind.mp h
  obtain ⟨rfl, -⟩ := returns_pure.mp hpure
  rw [detectCamerasLocal_eq husb hdevices, List.head?_map, Enumerations.webcamOrigin]
  cases (buses.recognised m.upstream .cameras).head? with
  | none => exact reports_none_default
  | some k => exact ⟨.inl rfl, rfl, rfl, rfl⟩

theorem reports_internals {family : Option PlatformFamily} {internals : InternalModules}
    (h : Returns (detectInternalModules family) m w internals w') :
    (∀ i, (internals.topRow i).Reports
        ((buses.topRowOrigin m.upstream family i).map .usb)) ∧
      internals.webcam.Reports ((buses.webcamOrigin m.upstream).map .usb) := by
  obtain ⟨deck, w₁, hdeck, h₁⟩ := returns_bind.mp h
  obtain ⟨touchpadDevices, w₂, -, h₂⟩ := returns_bind.mp h₁
  obtain ⟨touchpads, w₃, -, h₃⟩ := returns_bind.mp h₂
  obtain ⟨fingerprintReader, w₄, -, h₄⟩ := returns_bind.mp h₃
  obtain ⟨touchscreen, w₅, -, h₅⟩ := returns_bind.mp h₄
  obtain ⟨webcam, w₆, hwebcam, hpure⟩ := returns_bind.mp h₅
  obtain ⟨rfl, -⟩ := returns_pure.mp hpure
  exact ⟨reports_topRow husb hdeck, reports_webcam husb hwebcam⟩

end Internals

/-! ### The theorem -/

/-- What an inventory says about two enumerations, for `n` slots with these PD
states. -/
structure ReportedOnce (upstream : Upstream) (family : Option PlatformFamily) (n : ℕ)
    (pd : FixedArray 6 FrameworkEcPdPortState) (buses : Enumerations)
    (inventory : FrameworkModuleInventory) : Prop where
  /-- Each descriptor has the ids of the entry behind it or none. -/
  reports : ∀ location, (inventory.descriptorAt location).Reports
    (buses.origin upstream family n pd location)
  /-- No entry is behind two descriptors. -/
  unique : ∀ location other entry,
    buses.origin upstream family n pd location = some entry →
      buses.origin upstream family n pd other = some entry → location = other
  /-- A detected card has one slot or one detached entry, unless four unassigned
  cards come before it. -/
  card : ∀ card ∈ buses.matchedCards upstream,
    card ∉ (buses.unassigned upstream n pd).drop 4 →
      ∃! location, buses.origin upstream family n pd location = some card.entry ∧
        ((∃ i, location = .usbCSlot i) ∨ ∃ k, location = .detached k)
  dropped : ∀ card ∈ (buses.unassigned upstream n pd).drop 4, ∀ location,
    buses.origin upstream family n pd location ≠ some card.entry
  passOrder : (buses.unassigned upstream n pd).Sublist (buses.matchedCards upstream)
  count : (List.finRange 6).countP (fun i => decide (HoldsCard (inventory.usbCSlot i))) +
      inventory.detachedCount.toNat + ((buses.unassigned upstream n pd).drop 4).length =
    (buses.matchedCards upstream).length

/-- The enumerations a call sees: the HID cards now, and one list of USB devices. -/
def Machine.enumerations (m : Machine) (w : World) (devices : List UsbDevice) : Enumerations :=
  { hid := (m.answer .findExpansionCardDevices (w.asked .findExpansionCardDevices)).getD []
    usb := devices }

theorem detectedCards_eq {m : Machine} {w : World} {devices : List UsbDevice}
    (husb : ∀ k, m.answer .usbDevices k = some devices) :
    m.detectedCards w = (m.enumerations w devices).cards m.upstream := by
  have hhid : ∀ reply : Option (List HidDevice), hidObservations (fun _ => true) reply =
      hidObservations (fun _ => true) (some (reply.getD [])) := by
    rintro (_ | devices) <;> rfl
  rw [Machine.detectedCards, Enumerations.cards, hhid]
  simp only [Machine.usbEnumeration, husb]
  rfl

section Inventory

variable {upstream : Upstream} (hupstream : upstream.Tabulated)
  (family : Option PlatformFamily) (platform : FrameworkPlatform) (usbCSlotCount : UInt8)
  (pd : FixedArray 6 FrameworkEcPdPortState) (buses : Enumerations)
include hupstream

theorem existsUnique_origin {card : CardOrigin buses}
    (hcard : card ∈ buses.matchedCards upstream) {n : ℕ}
    (hkept : card ∉ (buses.unassigned upstream n pd).drop 4) :
    ∃! location, buses.origin upstream family n pd location = some card.entry ∧
      ((∃ i, location = .usbCSlot i) ∨ ∃ k, location = .detached k) := by
  obtain ⟨location, hlocation⟩ := (Enumerations.exists_cardOrigin_iff hcard).mpr hkept
  have horigin : buses.origin upstream family n pd location = some card.entry :=
    (Enumerations.origin_eq_entry_iff hupstream hcard).mpr hlocation
  refine ⟨location, ⟨horigin, ?_⟩, fun other hother =>
    Enumerations.origin_unique hupstream hother.1 horigin⟩
  cases location with
  | usbCSlot i => exact .inl ⟨i, rfl⟩
  | detached k => exact .inr ⟨k, rfl⟩
  | topRow i => cases hlocation
  | webcam => cases hlocation

omit hupstream in
theorem holdsCard_iff_isSome {d : FrameworkModuleDescriptor} {entry : Option (BusEntry buses)}
    (h : d.Reports entry) : d.bus.HasIds ↔ entry.isSome = true := by
  cases entry with
  | none => exact iff_of_false h (by simp)
  | some entry => exact iff_of_true h.1 rfl

/-- The slots of the one-shot specification with internal modules that report
their entries. -/
theorem reportedOnce_moduleInventory {internals : InternalModules}
    (htopRow : ∀ i, (internals.topRow i).Reports
      ((buses.topRowOrigin upstream family i).map .usb))
    (hwebcam : internals.webcam.Reports ((buses.webcamOrigin upstream).map .usb))
    (expansionBay : FrameworkModuleDescriptor) :
    ReportedOnce upstream family usbCSlotCount.toNat pd buses
      (moduleInventory usbCSlotCount (oneShot upstream platform usbCSlotCount pd
        (buses.cards upstream) emptyUsbSlotTable) internals expansionBay) where
  reports := by
    intro location
    cases location with
    | usbCSlot i =>
        rw [Enumerations.origin, Enumerations.moduleOrigin, Option.map_none, Option.or_none]
        exact reports_slot platform usbCSlotCount pd i
    | detached k =>
        rw [Enumerations.origin, Enumerations.moduleOrigin, Option.map_none, Option.or_none]
        exact reports_detached platform usbCSlotCount pd k
    | topRow i => exact htopRow i
    | webcam => exact hwebcam
  unique := fun location other entry h hother =>
    Enumerations.origin_unique hupstream h hother
  card := fun card hcard hkept => existsUnique_origin hupstream family pd buses hcard hkept
  dropped := by
    intro card hdropped location horigin
    have hcard : card ∈ buses.matchedCards upstream :=
      Enumerations.unassigned_sublist.subset (List.mem_of_mem_drop hdropped)
    exact (Enumerations.exists_cardOrigin_iff hcard).mp
      ⟨location, (Enumerations.origin_eq_entry_iff hupstream hcard).mp horigin⟩ hdropped
  passOrder := Enumerations.unassigned_sublist
  count := by
    have hslots : (List.finRange 6).countP (fun i => decide (HoldsCard
        ((oneShot upstream platform usbCSlotCount pd (buses.cards upstream)
          emptyUsbSlotTable).usbSlots i))) =
        ((List.finRange 6).filterMap
          (buses.slotOrigin upstream usbCSlotCount.toNat pd)).length := by
      rw [List.length_filterMap_eq_countP]
      refine List.countP_congr fun i _ => ?_
      rw [decide_eq_true_eq]
      refine (holdsCard_iff_isSome buses (reports_slot platform usbCSlotCount pd i)).trans ?_
      rw [Option.isSome_map]
    have hdetached : (oneShot upstream platform usbCSlotCount pd (buses.cards upstream)
        emptyUsbSlotTable).detachedModules.detachedCount.toNat =
          min 4 (buses.unassigned upstream usbCSlotCount.toNat pd).length := by
      rw [oneShot, Enumerations.unassignedCards_cards]
      refine (toNat_detachedCount _ _).trans ?_
      rw [List.length_map, List.length_map]
    have hall : ((List.finRange 6).filterMap
        (buses.slotOrigin upstream usbCSlotCount.toNat pd)).length +
          (buses.unassigned upstream usbCSlotCount.toNat pd).length =
            (buses.matchedCards upstream).length := Enumerations.length_slots_add_unassigned
    refine (congrArg₂ (· + ·) (congrArg₂ (· + ·) hslots hdetached) List.length_drop).trans ?_
    omega

end Inventory

/-- No entry of the enumerations is matched by two detectors or reported by two
descriptors, and every descriptor with ids reports an entry. -/
theorem buildModuleInventory_reportedOnce {m : Machine} (hupstream : m.upstream.Tabulated)
    {devices : List UsbDevice} (husb : ∀ k, m.answer .usbDevices k = some devices)
    (w : World) :
    (∀ device ∈ devices, ∀ detector other : UsbDetector,
      detector.recognises m.upstream device = true →
        other.recognises m.upstream device = true → detector = other) ∧
    ∀ inventory w', Returns buildModuleInventory m w inventory w' →
      ReportedOnce m.upstream m.family (mainboardPdPortCount m.family).toNat
        (m.pdPortStates w) (m.enumerations w devices) inventory := by
  refine ⟨fun device _ detector other h hother =>
    UsbDetector.recognises_unique hupstream h hother, fun inventory w' h => ?_⟩
  obtain ⟨internals, w₁, expansionBay, hinternals, -, rfl⟩ :=
    returns_buildModuleInventory.mp h
  have hreports : (∀ i, (internals.topRow i).Reports
      (((m.enumerations w devices).topRowOrigin m.upstream m.family i).map .usb)) ∧
        internals.webcam.Reports (((m.enumerations w devices).webcamOrigin m.upstream).map .usb) :=
    reports_internals husb hinternals
  rw [detectedCards_eq husb]
  exact reportedOnce_moduleInventory hupstream m.family m.frameworkPlatform _ _ _
    hreports.1 hreports.2 expansionBay

/-- Two storage cards, a camera and a LED matrix in the leftmost deck slot. -/
def busyDevices : List UsbDevice :=
  let device address productId path : UsbDevice :=
    { address
      deviceDescriptor := some ⟨0x32AC, productId, 1, 0, 0, none⟩
      portNumbers := some path }
  [device 1 0x0005 [1], device 2 0x0005 [2], device 3 0x001C [5], device 4 0x0020 [4, 2]]

/-- A Framework 16 with `busyDevices` on which no query is answered. -/
def busyMachine : Machine :=
  { Machine.silent.answering .usbDevices (some busyDevices) with family := some .framework16 }

theorem buildModuleInventory_reportedOnce_busy :
    ∃ inventory w', Returns buildModuleInventory busyMachine .fresh inventory w' ∧
      ReportedOnce .documented (some .framework16) 4 (busyMachine.pdPortStates .fresh)
        (busyMachine.enumerations .fresh busyDevices) inventory := by
  refine ⟨_, _, rfl, ?_⟩
  exact (buildModuleInventory_reportedOnce (m := busyMachine) Upstream.tabulated_documented
    (fun k => Machine.answer_answering_self .silent .usbDevices _ k) .fresh).2 _ _ rfl

end FrameworkFfi
