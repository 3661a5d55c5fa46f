import FrameworkFfi.Exports.Inventory
import FrameworkFfi.Inventory.ReportedOnceRun
import FrameworkFfi.Versions.Enumeration
import Mathlib.Order.MinMax

/-!
# The peripherals on USB, in the inventory and in the version calls

The inventory looks for cards, input modules and cameras on USB with ids that it has
from upstream. The version calls look for cameras, input modules, hubs and the audio card
with ids of their own. A USB-A card is a hub, so when the bus lists the same devices each
time, the calls see the same peripherals.
-/

namespace FrameworkFfi

open Effect

/-! ### Ids -/

def FrameworkModuleDescriptor.ids (d : FrameworkModuleDescriptor) : UInt32 × UInt32 :=
  (d.vendorId, d.productId)

def FrameworkModuleDescriptor.idsAs (identity : FrameworkModuleIdentity)
    (d : FrameworkModuleDescriptor) : Option (UInt32 × UInt32) :=
  if d.identity = identity then some d.ids else none

def FrameworkPeripheralVersion.ids (peripheral : FrameworkPeripheralVersion) : UInt32 × UInt32 :=
  (peripheral.vendorId.toUInt32, peripheral.productId.toUInt32)

def UsbDevice.ids (device : UsbDevice) : UInt32 × UInt32 :=
  (device.vendorId.toUInt32, device.productId.toUInt32)

/-- The peripherals that a version call lists, in order. -/
def PeripheralVersions.ids (versions : PeripheralVersions) : List (UInt32 × UInt32) :=
  (List.ofFn versions.peripheral).filterMap fun peripheral =>
    if peripheral.present = 1 then some peripheral.ids else none

/-- The expansion cards that an inventory reports, the ones in slots first. -/
def FrameworkModuleInventory.cards (inventory : FrameworkModuleInventory) :
    List FrameworkModuleDescriptor :=
  List.ofFn (fun i => (inventory.usbCSlot i).base) ++ List.ofFn inventory.detached

def FrameworkModuleInventory.cardIds (inventory : FrameworkModuleInventory)
    (identity : FrameworkModuleIdentity) : List (UInt32 × UInt32) :=
  inventory.cards.filterMap (FrameworkModuleDescriptor.idsAs identity)

/-- An array that is read as the list `l` is, entry by entry. -/
theorem filterMap_ofFn {α β γ : Type} {n : ℕ} {f : Fin n → α} {g : α → Option γ}
    {φ : β → Option γ} {l : List β} (h : ∀ i, g (f i) = l[i.val]?.bind φ) :
    (List.ofFn f).filterMap g = (l.take n).filterMap φ := by
  induction n generalizing l with
  | zero => simp
  | succ n ih =>
      rw [List.ofFn_succ]
      cases l with
      | nil =>
          have hrest := ih (l := []) fun i => h i.succ
          rw [List.filterMap_cons_none (h 0), hrest]
          simp
      | cons b l =>
          have hfirst : g (f 0) = φ b := h 0
          have hrest := ih (l := l) fun i => h i.succ
          rw [List.take_succ_cons, List.filterMap_cons, List.filterMap_cons, hfirst, hrest]

/-! ### What the version calls list -/

/-- A device whose ids can be read and are those looked for. -/
def UsbDevice.isListed (isMatch : UsbMatch) (device : UsbDevice) : Bool :=
  device.deviceDescriptor.any fun descriptor => isMatch descriptor.vendorId descriptor.productId

theorem recognises_eq_isListed (upstream : Upstream) (detector : UsbDetector)
    (device : UsbDevice) :
    detector.recognises upstream device = device.isListed (detector.isMatch upstream) := by
  unfold UsbDetector.recognises usbObservation UsbDevice.isListed
  cases device.deviceDescriptor with
  | none => rfl
  | some descriptor =>
      cases hmatch : detector.isMatch upstream descriptor.vendorId descriptor.productId with
      | true => simp [hmatch]
      | false => simp [hmatch]

theorem ids_recognised (buses : Enumerations) (upstream : Upstream) (detector : UsbDetector) :
    (buses.recognised upstream detector).map (fun k => (buses.usb.get k).ids) =
      (buses.usb.filter (UsbDevice.isListed (detector.isMatch upstream))).map
        UsbDevice.ids := by
  have husb : (List.finRange buses.usb.length).map buses.usb.get = buses.usb :=
    List.map_get_finRange buses.usb
  conv_rhs => rw [← husb, List.filter_map, List.map_map]
  simp only [Enumerations.recognised, recognises_eq_isListed]
  rfl

theorem matched_eq_some_iff {isMatch : UsbMatch} {device : UsbDevice}
    {d : UsbDevice × UsbDeviceDescriptor} :
    matched isMatch device = some d ↔ d.1 = device ∧ device.deviceDescriptor = some d.2 ∧
      isMatch d.2.vendorId d.2.productId = true := by
  obtain ⟨device', descriptor⟩ := d
  rw [matched, Option.map_eq_some_iff]
  constructor
  · rintro ⟨found, hfound, heq⟩
    obtain ⟨rfl, rfl⟩ := Prod.mk.inj heq
    obtain ⟨hdescriptor, hmatch⟩ := Option.filter_eq_some_iff.mp hfound
    exact ⟨rfl, hdescriptor, hmatch⟩
  · rintro ⟨rfl, hdescriptor, hmatch⟩
    exact ⟨descriptor, Option.filter_eq_some_iff.mpr ⟨hdescriptor, hmatch⟩, rfl⟩

theorem map_fst_matched (isMatch : UsbMatch) (device : UsbDevice) :
    (matched isMatch device).map Prod.fst = Option.guard (UsbDevice.isListed isMatch) device := by
  unfold matched UsbDevice.isListed
  cases hdescriptor : device.deviceDescriptor with
  | none => simp [Option.guard, hdescriptor]
  | some descriptor =>
      by_cases hmatch : isMatch descriptor.vendorId descriptor.productId = true
      · simp [Option.guard, hdescriptor, hmatch]
      · simp [Option.guard, hdescriptor, hmatch]

section Versions

variable {m : Machine} {isMatch : UsbMatch} {w w' : World}

def PeripheralVersion.ids (peripheral : PeripheralVersion) : UInt32 × UInt32 :=
  (peripheral.vendorId.toUInt32, peripheral.productId.toUInt32)

theorem ids_of_peripheralSlots {found : List PeripheralVersion} {versions : PeripheralVersions}
    (h : Returns (peripheralSlots found) m w versions w') :
    versions.ids = (found.map PeripheralVersion.ids).take 8 := by
  obtain ⟨-, -, hfilled, hrest⟩ := peripheralRecord_peripheralSlots h
  rw [← List.map_take, ← List.filterMap_eq_map]
  refine filterMap_ofFn fun i => ?_
  cases hget : found[i.val]? with
  | none =>
      rw [hrest i (List.getElem?_eq_none_iff.mp hget)]
      rfl
  | some peripheral =>
      obtain ⟨productName, -, hslot⟩ := hfilled i peripheral hget
      rw [hslot]
      rfl

theorem ids_of_versionOf {matching : List (UsbDevice × UsbDeviceDescriptor)}
    {found : List PeripheralVersion} (h : List.Forall₂ (VersionOf m) matching found)
    (hmatching : ∀ d ∈ matching, d.1.deviceDescriptor = some d.2) :
    found.map PeripheralVersion.ids = matching.map fun d => d.1.ids := by
  induction h with
  | nil => rfl
  | @cons d peripheral matching found hversion _ ih =>
      have hdescriptor := hmatching d List.mem_cons_self
      have hids : d.1.ids = peripheral.ids := by
        rw [UsbDevice.ids, UsbDevice.vendorId, UsbDevice.productId, hdescriptor,
          PeripheralVersion.ids, hversion.vendorId, hversion.productId]
        rfl
      rw [List.map_cons, List.map_cons, hids,
        ih fun d hd => hmatching d (List.mem_cons_of_mem _ hd)]

/-- A version call lists the first eight devices that it looks for. -/
theorem ids_of_versions {devices : List UsbDevice}
    (husb : ∀ k, m.answer .usbDevices k = some devices)
    {result : FrameworkPeripheralVersionsResult}
    (h : Returns (peripheralVersionsResult (collectUsbVersions isMatch)) m w result w') :
    result.value.ids =
        ((devices.filter (UsbDevice.isListed isMatch)).map UsbDevice.ids).take 8 ∧
      result.value.count.toNat = min 8 (devices.filter (UsbDevice.isListed isMatch)).length := by
  obtain ⟨-, found, w₁, hfound, hslots⟩ := returns_peripheralVersionsResult h
  have hversions := (returns_collectUsbVersions hfound).1
  rw [Machine.enumerated, husb, Option.getD_some] at hversions
  have hdevices : (devices.filterMap (matched isMatch)).map Prod.fst =
      devices.filter (UsbDevice.isListed isMatch) := by
    rw [List.map_filterMap, ← List.filterMap_eq_filter]
    exact List.filterMap_congr fun device _ => map_fst_matched isMatch device
  constructor
  · rw [ids_of_peripheralSlots hslots, ids_of_versionOf hversions, ← hdevices, List.map_map]
    · rfl
    · intro d hd
      obtain ⟨device, -, hmatched⟩ := List.mem_filterMap.mp hd
      obtain ⟨hdevice, hdescriptor, -⟩ := matched_eq_some_iff.mp hmatched
      rw [hdevice]
      exact hdescriptor
  · rw [(peripheralRecord_peripheralSlots hslots).count, ← hversions.length_eq, ← hdevices,
      List.length_map]

/-- The version of an audio card is that of a device with its ids. -/
theorem exists_of_audioCardVersionOf {device : UsbDevice} {version : PeripheralVersion}
    (h : Returns (audioCardVersionOf device) m w (some version) w') :
    device.isListed (fun vid pid => vid = frameworkVid && pid = audioCardPid) = true ∧
      device.ids = version.ids := by
  unfold audioCardVersionOf at h
  cases hdescriptor : device.deviceDescriptor with
  | none =>
      rw [hdescriptor] at h
      cases (returns_pure.mp h).1
  | some descriptor =>
      rw [hdescriptor] at h
      simp only at h
      split_ifs at h with hids
      · cases (returns_pure.mp h).1
      · obtain ⟨hvendor, hproduct⟩ := not_or.mp hids
        obtain ⟨response, w₁, -, hrest⟩ := returns_bind.mp h
        cases response with
        | none => cases (returns_pure.mp hrest).1
        | some response =>
            obtain ⟨productName, w₂, -, hpure⟩ := returns_bind.mp hrest
            obtain ⟨hversion, -⟩ := returns_pure.mp hpure
            obtain rfl := Option.some.inj hversion
            rw [UsbDevice.isListed, UsbDevice.ids, UsbDevice.vendorId, UsbDevice.productId,
              hdescriptor, PeripheralVersion.ids]
            simp [not_not.mp hvendor, not_not.mp hproduct]

/-- By induction on the devices that are left. -/
theorem exists_of_firstAudioCard {devices : List UsbDevice} {version : PeripheralVersion}
    (h : Returns (firstAudioCard devices) m w (some version) w') :
    ∃ device ∈ devices,
      device.isListed (fun vid pid => vid = frameworkVid && pid = audioCardPid) = true ∧
        device.ids = version.ids := by
  induction devices generalizing w with
  | nil => cases (returns_pure.mp h).1
  | cons device devices ih =>
      obtain ⟨first, w₁, hfirst, hrest⟩ := returns_bind.mp h
      cases first with
      | some found =>
          obtain ⟨hfound, -⟩ := returns_pure.mp hrest
          obtain rfl := Option.some.inj hfound
          exact ⟨device, List.mem_cons_self, exists_of_audioCardVersionOf hfirst⟩
      | none =>
          obtain ⟨found, hmem, hids⟩ := ih hrest
          exact ⟨found, List.mem_cons_of_mem _ hmem, hids⟩

/-- The audio card that is listed is a device with its ids. -/
theorem ids_of_audioCardVersion {devices : List UsbDevice}
    (husb : ∀ k, m.answer .usbDevices k = some devices)
    {result : FrameworkPeripheralVersionsResult}
    (h : Returns frameworkGetAudioCardVersion m w result w') :
    ∀ ids ∈ result.value.ids, ids ∈ (devices.filter (UsbDevice.isListed fun vid pid =>
      vid = frameworkVid && pid = audioCardPid)).map UsbDevice.ids := by
  obtain ⟨-, found, w₁, hfound, hslots⟩ := returns_peripheralVersionsResult h
  obtain ⟨version, w₂, hversion, hpure⟩ := returns_bind.mp hfound
  obtain ⟨rfl, rfl⟩ := returns_pure.mp hpure
  rw [ids_of_peripheralSlots hslots]
  intro ids hids
  obtain ⟨peripheral, hperipheral, rfl⟩ := List.mem_map.mp (List.mem_of_mem_take hids)
  obtain rfl := Option.mem_toList.mp hperipheral
  obtain ⟨reply, w₃, hask, hfirst⟩ := returns_bind.mp hversion
  obtain ⟨hreply, rfl⟩ := returns_ask.mp hask
  rw [husb] at hreply
  rw [hreply] at hfirst
  obtain ⟨device, hmem, hlisted, hdevice⟩ := exists_of_firstAudioCard hfirst
  exact List.mem_map.mpr ⟨device, List.mem_filter.mpr ⟨hmem, hlisted⟩, hdevice⟩

end Versions

/-! ### The cards that the inventory reports -/

theorem UsbCardKind.identity_injective : Function.Injective UsbCardKind.identity := by
  intro kind other h
  cases kind <;> cases other <;> first | rfl | cases h

theorem expansionCardIdentity_ne (upstream : Upstream) (productId : UInt16) (kind : UsbCardKind) :
    expansionCardIdentity upstream productId ≠ kind.identity := by
  unfold expansionCardIdentity
  cases kind <;> split_ifs <;> simp [UsbCardKind.identity]

def EnumeratedCard.identity (upstream : Upstream) : EnumeratedCard → FrameworkModuleIdentity
  | .hid card => expansionCardIdentity upstream card.productId
  | .usb kind _ => kind.identity

/-- The ids of the entry behind a card of a kind. -/
def CardOrigin.idsOf {buses : Enumerations} (kind : UsbCardKind) :
    CardOrigin buses → Option (UInt32 × UInt32)
  | .hid _ => none
  | .usb other k => if other = kind then some (buses.usb.get k).ids else none

section Cards

variable {buses : Enumerations} {upstream : Upstream} {kind : UsbCardKind}

theorem idsAs_of_card {d : FrameworkModuleDescriptor} (card : CardOrigin buses)
    (hidentity : d.identity = card.card.identity upstream)
    (hids : d.ids = (card.entry.vendorId.toUInt32, card.entry.productId.toUInt32)) :
    d.idsAs kind.identity = card.idsOf kind := by
  rw [FrameworkModuleDescriptor.idsAs, hidentity, hids]
  cases card with
  | hid k => exact if_neg (expansionCardIdentity_ne upstream _ kind)
  | usb other k =>
      by_cases hkind : other = kind
      · rw [hkind, CardOrigin.idsOf, if_pos rfl]
        exact if_pos rfl
      · rw [CardOrigin.idsOf, if_neg hkind]
        exact if_neg fun h => hkind (UsbCardKind.identity_injective h)

theorem idsAs_place (card : CardOrigin buses) (slot : FrameworkExpansionCardModuleDescriptor)
    (i : Fin 6) :
    (card.card.place upstream slot i).base.idsAs kind.identity = card.idsOf kind :=
  idsAs_of_card card (by cases card <;> rfl) (by cases card <;> rfl)

theorem idsAs_detach (card : CardOrigin buses) :
    (card.card.detach upstream).idsAs kind.identity = card.idsOf kind :=
  idsAs_of_card card (by cases card <;> rfl) (by cases card <;> rfl)

theorem idsAs_default : defaultModuleDescriptor.idsAs kind.identity = none := by
  cases kind <;> rfl

theorem idsAs_freshSlot (i : Fin 6) (pd : FrameworkEcPdPortState) :
    (freshSlot i pd).base.idsAs kind.identity = none := by
  cases hconnected : pdConnected pd with
  | true =>
      have hidentity : (freshSlot i pd).base.identity = .unknownUsbCOccupant := by
        unfold freshSlot portSlot
        rw [if_pos hconnected]
        rfl
      rw [FrameworkModuleDescriptor.idsAs, hidentity]
      exact if_neg kind.identity_ne.symm
  | false =>
      have hidentity : (freshSlot i pd).base.identity = .none := (freshSlot_absent hconnected).2.2
      rw [FrameworkModuleDescriptor.idsAs, hidentity]
      exact if_neg kind.identity_ne_none.symm

variable (platform : FrameworkPlatform) (usbCSlotCount : UInt8)
  (pd : FixedArray 6 FrameworkEcPdPortState)

theorem idsAs_slot (i : Fin 6) :
    ((oneShot upstream platform usbCSlotCount pd (buses.cards upstream)
      emptyUsbSlotTable).usbSlots i).base.idsAs kind.identity =
        (buses.slotOrigin upstream usbCSlotCount.toNat pd i).bind (CardOrigin.idsOf kind) := by
  have hcard : cardAt usbCSlotCount.toNat pd (buses.cards upstream) i =
      (buses.slotOrigin upstream usbCSlotCount.toNat pd i).map CardOrigin.card :=
    Enumerations.cardAt_cards usbCSlotCount.toNat pd i
  rcases Nat.lt_or_ge i.val usbCSlotCount.toNat with hi | hi
  · have hslot : (oneShot upstream platform usbCSlotCount pd (buses.cards upstream)
        emptyUsbSlotTable).usbSlots i =
          applyCapability platform i (assignedSlots usbCSlotCount.toNat pd
            (buses.cards upstream) upstream emptyUsbSlotTable.usbSlots i) := if_pos hi
    rw [hslot, base_applyCapability, assignedSlots_of_lt hi, hcard]
    cases buses.slotOrigin upstream usbCSlotCount.toNat pd i with
    | none => exact idsAs_freshSlot i _
    | some card => exact idsAs_place card _ i
  · rw [oneShot_slot_of_le upstream platform usbCSlotCount pd _ hi]
    cases horigin : buses.slotOrigin upstream usbCSlotCount.toNat pd i with
    | none => exact idsAs_default
    | some card =>
        rw [horigin] at hcard
        exact absurd (lt_of_cardAt hcard) (Nat.not_lt.mpr hi)

theorem idsAs_detached (k : Fin 4) :
    ((oneShot upstream platform usbCSlotCount pd (buses.cards upstream)
      emptyUsbSlotTable).detachedModules.detached k).idsAs kind.identity =
        (buses.unassigned upstream usbCSlotCount.toNat pd)[k.val]?.bind
          (CardOrigin.idsOf kind) := by
  have hdetached : (oneShot upstream platform usbCSlotCount pd (buses.cards upstream)
      emptyUsbSlotTable).detachedModules.detached k =
        ((buses.unassigned upstream usbCSlotCount.toNat pd)[k.val]?.map fun card =>
          card.card.detach upstream).getD defaultModuleDescriptor := by
    simp only [oneShot, firstDetached, Enumerations.unassignedCards_cards, List.map_map,
      List.getElem?_map]
    rfl
  rw [hdetached]
  cases (buses.unassigned upstream usbCSlotCount.toNat pd)[k.val]? with
  | none => exact idsAs_default
  | some card => exact idsAs_detach card

/-- The inventory reports the cards in slots and the first four others. -/
theorem cardIds_moduleInventory (internals : InternalModules)
    (expansionBay : FrameworkModuleDescriptor) :
    (moduleInventory usbCSlotCount (oneShot upstream platform usbCSlotCount pd
      (buses.cards upstream) emptyUsbSlotTable) internals expansionBay).cardIds kind.identity =
      ((List.finRange 6).filterMap (buses.slotOrigin upstream usbCSlotCount.toNat pd) ++
        (buses.unassigned upstream usbCSlotCount.toNat pd).take 4).filterMap
          (CardOrigin.idsOf kind) := by
  rw [FrameworkModuleInventory.cardIds, FrameworkModuleInventory.cards, List.filterMap_append,
    List.filterMap_append]
  congr 1
  · rw [List.ofFn_eq_map, List.filterMap_map, List.filterMap_filterMap]
    exact List.filterMap_congr fun i _ => idsAs_slot platform usbCSlotCount pd i
  · exact filterMap_ofFn fun k => idsAs_detached platform usbCSlotCount pd k

theorem toNat_detachedCount_moduleInventory (internals : InternalModules)
    (expansionBay : FrameworkModuleDescriptor) :
    (moduleInventory usbCSlotCount (oneShot upstream platform usbCSlotCount pd
      (buses.cards upstream) emptyUsbSlotTable) internals expansionBay).detachedCount.toNat =
      min 4 (buses.unassigned upstream usbCSlotCount.toNat pd).length := by
  refine (toNat_detachedCount _ emptyUsbSlotTable.detachedModules.detached).trans ?_
  rw [Enumerations.unassignedCards_cards, List.length_map, List.length_map]

variable (n : ℕ)

/-- The cards in slots and the unassigned ones are all that were detected. -/
theorem slots_append_unassigned_perm :
    ((List.finRange 6).filterMap (buses.slotOrigin upstream n pd) ++
      buses.unassigned upstream n pd).Perm (buses.matchedCards upstream) := by
  have hslots : ((List.finRange 6).filterMap (buses.slotOrigin upstream n pd)).Nodup :=
    (List.nodup_finRange 6).filterMap fun i j card hi hj => Enumerations.slotOrigin_unique hi hj
  have hnodup : ((List.finRange 6).filterMap (buses.slotOrigin upstream n pd) ++
      buses.unassigned upstream n pd).Nodup := by
    refine List.nodup_append.mpr ⟨hslots, Enumerations.nodup_unassigned, ?_⟩
    rintro card hcard other hother rfl
    obtain ⟨i, -, hi⟩ := List.mem_filterMap.mp hcard
    exact Enumerations.notMem_unassigned_of_slotOrigin hi hother
  refine (List.perm_ext_iff_of_nodup hnodup Enumerations.nodup_matchedCards).mpr fun card => ?_
  have hcard : card ∈ buses.matchedCards upstream ↔
      (∃ i, buses.slotOrigin upstream n pd i = some card) ∨
        card ∈ buses.unassigned upstream n pd :=
    Enumerations.mem_matchedCards_iff
  rw [hcard, List.mem_append, List.mem_filterMap]
  simp

/-- The detected cards of a kind are the entries that its detector recognises. -/
theorem filterMap_idsOf_matchedCards :
    (buses.matchedCards upstream).filterMap (CardOrigin.idsOf kind) =
      (buses.recognised upstream (.card kind)).map fun k => (buses.usb.get k).ids := by
  have hhid : buses.hidGroups.flatten.filterMap (CardOrigin.idsOf kind) = [] := by
    rw [List.filterMap_eq_nil_iff]
    intro card hcard
    cases card with
    | hid k => rfl
    | usb other k => exact absurd hcard (Enumerations.usb_notMem_hidGroups other k)
  have hgroup : ∀ other, ((buses.recognised upstream (.card other)).map
      (CardOrigin.usb other)).filterMap (CardOrigin.idsOf kind) =
        if other = kind then
          (buses.recognised upstream (.card kind)).map fun k => (buses.usb.get k).ids
        else [] := by
    intro other
    rw [List.filterMap_map]
    by_cases hkind : other = kind
    · rw [hkind, if_pos rfl, ← List.filterMap_eq_map]
      refine List.filterMap_congr fun k _ => ?_
      exact if_pos rfl
    · rw [if_neg hkind, List.filterMap_eq_nil_iff]
      exact fun k _ => if_neg hkind
  rw [Enumerations.matchedCards, List.filterMap_append, hhid, List.nil_append,
    Enumerations.usbGroups, ← List.flatMap_def, List.filterMap_flatMap]
  simp only [hgroup]
  cases kind <;> simp [UsbCardKind.passOrder]

end Cards

section Inventory

variable {m : Machine} {w w' : World} {devices : List UsbDevice}
  {inventory : FrameworkModuleInventory}

/-- The cards of a kind are those on the bus, as far as they fit. -/
theorem cardIds_inventory (husb : ∀ k, m.answer .usbDevices k = some devices)
    (h : Returns buildModuleInventory m w inventory w') (kind : UsbCardKind) :
    (inventory.cardIds kind.identity).Subperm
        ((devices.filter (UsbDevice.isListed (kind.isMatch m.upstream))).map UsbDevice.ids) ∧
      (inventory.detachedCount < 4 → (inventory.cardIds kind.identity).Perm
        ((devices.filter (UsbDevice.isListed (kind.isMatch m.upstream))).map UsbDevice.ids)) := by
  obtain ⟨internals, w₁, expansionBay, -, -, rfl⟩ := returns_buildModuleInventory.mp h
  let buses := m.enumerations w devices
  let n := (mainboardPdPortCount m.family).toNat
  let unassigned := buses.unassigned m.upstream n (m.pdPortStates w)
  have hids : (buses.matchedCards m.upstream).filterMap (CardOrigin.idsOf kind) =
      (devices.filter (UsbDevice.isListed (kind.isMatch m.upstream))).map UsbDevice.ids :=
    filterMap_idsOf_matchedCards.trans (ids_recognised buses m.upstream (.card kind))
  have hperm : ((List.finRange 6).filterMap (buses.slotOrigin m.upstream n (m.pdPortStates w)) ++
      unassigned).Perm (buses.matchedCards m.upstream) :=
    slots_append_unassigned_perm (m.pdPortStates w) n
  rw [detectedCards_eq husb, cardIds_moduleInventory, ← hids]
  constructor
  · have hkept : (unassigned.take 4).Sublist unassigned := List.take_sublist 4 _
    exact (((List.Sublist.refl _).append hkept).filterMap _).subperm.trans
      (hperm.filterMap _).subperm
  · intro hfew
    have hlength : unassigned.length < 4 := by
      rw [UInt8.lt_iff_toNat_lt, toNat_detachedCount_moduleInventory] at hfew
      exact (min_lt_iff.mp hfew).resolve_left (lt_irrefl _)
    have hall : unassigned.take 4 = unassigned := List.take_of_length_le hlength.le
    show (List.filterMap _ (_ ++ unassigned.take 4)).Perm _
    rw [hall]
    exact hperm.filterMap _

end Inventory

section Internals

variable {buses : Enumerations} {upstream : Upstream} {d : FrameworkModuleDescriptor}

theorem ids_of_reports {k : Fin buses.usb.length} (h : d.Reports (some (.usb k : BusEntry buses))) :
    d.ids = (buses.usb.get k).ids :=
  Prod.ext h.2.2.1 h.2.2.2

theorem head_cameras_iff (h : d.Reports ((buses.webcamOrigin upstream).map .usb))
    (ids : UInt32 × UInt32) :
    (((buses.usb.filter (UsbDevice.isListed (cameraMatch upstream))).map
      UsbDevice.ids).take 8).head? = some ids ↔ d.bus.HasIds ∧ d.ids = ids := by
  have hids := ids_recognised buses upstream .cameras
  rw [List.head?_take, if_neg (by decide)]
  show (List.map _ (buses.usb.filter (UsbDevice.isListed (UsbDetector.cameras.isMatch
    upstream)))).head? = _ ↔ _
  rw [← hids, List.head?_map]
  show (buses.webcamOrigin upstream).map _ = _ ↔ _
  cases horigin : buses.webcamOrigin upstream with
  | none =>
      rw [horigin] at h
      refine iff_of_false (by simp) fun hd => h hd.1
  | some k =>
      rw [horigin] at h
      rw [Option.map_some, Option.some_inj, ids_of_reports h]
      exact ⟨fun heq => ⟨h.1, heq⟩, fun hd => hd.2⟩

theorem mem_inputModules_of_topRow {family : Option PlatformFamily} {i : Fin 5}
    (h : d.Reports ((buses.topRowOrigin upstream family i).map .usb)) (hd : d.bus.HasIds) :
    d.ids ∈ (buses.usb.filter (UsbDevice.isListed (inputModuleMatch upstream))).map
      UsbDevice.ids := by
  cases horigin : buses.topRowOrigin upstream family i with
  | none =>
      rw [horigin] at h
      exact absurd hd h
  | some k =>
      rw [horigin] at h
      have hlisted := (Enumerations.recognises_of_topRowOrigin horigin).1
      rw [recognises_eq_isListed] at hlisted
      rw [ids_of_reports h]
      exact List.mem_map.mpr
        ⟨_, List.mem_filter.mpr ⟨List.get_mem buses.usb k, hlisted⟩, rfl⟩

end Internals

/-! ### The theorem -/

/-- A USB-A card is found by the hub in it. -/
theorem usbHubVersions_eq : usbHubVersions = collectUsbVersions usbACardMatch := by
  refine congrArg collectUsbVersions ?_
  funext vid pid
  rw [Bool.eq_iff_iff]
  simp only [usbACardMatch, Bool.or_eq_true, Bool.and_eq_true, decide_eq_true_eq]
  simp [realtekVid, realtekHubPids, genesysVid, genesysHubPids]

theorem cameraVersions_eq {upstream : Upstream} (h : upstream.Tabulated) :
    cameraVersions = collectUsbVersions (cameraMatch upstream) := by
  refine congrArg collectUsbVersions ?_
  funext vid pid
  rw [Bool.eq_iff_iff]
  simp only [cameraMatch, Bool.or_eq_true, Bool.and_eq_true, decide_eq_true_eq,
    h.cameraFrameworkVid, h.framework13And16SecondGenPid, h.framework12Pid]
  simp [frameworkVid, cameraPids]

theorem audioCardMatch_eq {upstream : Upstream} (h : upstream.Tabulated) :
    audioCardMatch upstream = fun vid pid => vid = frameworkVid && pid = audioCardPid := by
  funext vid pid
  rw [Bool.eq_iff_iff]
  simp only [audioCardMatch, Bool.and_eq_true, decide_eq_true_eq, h.audioCardFrameworkVid,
    h.audioCardPid]
  simp [frameworkVid, audioCardPid]

theorem isListed_inputModule {upstream : Upstream} (h : upstream.Tabulated)
    (hpids : ∀ pid ∈ upstream.framework16InputModulePids, pid ∈ inputModulePids)
    {device : UsbDevice} (hdevice : device.isListed (inputModuleMatch upstream) = true) :
    device.isListed (fun vid pid => vid = frameworkVid && pid ∈ inputModulePids) = true := by
  unfold UsbDevice.isListed at hdevice ⊢
  rw [Option.any_eq_true] at hdevice ⊢
  obtain ⟨descriptor, hdescriptor, hmatch⟩ := hdevice
  refine ⟨descriptor, hdescriptor, ?_⟩
  simp only [inputModuleMatch, h.inputModuleFrameworkVid, Bool.and_eq_true, decide_eq_true_eq]
    at hmatch
  exact Bool.and_eq_true_iff.mpr ⟨decide_eq_true hmatch.1, decide_eq_true (hpids _ hmatch.2)⟩

/-- What an inventory and the four version calls say about one USB bus. -/
structure PeripheralsAgree (inventory : FrameworkModuleInventory)
    (cameras inputModules hubs audioCard : PeripheralVersions) : Prop where
  /-- The webcam is the first camera that is listed. -/
  webcam : ∀ ids, cameras.ids.head? = some ids ↔
    inventory.webcam.bus.HasIds ∧ inventory.webcam.ids = ids
  /-- An input module on USB is listed, unless the list is full. -/
  topRow : ∀ i, (inventory.inputTopRow i).bus.HasIds → inputModules.count < 8 →
    (inventory.inputTopRow i).ids ∈ inputModules.ids
  /-- A USB-A card is a hub that is listed, unless the list is full. -/
  usbACard : hubs.count < 8 → (inventory.cardIds .usbAExpansionCard).Subperm hubs.ids
  /-- The hubs that are listed are the USB-A cards, unless a card may be missing. -/
  hub : hubs.count < 8 → inventory.detachedCount < 4 →
    (inventory.cardIds .usbAExpansionCard).Perm hubs.ids
  /-- An audio card with a version is reported, unless a card may be missing. -/
  audioCard : inventory.detachedCount < 4 →
    ∀ ids ∈ audioCard.ids, ids ∈ inventory.cardIds .audioExpansionCard

theorem take_eight_of_count {α : Type} {l : List α} {count : UInt8} {n : ℕ}
    (hcount : count.toNat = min 8 n) (hn : l.length = n) (h : count < 8) : l.take 8 = l := by
  rw [UInt8.lt_iff_toNat_lt, hcount] at h
  have hlength : n < 8 := (min_lt_iff.mp h).resolve_left (lt_irrefl _)
  exact List.take_of_length_le (hn ▸ hlength.le)

/-- On a bus that lists the same devices each time, the inventory and the version calls
see the same peripherals, whenever they are called. -/
theorem peripheralViews_agree {m : Machine} (hupstream : m.upstream.Tabulated)
    (hpids : ∀ pid ∈ m.upstream.framework16InputModulePids, pid ∈ inputModulePids)
    {devices : List UsbDevice} (husb : ∀ k, m.answer .usbDevices k = some devices)
    {handle : FrameworkEcHandle} {w₁ w₁' w₂ w₂' w₃ w₃' w₄ w₄' w₅ w₅' : World}
    {inventory : FrameworkEcModuleInventoryResult}
    {cameras inputModules hubs audioCard : FrameworkPeripheralVersionsResult}
    (hinventory : Returns (frameworkEcGetModuleInventory (some handle)) m w₁ inventory w₁')
    (hcameras : Returns frameworkGetCameraVersions m w₂ cameras w₂')
    (hmodules : Returns frameworkGetInputModuleVersions m w₃ inputModules w₃')
    (hhubs : Returns frameworkGetUsbHubVersions m w₄ hubs w₄')
    (haudio : Returns frameworkGetAudioCardVersion m w₅ audioCard w₅') :
    PeripheralsAgree inventory.value cameras.value inputModules.value hubs.value
      audioCard.value := by
  obtain ⟨built, hbuilt, rfl⟩ := returns_frameworkEcGetModuleInventory hinventory
  have hcard := cardIds_inventory husb hbuilt
  obtain ⟨internals, w₆, expansionBay, hinternals, -, rfl⟩ :=
    returns_buildModuleInventory.mp hbuilt
  have hbuses : ∀ k, m.answer .usbDevices k = some (m.enumerations w₁ devices).usb := husb
  have hreports := reports_internals hbuses hinternals
  rw [frameworkGetCameraVersions, cameraVersions_eq hupstream] at hcameras
  rw [frameworkGetUsbHubVersions, usbHubVersions_eq] at hhubs
  obtain ⟨hcameraIds, -⟩ := ids_of_versions husb hcameras
  obtain ⟨hmoduleIds, hmoduleCount⟩ := ids_of_versions husb hmodules
  obtain ⟨hhubIds, hhubCount⟩ := ids_of_versions husb hhubs
  have hhub : hubs.value.count < 8 → hubs.value.ids =
      (devices.filter (UsbDevice.isListed usbACardMatch)).map UsbDevice.ids :=
    fun hfull => hhubIds.trans (take_eight_of_count hhubCount (List.length_map _) hfull)
  refine ⟨fun ids => ?_, fun i hi hfull => ?_, fun hfull => ?_, fun hfull hfew => ?_,
    fun hfew ids hids => ?_⟩
  · rw [hcameraIds]
    exact head_cameras_iff hreports.2 ids
  · have hlisted := mem_inputModules_of_topRow (hreports.1 i) hi
    obtain ⟨device, hdevice, hids⟩ := List.mem_map.mp hlisted
    obtain ⟨hmem, hmatch⟩ := List.mem_filter.mp hdevice
    rw [hmoduleIds, take_eight_of_count hmoduleCount (List.length_map _) hfull]
    have hlooked := isListed_inputModule hupstream hpids hmatch
    exact List.mem_map.mpr ⟨device, List.mem_filter.mpr ⟨hmem, hlooked⟩, hids⟩
  · rw [hhub hfull]
    exact (hcard .usbA).1
  · rw [hhub hfull]
    exact (hcard .usbA).2 hfew
  · refine ((hcard .audio).2 hfew).mem_iff.mpr ?_
    have hlisted := ids_of_audioCardVersion husb haudio ids hids
    rw [← audioCardMatch_eq hupstream] at hlisted
    exact hlisted

/-- The first camera is the webcam, and the hub is a card without a slot. -/
theorem peripheralViews_agree_cameras :
    ∃ inventory w₁ cameras w₂ inputModules w₃ hubs w₄ audioCard w₅,
      Returns (frameworkEcGetModuleInventory (some ⟨.crosEc⟩)) camerasMachine .fresh inventory
        w₁ ∧
      Returns frameworkGetCameraVersions camerasMachine .fresh cameras w₂ ∧
      Returns frameworkGetInputModuleVersions camerasMachine .fresh inputModules w₃ ∧
      Returns frameworkGetUsbHubVersions camerasMachine .fresh hubs w₄ ∧
      Returns frameworkGetAudioCardVersion camerasMachine .fresh audioCard w₅ ∧
      inventory.value.webcam.ids = (0x32AC, 0x001C) ∧
      (inventory.value.cardIds .usbAExpansionCard).Perm [(0x0BDA, 0x5432)] := by
  have hinventory : Returns (frameworkEcGetModuleInventory (some ⟨.crosEc⟩)) camerasMachine
    .fresh _ _ := rfl
  have hcameras : Returns frameworkGetCameraVersions camerasMachine .fresh _ _ := rfl
  have hmodules : Returns frameworkGetInputModuleVersions camerasMachine .fresh _ _ := rfl
  have hhubs : Returns frameworkGetUsbHubVersions camerasMachine .fresh _ _ := rfl
  have haudio : Returns frameworkGetAudioCardVersion camerasMachine .fresh _ _ := rfl
  have hagree := peripheralViews_agree Upstream.tabulated_documented (fun _ h => h)
    (Machine.answer_answering_self .silent .usbDevices _) hinventory hcameras hmodules hhubs
    haudio
  exact ⟨_, _, _, _, _, _, _, _, _, _, hinventory, hcameras, hmodules, hhubs, haudio,
    ((hagree.webcam _).mp rfl).2, hagree.hub (by decide) (by decide)⟩

end FrameworkFfi
