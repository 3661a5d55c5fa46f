import FrameworkFfi.Accounting.Aggregates
import Mathlib.Data.List.Forall2

/-!
# The peripherals of an enumeration

A call for the versions of USB peripherals enumerates the buses once. Each
device whose descriptor can be read and matches has a version, in the order of
the enumeration, whether or not it can be opened. The device is opened for its
name only, and a device that does not match is never opened.
-/

namespace FrameworkFfi

open Effect

/-- The device with its descriptor, when it is one of those looked for. -/
def matched (isMatch : UsbMatch) (device : UsbDevice) :
    Option (UsbDevice × UsbDeviceDescriptor) :=
  (device.deviceDescriptor.filter fun descriptor =>
    isMatch descriptor.vendorId descriptor.productId).map fun descriptor => (device, descriptor)

def HostRequest.opened : HostRequest → Option ℕ
  | .usbOpen device => some device
  | _ => none

/-- The devices that were opened, the latest first. -/
def World.opened (w : World) : List ℕ := w.trace.filterMap HostRequest.opened

theorem opened_record_of_none (w : World) {request : HostRequest} (h : request.opened = none) :
    (w.record request).opened = w.opened := by
  rw [World.opened, World.trace_record, List.filterMap_cons_none h, World.opened]

theorem opened_record_usbOpen (w : World) (device : ℕ) :
    (w.record (.usbOpen device)).opened = device :: w.opened := rfl

/-- A name that a machine can give a device: empty when the device does not open
or has no product string, and otherwise what the read of the string answers. -/
inductive ProductNameOf (m : Machine) (device : UsbDevice) (descriptor : UsbDeviceDescriptor) :
    OwnedString → Prop
  | unopened {n : ℕ} (hopen : m.answer (.usbOpen device.address) n = false) :
      ProductNameOf m device descriptor (.exact "")
  | unnamed {n : ℕ} (hopen : m.answer (.usbOpen device.address) n = true)
      (hindex : descriptor.productStringIndex = none) :
      ProductNameOf m device descriptor (.exact "")
  | read {n k : ℕ} {index : UInt8} {text : Option OwnedString}
      (hopen : m.answer (.usbOpen device.address) n = true)
      (hindex : descriptor.productStringIndex = some index)
      (hread : m.answer (.usbReadStringDescriptor device.address index) k = text) :
      ProductNameOf m device descriptor (text.getD (.exact ""))

/-- The version of a device comes from its descriptor. -/
structure VersionOf (m : Machine) (device : UsbDevice × UsbDeviceDescriptor)
    (peripheral : PeripheralVersion) : Prop where
  vendorId : peripheral.vendorId = device.2.vendorId
  productId : peripheral.productId = device.2.productId
  major : peripheral.version.major = device.2.versionMajor
  minor : peripheral.version.minor = device.2.versionMinor
  subMinor : peripheral.version.subMinor = device.2.versionSubMinor
  productName : ProductNameOf m device.1 device.2 peripheral.productName

section Collection

variable {m : Machine} {w w' : World} {isMatch : UsbMatch}

theorem productNameOf_of_readProductName {device : UsbDevice} {descriptor : UsbDeviceDescriptor}
    {name : OwnedString} {n : ℕ} (hopen : m.answer (.usbOpen device.address) n = true)
    (h : Returns (readProductName device descriptor) m w name w') :
    ProductNameOf m device descriptor name ∧ w'.opened = w.opened := by
  unfold readProductName at h
  cases hindex : descriptor.productStringIndex with
  | none =>
      rw [hindex] at h
      obtain ⟨rfl, rfl⟩ := returns_pure.mp h
      exact ⟨.unnamed hopen hindex, rfl⟩
  | some index =>
      rw [hindex] at h
      obtain ⟨text, w₁, hread, hpure⟩ := returns_bind.mp h
      obtain ⟨htext, rfl⟩ := returns_ask.mp hread
      obtain ⟨rfl, rfl⟩ := returns_pure.mp hpure
      exact ⟨.read hopen hindex htext.symm, opened_record_of_none w rfl⟩

/-- The device is opened once. -/
theorem productNameOf_of_productName {device : UsbDevice} {descriptor : UsbDeviceDescriptor}
    {name : OwnedString} (h : Returns (productName device descriptor) m w name w') :
    ProductNameOf m device descriptor name ∧ w'.opened = device.address :: w.opened := by
  obtain ⟨opened, w₁, hask, hname⟩ := returns_bind.mp h
  obtain ⟨hopen, rfl⟩ := returns_ask.mp hask
  cases opened with
  | false =>
      obtain ⟨rfl, rfl⟩ := returns_pure.mp hname
      exact ⟨.unopened hopen.symm, opened_record_usbOpen w _⟩
  | true =>
      obtain ⟨hname, hopened⟩ := productNameOf_of_readProductName hopen.symm hname
      rw [hopened]
      exact ⟨hname, opened_record_usbOpen w _⟩

/-- One round adds the version of the device when the device matches, and opens
it exactly then. -/
theorem returns_collectUsbVersion {found found' : List PeripheralVersion} {device : UsbDevice}
    (h : Returns (collectUsbVersion isMatch found device) m w found' w') :
    ∃ versions, found' = found ++ versions ∧
      List.Forall₂ (VersionOf m) (matched isMatch device).toList versions ∧
      w'.opened = ((matched isMatch device).toList.map fun d => d.1.address) ++ w.opened := by
  unfold collectUsbVersion at h
  cases hdescriptor : device.deviceDescriptor with
  | none =>
      rw [hdescriptor] at h
      obtain ⟨rfl, rfl⟩ := returns_pure.mp h
      have hnone : matched isMatch device = none := by rw [matched, hdescriptor]; rfl
      rw [hnone]
      exact ⟨[], (List.append_nil _).symm, .nil, rfl⟩
  | some descriptor =>
      rw [hdescriptor] at h
      simp only at h
      split_ifs at h with hmatch
      · have hsome : matched isMatch device = some (device, descriptor) := by
          rw [matched, hdescriptor, Option.filter_some, if_pos hmatch]
          rfl
        obtain ⟨name, w₁, hname, hpure⟩ := returns_bind.mp h
        obtain ⟨rfl, rfl⟩ := returns_pure.mp hpure
        obtain ⟨hproduct, hopened⟩ := productNameOf_of_productName hname
        rw [hsome]
        exact ⟨_, rfl, .cons ⟨rfl, rfl, rfl, rfl, rfl, hproduct⟩ .nil, hopened⟩
      · have hnone : matched isMatch device = none := by
          rw [matched, hdescriptor, Option.filter_some, if_neg hmatch]
          rfl
        obtain ⟨rfl, rfl⟩ := returns_pure.mp h
        rw [hnone]
        exact ⟨[], (List.append_nil _).symm, .nil, rfl⟩

/-- By induction on the devices that are left. -/
theorem returns_collectUsbVersions_loop {devices : List UsbDevice}
    {found found' : List PeripheralVersion}
    (h : Returns (devices.foldlM (collectUsbVersion isMatch) found) m w found' w') :
    ∃ versions, found' = found ++ versions ∧
      List.Forall₂ (VersionOf m) (devices.filterMap (matched isMatch)) versions ∧
      w'.opened =
        ((devices.filterMap (matched isMatch)).map fun d => d.1.address).reverse ++ w.opened := by
  induction devices generalizing found w with
  | nil =>
      obtain ⟨rfl, rfl⟩ := returns_pure.mp h
      exact ⟨[], (List.append_nil _).symm, .nil, rfl⟩
  | cons device devices ih =>
      rw [List.foldlM_cons] at h
      obtain ⟨next, w₁, hround, hrest⟩ := returns_bind.mp h
      obtain ⟨first, rfl, hfirst, hopened⟩ := returns_collectUsbVersion hround
      obtain ⟨rest, rfl, hversions, hopened'⟩ := ih hrest
      have hcons : (device :: devices).filterMap (matched isMatch) =
          (matched isMatch device).toList ++ devices.filterMap (matched isMatch) := by
        rw [List.filterMap_eq_flatMap_toList, List.flatMap_cons,
          ← List.filterMap_eq_flatMap_toList]
      have hone : ((matched isMatch device).toList.map fun d => d.1.address).reverse =
          (matched isMatch device).toList.map fun d => d.1.address := by
        cases matched isMatch device <;> rfl
      rw [hcons]
      refine ⟨first ++ rest, List.append_assoc _ _ _, List.rel_append hfirst hversions, ?_⟩
      rw [hopened', hopened, List.map_append, List.reverse_append, List.append_assoc, hone]

theorem keeps_enumerations (isMatch : UsbMatch) (devices : List UsbDevice)
    (found : List PeripheralVersion) :
    Keeps (fun w : World => w.asked .usbDevices)
      (devices.foldlM (collectUsbVersion isMatch) found) := by
  have hask : ∀ {request : HostRequest}, HostRequest.usbDevices ≠ request →
      Keeps (fun w : World => w.asked .usbDevices) (ask request) :=
    fun hne => keeps_act fun _ w => w.asked_record_of_ne hne
  refine Keeps.foldlM (fun found device => ?_) devices found
  unfold collectUsbVersion
  split
  · exact keeps_pure found
  · split_ifs
    · refine Keeps.bind ?_ fun _ => keeps_pure _
      unfold productName
      refine Keeps.bind (hask nofun) fun opened => ?_
      split_ifs
      · unfold readProductName
        split
        · exact keeps_pure _
        · exact Keeps.bind (hask nofun) fun _ => keeps_pure _
      · exact keeps_pure _
    · exact keeps_pure found

/-- The devices an enumeration shows, none when it fails. -/
def Machine.enumerated (m : Machine) (n : ℕ) : List UsbDevice :=
  (m.answer .usbDevices n).getD []

theorem returns_collectUsbVersions {found : List PeripheralVersion}
    (h : Returns (collectUsbVersions isMatch) m w found w') :
    List.Forall₂ (VersionOf m)
        ((m.enumerated (w.asked .usbDevices)).filterMap (matched isMatch)) found ∧
      w'.asked .usbDevices = w.asked .usbDevices + 1 ∧
      w'.opened = (((m.enumerated (w.asked .usbDevices)).filterMap (matched isMatch)).map
        fun d => d.1.address).reverse ++ w.opened := by
  obtain ⟨devices, w₁, hask, hloop⟩ := returns_bind.mp h
  obtain ⟨hdevices, rfl⟩ := returns_ask.mp hask
  have hrecord : (w.record .usbDevices).opened = w.opened := opened_record_of_none w rfl
  rw [Machine.enumerated, ← hdevices]
  cases devices with
  | none =>
      obtain ⟨rfl, rfl⟩ := returns_pure.mp hloop
      exact ⟨.nil, World.asked_record_self w .usbDevices, hrecord⟩
  | some devices =>
      obtain ⟨versions, rfl, hversions, hopened⟩ := returns_collectUsbVersions_loop hloop
      rw [hrecord] at hopened
      have hasked : w'.asked .usbDevices = (w.record .usbDevices).asked .usbDevices :=
        keeps_enumerations isMatch devices [] m _ _ w' hloop
      exact ⟨hversions, hasked.trans (World.asked_record_self w .usbDevices), hopened⟩

end Collection

theorem keeps_trace_peripheralSlots (found : List PeripheralVersion) :
    Keeps World.trace (peripheralSlots found) := by
  refine Keeps.foldlM (fun _ _ => Keeps.bind ?_ fun _ => keeps_pure _) _ _
  intro m w productName w' h
  obtain ⟨-, -, rfl⟩ := FrameworkByteBuffer.returns_fromVec.mp h
  rfl

/-- The slot of a device tells what its descriptor says, and holds its name. -/
structure SlotOf (m : Machine) (device : UsbDevice × UsbDeviceDescriptor)
    (slot : FrameworkPeripheralVersion) : Prop where
  present : slot.present = 1
  versionMajor : slot.versionMajor = device.2.versionMajor
  versionMinor : slot.versionMinor = device.2.versionMinor
  versionSubMinor : slot.versionSubMinor = device.2.versionSubMinor
  vendorId : slot.vendorId = device.2.vendorId
  productId : slot.productId = device.2.productId
  productName : ∃ name, ProductNameOf m device.1 device.2 name ∧
    MadeFrom name.intoBytes slot.productName

/-- The first eight matching devices have a slot each, in order, and the other
slots are empty. -/
structure EnumeratedSlots (m : Machine) (matching : List (UsbDevice × UsbDeviceDescriptor))
    (versions : PeripheralVersions) : Prop where
  count : versions.count.toNat = min 8 matching.length
  filled : ∀ (i : Fin 8) device, matching[i.val]? = some device →
    SlotOf m device (versions.peripheral i)
  rest : ∀ i : Fin 8, matching.length ≤ i →
    versions.peripheral i = ⟨0, 0, 0, 0, 0, 0, ⟨0, 0, 0⟩⟩

theorem enumeratedSlots {m : Machine} {matching : List (UsbDevice × UsbDeviceDescriptor)}
    {found : List PeripheralVersion} {versions : PeripheralVersions}
    (hfound : List.Forall₂ (VersionOf m) matching found)
    (hrecord : PeripheralRecord found versions) : EnumeratedSlots m matching versions := by
  obtain ⟨hlength, hget⟩ := List.forall₂_iff_get.mp hfound
  refine ⟨by rw [hlength, hrecord.count], fun i device hi => ?_, fun i hi => ?_⟩
  · obtain ⟨hlt, rfl⟩ := List.getElem?_eq_some_iff.mp hi
    have hlt' : i.val < found.length := hlength ▸ hlt
    obtain ⟨productName, hmade, hslot⟩ :=
      hrecord.filled i found[i.val] (List.getElem?_eq_getElem hlt')
    have hversion := hget i.val hlt hlt'
    rw [hslot]
    exact ⟨rfl, hversion.major, hversion.minor, hversion.subMinor, hversion.vendorId,
      hversion.productId, _, hversion.productName, hmade⟩
  · exact hrecord.rest i (hlength ▸ hi)

/-- The call hands out what was found, and its status is `success`. -/
theorem returns_peripheralVersionsResult {detected : Ffi (List PeripheralVersion)} {m : Machine}
    {w w' : World} {result : FrameworkPeripheralVersionsResult}
    (h : Returns (peripheralVersionsResult detected) m w result w') :
    result.status = .success ∧ ∃ found w₁, Returns detected m w found w₁ ∧
      Returns (peripheralSlots found) m w₁ result.value w' := by
  obtain ⟨reply, w₂, hreply, hresult⟩ := returns_bind.mp h
  obtain ⟨found, w₁, hfound, hrest⟩ := returns_bind.mp hreply
  obtain ⟨versions, w₃, hslots, hpure⟩ := returns_bind.mp hrest
  obtain ⟨rfl, rfl⟩ := returns_pure.mp hpure
  obtain ⟨rfl, rfl⟩ := returns_pure.mp hresult
  exact ⟨rfl, found, w₁, hfound, hslots⟩

/-- A call for the versions of peripherals succeeds whatever the buses answer. It
enumerates them once, fills a slot for each of the first eight devices that match,
in the order of the enumeration, and opens each device that matches once and no
other device. -/
theorem peripheralVersions_enumerated {m : Machine} {isMatch : UsbMatch} {w w' : World}
    {result : FrameworkPeripheralVersionsResult}
    (h : Returns (peripheralVersionsResult (collectUsbVersions isMatch)) m w result w') :
    ∃ matching, matching =
        (m.enumerated (w.asked .usbDevices)).filterMap (matched isMatch) ∧
      result.status = .success ∧ EnumeratedSlots m matching result.value ∧
      w'.asked .usbDevices = w.asked .usbDevices + 1 ∧
      w'.opened = (matching.map fun d => d.1.address).reverse ++ w.opened := by
  obtain ⟨hstatus, found, w₁, hfound, hslots⟩ := returns_peripheralVersionsResult h
  obtain ⟨hversions, hasked, hopened⟩ := returns_collectUsbVersions hfound
  have htrace : w'.trace = w₁.trace :=
    keeps_trace_peripheralSlots found m w₁ result.value w' hslots
  have hkept : w'.opened = w₁.opened := by rw [World.opened, htrace, World.opened]
  have hcount : w'.asked .usbDevices = w₁.asked .usbDevices := by
    rw [World.asked, htrace, World.asked]
  exact ⟨_, rfl, hstatus, enumeratedSlots hversions (peripheralRecord_peripheralSlots hslots),
    hcount.trans hasked, hkept.trans hopened⟩

/-- Two cameras, a hub and a device without a descriptor. Nothing opens. -/
def camerasMachine : Machine :=
  Machine.silent.answering .usbDevices (some
    [⟨1, none, none⟩, ⟨2, some ⟨0x32AC, 0x001C, 1, 0, 2, some 2⟩, none⟩,
      ⟨3, some ⟨0x0BDA, 0x5432, 1, 9, 3, some 2⟩, none⟩,
      ⟨4, some ⟨0x32AC, 0x001D, 0, 1, 1, none⟩, none⟩])

theorem peripheralVersions_enumerated_cameras :
    ∃ result w', Returns frameworkGetCameraVersions camerasMachine .fresh result w' ∧
      result.status = .success ∧ result.value.count.toNat = 2 ∧
      (result.value.peripheral 0).versionSubMinor = 2 ∧
      w'.asked .usbDevices = 1 ∧ w'.opened = [4, 2] := by
  have h : Returns frameworkGetCameraVersions camerasMachine .fresh _ _ := rfl
  obtain ⟨matching, hmatching, hstatus, hslots, hasked, hopened⟩ :=
    peripheralVersions_enumerated h
  have hpair : matching = [(⟨2, some ⟨0x32AC, 0x001C, 1, 0, 2, some 2⟩, none⟩,
      ⟨0x32AC, 0x001C, 1, 0, 2, some 2⟩), (⟨4, some ⟨0x32AC, 0x001D, 0, 1, 1, none⟩, none⟩,
      ⟨0x32AC, 0x001D, 0, 1, 1, none⟩)] := hmatching.trans (by decide)
  rw [hpair] at hopened
  refine ⟨_, _, h, hstatus, ?_, ?_, hasked, hopened⟩
  · rw [hslots.count, hpair]
    rfl
  · exact (hslots.filled 0 _ (by rw [hpair]; rfl)).versionSubMinor

end FrameworkFfi
