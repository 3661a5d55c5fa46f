import FrameworkFfi.Exports.Inventory
import FrameworkFfi.Exports.Controls
import FrameworkFfi.Inventory.SlotState
import FrameworkFfi.Inventory.WellFormedRun
import FrameworkFfi.Library.Search

/-!
# The port that charges, in the scan and in the inventory

`framework_ec_get_active_charge` asks the ports one after the other, up to the first
that is active. `framework_ec_get_module_inventory` asks the ports of the mainboard as
well and tells their states in its slots. When the ports answer the same each time, the
two calls agree.
-/

namespace FrameworkFfi

open Effect Search

/-- Each port answers the same each time, so that it has one state. -/
structure Machine.StablePorts (m : Machine) (state : UInt8 → FrameworkEcPdPortState) :
    Prop where
  answer : ∀ port n, pdPortStateOfReply (m.answer (.getPdPortState port) n) = state port

def activeIn (state : UInt8 → FrameworkEcPdPortState) (port : UInt8) : Bool :=
  (state port).activePort ≠ 0

def firstActive (state : UInt8 → FrameworkEcPdPortState) (ports : List UInt8) : ActiveCharge :=
  match ports.find? (activeIn state) with
  | some port => ⟨port.toInt8, state port⟩
  | none => noActiveCharge

section Scan

variable {m : Machine} {state : UInt8 → FrameworkEcPdPortState} {w w' : World}

/-- By induction on the ports that are left. -/
theorem returns_firstActivePort (hm : m.StablePorts state) {ports : List UInt8}
    {charge : ActiveCharge} (h : Returns (firstActivePort ports) m w charge w') :
    charge = firstActive state ports ∧
      w'.trace = ((examined (activeIn state) ports).map HostRequest.getPdPortState).reverse ++
        w.trace := by
  induction ports generalizing w with
  | nil =>
      obtain ⟨rfl, rfl⟩ := returns_pure.mp h
      exact ⟨rfl, rfl⟩
  | cons port ports ih =>
      obtain ⟨told, w₁, hquery, hrest⟩ := returns_bind.mp h
      obtain ⟨reply, w₂, hask, hpure⟩ := returns_bind.mp hquery
      obtain ⟨hreply, rfl⟩ := returns_ask.mp hask
      obtain ⟨rfl, rfl⟩ := returns_pure.mp hpure
      rw [hreply, hm.answer] at hrest
      cases hactive : activeIn state port with
      | true =>
          have hne : (state port).activePort ≠ 0 := of_decide_eq_true hactive
          rw [if_pos hne] at hrest
          obtain ⟨rfl, rfl⟩ := returns_pure.mp hrest
          rw [firstActive, List.find?_cons_of_pos hactive, examined_cons_of_pos hactive]
          exact ⟨rfl, rfl⟩
      | false =>
          have heq : ¬ (state port).activePort ≠ 0 := of_decide_eq_false hactive
          rw [if_neg heq] at hrest
          obtain ⟨hcharge, htrace⟩ := ih hrest
          have hfirst : firstActive state (port :: ports) = firstActive state ports := by
            rw [firstActive, List.find?_cons_of_neg (by simp [hactive]), firstActive]
          rw [hfirst, examined_cons_of_neg hactive, List.map_cons, List.reverse_cons,
            List.append_assoc]
          exact ⟨hcharge, htrace⟩

end Scan

section Agreement

variable {m : Machine} {state : UInt8 → FrameworkEcPdPortState} {w w' : World}

/-- A slot of the inventory tells the state of its port, unless the slot is documented
without PD. -/
theorem pd_usbCSlot (hm : m.StablePorts state) {inventory : FrameworkModuleInventory}
    (h : Returns buildModuleInventory m w inventory w') {i : Fin 6}
    (hi : i.val < inventory.usbCSlotCount.toNat)
    (hwired : notWiredForPd m.frameworkPlatform i = false) :
    (inventory.usbCSlot i).pd = state (UInt8.ofNat i) := by
  obtain ⟨internals, w₁, bay, -, -, rfl⟩ := returns_buildModuleInventory.mp h
  have hslot : i.val < (mainboardPdPortCount m.family).toNat := hi
  have hpd : (assignedSlots (mainboardPdPortCount m.family).toNat (m.pdPortStates w)
      (m.detectedCards w) m.upstream emptyUsbSlotTable.usbSlots i).pd = m.pdPortStates w i :=
    pd_assignedSlots hslot
  show (applyCapabilities _ _ _ i).pd = _
  rw [applyCapabilities, if_pos hslot]
  show (if notWiredForPd m.frameworkPlatform i then _ else _) = _
  rw [hwired, if_neg Bool.false_ne_true, hpd]
  exact hm.answer _ _

def scannedPorts : List UInt8 := [0, 1, 2, 3, 4, 5]

theorem exists_found_of_active {port : UInt8} (hmem : port ∈ scannedPorts)
    (h : (state port).activePort ≠ 0) :
    ∃ found, scannedPorts.find? (activeIn state) = some found ∧ found ≤ port := by
  obtain ⟨found, hfound⟩ : ∃ found, scannedPorts.find? (activeIn state) = some found := by
    rw [← Option.isSome_iff_exists, List.find?_isSome]
    exact ⟨port, hmem, decide_eq_true h⟩
  refine ⟨found, hfound, ?_⟩
  obtain ⟨-, before, behind, hports, hbefore⟩ := List.find?_eq_some_iff_append.mp hfound
  have hsorted : scannedPorts.Pairwise (· < ·) := by decide
  rw [hports] at hmem hsorted
  rcases List.mem_append.mp hmem with hearly | hlate
  · have hinactive := hbefore port hearly
    rw [activeIn, decide_eq_true h] at hinactive
    cases hinactive
  · rcases List.mem_cons.mp hlate with rfl | hbehind
    · exact UInt8.le_refl _
    · exact UInt8.le_of_lt (List.rel_of_pairwise_cons (List.pairwise_append.mp hsorted).2.1
        hbehind)

theorem firstActive_of_find? {port : UInt8}
    (h : scannedPorts.find? (activeIn state) = some port) :
    firstActive state scannedPorts = ⟨port.toInt8, state port⟩ ∧
      port.toInt8.toInt = port.toNat := by
  have hport : port ∈ scannedPorts := List.mem_of_find?_eq_some h
  have hsmall : scannedPorts.all (fun port => port.toInt8.toInt = port.toNat) = true := by decide
  rw [firstActive, h]
  exact ⟨rfl, of_decide_eq_true (List.all_eq_true.mp hsmall port hport)⟩

end Agreement

/-- The scan succeeds with the first active port, or with none, and asks no port behind
it. A slot of the inventory whose port the scan tells has the state that the scan tells,
and a slot whose state is active is not in front of it. -/
theorem activeCharge_agrees {m : Machine} {state : UInt8 → FrameworkEcPdPortState}
    (hm : m.StablePorts state) {handle handle' : FrameworkEcHandle} {w₁ w₁' w₂ w₂' : World}
    {charge : FrameworkActiveChargeResult} {inventory : FrameworkEcModuleInventoryResult}
    (hcharge : Returns (frameworkEcGetActiveCharge (some handle)) m w₁ charge w₁')
    (hinventory : Returns (frameworkEcGetModuleInventory (some handle')) m w₂ inventory w₂') :
    charge = ⟨.success, firstActive state scannedPorts⟩ ∧
      w₁'.trace = ((examined (activeIn state) scannedPorts).map
        HostRequest.getPdPortState).reverse ++ w₁.trace ∧
      ∀ i : Fin 6, i.val < inventory.value.usbCSlotCount.toNat →
        notWiredForPd m.frameworkPlatform i = false →
        (charge.value.activePortIndex.toInt = i →
          (inventory.value.usbCSlot i).pd = charge.value.pd) ∧
        ((inventory.value.usbCSlot i).pd.activePort ≠ 0 →
          0 ≤ charge.value.activePortIndex.toInt ∧
            charge.value.activePortIndex.toInt ≤ i) := by
  obtain ⟨outcome, hscan, rfl⟩ := returns_exported hcharge
  obtain ⟨found, w₄, hfirst, hpure⟩ := returns_bind.mp hscan
  obtain ⟨rfl, rfl⟩ := returns_pure.mp hpure
  obtain ⟨rfl, htrace⟩ := returns_firstActivePort hm hfirst
  obtain ⟨built, hbuilt, rfl⟩ := returns_frameworkEcGetModuleInventory hinventory
  refine ⟨rfl, htrace, fun i hi hwired => ?_⟩
  have hslot : (built.usbCSlot i).pd = state (UInt8.ofNat i) := pd_usbCSlot hm hbuilt hi hwired
  have hmem : ∀ i : Fin 6, UInt8.ofNat i ∈ scannedPorts := by decide
  have hnat : (UInt8.ofNat i).toNat = i :=
    UInt8.toNat_ofNat_of_lt' (Nat.lt_trans i.isLt (by decide))
  show ((firstActive state scannedPorts).activePortIndex.toInt = i →
      (built.usbCSlot i).pd = (firstActive state scannedPorts).pd) ∧
    ((built.usbCSlot i).pd.activePort ≠ 0 →
      0 ≤ (firstActive state scannedPorts).activePortIndex.toInt ∧
        (firstActive state scannedPorts).activePortIndex.toInt ≤ i)
  rw [hslot]
  cases hfind : scannedPorts.find? (activeIn state) with
  | none =>
      have hnone : firstActive state scannedPorts = noActiveCharge := by rw [firstActive, hfind]
      have hindex : noActiveCharge.activePortIndex.toInt = -1 := rfl
      rw [hnone, hindex]
      refine ⟨fun heq => by omega, fun hactive => ?_⟩
      obtain ⟨port, hport, -⟩ := exists_found_of_active (hmem i) hactive
      rw [hfind] at hport
      cases hport
  | some port =>
      obtain ⟨hfirst, hindex⟩ := firstActive_of_find? hfind
      rw [hfirst]
      simp only [hindex]
      refine ⟨fun heq => ?_, fun hactive => ⟨Int.natCast_nonneg _, ?_⟩⟩
      · have hport : UInt8.ofNat i = port := UInt8.toNat_inj.mp (by omega)
        rw [hport]
      · obtain ⟨found, hfound, hle⟩ := exists_found_of_active (hmem i) hactive
        obtain rfl := Option.some.inj (hfind.symm.trans hfound)
        have hle' : port.toNat ≤ (UInt8.ofNat i).toNat := UInt8.le_iff_toNat_le.mp hle
        omega

/-- On a quiet machine port 2 charges. -/
def chargingMachine : Machine :=
  Machine.silent.answering (.getPdPortState 2) (.ok { attachedSource with activePort := 1 })

theorem activeCharge_agrees_charging :
    ∃ charge w₁' inventory w₂',
      Returns (frameworkEcGetActiveCharge (some ⟨.crosEc⟩)) chargingMachine .fresh charge w₁' ∧
      Returns (frameworkEcGetModuleInventory (some ⟨.crosEc⟩)) chargingMachine .fresh inventory
        w₂' ∧
      charge.value.activePortIndex = 2 ∧
      (inventory.value.usbCSlot 2).pd = charge.value.pd := by
  have hm : chargingMachine.StablePorts fun port =>
      pdPortStateOfReply (chargingMachine.answer (.getPdPortState port) 0) := ⟨fun _ _ => rfl⟩
  have hcharge : Returns (frameworkEcGetActiveCharge (some ⟨.crosEc⟩)) chargingMachine .fresh
    _ _ := rfl
  have hinventory : Returns (frameworkEcGetModuleInventory (some ⟨.crosEc⟩)) chargingMachine
    .fresh _ _ := rfl
  obtain ⟨hscan, -, hslots⟩ := activeCharge_agrees hm hcharge hinventory
  obtain ⟨hsame, -⟩ := hslots 2 (by decide) (by decide)
  exact ⟨_, _, _, _, hcharge, hinventory, rfl, hsame rfl⟩

end FrameworkFfi
