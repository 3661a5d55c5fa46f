import FrameworkFfi.Inventory.NForN
import FrameworkFfi.Inventory.SlotState

/-!
# Cards on connected ports

The passes of the USB cards look at connected ports only. The DP/HDMI pass looks
at the display bits alone, so it can put a card on a port that reports nothing
attached. `OnConnectedPorts` is what the slots should satisfy after all passes,
and the exception is exactly that pass.
-/

namespace FrameworkFfi

open Effect

/-- The controller answers for port `i`, and something is attached to it. -/
def Machine.ReportsAttached (m : Machine) (w : World) (i : Fin 6) : Prop :=
  ∃ response, m.answer (.getPdPortState (UInt8.ofNat i))
      (w.asked (.getPdPortState (UInt8.ofNat i))) = .ok response ∧ response.cState ≠ 0

/-- A slot that nothing is reported of. -/
structure ReportsEmpty (slot : FrameworkExpansionCardModuleDescriptor) : Prop where
  identity : slot.identity = .none
  present : slot.present = 0
  flags : slot.flags = 0

/-- Only the slots of connected ports are occupied, and all others are empty. -/
structure OnConnectedPorts (m : Machine) (w : World) (n : ℕ) (usbSlots : UsbSlots) : Prop where
  occupied : ∀ i, (usbSlots i).present ≠ 0 ∨ (usbSlots i).identity ≠ .none →
    i.val < n ∧ m.ReportsAttached w i
  empty : ∀ i, ¬ (i.val < n ∧ m.ReportsAttached w i) → ReportsEmpty (usbSlots i)

theorem cState_eq_nothing_iff {v : UInt8} : cState v = .nothing ↔ v = 0 := by
  unfold cState
  split_ifs <;> simp_all

/-- A failed query reads as a port with nothing attached. -/
theorem pdConnected_iff_reportsAttached {m : Machine} {w : World} {i : Fin 6} :
    pdConnected (m.pdPortStates w i) = true ↔ m.ReportsAttached w i := by
  unfold Machine.pdPortStates Machine.pdPortState Machine.ReportsAttached
  cases m.answer (.getPdPortState (UInt8.ofNat i))
      (w.asked (.getPdPortState (UInt8.ofNat i))) with
  | error error => simp [pdPortStateOfReply, pdConnected, defaultPdPortState]
  | ok response => simp [pdPortStateOfReply, pdConnected, cState_eq_nothing_iff]

theorem pdConnected_of_not_reportsAttached {m : Machine} {w : World} {i : Fin 6}
    (h : ¬ m.ReportsAttached w i) : pdConnected (m.pdPortStates w i) = false :=
  Bool.eq_false_iff.mpr fun hconnected => h (pdConnected_iff_reportsAttached.mp hconnected)

section Passes

variable {n : ℕ} {pd : FixedArray 6 FrameworkEcPdPortState} {cards : DetectedCards}
  {upstream : Upstream} {i : Fin 6}

theorem tableAfter_usbSlots (upstream : Upstream) (n : ℕ)
    (pd : FixedArray 6 FrameworkEcPdPortState) (cards : DetectedCards) (table : UsbSlotTable) :
    (tableAfter upstream n pd cards table UsbCardKind.passOrder).usbSlots =
      assignedSlots n pd cards upstream table.usbSlots := by
  rw [tableAfter_passOrder, cardPasses_portSlots]

theorem reportsEmpty_freshSlot (h : pdConnected (pd i) = false) :
    ReportsEmpty (freshSlot i (pd i)) :=
  ⟨(freshSlot_absent h).2.2, (freshSlot_absent h).1, (freshSlot_absent h).2.1⟩

theorem present_place (card : EnumeratedCard) (slot : FrameworkExpansionCardModuleDescriptor) :
    (card.place upstream slot i).present = 1 := by
  cases card <;> rfl

/-- A slot without a port is as it was at the start. -/
theorem assignedSlots_of_le (h : ¬ i.val < n) :
    ReportsEmpty (assignedSlots n pd cards upstream emptyUsbSlotTable.usbSlots i) := by
  have hnone : cardAt n pd cards i = none :=
    Option.eq_none_iff_forall_ne_some.mpr fun card hcard => h (lt_of_cardAt hcard)
  have hport : portSlots n pd emptyUsbSlotTable.usbSlots i =
      defaultExpansionCardModuleDescriptor := if_neg h
  rw [assignedSlots_apply, hnone, hport]
  exact ⟨rfl, rfl, rfl⟩

/-- A port that nothing is attached to has a card exactly when the DP/HDMI pass
puts its one card there. -/
theorem cardAt_of_not_pdConnected (h : pdConnected (pd i) = false) :
    (cardAt n pd cards i).isSome ↔ displayPorts n pd = [i] ∧ cards.hid.length = 1 := by
  rw [Option.isSome_iff_exists]
  constructor
  · rintro ⟨card, hcard⟩
    rcases cardAt_eq_some_iff.mp hcard with hhid | husb
    · obtain ⟨hports, c, hc, -⟩ := (hidPlacement_eq_some_iff n pd cards i card).mp hhid
      exact ⟨hports, List.length_eq_one_iff.mpr ⟨c, hc⟩⟩
    · have hplain := (mem_plainPorts.mp (mem_plainPorts_of_usbPlacement husb)).2.1
      rw [h] at hplain
      cases hplain
  · rintro ⟨hports, hlength⟩
    obtain ⟨c, hc⟩ := List.length_eq_one_iff.mp hlength
    have hhid : hidPlacement n pd cards = some (i, .hid c) :=
      (hidPlacement_eq_some_iff n pd cards i _).mpr ⟨hports, c, hc, rfl⟩
    exact ⟨_, cardAt_eq_some_iff.mpr (.inl hhid)⟩

/-- The slot of a port that nothing is attached to stays empty exactly when the
DP/HDMI pass has no card for it. -/
theorem reportsEmpty_assignedSlots_iff (hi : i.val < n) (h : pdConnected (pd i) = false) :
    ReportsEmpty (assignedSlots n pd cards upstream emptyUsbSlotTable.usbSlots i) ↔
      ¬ (displayPorts n pd = [i] ∧ cards.hid.length = 1) := by
  rw [← cardAt_of_not_pdConnected h, assignedSlots_of_lt hi]
  cases cardAt n pd cards i with
  | none => simpa using reportsEmpty_freshSlot h
  | some card =>
      refine iff_of_false (fun hempty => ?_) (by simp)
      have hzero := hempty.present
      rw [present_place] at hzero
      cases hzero

end Passes

/-- It is enough that the slots of the other ports are empty. -/
theorem onConnectedPorts_iff_empty {m : Machine} {w : World} {n : ℕ} {usbSlots : UsbSlots} :
    OnConnectedPorts m w n usbSlots ↔
      ∀ i, ¬ (i.val < n ∧ m.ReportsAttached w i) → ReportsEmpty (usbSlots i) := by
  refine ⟨fun h => h.empty, fun hempty => ⟨fun i hoccupied => ?_, hempty⟩⟩
  by_contra hnot
  have hslot := hempty i hnot
  rcases hoccupied with hpresent | hidentity
  · exact hpresent hslot.present
  · exact hidentity hslot.identity

/-- After all passes the cards are on connected ports if and only if the DP/HDMI
pass does not place its card on a port that nothing is attached to. -/
theorem populateUsbSlots_onConnectedPorts_iff {usbCSlotCount : UInt8}
    (hn : usbCSlotCount.toNat ≤ 6) (platform : FrameworkPlatform) (m : Machine) (w : World) :
    let n := usbCSlotCount.toNat
    let pd := m.pdPortStates w
    let cards := m.detectedCards w
    let table := tableAfter m.upstream n pd cards emptyUsbSlotTable UsbCardKind.passOrder
    Returns (populateUsbSlots usbCSlotCount platform emptyUsbSlotTable) m w
        (withCapabilities usbCSlotCount platform table) (w.recordAll (slotRequests n)) ∧
      (OnConnectedPorts m w n table.usbSlots ↔
        ∀ i, displayPorts n pd = [i] → cards.hid.length = 1 → m.ReportsAttached w i) := by
  intro n pd cards table
  refine ⟨returns_populateUsbSlots_cardPasses hn platform emptyUsbSlotTable m w, ?_⟩
  have hslots : table.usbSlots = assignedSlots n pd cards m.upstream
      emptyUsbSlotTable.usbSlots := tableAfter_usbSlots _ _ _ _ _
  rw [hslots, onConnectedPorts_iff_empty]
  constructor
  · intro hempty i hports hlength
    by_contra hattached
    have hi : i.val < n := by
      have hmem : i ∈ displayPorts n pd := by
        rw [hports]
        exact List.mem_singleton_self i
      exact (mem_displayPorts.mp hmem).1
    have hnot : ¬ (i.val < n ∧ m.ReportsAttached w i) := fun hboth => hattached hboth.2
    exact (reportsEmpty_assignedSlots_iff hi (pdConnected_of_not_reportsAttached hattached)).mp
      (hempty i hnot) ⟨hports, hlength⟩
  · intro h i hnot
    by_cases hi : i.val < n
    · have hattached : ¬ m.ReportsAttached w i := fun hattached => hnot ⟨hi, hattached⟩
      refine (reportsEmpty_assignedSlots_iff hi
        (pdConnected_of_not_reportsAttached hattached)).mpr ?_
      rintro ⟨hports, hlength⟩
      exact hattached (h i hports hlength)
    · exact assignedSlots_of_le hi

/-- The answer of a port that reports nothing attached and a display mode. -/
def detachedDisplay : EcResponseGetPdPortState :=
  { attachedSource with cState := 0, pdAltModeStatus := 1 }

/-- A laptop with one HDMI card, and display bits on a port with nothing attached. -/
def straySink : Machine :=
  (Machine.silent.answering (.getPdPortState 0) (.ok detachedDisplay)).answering
    .findExpansionCardDevices (some [⟨0x32AC, 0x0002, 0⟩])

theorem populateUsbSlots_onConnectedPorts_iff_stray :
    Returns (populateUsbSlots 4 .intelGen12 emptyUsbSlotTable) straySink .fresh
      (withCapabilities 4 .intelGen12
        (tableAfter .documented 4 (straySink.pdPortStates .fresh)
          (straySink.detectedCards .fresh) emptyUsbSlotTable UsbCardKind.passOrder))
      (World.fresh.recordAll (slotRequests 4)) :=
  (populateUsbSlots_onConnectedPorts_iff (by decide : (4 : UInt8).toNat ≤ 6) .intelGen12
    straySink .fresh).1

/-- Port `0` reports nothing attached, and its slot holds the HDMI card. -/
theorem straySink_occupied :
    let table := tableAfter .documented 4 (straySink.pdPortStates .fresh)
      (straySink.detectedCards .fresh) emptyUsbSlotTable UsbCardKind.passOrder
    (straySink.pdPortStates .fresh 0).cState = .nothing ∧ (table.usbSlots 0).present = 1 ∧
      (table.usbSlots 0).identity = .hdmiExpansionCard ∧
      ¬ OnConnectedPorts straySink .fresh 4 table.usbSlots := by
  intro table
  have hpresent : (table.usbSlots 0).present = 1 := by decide
  refine ⟨by decide, hpresent, by decide, fun h => ?_⟩
  have hattached := (h.occupied 0 (.inl (by rw [hpresent]; decide))).2
  have hconnected : pdConnected (straySink.pdPortStates .fresh 0) = true :=
    pdConnected_iff_reportsAttached.mpr hattached
  exact absurd hconnected (by decide)

end FrameworkFfi
