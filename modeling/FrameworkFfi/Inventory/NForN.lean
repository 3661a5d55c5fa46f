import FrameworkFfi.Inventory.PlacementSpec
import Mathlib.Data.List.Forall2

/-!
# As many cards as ports

`FFI_NOTES` states one rule for every kind of USB card: when as many cards of the
kind are found as there are connected ports left, each card has one of the ports,
and otherwise all of them are detached. `NForN` is that rule for one pass. A pass
of `populate_usb_slots` follows it unless it finds two or more cards and exactly
as many ports.
-/

namespace FrameworkFfi

open Effect

/-- The correlation rule for the pass of one kind, which finds `cards` and the
ports `targets` and makes `after` of `before`. -/
structure NForN (upstream : Upstream) (kind : UsbCardKind) (cards : List UsbModuleObservation)
    (targets : List (Fin 6)) (before after : UsbSlotTable) : Prop where
  /-- As many cards as ports: the cards have the ports, one each. -/
  assigned : cards ≠ [] → cards.length = targets.length →
    (∃ order : List (Fin 6), order.Perm targets ∧
        List.Forall₂ (fun i card =>
          OccupiedBy (after.usbSlots i) i ((EnumeratedCard.usb kind card).fields upstream)
              ((before.usbSlots i).flags ||| 4) ∧
            (after.usbSlots i).pd = (before.usbSlots i).pd) order cards) ∧
      (∀ i, i ∉ targets → after.usbSlots i = before.usbSlots i) ∧
      after.detachedModules = before.detachedModules
  /-- Otherwise the cards are detached in order. -/
  detached : cards = [] ∨ cards.length ≠ targets.length →
    after.usbSlots = before.usbSlots ∧
      DetachedInOrder upstream (cards.map (.usb kind)) before.detachedModules
        after.detachedModules

/-! ### One pass -/

section Pass

variable {upstream : Upstream} {pdStates : PdStates} {cards : DetectedCards}
  {table : UsbSlotTable} {kind : UsbCardKind}

theorem usbPass_of_singletons {card : UsbModuleObservation} {i : Fin 6}
    (hcards : cards.usb kind = [card]) (htargets : candidates pdStates table.usbSlots = [i]) :
    usbPass upstream pdStates cards table kind =
      { table with
        usbSlots := Function.update table.usbSlots i
          ((EnumeratedCard.usb kind card).place upstream (table.usbSlots i) i) } := by
  rw [usbPass, hcards, htargets, correlate]

theorem usbPass_of_not_singletons
    (h : ¬ ((cards.usb kind).length = 1 ∧ (candidates pdStates table.usbSlots).length = 1)) :
    usbPass upstream pdStates cards table kind =
      { table with
        detachedModules :=
          (((cards.usb kind).map (EnumeratedCard.usb kind)).map
            (EnumeratedCard.detach upstream)).foldl pushDetachedModule table.detachedModules } := by
  rw [List.map_map]
  unfold usbPass correlate
  split
  next card i hcards htargets =>
    rw [hcards, htargets] at h
    exact absurd ⟨rfl, rfl⟩ h
  next => rfl

theorem identity_fields_ne (kind : UsbCardKind) (card : UsbModuleObservation) :
    ((EnumeratedCard.usb kind card).fields upstream).identity ≠ .unknownUsbCOccupant := by
  cases kind <;> simp [EnumeratedCard.fields]

/-- A pass leaves two or more cards detached, also when there are as many ports. -/
theorem not_nForN_usbPass (hcards : 2 ≤ (cards.usb kind).length)
    (htargets : (cards.usb kind).length = (candidates pdStates table.usbSlots).length) :
    ¬ NForN upstream kind (cards.usb kind) (candidates pdStates table.usbSlots) table
        (usbPass upstream pdStates cards table kind) := by
  intro h
  have hne : cards.usb kind ≠ [] := List.length_pos_iff.mp (by omega)
  obtain ⟨order, hperm, hassigned⟩ := (h.assigned hne htargets).1
  obtain ⟨card, rest, hcons⟩ := List.exists_cons_of_ne_nil hne
  rw [usbPass_of_not_singletons fun hone => by omega, hcons] at hassigned
  -- the first assigned port still has the occupant that made it a candidate
  obtain ⟨i, order', hfirst, -, rfl⟩ := List.forall₂_cons_right_iff.mp hassigned
  have hmem := hperm.subset List.mem_cons_self
  obtain ⟨p, -, -, -, hidentity⟩ := mem_candidates.mp hmem
  exact identity_fields_ne kind card (hfirst.1.identity.symm.trans hidentity)

theorem nForN_usbPass
    (h : ¬ (2 ≤ (cards.usb kind).length ∧
      (cards.usb kind).length = (candidates pdStates table.usbSlots).length)) :
    NForN upstream kind (cards.usb kind) (candidates pdStates table.usbSlots) table
      (usbPass upstream pdStates cards table kind) where
  assigned := by
    intro hne htargets
    have hpos : 0 < (cards.usb kind).length := List.length_pos_iff.mpr hne
    have hone : (cards.usb kind).length = 1 := by omega
    obtain ⟨card, hcard⟩ := List.length_eq_one_iff.mp hone
    obtain ⟨i, hi⟩ := List.length_eq_one_iff.mp (htargets.symm.trans hone)
    rw [usbPass_of_singletons hcard hi, hcard, hi]
    refine ⟨⟨[i], List.Perm.refl _, List.Forall₂.cons ?_ List.Forall₂.nil⟩, ?_, rfl⟩
    · dsimp only
      rw [Function.update_self]
      exact ⟨occupiedBy_place (.usb kind card) _, rfl⟩
    · intro j hj
      exact Function.update_of_ne (fun heq => hj (List.mem_singleton.mpr heq)) _ _
  detached := by
    intro hdetached
    have hnot : ¬ ((cards.usb kind).length = 1 ∧
        (candidates pdStates table.usbSlots).length = 1) := by
      rintro ⟨hcards, htargets⟩
      rcases hdetached with hnil | hne
      · rw [hnil] at hcards
        cases hcards
      · exact hne (hcards.trans htargets.symm)
    rw [usbPass_of_not_singletons hnot]
    exact ⟨rfl, detachedInOrder_foldl upstream _ _⟩

theorem nForN_usbPass_iff :
    NForN upstream kind (cards.usb kind) (candidates pdStates table.usbSlots) table
        (usbPass upstream pdStates cards table kind) ↔
      ¬ (2 ≤ (cards.usb kind).length ∧
        (cards.usb kind).length = (candidates pdStates table.usbSlots).length) := by
  constructor
  · rintro h ⟨hcards, htargets⟩
    exact not_nForN_usbPass hcards htargets h
  · exact nForN_usbPass

end Pass

/-! ### The ports a pass finds -/

section Found

variable (upstream : Upstream) (n : ℕ) (pd : FixedArray 6 FrameworkEcPdPortState)
  (cards : DetectedCards) (table : UsbSlotTable)

/-- The table after the first loop, the DP/HDMI pass and the passes of `kinds`. -/
def tableAfter (kinds : List UsbCardKind) : UsbSlotTable :=
  kinds.foldl (usbPass upstream (portStates n pd) cards)
    (assignExpansionCards upstream (portStates n pd) cards.hid
      { table with usbSlots := portSlots n pd table.usbSlots })

theorem tableAfter_concat (kinds : List UsbCardKind) (kind : UsbCardKind) :
    tableAfter upstream n pd cards table (kinds ++ [kind]) =
      usbPass upstream (portStates n pd) cards (tableAfter upstream n pd cards table kinds)
        kind := by
  rw [tableAfter, List.foldl_append, List.foldl_cons, List.foldl_nil, tableAfter]

theorem tableAfter_passOrder :
    tableAfter upstream n pd cards table UsbCardKind.passOrder =
      cardPasses upstream (portStates n pd) cards
        { table with usbSlots := portSlots n pd table.usbSlots } := rfl

/-- The ports a pass finds are the targets the correlation has left. -/
theorem candidates_tableAfter (kinds : List UsbCardKind) :
    candidates (portStates n pd) (tableAfter upstream n pd cards table kinds).usbSlots =
      (Correlation.run (plainPorts n pd)
        (kinds.map fun kind => (cards.usb kind).map (EnumeratedCard.usb kind))).targets := by
  have hhid := assignExpansionCards_eq upstream (portStates n pd) cards
    { table with usbSlots := portSlots n pd table.usbSlots }
  rw [dpSlots_portStates] at hhid
  have hstart : ∀ base : UsbSlotTable, base = applyState upstream base
      ⟨plainPorts n pd, none, []⟩ := fun base => rfl
  rw [tableAfter, hhid, hstart (applyState upstream _ (Correlation.run _ _))]
  refine candidates_foldl_usbPass upstream (portStates n pd) cards _ kinds _ (.inl rfl) ?_
  rw [applyState, applyState, Correlation.placed_run]
  exact candidates_placeIn upstream n pd cards table.usbSlots

end Found

/-! ### All passes -/

/-- Every pass of `populate_usb_slots` follows the rule of as many cards as ports
if and only if no kind has two or more cards and as many of them as there are
connected ports out of display mode. -/
theorem populateUsbSlots_nForN_iff {usbCSlotCount : UInt8} (hn : usbCSlotCount.toNat ≤ 6)
    (platform : FrameworkPlatform) (table : UsbSlotTable) (m : Machine) (w : World) :
    let n := usbCSlotCount.toNat
    let pd := m.pdPortStates w
    let cards := m.detectedCards w
    let tableAfter := tableAfter m.upstream n pd cards table
    Returns (populateUsbSlots usbCSlotCount platform table) m w
        (withCapabilities usbCSlotCount platform (tableAfter UsbCardKind.passOrder))
        (w.recordAll (slotRequests n)) ∧
      ((∀ earlier kind later, UsbCardKind.passOrder = earlier ++ kind :: later →
          NForN m.upstream kind (cards.usb kind)
            (candidates (portStates n pd) (tableAfter earlier).usbSlots)
            (tableAfter earlier) (tableAfter (earlier ++ [kind]))) ↔
        ∀ kind, ¬ (2 ≤ (cards.usb kind).length ∧
          (cards.usb kind).length = (plainPorts n pd).length)) := by
  intro n pd cards tableAfter'
  have hpass : ∀ earlier kind,
      NForN m.upstream kind (cards.usb kind)
          (candidates (portStates n pd) (tableAfter' earlier).usbSlots)
          (tableAfter' earlier) (tableAfter' (earlier ++ [kind])) ↔
        ¬ (2 ≤ (cards.usb kind).length ∧
          (cards.usb kind).length = (plainPorts n pd).length) := by
    intro earlier kind
    rw [show tableAfter' (earlier ++ [kind]) = _ from tableAfter_concat _ _ _ _ _ _ _,
      nForN_usbPass_iff, candidates_tableAfter]
    exact not_congr (and_congr_right fun hcards =>
      Correlation.eq_length_targets_run_iff hcards _ _)
  refine ⟨returns_populateUsbSlots_cardPasses hn platform table m w, ?_⟩
  constructor
  · intro h kind
    obtain ⟨earlier, later, horder⟩ := List.append_of_mem kind.mem_passOrder
    exact (hpass earlier kind).mp (h earlier kind later horder)
  · intro h earlier kind later _
    exact (hpass earlier kind).mpr (h kind)

def usbACardDevice (address : ℕ) : UsbDevice :=
  { address
    deviceDescriptor := some
      { vendorId := 0x0BDA
        productId := 0x5432
        versionMajor := 0
        versionMinor := 0
        versionSubMinor := 0
        productStringIndex := none }
    portNumbers := none }

/-- A laptop with two USB-A cards, and nothing in its other two ports. -/
def twoUsbACards : Machine :=
  ((Machine.silent.answering (.getPdPortState 0) (.ok attachedSource)).answering
    (.getPdPortState 1) (.ok attachedSource)).answering
      .usbDevices (some [usbACardDevice 1, usbACardDevice 2])

theorem populateUsbSlots_nForN_iff_two :
    Returns (populateUsbSlots 4 .intelGen12 emptyUsbSlotTable) twoUsbACards .fresh
      (withCapabilities 4 .intelGen12
        (tableAfter .documented 4 (twoUsbACards.pdPortStates .fresh)
          (twoUsbACards.detectedCards .fresh) emptyUsbSlotTable UsbCardKind.passOrder))
      (World.fresh.recordAll (slotRequests 4)) :=
  (populateUsbSlots_nForN_iff (by decide : (4 : UInt8).toNat ≤ 6) .intelGen12 emptyUsbSlotTable
    twoUsbACards .fresh).1

/-- Two USB-A cards in the only two connected ports: the pass leaves both ports
with an unknown occupant and detaches both cards. -/
theorem twoUsbACards_detached :
    let pd := twoUsbACards.pdPortStates .fresh
    let cards := twoUsbACards.detectedCards .fresh
    let before := tableAfter .documented 4 pd cards emptyUsbSlotTable [.audio, .ssd]
    let after := tableAfter .documented 4 pd cards emptyUsbSlotTable [.audio, .ssd, .usbA]
    (cards.usb .usbA).length = 2 ∧ candidates (portStates 4 pd) before.usbSlots = [0, 1] ∧
      (after.usbSlots 0).identity = .unknownUsbCOccupant ∧
      (after.usbSlots 1).identity = .unknownUsbCOccupant ∧
      after.detachedModules.detachedCount = 2 ∧
      ¬ NForN .documented .usbA (cards.usb .usbA) (candidates (portStates 4 pd) before.usbSlots)
        before after := by
  intro pd cards before after
  have hcards : (cards.usb .usbA).length = 2 := rfl
  have htargets : candidates (portStates 4 pd) before.usbSlots = [0, 1] := by decide
  refine ⟨hcards, htargets, by decide, by decide, by decide, ?_⟩
  refine not_nForN_usbPass (Nat.le_of_eq hcards.symm) ?_
  rw [hcards, htargets]
  rfl

end FrameworkFfi
