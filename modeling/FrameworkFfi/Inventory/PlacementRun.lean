import FrameworkFfi.Inventory.Placement

/-!
# The passes refine the correlation

A pass of `populate_usb_slots` computes its targets anew from the slots. They
are the targets the correlation has left: a placed card gives its slot an
identity other than the unknown occupant, so its port is no candidate any more.
-/

namespace FrameworkFfi

open Effect

/-- The table of a state of the correlation over the table it started on. -/
def applyState (upstream : Upstream) (base : UsbSlotTable)
    (state : Correlation.State (Fin 6) EnumeratedCard) : UsbSlotTable :=
  { usbSlots := placeIn upstream state.placed base.usbSlots
    detachedModules :=
      (state.unplaced.map (EnumeratedCard.detach upstream)).foldl pushDetachedModule
        base.detachedModules }

/-- Nothing is placed yet, or no target is left. -/
def Settled (state : Correlation.State (Fin 6) EnumeratedCard) : Prop :=
  state.placed = none ∨ state.targets = []

theorem settled_step {state : Correlation.State (Fin 6) EnumeratedCard} (h : Settled state)
    (group : List EnumeratedCard) : Settled (Correlation.step state group) := by
  unfold Correlation.step
  split
  · exact .inr rfl
  · exact h

/-- A pass on the table of a state is the arrival of its cards. -/
theorem correlate_applyState {κ : Type} (upstream : Upstream) (base : UsbSlotTable)
    {state : Correlation.State (Fin 6) EnumeratedCard} (h : Settled state) (cards : List κ)
    (tag : κ → EnumeratedCard) :
    correlate state.targets cards (fun slot i card => (tag card).place upstream slot i)
        (fun card => (tag card).detach upstream) (applyState upstream base state) =
      applyState upstream base (Correlation.step state (cards.map tag)) := by
  by_cases htargets : state.targets.length = 1
  · obtain ⟨target, htarget⟩ := List.length_eq_one_iff.mp htargets
    have hplaced : state.placed = none := by
      rcases h with h | h
      · exact h
      · rw [h] at htarget
        cases htarget
    rcases cards with _ | ⟨card, _ | ⟨second, rest⟩⟩
    · simp [correlate, Correlation.step, applyState]
    · simp [correlate, Correlation.step, applyState, htarget, hplaced, placeIn]
    · simp [correlate, Correlation.step, applyState, List.foldl_append, Function.comp_def]
  · have hcorrelate : ∀ table, correlate state.targets cards
        (fun slot i card => (tag card).place upstream slot i)
        (fun card => (tag card).detach upstream) table =
          { table with
            detachedModules := (cards.map fun card => (tag card).detach upstream).foldl
              pushDetachedModule table.detachedModules } := by
      intro table
      unfold correlate
      split
      next card target _ heq =>
        rw [heq] at htargets
        exact absurd rfl htargets
      next => rfl
    rw [hcorrelate, Correlation.step_of_targets_ne htargets]
    simp only [applyState, List.map_append, List.map_map, List.foldl_append]
    rfl

/-! ### The candidates -/

theorem mem_candidates {pdStates : PdStates} {usbSlots : UsbSlots} {i : Fin 6} :
    i ∈ candidates pdStates usbSlots ↔
      ∃ p, pdStates i = some p ∧ pdConnected p = true ∧ pdDpAltMode p = false ∧
        (usbSlots i).identity = .unknownUsbCOccupant := by
  cases hp : pdStates i with
  | none => simp [candidates, hp]
  | some p => simp [candidates, hp, and_assoc]

/-- Overwriting the one candidate with an identified card leaves none. -/
theorem candidates_update {pdStates : PdStates} {usbSlots : UsbSlots} {target : Fin 6}
    (h : candidates pdStates usbSlots = [target])
    {slot : FrameworkExpansionCardModuleDescriptor}
    (hslot : slot.identity ≠ .unknownUsbCOccupant) :
    candidates pdStates (Function.update usbSlots target slot) = [] := by
  refine List.eq_nil_iff_forall_not_mem.mpr fun i hi => ?_
  obtain ⟨p, hp, hconnected, hdp, hidentity⟩ := mem_candidates.mp hi
  by_cases hit : i = target
  · subst hit
    rw [Function.update_self] at hidentity
    exact hslot hidentity
  · rw [Function.update_of_ne hit] at hidentity
    have hmem : i ∈ candidates pdStates usbSlots :=
      mem_candidates.mpr ⟨p, hp, hconnected, hdp, hidentity⟩
    rw [h, List.mem_singleton] at hmem
    exact hit hmem

/-- The candidates of the table of a state are its targets, and stay so. -/
theorem candidates_step {pdStates : PdStates} (upstream : Upstream) (base : UsbSlotTable)
    {state : Correlation.State (Fin 6) EnumeratedCard} (h : Settled state)
    (hcandidates :
      candidates pdStates (applyState upstream base state).usbSlots = state.targets)
    (kind : UsbCardKind) (cards : List UsbModuleObservation) :
    candidates pdStates
        (applyState upstream base (Correlation.step state (cards.map (.usb kind)))).usbSlots =
      (Correlation.step state (cards.map (.usb kind))).targets := by
  cases hgroup : Correlation.only (cards.map (EnumeratedCard.usb kind)) with
  | none =>
      rw [Correlation.step_of_only_eq_none hgroup]
      exact hcandidates
  | some card =>
      by_cases htargets : state.targets.length = 1
      · obtain ⟨target, htarget⟩ := List.length_eq_one_iff.mp htargets
        have hplaced : state.placed = none := by
          rcases h with h | h
          · exact h
          · rw [h] at htarget
            cases htarget
        obtain ⟨card', -, rfl⟩ : ∃ card' ∈ cards, EnumeratedCard.usb kind card' = card := by
          have hmem : card ∈ cards.map (EnumeratedCard.usb kind) := by
            rw [Correlation.only_eq_some_iff.mp hgroup]
            exact List.mem_singleton_self card
          exact List.mem_map.mp hmem
        rw [Correlation.step_of_only htarget hgroup]
        simp only [applyState, hplaced, placeIn] at hcandidates ⊢
        rw [htarget] at hcandidates
        exact candidates_update hcandidates kind.identity_ne
      · rw [Correlation.step_of_targets_ne htargets]
        exact hcandidates

/-! ### The six USB passes -/

def usbPass (upstream : Upstream) (pdStates : PdStates) (cards : DetectedCards)
    (table : UsbSlotTable) (kind : UsbCardKind) : UsbSlotTable :=
  correlate (candidates pdStates table.usbSlots) (cards.usb kind)
    (fun slot i card => (EnumeratedCard.usb kind card).place upstream slot i)
    (fun card => (EnumeratedCard.usb kind card).detach upstream) table

/-- The passes of `populate_usb_slots` on known cards. -/
def cardPasses (upstream : Upstream) (pdStates : PdStates) (cards : DetectedCards)
    (table : UsbSlotTable) : UsbSlotTable :=
  UsbCardKind.passOrder.foldl (usbPass upstream pdStates cards)
    (assignExpansionCards upstream pdStates cards.hid table)

theorem foldl_usbPass (upstream : Upstream) (pdStates : PdStates) (cards : DetectedCards)
    (base : UsbSlotTable) (kinds : List UsbCardKind)
    (state : Correlation.State (Fin 6) EnumeratedCard) (h : Settled state)
    (hcandidates :
      candidates pdStates (applyState upstream base state).usbSlots = state.targets) :
    kinds.foldl (usbPass upstream pdStates cards) (applyState upstream base state) =
      applyState upstream base
        ((kinds.map fun kind => (cards.usb kind).map (.usb kind)).foldl Correlation.step
          state) := by
  induction kinds generalizing state with
  | nil => rfl
  | cons kind kinds ih =>
      have hpass : usbPass upstream pdStates cards (applyState upstream base state) kind =
          applyState upstream base
            (Correlation.step state ((cards.usb kind).map (.usb kind))) := by
        rw [usbPass, hcandidates]
        exact correlate_applyState upstream base h (cards.usb kind) (.usb kind)
      rw [List.foldl_cons, hpass, List.map_cons, List.foldl_cons]
      exact ih _ (settled_step h _) (candidates_step upstream base h hcandidates kind _)

/-- After the passes of some kinds the candidates are the targets that are left. -/
theorem candidates_foldl_usbPass (upstream : Upstream) (pdStates : PdStates)
    (cards : DetectedCards) (base : UsbSlotTable) (kinds : List UsbCardKind)
    (state : Correlation.State (Fin 6) EnumeratedCard) (h : Settled state)
    (hcandidates :
      candidates pdStates (applyState upstream base state).usbSlots = state.targets) :
    candidates pdStates
        (kinds.foldl (usbPass upstream pdStates cards)
          (applyState upstream base state)).usbSlots =
      ((kinds.map fun kind => (cards.usb kind).map (.usb kind)).foldl Correlation.step
        state).targets := by
  rw [foldl_usbPass upstream pdStates cards base kinds state h hcandidates]
  induction kinds generalizing state with
  | nil => exact hcandidates
  | cons kind kinds ih =>
      rw [List.map_cons, List.foldl_cons]
      exact ih _ (settled_step h _) (candidates_step upstream base h hcandidates kind _)

theorem assignExpansionCards_eq (upstream : Upstream) (pdStates : PdStates)
    (cards : DetectedCards) (table : UsbSlotTable) :
    assignExpansionCards upstream pdStates cards.hid table =
      applyState upstream table (Correlation.run (dpSlots pdStates) cards.hidGroups) :=
  correlate_applyState upstream table
    (.inl rfl : Settled ⟨dpSlots pdStates, none, []⟩) cards.hid .hid

/-! ### The ports after the first loop -/

theorem dpSlots_portStates (n : ℕ) (pd : FixedArray 6 FrameworkEcPdPortState) :
    dpSlots (portStates n pd) = displayPorts n pd := by
  refine List.filter_congr fun i _ => ?_
  by_cases h : i.val < n
  · simp [portStates, h]
  · simp [portStates, h]

theorem mem_displayPorts {n : ℕ} {pd : FixedArray 6 FrameworkEcPdPortState} {i : Fin 6} :
    i ∈ displayPorts n pd ↔ i.val < n ∧ pdDpAltMode (pd i) = true := by
  simp [displayPorts]

theorem mem_plainPorts {n : ℕ} {pd : FixedArray 6 FrameworkEcPdPortState} {i : Fin 6} :
    i ∈ plainPorts n pd ↔
      i.val < n ∧ pdConnected (pd i) = true ∧ pdDpAltMode (pd i) = false := by
  simp [plainPorts, and_assoc]

theorem identity_portSlot {index : ℕ} {pd : FrameworkEcPdPortState}
    (h : pdConnected pd = true) (slot : FrameworkExpansionCardModuleDescriptor) :
    (portSlot index pd slot).identity = .unknownUsbCOccupant := by
  rw [portSlot, if_pos h]
  rfl

/-- The DP/HDMI card never stands on a candidate, so the candidates after its
pass are the plain ports. -/
theorem candidates_placeIn (upstream : Upstream) (n : ℕ)
    (pd : FixedArray 6 FrameworkEcPdPortState) (cards : DetectedCards) (usbSlots : UsbSlots) :
    candidates (portStates n pd)
        (placeIn upstream (hidPlacement n pd cards) (portSlots n pd usbSlots)) =
      plainPorts n pd := by
  refine List.filter_congr fun i _ => ?_
  by_cases h : i.val < n
  · cases hdp : pdDpAltMode (pd i) with
    | true => simp [portStates, h, hdp]
    | false =>
        have hslot : placeIn upstream (hidPlacement n pd cards) (portSlots n pd usbSlots) i =
            portSlot i (pd i) (usbSlots i) := by
          cases hplacement : hidPlacement n pd cards with
          | none => exact if_pos h
          | some pair =>
              have hne : i ≠ pair.1 := by
                rintro rfl
                have htargets := (Correlation.targets_eq_of_placement hplacement).1
                have hmem : pair.1 ∈ displayPorts n pd := by
                  rw [htargets]
                  exact List.mem_singleton_self pair.1
                rw [mem_displayPorts, hdp] at hmem
                exact Bool.false_ne_true hmem.2
              rw [placeIn, Function.update_of_ne hne]
              exact if_pos h
        rw [hslot]
        cases hconnected : pdConnected (pd i) with
        | true => simp [portStates, h, hdp, hconnected, identity_portSlot hconnected]
        | false => simp [portStates, h, hconnected]
  · simp [portStates, h]

/-- The seven passes after the first loop have the net effect of both runs. -/
theorem cardPasses_portSlots (upstream : Upstream) (n : ℕ)
    (pd : FixedArray 6 FrameworkEcPdPortState) (cards : DetectedCards) (table : UsbSlotTable) :
    cardPasses upstream (portStates n pd) cards
        { table with usbSlots := portSlots n pd table.usbSlots } =
      { usbSlots := assignedSlots n pd cards upstream table.usbSlots
        detachedModules :=
          ((unassignedCards n pd cards).map (EnumeratedCard.detach upstream)).foldl
            pushDetachedModule table.detachedModules } := by
  have hhid := assignExpansionCards_eq upstream (portStates n pd) cards
    { table with usbSlots := portSlots n pd table.usbSlots }
  rw [dpSlots_portStates] at hhid
  have hstart : ∀ base : UsbSlotTable, base = applyState upstream base
      ⟨plainPorts n pd, none, []⟩ := fun base => rfl
  rw [cardPasses, hhid, hstart (applyState upstream _ (Correlation.run _ _)),
    foldl_usbPass upstream (portStates n pd) cards _ UsbCardKind.passOrder _ (.inl rfl)]
  · have hrun : (UsbCardKind.passOrder.map fun kind =>
        (cards.usb kind).map (EnumeratedCard.usb kind)).foldl Correlation.step
          ⟨plainPorts n pd, none, []⟩ = Correlation.run (plainPorts n pd) cards.usbGroups := rfl
    rw [hrun, applyState, Correlation.placed_run, Correlation.unplaced_run, applyState,
      Correlation.placed_run, Correlation.unplaced_run, unassignedCards, List.map_append,
      List.foldl_append]
    rfl
  · rw [applyState, applyState, Correlation.placed_run]
    exact candidates_placeIn upstream n pd cards table.usbSlots

/-! ### The slots, one by one -/

section Slots

variable {n : ℕ} {pd : FixedArray 6 FrameworkEcPdPortState} {cards : DetectedCards}

theorem cardOn_eq_some_iff {κ : Type} {i : Fin 6} {pair : Option (Fin 6 × κ)} {card : κ} :
    cardOn i pair = some card ↔ pair = some (i, card) := by
  rcases pair with _ | ⟨j, other⟩
  · simp [cardOn]
  · by_cases hj : j = i
    · subst hj
      simp [cardOn]
    · simp [cardOn, hj]

theorem mem_displayPorts_of_hidPlacement {i : Fin 6} {card : EnumeratedCard}
    (h : hidPlacement n pd cards = some (i, card)) : i ∈ displayPorts n pd := by
  rw [(Correlation.targets_eq_of_placement h).1]
  exact List.mem_singleton_self i

theorem mem_plainPorts_of_usbPlacement {i : Fin 6} {card : EnumeratedCard}
    (h : usbPlacement n pd cards = some (i, card)) : i ∈ plainPorts n pd := by
  rw [(Correlation.targets_eq_of_placement h).1]
  exact List.mem_singleton_self i

/-- The two runs never place on the same slot: one takes display ports only and
the other plain ports only. -/
theorem hidPlacement_ne {i : Fin 6} {card : EnumeratedCard}
    (h : usbPlacement n pd cards = some (i, card)) (other : EnumeratedCard) :
    hidPlacement n pd cards ≠ some (i, other) := by
  intro hhid
  have hdp := (mem_displayPorts.mp (mem_displayPorts_of_hidPlacement hhid)).2
  have hplain := (mem_plainPorts.mp (mem_plainPorts_of_usbPlacement h)).2.2
  rw [hdp] at hplain
  cases hplain

theorem cardOn_hidPlacement_eq_none {i : Fin 6} {card : EnumeratedCard}
    (h : usbPlacement n pd cards = some (i, card)) :
    cardOn i (hidPlacement n pd cards) = none := by
  refine Option.eq_none_iff_forall_ne_some.mpr fun other hother => ?_
  exact hidPlacement_ne h other (cardOn_eq_some_iff.mp hother)

theorem cardOn_usbPlacement_eq_none {i : Fin 6} {card : EnumeratedCard}
    (h : hidPlacement n pd cards = some (i, card)) :
    cardOn i (usbPlacement n pd cards) = none := by
  refine Option.eq_none_iff_forall_ne_some.mpr fun other hother => ?_
  exact hidPlacement_ne (cardOn_eq_some_iff.mp hother) card h

/-- A card in a slot is the DP/HDMI card or the USB card. -/
theorem cardAt_eq_some_iff {i : Fin 6} {card : EnumeratedCard} :
    cardAt n pd cards i = some card ↔
      hidPlacement n pd cards = some (i, card) ∨ usbPlacement n pd cards = some (i, card) := by
  rw [cardAt, Option.or_eq_some_iff, cardOn_eq_some_iff, cardOn_eq_some_iff]
  constructor
  · rintro (hhid | ⟨-, husb⟩)
    · exact .inl hhid
    · exact .inr husb
  · rintro (hhid | husb)
    · exact .inl hhid
    · exact .inr ⟨cardOn_hidPlacement_eq_none husb, husb⟩

theorem lt_of_cardAt {i : Fin 6} {card : EnumeratedCard}
    (h : cardAt n pd cards i = some card) : i.val < n := by
  rcases cardAt_eq_some_iff.mp h with hhid | husb
  · exact (mem_displayPorts.mp (mem_displayPorts_of_hidPlacement hhid)).1
  · exact (mem_plainPorts.mp (mem_plainPorts_of_usbPlacement husb)).1

theorem placeIn_apply (upstream : Upstream) (pair : Option (Fin 6 × EnumeratedCard))
    (usbSlots : UsbSlots) (i : Fin 6) :
    placeIn upstream pair usbSlots i =
      match cardOn i pair with
      | none => usbSlots i
      | some card => card.place upstream (usbSlots i) i := by
  rcases pair with _ | ⟨j, card⟩
  · rfl
  · by_cases hj : j = i
    · subst hj
      simp [placeIn, cardOn]
    · simp [placeIn, cardOn, hj, Function.update_of_ne (Ne.symm hj)]

/-- A slot without a card is what the first loop left, and a slot with a card is
that card over it. -/
theorem assignedSlots_apply (upstream : Upstream) (usbSlots : UsbSlots) (i : Fin 6) :
    assignedSlots n pd cards upstream usbSlots i =
      match cardAt n pd cards i with
      | none => portSlots n pd usbSlots i
      | some card => card.place upstream (portSlots n pd usbSlots i) i := by
  rw [assignedSlots, placeIn_apply, placeIn_apply]
  cases hcard : cardAt n pd cards i with
  | none =>
      have hnone := Option.or_eq_none_iff.mp hcard
      rw [hnone.1, hnone.2]
  | some card =>
      rcases cardAt_eq_some_iff.mp hcard with hhid | husb
      · rw [cardOn_usbPlacement_eq_none hhid, cardOn_eq_some_iff.mpr hhid]
      · rw [cardOn_hidPlacement_eq_none husb, cardOn_eq_some_iff.mpr husb]

end Slots

/-! ### The detached entries -/

theorem pushDetachedModule_of_lt {modules : DetachedModules}
    (h : modules.detachedCount.toNat < 4) (descriptor : FrameworkModuleDescriptor) :
    pushDetachedModule modules descriptor =
      { detached := Function.update modules.detached ⟨modules.detachedCount.toNat, h⟩ descriptor
        detachedCount := modules.detachedCount + 1 } := dif_pos h

theorem pushDetachedModule_of_le {modules : DetachedModules}
    (h : 4 ≤ modules.detachedCount.toNat) (descriptor : FrameworkModuleDescriptor) :
    pushDetachedModule modules descriptor = modules := dif_neg (Nat.not_lt.mpr h)

theorem toNat_add_one {count : UInt8} (h : count.toNat < 4) :
    (count + 1).toNat = count.toNat + 1 := by
  rw [UInt8.toNat_add, Nat.mod_eq_of_lt]
  · rfl
  · simp only [UInt8.reduceToNat]
    omega

/-- Pushing modules fills the free entries in order and counts up to four. -/
theorem foldl_pushDetachedModule (modules : List FrameworkModuleDescriptor)
    (before : DetachedModules) (hbefore : before.detachedCount.toNat ≤ 4) :
    modules.foldl pushDetachedModule before =
      { detached := fun k =>
          if k.val < before.detachedCount.toNat then before.detached k
          else modules[k.val - before.detachedCount.toNat]?.getD (before.detached k)
        detachedCount :=
          UInt8.ofNat (min 4 (before.detachedCount.toNat + modules.length)) } := by
  induction modules generalizing before with
  | nil =>
      ext k
      · simp
      · simp [Nat.min_eq_right hbefore]
  | cons descriptor modules ih =>
      rw [List.foldl_cons]
      by_cases hlt : before.detachedCount.toNat < 4
      · have hcount := toNat_add_one hlt
        rw [pushDetachedModule_of_lt hlt, ih _ (by rw [hcount]; omega)]
        ext k
        · simp only [hcount]
          rcases Nat.lt_trichotomy k.val before.detachedCount.toNat with hk | hk | hk
          · have hne : k ≠ ⟨before.detachedCount.toNat, hlt⟩ := Fin.ne_of_val_ne (Nat.ne_of_lt hk)
            rw [if_pos hk, if_pos (Nat.lt_succ_of_lt hk), Function.update_of_ne hne]
          · have heq : k = ⟨before.detachedCount.toNat, hlt⟩ := Fin.ext hk
            subst heq
            rw [if_pos (Nat.lt_succ_self _), if_neg (Nat.lt_irrefl _), Function.update_self,
              Nat.sub_self, List.getElem?_cons_zero, Option.getD_some]
          · have hne : k ≠ ⟨before.detachedCount.toNat, hlt⟩ := Fin.ne_of_val_ne (Nat.ne_of_gt hk)
            have hindex : k.val - before.detachedCount.toNat =
                k.val - (before.detachedCount.toNat + 1) + 1 := by omega
            rw [if_neg (by omega), if_neg (by omega), Function.update_of_ne hne, hindex,
              List.getElem?_cons_succ]
        · simp only [hcount, List.length_cons]
          congr 2
          omega
      · have hfull : before.detachedCount.toNat = 4 := by omega
        rw [pushDetachedModule_of_le (by omega), ih before hbefore]
        ext k
        · have hk : k.val < before.detachedCount.toNat := by omega
          simp only [if_pos hk]
        · have hmin : min 4 (4 + modules.length) = min 4 (4 + (modules.length + 1)) := by omega
          simp only [hfull, List.length_cons, hmin]

/-- From an empty table the detached entries are the first four modules. -/
theorem foldl_pushDetachedModule_of_empty (modules : List FrameworkModuleDescriptor)
    {before : DetachedModules} (hbefore : before.detachedCount = 0) :
    modules.foldl pushDetachedModule before = firstDetached modules before.detached := by
  have hzero : before.detachedCount.toNat = 0 := by rw [hbefore]; rfl
  rw [foldl_pushDetachedModule modules before (by omega), firstDetached]
  simp only [hzero, Nat.not_lt_zero, if_false, Nat.sub_zero, Nat.zero_add]

end FrameworkFfi
