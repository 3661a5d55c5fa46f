import FrameworkFfi.Exports.Inventory
import FrameworkFfi.Inventory.ReportedOnceRun
import FrameworkFfi.Inventory.SlotState
import FrameworkFfi.Library.Program.Alike

/-!
# The parts of an inventory do not disturb each other

Each part of the inventory is filled in from a few requests of its own. What the machine
answers to the others, whether it answers them at all, and what was asked before does not
show in it. So a query that fails takes no more than its own part with it.
-/

namespace FrameworkFfi

open Effect

/-! ### Parts and their requests -/

/-- The parts of an inventory. The PD state of a slot is one of its own beside the cards. -/
inductive InventoryPart where
  | cards
  | pd (port : Fin 6)
  | inputTopRow
  | inputTouchpad
  | internalKeyboard
  | internalTouchpad
  | fingerprintReader
  | touchscreen
  | webcam
  | expansionBay

def InventoryPart.requests (family : Option PlatformFamily) : InventoryPart → List HostRequest
  | .cards => portRequests (mainboardPdPortCount family).toNat ++
      [.findExpansionCardDevices, .usbDevices]
  | .pd port => [.getPdPortState (UInt8.ofNat port)]
  | .inputTopRow =>
      if family = some .framework16 then [.getInputDeckStatus, .usbDevices] else []
  | .inputTouchpad =>
      if family = some .framework16 then [.getInputDeckStatus, .hidDeviceList] else []
  | .internalKeyboard => if family = some .framework16 then [] else [.getFeatures]
  | .internalTouchpad =>
      if family = some .framework16 then []
      else [.getFeatures, .readBoardIdHc .touchpad, .hidDeviceList]
  | .fingerprintReader => [.getFeatures, .getFpLedLevel]
  | .touchscreen => [.hidDeviceList]
  | .webcam => [.usbDevices]
  | .expansionBay => [.expansionBayStatus, .getGpuPcie]

def InventoryPart.Same (inventory inventory' : FrameworkModuleInventory) :
    InventoryPart → Prop
  | .cards => inventory.usbCSlotCount = inventory'.usbCSlotCount ∧
      inventory.usbCSlot = inventory'.usbCSlot ∧
      inventory.detachedCount = inventory'.detachedCount ∧
      inventory.detached = inventory'.detached
  | .pd port => (inventory.usbCSlot port).pd = (inventory'.usbCSlot port).pd
  | .inputTopRow => inventory.inputTopRowCount = inventory'.inputTopRowCount ∧
      inventory.inputTopRow = inventory'.inputTopRow
  | .inputTouchpad => inventory.inputTouchpad = inventory'.inputTouchpad
  | .internalKeyboard => inventory.internalKeyboard = inventory'.internalKeyboard
  | .internalTouchpad => inventory.internalTouchpad = inventory'.internalTouchpad
  | .fingerprintReader => inventory.fingerprintReader = inventory'.fingerprintReader
  | .touchscreen => inventory.touchscreen = inventory'.touchscreen
  | .webcam => inventory.webcam = inventory'.webcam
  | .expansionBay => inventory.expansionBay = inventory'.expansionBay

/-- Two machines of one kind that always answer these requests alike. -/
structure Machine.AnswerAlike (requests : List HostRequest) (m m' : Machine) : Prop where
  family : m.family = m'.family
  platform : m.platform = m'.platform
  upstream : m.upstream = m'.upstream
  answer : ∀ request ∈ requests, ∀ k k', m.answer request k = m'.answer request k'

/-! ### Requests and statuses -/

/-- Both results fail, or both succeed with related values. -/
def BothOk {α β : Type} (Q : α → β → Prop) : StatusResult α → StatusResult β → Prop
  | .ok a, .ok b => Q a b
  | .error _, .error _ => True
  | _, _ => False

theorem unwrapOr_eq_of_bothOk {α : Type} {result result' : StatusResult α}
    (h : BothOk Eq result result') (default : α) :
    unwrapOr result default = unwrapOr result' default := by
  cases result with
  | ok a =>
      cases result' with
      | ok b => exact h
      | error status => exact h.elim
  | error status =>
      cases result' with
      | ok b => exact h.elim
      | error status' => rfl

section Rules

variable {α β γ δ : Type} {R : Machine → Machine → Prop} {Q : α → β → Prop}
  {T : γ → δ → Prop}

theorem alike_skip {p : Ffi α} {q : Ffi β} {k : α → Ffi γ} {l : β → Ffi δ}
    (h : ∀ a b, Alike R T (k a) (l b)) : Alike R T (p >>= k) (q >>= l) :=
  (alike_trivial p q).bind fun a b _ => h a b

/-- The status of an error depends on the errors before it, that there is one does not. -/
theorem alike_orStatus (result : EcResult α) :
    Alike R (BothOk Eq) (orStatus result) (orStatus result) := by
  cases result with
  | ok a => exact alike_pure rfl
  | error error => exact alike_skip fun _ _ => alike_pure trivial

theorem alike_andThen {p : Ffi (StatusResult α)} {q : Ffi (StatusResult β)}
    {k : α → Ffi (StatusResult γ)} {l : β → Ffi (StatusResult δ)}
    (hp : Alike R (BothOk Q) p q) (hk : ∀ a b, Q a b → Alike R (BothOk T) (k a) (l b)) :
    Alike R (BothOk T) (andThen p k) (andThen q l) := by
  refine hp.bind ?_
  rintro (status | a) (status' | b) h
  · exact alike_pure trivial
  · exact h.elim
  · exact h.elim
  · exact hk a b h

theorem alike_checkIndex (n index : ℕ) :
    Alike R Eq (checkIndex n index) (checkIndex n index) := by
  unfold checkIndex
  split_ifs
  · exact alike_pure rfl
  · exact alike_abort _

end Rules

section Requests

variable {requests : List HostRequest}

theorem alike_ask {request : HostRequest} (h : request ∈ requests) :
    Alike (Machine.AnswerAlike requests) Eq (ask request) (ask request) :=
  alike_act fun _ _ _ _ hR => hR.answer request h _ _

theorem alike_upstream {α : Type} (f : Upstream → α) :
    Alike (Machine.AnswerAlike requests) Eq (view fun m => f m.upstream : Ffi α)
      (view fun m => f m.upstream) :=
  alike_view fun _ _ hR => congrArg f hR.upstream

theorem alike_featureEnabled (h : .getFeatures ∈ requests) (feature : EcFeatureCode) :
    Alike (Machine.AnswerAlike requests) (BothOk Eq) (featureEnabled feature)
      (featureEnabled feature) := by
  have hflags : Alike (Machine.AnswerAlike requests) (BothOk Eq) readFeatureFlags
      readFeatureFlags := (alike_ask h).then fun reply => alike_orStatus reply
  refine alike_andThen hflags ?_
  rintro flags _ rfl
  exact (alike_upstream fun upstream => upstream.featureCode feature).then fun _ =>
    alike_pure rfl

theorem alike_detectHidLocal (h : .hidDeviceList ∈ requests)
    (isMatch : Upstream → HidDevice → Bool) :
    Alike (Machine.AnswerAlike requests) Eq
      (do
        let upstream ← view Machine.upstream
        let devices ← ask .hidDeviceList
        pure (hidObservations (isMatch upstream) devices))
      (do
        let upstream ← view Machine.upstream
        let devices ← ask .hidDeviceList
        pure (hidObservations (isMatch upstream) devices)) :=
  (alike_upstream id).then fun _ => (alike_ask h).then fun _ => alike_pure rfl

theorem alike_detectUsbLocal (h : .usbDevices ∈ requests) (isMatch : UsbMatch) :
    Alike (Machine.AnswerAlike requests) Eq (detectUsbLocal isMatch) (detectUsbLocal isMatch) :=
  (alike_ask h).then fun _ => alike_pure rfl

end Requests

/-! ### The internal modules -/

section Internals

variable {requests : List HostRequest}

theorem alike_fpLedAnswers (h : .getFpLedLevel ∈ requests) :
    Alike (Machine.AnswerAlike requests) Eq fpLedAnswers fpLedAnswers := by
  refine (alike_ask h).then ?_
  rintro (error | level)
  · exact alike_pure rfl
  · exact alike_pure rfl

theorem alike_detectFingerprintReader (hfeatures : .getFeatures ∈ requests)
    (hled : .getFpLedLevel ∈ requests) :
    Alike (Machine.AnswerAlike requests) Eq detectFingerprintReader detectFingerprintReader := by
  have hpresent : Alike (Machine.AnswerAlike requests) Eq fingerprintPresent
      fingerprintPresent := by
    refine (alike_featureEnabled hfeatures .fingerprint).bind fun enabled enabled' h => ?_
    rw [unwrapOr_eq_of_bothOk h]
    split_ifs
    · exact alike_pure rfl
    · exact alike_fpLedAnswers hled
  refine hpresent.then fun present => ?_
  split_ifs
  · exact (alike_fpLedAnswers hled).then fun _ => alike_pure rfl
  · exact alike_pure rfl

theorem alike_detectInternalKeyboard (h : .getFeatures ∈ requests) :
    Alike (Machine.AnswerAlike requests) Eq detectInternalKeyboard detectInternalKeyboard := by
  refine (alike_featureEnabled h .keyboard).bind fun enabled enabled' henabled => ?_
  rw [unwrapOr_eq_of_bothOk henabled]
  exact alike_pure rfl

theorem alike_detectInternalTouchpad (hfeatures : .getFeatures ∈ requests)
    (hboard : .readBoardIdHc .touchpad ∈ requests)
    (touchpadDevices : List HidModuleObservation) :
    Alike (Machine.AnswerAlike requests) Eq (detectInternalTouchpad touchpadDevices)
      (detectInternalTouchpad touchpadDevices) := by
  refine (alike_featureEnabled hfeatures .touchpad).bind fun enabled enabled' henabled => ?_
  rw [unwrapOr_eq_of_bothOk henabled]
  exact (alike_ask hboard).then fun _ => alike_pure rfl

theorem alike_placeInputModule (upstream : Upstream)
    (topRow : FixedArray 5 FrameworkModuleDescriptor) (module : UsbModuleObservation) :
    Alike (Machine.AnswerAlike requests) Eq (placeInputModule upstream topRow module)
      (placeInputModule upstream topRow module) := by
  unfold placeInputModule
  split_ifs
  · exact alike_pure rfl
  · exact (alike_checkIndex 5 _).then fun _ => alike_pure rfl

/-- The top row is the deck's report and the input modules on USB. -/
theorem alike_topRow_detectInputDeck (hdeck : .getInputDeckStatus ∈ requests)
    (husb : .usbDevices ∈ requests) :
    Alike (Machine.AnswerAlike requests) (fun deck deck' => deck.1 = deck'.1) detectInputDeck
      detectInputDeck := by
  have hmodules : Alike (Machine.AnswerAlike requests) Eq detectInputModulesLocal
      detectInputModulesLocal :=
    (alike_upstream id).then fun _ => (alike_ask husb).then fun _ => alike_pure rfl
  refine (alike_upstream id).then fun upstream => (alike_ask hdeck).then fun deck =>
    hmodules.then fun modules => ?_
  have hplaced : Alike (Machine.AnswerAlike requests) Eq
      (modules.foldlM (placeInputModule upstream) (deckEntries deck).1)
      (modules.foldlM (placeInputModule upstream) (deckEntries deck).1) := by
    refine Alike.foldlM ?_ rfl
    rintro topRow _ module - rfl
    exact alike_placeInputModule upstream topRow module
  exact hplaced.then fun _ => alike_pure rfl

/-- The touchpad of the deck is the deck's report alone. -/
theorem alike_touchpad_detectInputDeck (hdeck : .getInputDeckStatus ∈ requests) :
    Alike (Machine.AnswerAlike requests) (fun deck deck' => deck.2 = deck'.2) detectInputDeck
      detectInputDeck := by
  refine alike_skip fun _ _ => (alike_ask hdeck).then fun deck => ?_
  exact alike_skip fun _ _ => alike_skip fun _ _ => alike_pure rfl

/-- The deck is looked at on a Framework 16 only, and there is no keyboard then. -/
theorem alike_detectDeckOrKeyboard {Q : (FixedArray 5 FrameworkModuleDescriptor ×
      FrameworkModuleDescriptor) × FrameworkModuleDescriptor →
    (FixedArray 5 FrameworkModuleDescriptor × FrameworkModuleDescriptor) ×
      FrameworkModuleDescriptor → Prop} {family : Option PlatformFamily}
    (hdeck : family = some .framework16 → Alike (Machine.AnswerAlike requests)
      (fun deck deck' => Q (deck, defaultModuleDescriptor) (deck', defaultModuleDescriptor))
      detectInputDeck detectInputDeck)
    (hkeyboard : family ≠ some .framework16 → Alike (Machine.AnswerAlike requests)
      (fun keyboard keyboard' =>
        Q ((fun _ => defaultModuleDescriptor, defaultModuleDescriptor), keyboard)
          ((fun _ => defaultModuleDescriptor, defaultModuleDescriptor), keyboard'))
      detectInternalKeyboard detectInternalKeyboard) :
    Alike (Machine.AnswerAlike requests) Q (detectDeckOrKeyboard family)
      (detectDeckOrKeyboard family) := by
  unfold detectDeckOrKeyboard
  by_cases hfamily : family = some .framework16
  · rw [if_pos (inputTopRowCount_pos_iff.mpr hfamily)]
    exact (hdeck hfamily).bind fun _ _ h => alike_pure h
  · rw [if_neg (mt inputTopRowCount_pos_iff.mp hfamily)]
    exact (hkeyboard hfamily).bind fun _ _ h => alike_pure h

variable {family : Option PlatformFamily}

theorem alike_topRow (h : family = some .framework16 →
      .getInputDeckStatus ∈ requests ∧ .usbDevices ∈ requests) :
    Alike (Machine.AnswerAlike requests) (fun internals internals' =>
        internals.inputTopRowCount = internals'.inputTopRowCount ∧
          internals.topRow = internals'.topRow)
      (detectInternalModules family) (detectInternalModules family) := by
  have hdeck : Alike (Machine.AnswerAlike requests) (fun deck deck' => deck.1.1 = deck'.1.1)
      (detectDeckOrKeyboard family) (detectDeckOrKeyboard family) :=
    alike_detectDeckOrKeyboard
      (fun hfamily => alike_topRow_detectInputDeck (h hfamily).1 (h hfamily).2)
      (fun _ => (alike_trivial _ _).mono fun _ _ _ => rfl)
  exact hdeck.bind fun _ _ hsame => alike_skip fun _ _ => alike_skip fun _ _ =>
    alike_skip fun _ _ => alike_skip fun _ _ => alike_skip fun _ _ => alike_pure ⟨rfl, hsame⟩

theorem alike_internalKeyboard (h : family ≠ some .framework16 → .getFeatures ∈ requests) :
    Alike (Machine.AnswerAlike requests) (fun internals internals' =>
        internals.internalKeyboard = internals'.internalKeyboard)
      (detectInternalModules family) (detectInternalModules family) := by
  have hkeyboard : Alike (Machine.AnswerAlike requests) (fun deck deck' => deck.2 = deck'.2)
      (detectDeckOrKeyboard family) (detectDeckOrKeyboard family) :=
    alike_detectDeckOrKeyboard (fun _ => (alike_trivial _ _).mono fun _ _ _ => rfl)
      (fun hfamily => alike_detectInternalKeyboard (h hfamily))
  exact hkeyboard.bind fun _ _ hsame => alike_skip fun _ _ => alike_skip fun _ _ =>
    alike_skip fun _ _ => alike_skip fun _ _ => alike_skip fun _ _ => alike_pure hsame

/-- The touchpad of the deck, which a touchpad on the HID bus replaces. -/
theorem alike_inputTouchpad (h : family = some .framework16 →
      .getInputDeckStatus ∈ requests ∧ .hidDeviceList ∈ requests) :
    Alike (Machine.AnswerAlike requests) (fun internals internals' =>
        internals.inputTouchpad = internals'.inputTouchpad)
      (detectInternalModules family) (detectInternalModules family) := by
  have hdeck : Alike (Machine.AnswerAlike requests) (fun deck deck' => deck.1.2 = deck'.1.2)
      (detectDeckOrKeyboard family) (detectDeckOrKeyboard family) :=
    alike_detectDeckOrKeyboard (fun hfamily => alike_touchpad_detectInputDeck (h hfamily).1)
      (fun _ => (alike_trivial _ _).mono fun _ _ _ => rfl)
  have hdevices : Alike (Machine.AnswerAlike requests) (fun devices devices' =>
      family = some .framework16 → devices = devices') detectTouchpadsLocal
      detectTouchpadsLocal := by
    by_cases hfamily : family = some .framework16
    · exact (alike_detectHidLocal (h hfamily).2 touchpadMatch).mono fun _ _ hsame _ => hsame
    · exact (alike_trivial _ _).mono fun _ _ _ hother => absurd hother hfamily
  refine hdeck.bind fun deck deck' hentry => hdevices.bind fun devices devices' hsame => ?_
  have htouchpad : Alike (Machine.AnswerAlike requests)
      (fun touchpads touchpads' => touchpads.1 = touchpads'.1)
      (detectTouchpad family devices deck.1.2) (detectTouchpad family devices' deck'.1.2) := by
    unfold detectTouchpad
    rw [hentry]
    split_ifs with hfamily
    · rw [hsame hfamily]
      exact alike_pure rfl
    · exact alike_skip fun _ _ => alike_pure rfl
  exact htouchpad.bind fun _ _ htouchpads => alike_skip fun _ _ => alike_skip fun _ _ =>
    alike_skip fun _ _ => alike_pure htouchpads

theorem alike_internalTouchpad (h : family ≠ some .framework16 → .getFeatures ∈ requests ∧
      .readBoardIdHc .touchpad ∈ requests ∧ .hidDeviceList ∈ requests) :
    Alike (Machine.AnswerAlike requests) (fun internals internals' =>
        internals.internalTouchpad = internals'.internalTouchpad)
      (detectInternalModules family) (detectInternalModules family) := by
  have hdevices : Alike (Machine.AnswerAlike requests) (fun devices devices' =>
      family ≠ some .framework16 → devices = devices') detectTouchpadsLocal
      detectTouchpadsLocal := by
    by_cases hfamily : family = some .framework16
    · exact (alike_trivial _ _).mono fun _ _ _ hother => absurd hfamily hother
    · exact (alike_detectHidLocal (h hfamily).2.2 touchpadMatch).mono fun _ _ hsame _ => hsame
  refine alike_skip fun deck deck' => hdevices.bind fun devices devices' hsame => ?_
  have htouchpad : Alike (Machine.AnswerAlike requests)
      (fun touchpads touchpads' => touchpads.2 = touchpads'.2)
      (detectTouchpad family devices deck.1.2) (detectTouchpad family devices' deck'.1.2) := by
    unfold detectTouchpad
    split_ifs with hfamily
    · exact alike_pure rfl
    · obtain ⟨hfeatures, hboard, -⟩ := h hfamily
      rw [hsame hfamily]
      exact (alike_detectInternalTouchpad hfeatures hboard devices').then fun _ => alike_pure rfl
  exact htouchpad.bind fun _ _ htouchpads => alike_skip fun _ _ => alike_skip fun _ _ =>
    alike_skip fun _ _ => alike_pure htouchpads

theorem alike_fingerprintReader (hfeatures : .getFeatures ∈ requests)
    (hled : .getFpLedLevel ∈ requests) :
    Alike (Machine.AnswerAlike requests) (fun internals internals' =>
        internals.fingerprintReader = internals'.fingerprintReader)
      (detectInternalModules family) (detectInternalModules family) :=
  alike_skip fun _ _ => alike_skip fun _ _ => alike_skip fun _ _ =>
    (alike_detectFingerprintReader hfeatures hled).then fun _ => alike_skip fun _ _ =>
      alike_skip fun _ _ => alike_pure rfl

theorem alike_touchscreen (h : .hidDeviceList ∈ requests) :
    Alike (Machine.AnswerAlike requests) (fun internals internals' =>
        internals.touchscreen = internals'.touchscreen)
      (detectInternalModules family) (detectInternalModules family) := by
  have htouchscreen : Alike (Machine.AnswerAlike requests) Eq detectTouchscreen
      detectTouchscreen :=
    (alike_detectHidLocal h touchscreenMatch).then fun _ => alike_pure rfl
  exact alike_skip fun _ _ => alike_skip fun _ _ => alike_skip fun _ _ => alike_skip fun _ _ =>
    htouchscreen.then fun _ => alike_skip fun _ _ => alike_pure rfl

theorem alike_webcam (h : .usbDevices ∈ requests) :
    Alike (Machine.AnswerAlike requests) (fun internals internals' =>
        internals.webcam = internals'.webcam)
      (detectInternalModules family) (detectInternalModules family) := by
  have hwebcam : Alike (Machine.AnswerAlike requests) Eq detectWebcam detectWebcam := by
    refine Alike.then ?_ fun _ => alike_pure rfl
    exact (alike_upstream id).then fun _ => alike_detectUsbLocal h _
  exact alike_skip fun _ _ => alike_skip fun _ _ => alike_skip fun _ _ => alike_skip fun _ _ =>
    alike_skip fun _ _ => hwebcam.then fun _ => alike_pure rfl

end Internals

/-! ### The cards and the bay -/

section Inventory

variable {requests : List HostRequest}

theorem alike_readPorts {usbCSlotCount : UInt8}
    (h : ∀ request ∈ portRequests usbCSlotCount.toNat, request ∈ requests)
    (usbSlots : UsbSlots) :
    Alike (Machine.AnswerAlike requests) Eq (readPorts usbCSlotCount usbSlots)
      (readPorts usbCSlotCount usbSlots) := by
  refine Alike.foldlM ?_ rfl
  rintro state _ index hindex rfl
  have hport : .getPdPortState (UInt8.ofNat index) ∈ requests :=
    h _ (List.mem_map.mpr ⟨index, hindex, rfl⟩)
  have hquery : Alike (Machine.AnswerAlike requests) Eq (queryPdPortState (UInt8.ofNat index))
      (queryPdPortState (UInt8.ofNat index)) :=
    (alike_ask hport).then fun _ => alike_pure rfl
  exact hquery.then fun _ => (alike_checkIndex 6 index).then fun _ => alike_pure rfl

theorem alike_populateUsbSlots {usbCSlotCount : UInt8}
    (hports : ∀ request ∈ portRequests usbCSlotCount.toNat, request ∈ requests)
    (hcards : .findExpansionCardDevices ∈ requests) (husb : .usbDevices ∈ requests)
    (platform : FrameworkPlatform) (table : UsbSlotTable) :
    Alike (Machine.AnswerAlike requests) Eq (populateUsbSlots usbCSlotCount platform table)
      (populateUsbSlots usbCSlotCount platform table) := by
  have hhid : Alike (Machine.AnswerAlike requests) Eq detectExpansionCardsLocal
      detectExpansionCardsLocal := (alike_ask hcards).then fun _ => alike_pure rfl
  have haudio : Alike (Machine.AnswerAlike requests) Eq detectAudioCardsLocal
      detectAudioCardsLocal :=
    (alike_upstream id).then fun _ => alike_detectUsbLocal husb _
  have hcard := fun isMatch => alike_detectUsbLocal husb isMatch
  refine (alike_upstream id).then fun upstream => (alike_readPorts hports _).then fun ports => ?_
  exact hhid.then fun _ => haudio.then fun _ => (hcard _).then fun _ => (hcard _).then fun _ =>
    (hcard _).then fun _ => (hcard _).then fun _ => (hcard _).then fun _ => alike_pure rfl

/-- The module in the bay is told by the replies of the two queries, whatever the serial
number and the PD state are. -/
theorem alike_buildExpansionBayModule (hbay : .expansionBayStatus ∈ requests)
    (hgpu : .getGpuPcie ∈ requests) :
    Alike (Machine.AnswerAlike requests) Eq buildExpansionBayModule buildExpansionBayModule := by
  have hstatus : Alike (Machine.AnswerAlike requests)
      (BothOk fun bay bay' => expansionBayModule bay = expansionBayModule bay')
      expansionBayStatus expansionBayStatus := by
    refine alike_andThen ((alike_ask hbay).then fun reply => alike_orStatus reply) ?_
    rintro info _ rfl
    refine alike_andThen ((alike_ask hgpu).then fun reply => alike_orStatus reply) ?_
    rintro gpu _ rfl
    have hmodule : Alike (Machine.AnswerAlike requests)
        (fun bay bay' => expansionBayModule bay = expansionBayModule bay')
        (bayOfReplies info gpu) (bayOfReplies info gpu) :=
      alike_skip fun _ _ => alike_skip fun _ _ => alike_skip fun _ _ => alike_pure rfl
    exact hmodule.bind fun _ _ hsame => alike_pure hsame
  refine hstatus.bind ?_
  rintro (status | bay) (status' | bay') h
  · exact alike_pure rfl
  · exact h.elim
  · exact h.elim
  · exact alike_pure h

end Inventory

/-! ### The theorem -/

section Runs

variable {m m' : Machine} {w w₁ w' w₁' : World} {inventory inventory' : FrameworkModuleInventory}

/-- An inventory is made of the slots, the internal modules and the bay, one after the
other. -/
theorem exists_stages (h : Returns buildModuleInventory m w inventory w₁) :
    ∃ table internals bay w₂ w₃,
      Returns (populateUsbSlots (mainboardPdPortCount m.family) m.frameworkPlatform
        emptyUsbSlotTable) m w table w₂ ∧
      Returns (detectInternalModules m.family) m w₂ internals w₃ ∧
      Returns buildExpansionBayModule m w₃ bay w₁ ∧
      inventory = moduleInventory (mainboardPdPortCount m.family) table internals bay := by
  obtain ⟨family, w₂, hfamily, h₁⟩ := returns_bind.mp h
  obtain ⟨rfl, rfl⟩ := returns_view.mp hfamily
  obtain ⟨platform, w₃, hplatform, h₂⟩ := returns_bind.mp h₁
  obtain ⟨rfl, rfl⟩ := returns_view.mp hplatform
  obtain ⟨table, w₄, htable, h₃⟩ := returns_bind.mp h₂
  obtain ⟨internals, w₅, hinternals, h₄⟩ := returns_bind.mp h₃
  obtain ⟨bay, w₆, hbay, hpure⟩ := returns_bind.mp h₄
  obtain ⟨rfl, rfl⟩ := returns_pure.mp hpure
  exact ⟨table, internals, bay, w₄, w₅, htable, hinternals, hbay, rfl⟩

/-- The PD state of a slot is that of its port, where the port is in use and wired. -/
theorem pd_usbCSlot_eq (h : Returns buildModuleInventory m w inventory w₁) (i : Fin 6) :
    (inventory.usbCSlot i).pd =
      if i.val < (mainboardPdPortCount m.family).toNat then
        if notWiredForPd m.frameworkPlatform i then defaultPdPortState
        else m.pdPortState w (UInt8.ofNat i)
      else defaultPdPortState := by
  obtain ⟨internals, w₂, bay, -, -, rfl⟩ := returns_buildModuleInventory.mp h
  have happlied : ∀ {usbSlots : UsbSlots}, i.val < (mainboardPdPortCount m.family).toNat →
      (applyCapabilities (mainboardPdPortCount m.family) m.frameworkPlatform usbSlots i).pd =
        if notWiredForPd m.frameworkPlatform i then defaultPdPortState else (usbSlots i).pd := by
    intro usbSlots hi
    rw [applyCapabilities, if_pos hi]
    rfl
  split_ifs with hi hwired
  · exact (happlied hi).trans (if_pos hwired)
  · exact (happlied hi).trans ((if_neg hwired).trans (pd_assignedSlots hi))
  · show ((oneShot _ _ _ _ _ emptyUsbSlotTable).usbSlots i).pd = _
    rw [oneShot_slot_of_le _ _ _ _ _ (Nat.not_lt.mp hi)]
    rfl

end Runs

/-- Two looks at the inventory, whenever they are taken, have the same in a part if the
machines answer the requests of that part alike. -/
theorem inventoryPart_isolated (part : InventoryPart) {m m' : Machine}
    (hR : m.AnswerAlike (part.requests m.family) m') {handle handle' : FrameworkEcHandle}
    {w w₁ w' w₁' : World} {result result' : FrameworkEcModuleInventoryResult}
    (h : Returns (frameworkEcGetModuleInventory (some handle)) m w result w₁)
    (h' : Returns (frameworkEcGetModuleInventory (some handle')) m' w' result' w₁') :
    part.Same result.value result'.value := by
  obtain ⟨inventory, hbuilt, rfl⟩ := returns_frameworkEcGetModuleInventory h
  obtain ⟨inventory', hbuilt', rfl⟩ := returns_frameworkEcGetModuleInventory h'
  have hplatform : m'.frameworkPlatform = m.frameworkPlatform := by
    rw [Machine.frameworkPlatform, Machine.frameworkPlatform, hR.platform]
  obtain ⟨table, internals, bay, w₂, w₃, htable, hinternals, hbay, hinventory⟩ :=
    exists_stages hbuilt
  obtain ⟨table', internals', bay', w₂', w₃', htable', hinternals', hbay', hinventory'⟩ :=
    exists_stages hbuilt'
  rw [← hR.family, hplatform] at htable'
  rw [← hR.family] at hinternals'
  have hmodules : ∀ {Q : InternalModules → InternalModules → Prop},
      Alike (Machine.AnswerAlike (part.requests m.family)) Q (detectInternalModules m.family)
        (detectInternalModules m.family) → Q internals internals' :=
    fun halike => halike _ _ _ _ _ _ _ _ hR hinternals hinternals'
  cases part with
  | cards =>
      have hsame : table = table' :=
        alike_populateUsbSlots (fun _ hport => List.mem_append_left _ hport)
          (by simp) (by simp) m.frameworkPlatform emptyUsbSlotTable _ _ _ _ _ _ _ _ hR htable
          htable'
      subst hsame
      rw [hinventory, hinventory', hR.family]
      exact ⟨rfl, rfl, rfl, rfl⟩
  | pd port =>
      show (inventory.usbCSlot port).pd = (inventory'.usbCSlot port).pd
      have hanswer : m.pdPortState w (UInt8.ofNat port) = m'.pdPortState w' (UInt8.ofNat port) :=
        congrArg pdPortStateOfReply (hR.answer _ List.mem_cons_self _ _)
      rw [pd_usbCSlot_eq hbuilt, pd_usbCSlot_eq hbuilt', hplatform, ← hR.family, hanswer]
  | inputTopRow =>
      rw [hinventory, hinventory']
      refine hmodules (alike_topRow fun hfamily => ?_)
      simp [InventoryPart.requests, hfamily]
  | inputTouchpad =>
      rw [hinventory, hinventory']
      refine hmodules (alike_inputTouchpad fun hfamily => ?_)
      simp [InventoryPart.requests, hfamily]
  | internalKeyboard =>
      rw [hinventory, hinventory']
      refine hmodules (alike_internalKeyboard fun hfamily => ?_)
      simp [InventoryPart.requests, hfamily]
  | internalTouchpad =>
      rw [hinventory, hinventory']
      refine hmodules (alike_internalTouchpad fun hfamily => ?_)
      simp [InventoryPart.requests, hfamily]
  | fingerprintReader =>
      rw [hinventory, hinventory']
      exact hmodules (alike_fingerprintReader (by simp [InventoryPart.requests])
        (by simp [InventoryPart.requests]))
  | touchscreen =>
      rw [hinventory, hinventory']
      exact hmodules (alike_touchscreen List.mem_cons_self)
  | webcam =>
      rw [hinventory, hinventory']
      exact hmodules (alike_webcam List.mem_cons_self)
  | expansionBay =>
      rw [hinventory, hinventory']
      exact alike_buildExpansionBayModule (by simp [InventoryPart.requests])
        (by simp [InventoryPart.requests]) _ _ _ _ _ _ _ _ hR hbay hbay'

/-- A laptop with a camera, whose fingerprint reader answers or not. -/
def cameraMachine (led : EcResult (UInt8 × Option FpLedBrightnessLevel)) : Machine :=
  (Machine.silent.answering .usbDevices
    (some [⟨1, some ⟨0x32AC, 0x001C, 1, 0, 2, none⟩, none⟩])).answering .getFpLedLevel led

/-- A fingerprint reader that is gone leaves the webcam as it is. -/
theorem inventoryPart_isolated_webcam :
    ∃ result w₁ result' w₁',
      Returns (frameworkEcGetModuleInventory (some ⟨.crosEc⟩)) (cameraMachine (.ok (40, none)))
        .fresh result w₁ ∧
      Returns (frameworkEcGetModuleInventory (some ⟨.crosEc⟩))
        (cameraMachine (.error (.response .busy))) .fresh result' w₁' ∧
      result.value.fingerprintReader.present = 1 ∧ result'.value.fingerprintReader.present = 0 ∧
      result.value.webcam = result'.value.webcam := by
  have hR : (cameraMachine (.ok (40, none))).AnswerAlike (InventoryPart.webcam.requests none)
      (cameraMachine (.error (.response .busy))) := by
    refine ⟨rfl, rfl, rfl, fun request hrequest k k' => ?_⟩
    obtain rfl := List.mem_singleton.mp hrequest
    rfl
  have h : Returns (frameworkEcGetModuleInventory (some ⟨.crosEc⟩))
    (cameraMachine (.ok (40, none))) .fresh _ _ := rfl
  have h' : Returns (frameworkEcGetModuleInventory (some ⟨.crosEc⟩))
    (cameraMachine (.error (.response .busy))) .fresh _ _ := rfl
  exact ⟨_, _, _, _, h, h', rfl, rfl, inventoryPart_isolated .webcam hR h h'⟩

end FrameworkFfi
