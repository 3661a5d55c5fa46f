import FrameworkFfi.Inventory.ReportedOnceRun
import FrameworkFfi.Library.Program.Agreement
import Mathlib.Data.Fin.VecNotation

/-!
# The input deck of the Framework 16

The top row is written by the deck's own report and then by the input modules
seen on USB, and the touchpad by the deck and then by the HID bus. A later source
wins, entry by entry, but for the board id of the touchpad. The other internal
modules are detected after the deck and see neither of its sources.
-/

namespace FrameworkFfi

open Effect

/-! ### The sources -/

def Machine.deckReply (m : Machine) (w : World) : EcResult InputDeckStatus :=
  m.answer .getInputDeckStatus (w.asked .getInputDeckStatus)

/-- The input modules seen on USB, in the order of the enumeration. -/
def Machine.inputModules (m : Machine) (w : World) : List UsbModuleObservation :=
  usbObservations (inputModuleMatch m.upstream) inputModuleSlot
    (m.answer .usbDevices (w.asked .usbDevices))

def Machine.hidTouchpads (m : Machine) (w : World) : List HidModuleObservation :=
  hidObservations (touchpadMatch m.upstream)
    (m.answer .hidDeviceList (w.asked .hidDeviceList))

/-- The board id of the touchpad that the deck reports, `-1` when it was not
read. -/
def deckBoardId (reply : EcResult InputDeckStatus) : Int32 :=
  match reply with
  | .ok deck => Int32.ofNat deck.touchpadId.toNat
  | .error _ => -1

/-! ### The top row -/

/-- The top row after the input modules were written over the deck's report. -/
def mergedTopRow (upstream : Upstream) (reply : EcResult InputDeckStatus)
    (modules : List UsbModuleObservation) : FixedArray 5 FrameworkModuleDescriptor :=
  modules.foldl (placedTopRow upstream) (deckEntries reply).1

def topRowPositions : FixedArray 5 FrameworkInputModulePosition :=
  ![.topRow0, .topRow1, .topRow2, .topRow3, .topRow4]

/-- The last input module of a slot gives its entry, and the deck gives the entry
of a slot that no input module names. -/
structure TopRowMerge (upstream : Upstream) (reply : EcResult InputDeckStatus)
    (modules : List UsbModuleObservation)
    (topRow : FixedArray 5 FrameworkModuleDescriptor) : Prop where
  last : ∀ (i : Fin 5) before module after, modules = before ++ module :: after →
    module.slotIndex = Int32.ofNat i → (∀ other ∈ after, other.slotIndex ≠ Int32.ofNat i) →
      topRow i =
        { identity :=
            if module.productId = upstream.ledMatrixPid then .framework16LedMatrix
            else .framework16KeyboardModule
          bus := .usb
          slotKind := .inputDeckTopRow
          confidence := .direct
          present := 1
          slotIndex := Int32.ofNat i
          flags := 4
          vendorId := module.vendorId.toUInt32
          productId := module.productId.toUInt32
          boardId := -1
          position := topRowPositions i }
  deck : ∀ (i : Fin 5) status, (∀ module ∈ modules, module.slotIndex ≠ Int32.ofNat i) →
    reply = .ok status →
      let vacant := status.topRowToArray i = .disconnected ∨ status.topRowToArray i = .short
      topRow i =
        { identity := .framework16KeyboardModule
          bus := .ec
          slotKind := .inputDeckTopRow
          confidence := .direct
          present := if vacant then 0 else 1
          slotIndex := Int32.ofNat i
          flags := if vacant then 0 else 4
          vendorId := 0
          productId := 0
          boardId := -1
          position := topRowPositions i }
  unread : ∀ (i : Fin 5) error, (∀ module ∈ modules, module.slotIndex ≠ Int32.ofNat i) →
    reply = .error error → topRow i = defaultModuleDescriptor

section TopRow

variable (upstream : Upstream) (reply : EcResult InputDeckStatus)

theorem returns_topRowLoop (modules : List UsbModuleObservation) (m : Machine) (w : World) :
    Returns (modules.foldlM (placeInputModule upstream) (deckEntries reply).1) m w
      (mergedTopRow upstream reply modules) w :=
  returns_foldlM (returns_placeInputModule upstream) modules _

theorem find?_reverse_last {i : Fin 5} {before after : List UsbModuleObservation}
    {module : UsbModuleObservation} (hslot : module.slotIndex = Int32.ofNat i)
    (hafter : ∀ other ∈ after, other.slotIndex ≠ Int32.ofNat i) :
    (before ++ module :: after).reverse.find? (fun module => module.slotIndex = Int32.ofNat i) =
      some module := by
  have hnone : after.reverse.find? (fun module => module.slotIndex = Int32.ofNat i) = none := by
    rw [List.find?_eq_none]
    intro other hother
    simpa using hafter other (List.mem_reverse.mp hother)
  rw [List.reverse_append, List.reverse_cons, List.append_assoc, List.find?_append, hnone,
    Option.none_or, List.singleton_append, List.find?_cons, decide_eq_true hslot]

theorem topRowPosition_eq : ∀ i : Fin 5, topRowPosition i = topRowPositions i := by decide

theorem deckTopRowEntry_eq (i : Fin 5) (slot : InputModuleType) :
    deckTopRowEntry i slot =
      { identity := .framework16KeyboardModule
        bus := .ec
        slotKind := .inputDeckTopRow
        confidence := .direct
        present := if slot = .disconnected ∨ slot = .short then 0 else 1
        slotIndex := Int32.ofNat i
        flags := if slot = .disconnected ∨ slot = .short then 0 else 4
        vendorId := 0
        productId := 0
        boardId := -1
        position := topRowPositions i } := by
  rw [← topRowPosition_eq]
  cases slot <;> rfl

theorem topRowMerge_mergedTopRow (modules : List UsbModuleObservation) :
    TopRowMerge upstream reply modules (mergedTopRow upstream reply modules) := by
  have hunseen : ∀ i : Fin 5, (∀ module ∈ modules, module.slotIndex ≠ Int32.ofNat i) →
      mergedTopRow upstream reply modules i = (deckEntries reply).1 i := by
    intro i hne
    have hnone : modules.reverse.find? (fun module => module.slotIndex = Int32.ofNat i) =
        none := by
      rw [List.find?_eq_none]
      intro module hmodule
      simpa using hne module (List.mem_reverse.mp hmodule)
    rw [mergedTopRow, foldl_placedTopRow, hnone, Option.map_none, Option.getD_none]
  refine ⟨?_, ?_, ?_⟩
  · rintro i before module after rfl hslot hafter
    rw [mergedTopRow, foldl_placedTopRow, find?_reverse_last hslot hafter, Option.map_some,
      Option.getD_some, ← hslot, ← topRowPosition_eq]
    rfl
  · rintro i status hne rfl
    exact (hunseen i hne).trans (deckTopRowEntry_eq i _)
  · rintro i error hne rfl
    exact hunseen i hne

/-- An entry depends on the input modules of its own slot only. -/
theorem mergedTopRow_congr {modules modules' : List UsbModuleObservation} {i : Fin 5}
    (h : modules.filter (fun module => module.slotIndex = Int32.ofNat i) =
      modules'.filter fun module => module.slotIndex = Int32.ofNat i) :
    mergedTopRow upstream reply modules i = mergedTopRow upstream reply modules' i := by
  have hfind : ∀ modules : List UsbModuleObservation,
      modules.reverse.find? (fun module => module.slotIndex = Int32.ofNat i) =
        (modules.filter fun module => module.slotIndex = Int32.ofNat i).reverse.head? := by
    intro modules
    rw [← List.head?_filter, List.filter_reverse]
  rw [mergedTopRow, mergedTopRow, foldl_placedTopRow, foldl_placedTopRow, hfind, hfind, h]

theorem mergedTopRow_outside {before after : List UsbModuleObservation}
    {module : UsbModuleObservation} (h : module.slotIndex < 0 ∨ 5 ≤ module.slotIndex) :
    mergedTopRow upstream reply (before ++ module :: after) =
      mergedTopRow upstream reply (before ++ after) := by
  funext i
  have hin : ∀ i : Fin 5, ¬ (Int32.ofNat i < 0 ∨ 5 ≤ Int32.ofNat i) := by decide
  have hne : module.slotIndex ≠ Int32.ofNat i := by
    intro heq
    rw [heq] at h
    exact hin i h
  refine mergedTopRow_congr upstream reply ?_
  rw [List.filter_append, List.filter_append, List.filter_cons_of_neg (by simpa using hne)]

end TopRow

/-! ### The touchpad -/

/-- The first touchpad on the HID bus gives the entry and the deck its board id.
Without one the deck gives the entry. -/
structure TouchpadMerge (reply : EcResult InputDeckStatus)
    (touchpads : List HidModuleObservation) (touchpad : FrameworkModuleDescriptor) : Prop where
  hid : ∀ device rest, touchpads = device :: rest →
    touchpad =
      { identity := .framework16TouchpadModule
        bus := .hid
        slotKind := .inputDeckTouchpad
        confidence := .direct
        present := 1
        slotIndex := 0
        flags := 4
        vendorId := device.vendorId.toUInt32
        productId := device.productId.toUInt32
        boardId := deckBoardId reply
        position := .touchpad }
  deck : ∀ status, touchpads = [] → reply = .ok status →
    touchpad =
      { identity := .framework16TouchpadModule
        bus := .ec
        slotKind := .inputDeckTouchpad
        confidence := .direct
        present := if status.touchpadPresent then 1 else 0
        slotIndex := 0
        flags := if status.touchpadPresent then 4 else 0
        vendorId := 0
        productId := 0
        boardId := Int32.ofNat status.touchpadId.toNat
        position := .touchpad }
  unread : ∀ error, touchpads = [] → reply = .error error → touchpad = defaultModuleDescriptor

theorem touchpadMerge_hidInputTouchpad (reply : EcResult InputDeckStatus)
    (touchpads : List HidModuleObservation) :
    TouchpadMerge reply touchpads (hidInputTouchpad touchpads (deckEntries reply).2) := by
  have hboard : (deckEntries reply).2.boardId = deckBoardId reply := by
    cases reply <;> rfl
  refine ⟨?_, ?_, ?_⟩
  · rintro device rest rfl
    rw [← hboard]
    rfl
  · rintro ⟨topRowToArray, touchpadPresent, touchpadId⟩ rfl rfl
    cases touchpadPresent <;> rfl
  · rintro error rfl rfl
    rfl

/-! ### The other modules -/

/-- The machines differ in what the deck reports and in the enumeration that the
input modules are taken from, and nowhere else. -/
structure Machine.SameBesideDeck (m m' : Machine) (w : World) : Prop where
  upstream : m'.upstream = m.upstream
  answer : ∀ request k, request ≠ .getInputDeckStatus →
    (request = .usbDevices → k ≠ w.asked .usbDevices) → m'.answer request k = m.answer request k

/-- The machines answer alike from here on, but for the deck. -/
structure Machine.SameAfterDeck (m m' : Machine) (w : World) : Prop where
  upstream : m'.upstream = m.upstream
  answer : ∀ request k, request ≠ .getInputDeckStatus → w.asked request ≤ k →
    m'.answer request k = m.answer request k

def World.afterDeck (w : World) : World := (w.record .getInputDeckStatus).record .usbDevices

theorem Machine.SameBesideDeck.afterDeck {m m' : Machine} {w : World}
    (h : m.SameBesideDeck m' w) : m.SameAfterDeck m' w.afterDeck := by
  refine ⟨h.upstream, fun request k hrequest hk => h.answer request k hrequest ?_⟩
  rintro rfl
  have hasked : w.afterDeck.asked .usbDevices = w.asked .usbDevices + 1 := by
    rw [World.afterDeck, World.asked_record_self,
      World.asked_record_of_ne w (by simp)]
  omega

section Agreement

variable {m m' : Machine} {w w' : World}

theorem Machine.SameAfterDeck.of_trace (h : m.SameAfterDeck m' w) (htrace : w'.trace = w.trace) :
    m.SameAfterDeck m' w' := by
  refine ⟨h.upstream, fun request k hrequest hk => h.answer request k hrequest ?_⟩
  rwa [World.asked, htrace] at hk

theorem agrees_ask {request : HostRequest} (hrequest : request ≠ .getInputDeckStatus) :
    Agrees Machine.SameAfterDeck (ask request) := by
  refine agrees_act ?_ ?_
  · intro m m' w h
    rw [h.answer request _ hrequest le_rfl]
  · intro m m' w h
    exact ⟨h.upstream, fun other k hother hk =>
      h.answer other k hother ((World.asked_le_asked_record w other request).trans hk)⟩

theorem agrees_upstream {α : Type} (f : Upstream → α) :
    Agrees Machine.SameAfterDeck (view fun m => f m.upstream : Ffi α) :=
  agrees_view fun m m' w h => by rw [h.upstream]

theorem agrees_orStatus {α : Type} (result : EcResult α) :
    Agrees Machine.SameAfterDeck (orStatus result) := by
  cases result with
  | ok a => exact agrees_pure _
  | error error =>
      exact (agrees_statusFromError (fun _ _ _ h => h.upstream)
        (fun _ _ _ _ h htrace => h.of_trace htrace) error).bind fun status => agrees_pure _

theorem agrees_featureEnabled (feature : EcFeatureCode) :
    Agrees Machine.SameAfterDeck (featureEnabled feature) := by
  refine Agrees.bind ((agrees_ask (by simp)).bind fun reply => agrees_orStatus reply) ?_
  rintro (error | flags)
  · exact agrees_pure _
  · exact (agrees_upstream fun upstream => upstream.featureCode feature).bind fun _ =>
      agrees_pure _

theorem agrees_fpLedAnswers : Agrees Machine.SameAfterDeck fpLedAnswers := by
  refine (agrees_ask (by simp)).bind ?_
  rintro (error | level)
  · exact agrees_pure _
  · exact agrees_pure _

theorem agrees_detectFingerprintReader :
    Agrees Machine.SameAfterDeck detectFingerprintReader := by
  refine Agrees.bind ((agrees_featureEnabled _).bind fun enabled => ?_) fun present => ?_
  · split_ifs
    · exact agrees_pure _
    · exact agrees_fpLedAnswers
  · split_ifs
    · exact agrees_fpLedAnswers.bind fun _ => agrees_pure _
    · exact agrees_pure _

theorem agrees_detectHidLocal (isMatch : Upstream → HidDevice → Bool) :
    Agrees Machine.SameAfterDeck (do
      let upstream ← view Machine.upstream
      let devices ← ask .hidDeviceList
      pure (hidObservations (isMatch upstream) devices) : Ffi _) :=
  (agrees_upstream id).bind fun _ => (agrees_ask (by simp)).bind fun _ => agrees_pure _

theorem agrees_detectTouchscreen : Agrees Machine.SameAfterDeck detectTouchscreen :=
  (agrees_detectHidLocal touchscreenMatch).bind fun _ => agrees_pure _

theorem agrees_detectWebcam : Agrees Machine.SameAfterDeck detectWebcam :=
  Agrees.bind ((agrees_upstream id).bind fun _ => (agrees_ask (by simp)).bind fun _ =>
    agrees_pure _) fun _ => agrees_pure _

end Agreement

/-! ### A run -/

/-- The descriptors that the deck does not appear in. -/
def InternalModules.besideDeck (internals : InternalModules) :
    List FrameworkModuleDescriptor :=
  [internals.internalKeyboard, internals.internalTouchpad, internals.fingerprintReader,
    internals.touchscreen, internals.webcam]

section Run

variable {m m' : Machine} {w : World}

theorem returns_detectInputDeck :
    Returns detectInputDeck m w
      (mergedTopRow m.upstream (m.deckReply w) (m.inputModules w),
        (deckEntries (m.deckReply w)).2) w.afterDeck := by
  have hmodules : Returns detectInputModulesLocal m (w.record .getInputDeckStatus)
      (m.inputModules w) w.afterDeck := by
    refine returns_bind.mpr ⟨_, _, returns_view_self, ?_⟩
    refine returns_bind.mpr ⟨_, _, returns_ask_self, ?_⟩
    refine returns_pure.mpr ⟨?_, rfl⟩
    rw [World.asked_record_of_ne w (by simp), Machine.inputModules]
  refine returns_bind.mpr ⟨_, _, returns_view_self, ?_⟩
  refine returns_bind.mpr ⟨m.deckReply w, _, returns_ask_self, ?_⟩
  refine returns_bind.mpr ⟨_, _, hmodules, ?_⟩
  refine returns_bind.mpr ⟨_, _, returns_topRowLoop _ _ _ m _, ?_⟩
  exact returns_pure_self

/-- What a run on a Framework 16 detects, stage by stage. -/
theorem detectInternalModules_stages {internals : InternalModules} {w' : World}
    (h : Returns (detectInternalModules (some .framework16)) m w internals w') :
    internals.topRow = mergedTopRow m.upstream (m.deckReply w) (m.inputModules w) ∧
      internals.inputTouchpad =
        hidInputTouchpad (m.hidTouchpads w) (deckEntries (m.deckReply w)).2 ∧
      ∃ w₁ w₂ w₃,
        Returns detectTouchpadsLocal m w.afterDeck (m.hidTouchpads w) w₁ ∧
        Returns detectFingerprintReader m w₁ internals.fingerprintReader w₂ ∧
        Returns detectTouchscreen m w₂ internals.touchscreen w₃ ∧
        Returns detectWebcam m w₃ internals.webcam w' ∧
        internals.internalKeyboard = defaultModuleDescriptor ∧
        internals.internalTouchpad = defaultModuleDescriptor := by
  have htouchpads : Returns detectTouchpadsLocal m w.afterDeck (m.hidTouchpads w)
      (w.afterDeck.record .hidDeviceList) := by
    refine returns_bind.mpr ⟨_, _, returns_view_self, ?_⟩
    refine returns_bind.mpr ⟨_, _, returns_ask_self, ?_⟩
    refine returns_pure.mpr ⟨?_, rfl⟩
    rw [World.afterDeck, World.asked_record_of_ne _ (by simp),
      World.asked_record_of_ne w (by simp), Machine.hidTouchpads]
  have hdeck : Returns (detectDeckOrKeyboard (some .framework16)) m w
      ((mergedTopRow m.upstream (m.deckReply w) (m.inputModules w),
        (deckEntries (m.deckReply w)).2), defaultModuleDescriptor) w.afterDeck := by
    rw [detectDeckOrKeyboard, if_pos (inputTopRowCount_pos_iff.mpr rfl)]
    exact returns_detectInputDeck.bind_iff.mpr (returns_pure_self)
  unfold detectInternalModules at h
  rw [hdeck.bind_iff, htouchpads.bind_iff, detectTouchpad, if_pos rfl] at h
  rw [(returns_pure_self : Returns (pure _ : Ffi _) m _ _ _).bind_iff] at h
  obtain ⟨fingerprintReader, w₂, hfingerprint, h₂⟩ := returns_bind.mp h
  obtain ⟨touchscreen, w₃, htouchscreen, h₃⟩ := returns_bind.mp h₂
  obtain ⟨webcam, w₄, hwebcam, hpure⟩ := returns_bind.mp h₃
  obtain ⟨rfl, rfl⟩ := returns_pure.mp hpure
  exact ⟨rfl, rfl, _, w₂, w₃, htouchpads, hfingerprint, htouchscreen, hwebcam, rfl, rfl⟩

/-- The other modules of two machines that differ in the deck only. -/
theorem besideDeck_eq (hsame : m.SameBesideDeck m' w) {internals internals' : InternalModules}
    {w₁ w₂ : World}
    (h : Returns (detectInternalModules (some .framework16)) m w internals w₁)
    (h' : Returns (detectInternalModules (some .framework16)) m' w internals' w₂) :
    internals'.besideDeck = internals.besideDeck := by
  obtain ⟨-, -, u₁, u₂, u₃, htouchpads, hfingerprint, htouchscreen, hwebcam, hkeyboard,
    htouchpad⟩ := detectInternalModules_stages h
  obtain ⟨-, -, v₁, v₂, v₃, htouchpads', hfingerprint', htouchscreen', hwebcam', hkeyboard',
    htouchpad'⟩ := detectInternalModules_stages h'
  obtain ⟨-, rfl, hsame₁⟩ := (agrees_detectHidLocal touchpadMatch).returns_unique
    hsame.afterDeck htouchpads htouchpads'
  obtain ⟨heqFingerprint, rfl, hsame₂⟩ :=
    agrees_detectFingerprintReader.returns_unique hsame₁ hfingerprint hfingerprint'
  obtain ⟨heqTouchscreen, rfl, hsame₃⟩ :=
    agrees_detectTouchscreen.returns_unique hsame₂ htouchscreen htouchscreen'
  obtain ⟨heqWebcam, rfl, -⟩ := agrees_detectWebcam.returns_unique hsame₃ hwebcam hwebcam'
  rw [InternalModules.besideDeck, InternalModules.besideDeck, hkeyboard, hkeyboard', htouchpad,
    htouchpad', heqFingerprint, heqTouchscreen, heqWebcam]

end Run

/-- The top row and the touchpad of a Framework 16 are merged from their sources,
whatever the input modules say of their slots. An input module changes the entry
of its own slot at most, and the modules beside the deck do not depend on what
the deck or the input modules report. -/
theorem detectInternalModules_mergesDeck (m : Machine) (w : World) :
    (∀ reply modules,
      Returns (modules.foldlM (placeInputModule m.upstream) (deckEntries reply).1) m w
          (mergedTopRow m.upstream reply modules) w ∧
        TopRowMerge m.upstream reply modules (mergedTopRow m.upstream reply modules)) ∧
      (∀ reply before module after, module.slotIndex < 0 ∨ 5 ≤ module.slotIndex →
        mergedTopRow m.upstream reply (before ++ module :: after) =
          mergedTopRow m.upstream reply (before ++ after)) ∧
      (∀ reply modules modules' (i : Fin 5),
        modules.filter (fun module => module.slotIndex = Int32.ofNat i) =
            modules'.filter (fun module => module.slotIndex = Int32.ofNat i) →
          mergedTopRow m.upstream reply modules i = mergedTopRow m.upstream reply modules' i) ∧
      (∃ internals w',
        Returns (detectInternalModules (some .framework16)) m w internals w' ∧
          internals.topRow = mergedTopRow m.upstream (m.deckReply w) (m.inputModules w) ∧
          TopRowMerge m.upstream (m.deckReply w) (m.inputModules w) internals.topRow ∧
          TouchpadMerge (m.deckReply w) (m.hidTouchpads w) internals.inputTouchpad) ∧
      (∀ m', m.SameBesideDeck m' w → ∀ internals internals' w₁ w₂,
        Returns (detectInternalModules (some .framework16)) m w internals w₁ →
          Returns (detectInternalModules (some .framework16)) m' w internals' w₂ →
            internals'.besideDeck = internals.besideDeck) := by
  refine ⟨?_, ?_, ?_, ?_, ?_⟩
  · intro reply modules
    exact ⟨returns_topRowLoop m.upstream reply modules m w,
      topRowMerge_mergedTopRow m.upstream reply modules⟩
  · intro reply before module after h
    exact mergedTopRow_outside m.upstream reply h
  · intro reply modules modules' i h
    exact mergedTopRow_congr m.upstream reply h
  · obtain ⟨internals, w', hrun⟩ :=
      (safe_detectInternalModules (some .framework16)).returns m w
    obtain ⟨htopRow, htouchpad, -⟩ := detectInternalModules_stages hrun
    refine ⟨internals, w', hrun, htopRow, ?_, ?_⟩
    · rw [htopRow]
      exact topRowMerge_mergedTopRow m.upstream (m.deckReply w) (m.inputModules w)
    · rw [htouchpad]
      exact touchpadMerge_hidInputTouchpad (m.deckReply w) (m.hidTouchpads w)
  · intro m' hsame internals internals' w₁ w₂ h h'
    exact besideDeck_eq hsame h h'

/-- A Framework 16 whose deck reports a keyboard in its first slot, an LED matrix and
then a keyboard that the bus lists for the second slot, and a HID touchpad. -/
def furnishedDeck : Machine :=
  let listed address productId : UsbDevice :=
    { address
      deviceDescriptor := some ⟨0x32AC, productId, 1, 0, 0, none⟩
      portNumbers := some [4, 3] }
  ((Machine.silent.answering .getInputDeckStatus
    (.ok ⟨![.keyboardA, .disconnected, .short, .disconnected, .disconnected], true, 9⟩)).answering
    .usbDevices (some [listed 1 0x0020, listed 2 0x0012])).answering
    .hidDeviceList (some [⟨0x093A, 0x0274, 0xFF00⟩])

/-- The second module wins in its slot, and the touchpad has the deck's board id. -/
theorem detectInternalModules_mergesDeck_furnished :
    ∃ internals w', Returns (detectInternalModules (some .framework16)) furnishedDeck .fresh
        internals w' ∧
      (internals.topRow 0).bus = .ec ∧ (internals.topRow 0).present = 1 ∧
      (internals.topRow 1).bus = .usb ∧ (internals.topRow 1).productId = 0x0012 ∧
      (internals.topRow 1).identity = .framework16KeyboardModule ∧
      (internals.topRow 2).present = 0 ∧ internals.inputTouchpad.bus = .hid ∧
      internals.inputTouchpad.productId = 0x0274 ∧ internals.inputTouchpad.boardId = 9 := by
  obtain ⟨-, -, -, ⟨internals, w', hr, -, hrow, htouchpad⟩, -⟩ :=
    detectInternalModules_mergesDeck furnishedDeck .fresh
  have hunnamed : ∀ i : Fin 5, i ≠ 1 → ∀ module ∈ furnishedDeck.inputModules .fresh,
      module.slotIndex ≠ Int32.ofNat i := by
    have hslots : ∀ module ∈ furnishedDeck.inputModules .fresh, module.slotIndex = 1 :=
      List.forall_mem_cons.mpr ⟨rfl, List.forall_mem_singleton.mpr rfl⟩
    intro i hi module hmodule
    rw [hslots module hmodule]
    revert i
    decide
  have hfirst := hrow.deck 0 _ (hunnamed 0 (by decide)) rfl
  have hthird := hrow.deck 2 _ (hunnamed 2 (by decide)) rfl
  have hsecond := hrow.last 1 [⟨0x32AC, 0x0020, 1⟩] ⟨0x32AC, 0x0012, 1⟩ [] rfl rfl
    (List.forall_mem_nil _)
  have hhid := htouchpad.hid ⟨0x093A, 0x0274⟩ [] rfl
  refine ⟨internals, w', hr, ?_⟩
  rw [hfirst, hsecond, hthird, hhid]
  exact ⟨rfl, rfl, rfl, rfl, rfl, rfl, rfl, rfl, rfl⟩

end FrameworkFfi
