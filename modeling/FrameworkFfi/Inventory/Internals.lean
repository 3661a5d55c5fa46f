import FrameworkFfi.Inventory.Conversions
import FrameworkFfi.Inventory.Detect
import FrameworkFfi.Runtime

/-!
# Internal modules

Everything that is not an expansion card: the input deck of the Framework 16,
the keyboard, the touchpad, the fingerprint reader, the touchscreen and the
webcam. The stages of `detectInternalModules` are kept apart, one for each
module, since no stage but the touchpad's reads what an earlier one wrote.
-/

namespace FrameworkFfi

open Effect

structure InternalModules where
  inputTopRowCount : UInt8
  topRow : FixedArray 5 FrameworkModuleDescriptor
  inputTouchpad : FrameworkModuleDescriptor
  internalKeyboard : FrameworkModuleDescriptor
  internalTouchpad : FrameworkModuleDescriptor
  fingerprintReader : FrameworkModuleDescriptor
  touchscreen : FrameworkModuleDescriptor
  webcam : FrameworkModuleDescriptor

/-- `top_row_position`. -/
def topRowPosition (index : ℕ) : FrameworkInputModulePosition :=
  match index with
  | 0 => .topRow0
  | 1 => .topRow1
  | 2 => .topRow2
  | 3 => .topRow3
  | 4 => .topRow4
  | _ => .unknown

def builtInFlags : UInt32 := moduleFlag .builtIn ||| moduleFlag .connected

def deckTopRowEntry (index : Fin 5) (slot : InputModuleType) : FrameworkModuleDescriptor :=
  let occupied := ¬ (slot = .disconnected ∨ slot = .short)
  { moduleDescriptor (inputDeckModuleIdentity slot) .ec .inputDeckTopRow .direct occupied
      (Int32.ofNat index) (flagIf occupied .connected) 0 0 (-1) with
    position := topRowPosition index }

def deckTouchpadEntry (deck : InputDeckStatus) : FrameworkModuleDescriptor :=
  { moduleDescriptor .framework16TouchpadModule .ec .inputDeckTouchpad .direct
      deck.touchpadPresent 0 (flagIf deck.touchpadPresent .connected) 0 0
      (Int32.ofNat deck.touchpadId.toNat) with
    position := .touchpad }

def usbTopRowEntry (upstream : Upstream) (index : Fin 5) (module : UsbModuleObservation) :
    FrameworkModuleDescriptor :=
  { moduleDescriptor (framework16TopRowIdentity upstream module.productId) .usb
      .inputDeckTopRow .direct true module.slotIndex (moduleFlag .connected)
      module.vendorId.toUInt32 module.productId.toUInt32 (-1) with
    position := topRowPosition index }

/-- One round of the loop over the input modules. -/
def placeInputModule (upstream : Upstream) (topRow : FixedArray 5 FrameworkModuleDescriptor)
    (module : UsbModuleObservation) : Ffi (FixedArray 5 FrameworkModuleDescriptor) := do
  if module.slotIndex < 0 ∨ 5 ≤ module.slotIndex then pure topRow
  else
    let index ← checkIndex 5 module.slotIndex.toNatClampNeg
    pure (Function.update topRow index (usbTopRowEntry upstream index module))

/-- The top row and the touchpad as the deck reports them, default when it does
not answer. -/
def deckEntries (reply : EcResult InputDeckStatus) :
    FixedArray 5 FrameworkModuleDescriptor × FrameworkModuleDescriptor :=
  match reply with
  | .ok deck => (fun index => deckTopRowEntry index (deck.topRowToArray index),
      deckTouchpadEntry deck)
  | .error _ => (fun _ => defaultModuleDescriptor, defaultModuleDescriptor)

/-- The input deck of the Framework 16: the deck's own report, overwritten by
the input modules seen on USB. -/
def detectInputDeck :
    Ffi (FixedArray 5 FrameworkModuleDescriptor × FrameworkModuleDescriptor) := do
  let upstream ← view Machine.upstream
  let deck ← ask .getInputDeckStatus
  let modules ← detectInputModulesLocal
  let topRow ← modules.foldlM (placeInputModule upstream) (deckEntries deck).1
  pure (topRow, (deckEntries deck).2)

def detectInternalKeyboard : Ffi FrameworkModuleDescriptor := do
  let enabled ← featureEnabled .keyboard
  pure <| if unwrapOr enabled false then
    moduleDescriptor .internalKeyboard .ec .internalFixed .derivedStrong true (-1)
      builtInFlags 0 0 (-1)
  else defaultModuleDescriptor

/-- The Framework 16 touchpad. A touchpad on the HID bus replaces the deck's
entry and keeps its board id. -/
def hidInputTouchpad (touchpadDevices : List HidModuleObservation)
    (inputTouchpad : FrameworkModuleDescriptor) : FrameworkModuleDescriptor :=
  match touchpadDevices.head? with
  | none => inputTouchpad
  | some device =>
      { moduleDescriptor .framework16TouchpadModule .hid .inputDeckTouchpad .direct true 0
          (moduleFlag .connected) device.vendorId.toUInt32 device.productId.toUInt32
          inputTouchpad.boardId with
        position := .touchpad }

/-- The built-in touchpad of the other families, from the feature bit, the board
id and the HID bus. -/
def internalTouchpadEntry (enabled : Bool) (boardId : Int32)
    (device : Option HidModuleObservation) : FrameworkModuleDescriptor :=
  let confidence :=
    if device.isSome then FrameworkModuleConfidence.direct
    else if enabled then .derivedStrong else .unknown
  let vendorId := (device.map fun d => d.vendorId.toUInt32).getD 0
  let productId := (device.map fun d => d.productId.toUInt32).getD 0
  if enabled || device.isSome then
    moduleDescriptor .internalTouchpad
      (if vendorId ≠ 0 ∨ productId ≠ 0 then .hid else .ec) .internalFixed confidence true
      (-1) builtInFlags vendorId productId boardId
  else defaultModuleDescriptor

/-- The board id of the touchpad, `-1` when the controller reports none. -/
def touchpadBoardId (reply : EcResult (Option UInt8)) : Int32 :=
  match reply with
  | .ok (some boardId) => Int32.ofNat boardId.toNat
  | .ok none | .error _ => -1

def detectInternalTouchpad (touchpadDevices : List HidModuleObservation) :
    Ffi FrameworkModuleDescriptor := do
  let enabled ← featureEnabled .touchpad
  let boardId ← ask (.readBoardIdHc .touchpad)
  pure (internalTouchpadEntry (unwrapOr enabled false) (touchpadBoardId boardId)
    touchpadDevices.head?)

/-- `handle.ec.get_fp_led_level().is_ok()`. -/
def fpLedAnswers : Ffi Bool := do
  match ← ask .getFpLedLevel with
  | .ok _ => pure true
  | .error _ => pure false

/-- Whether there is a fingerprint reader: by the feature bit, else by its LED. -/
def fingerprintPresent : Ffi Bool := do
  let enabled ← featureEnabled .fingerprint
  if unwrapOr enabled false then pure true else fpLedAnswers

/-- The fingerprint reader. The LED is asked again when the reader is present. -/
def detectFingerprintReader : Ffi FrameworkModuleDescriptor := do
  let present ← fingerprintPresent
  if present then
    let direct ← fpLedAnswers
    pure (moduleDescriptor .fingerprintReader .ec .internalFixed
      (if direct then .direct else .derivedStrong) true (-1) builtInFlags 0 0 (-1))
  else pure defaultModuleDescriptor

/-- A built-in module found on a bus, default when none was found. -/
def builtInEntry (identity : FrameworkModuleIdentity) (bus : FrameworkModuleBus)
    (ids : Option (UInt16 × UInt16)) : FrameworkModuleDescriptor :=
  match ids with
  | none => defaultModuleDescriptor
  | some (vendorId, productId) =>
      moduleDescriptor identity bus .internalFixed .direct true (-1) builtInFlags
        vendorId.toUInt32 productId.toUInt32 (-1)

def detectTouchscreen : Ffi FrameworkModuleDescriptor := do
  let devices ← detectTouchscreensLocal
  pure (builtInEntry .touchscreen .hid
    (devices.head?.map fun device => (device.vendorId, device.productId)))

def detectWebcam : Ffi FrameworkModuleDescriptor := do
  let devices ← detectCamerasLocal
  pure (builtInEntry .webcam .usb
    (devices.head?.map fun device => (device.vendorId, device.productId)))

/-- `input_top_row_count`. -/
def inputTopRowCount (family : Option PlatformFamily) : UInt8 :=
  if family = some .framework16 then 5 else 0

/-- The deck on a Framework 16, the keyboard on the other families. -/
def detectDeckOrKeyboard (family : Option PlatformFamily) :
    Ffi ((FixedArray 5 FrameworkModuleDescriptor × FrameworkModuleDescriptor) ×
      FrameworkModuleDescriptor) :=
  if inputTopRowCount family > 0 then do
    let deck ← detectInputDeck
    pure (deck, defaultModuleDescriptor)
  else do
    let internalKeyboard ← detectInternalKeyboard
    pure ((fun _ => defaultModuleDescriptor, defaultModuleDescriptor), internalKeyboard)

/-- The deck's touchpad and the built-in one, of which a machine has one. -/
def detectTouchpad (family : Option PlatformFamily)
    (touchpadDevices : List HidModuleObservation) (inputTouchpad : FrameworkModuleDescriptor) :
    Ffi (FrameworkModuleDescriptor × FrameworkModuleDescriptor) :=
  if family = some .framework16 then
    pure (hidInputTouchpad touchpadDevices inputTouchpad, defaultModuleDescriptor)
  else do
    let internalTouchpad ← detectInternalTouchpad touchpadDevices
    pure (inputTouchpad, internalTouchpad)

/-- `detect_internal_modules`. -/
def detectInternalModules (family : Option PlatformFamily) : Ffi InternalModules := do
  let deck ← detectDeckOrKeyboard family
  let touchpadDevices ← detectTouchpadsLocal
  let touchpads ← detectTouchpad family touchpadDevices deck.1.2
  let fingerprintReader ← detectFingerprintReader
  let touchscreen ← detectTouchscreen
  let webcam ← detectWebcam
  pure
    { inputTopRowCount := inputTopRowCount family
      topRow := deck.1.1
      inputTouchpad := touchpads.1
      internalKeyboard := deck.2
      internalTouchpad := touchpads.2
      fingerprintReader, touchscreen, webcam }

end FrameworkFfi
