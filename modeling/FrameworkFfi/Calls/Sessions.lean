import FrameworkFfi.Calls.Allocations
import FrameworkFfi.Calls.Progress
import Mathlib.Data.Fintype.EquivFin

/-!
# Sessions

A caller keeps the handles it has opened, each under its address, and the buffers it
was handed. It closes a handle once and passes it no longer, and gives back live
buffers only. However such a session has gone, on a regular machine the next call
returns.
-/

namespace FrameworkFfi

open Effect

/-! ### Handles -/

def SystemOperation.handle : SystemOperation → HandlePtr
  | .ecClose handle | .ecGetActiveDriver handle | .ecGetBuildInfo handle
  | .ecGetFlashVersions handle => handle
  | .ecDriverIsSupported _ | .statusGetDeviceErrorMessage _ | .statusGetDescription _
  | .ecOpenDefault | .ecOpenWithDriver _ | .getPlatform | .getPlatformFamily
  | .getProductName => none

def ThermalOperation.handle : ThermalOperation → HandlePtr
  | .ecGetPowerSnapshot handle | .ecGetFanCapabilities handle | .ecGetThermalSnapshot handle
  | .ecSetFanRpm handle _ _ | .ecSetFanDuty handle _ _ | .ecRestoreAutoFanControl handle _
  | .ecGetBatteryCutoffStatus handle | .ecGetApThrottleStatus handle
  | .ecGetThermalThresholds handle _ | .ecSetThermalThresholds handle _ _ _ _ _ _
  | .ecGetTempSensorName handle _ | .ecGetFanCount handle | .ecGetStandaloneMode handle => handle

def ControlsOperation.handle : ControlsOperation → HandlePtr
  | .ecGetKeyboardBacklight handle | .ecGetFingerprintLed handle
  | .ecSetKeyboardBacklight handle _ | .ecSetFingerprintLed handle _
  | .ecGetPrivacySwitches handle | .ecGetChargeLimits handle | .ecSetChargeLimits handle _ _
  | .ecReadBoardId handle _ | .ecGetActiveCharge handle | .ecGetSensorInfo handle
  | .ecGetAccelData handle | .ecGetAlsReading handle | .ecGetChassisIntrusion handle
  | .ecSetChargeCurrentLimit handle _ _ | .ecGetUptime handle | .ecGetS0ixCounter handle
  | .ecResetS0ixCounter handle | .ecSetTabletMode handle _ | .ecSetInputDeckMode handle _
  | .ecSetChargeRateLimit handle _ _ | .ecGetHibernateDelay handle
  | .ecSetHibernateDelay handle _ | .ecSetFingerprintLedPercentage handle _
  | .ecAdcRead handle _ | .ecCommandVersionSupported handle _ _ | .ecGetPdPowerInfo handle _
  | .ecIsCharging handle | .ecSetRgbKeyboardColors handle _ _ _ | .ecRemapKey handle _ _ _
  | .ecRemapCapsToCtrl handle | .ecPs2EmulationEnable handle _ | .ecGetGpio handle _ _
  | .ecSetGpio handle _ _ _ | .ecGetGpioCount handle | .ecGetGpioInfo handle _ => handle
  | .getStylusBattery | .touchscreenEnable _ | .touchpadSetHapticIntensity _
  | .touchpadSetClickForce _ => none

def InventoryOperation.handle : InventoryOperation → HandlePtr
  | .ecGetFeatureFlags handle | .ecGetExpansionBayStatus handle
  | .ecGetGpuDescriptorHeader handle | .ecReadGpuDescriptor handle
  | .ecValidateGpuDescriptor handle _ _ | .ecGetModuleInventory handle
  | .ecGetGpuSerial handle => handle

def DiagnosticsOperation.handle : DiagnosticsOperation → HandlePtr
  | .ecGetSwitches handle | .ecHello handle _ | .ecCheckHello handle
  | .ecGetProtocolInfo handle | .ecGetSysinfo handle | .ecGetPanicInfo handle
  | .ecGetPort80History handle | .ecAuthenticateBattery handle _
  | .ecGetSmartBatteryData handle _ _ => handle

def VersionsOperation.handle : VersionsOperation → HandlePtr
  | .ecGetPdControllerVersions handle | .ecGetRetimerVersion handle => handle
  | .getCameraVersions | .getInputModuleVersions | .getUsbHubVersions | .getAudioCardVersion
  | .getNvmeVersion _ _ => none

def Operation.handle : Operation → HandlePtr
  | .system operation => operation.handle
  | .thermal operation => operation.handle
  | .controls operation => operation.handle
  | .inventory operation => operation.handle
  | .diagnostics operation => operation.handle
  | .versions operation => operation.handle
  | .release _ => none

def Operation.opening : Operation → Option (Ffi FrameworkEcHandleResult)
  | .system .ecOpenDefault => some frameworkEcOpenDefault
  | .system (.ecOpenWithDriver driver) => some (frameworkEcOpenWithDriver driver)
  | _ => none

/-- A call with the handle it returns. -/
def Operation.call (operation : Operation) : Ffi (Outcome × HandlePtr) :=
  match operation.opening with
  | some opened => do
      let result ← opened
      pure (⟨some result.status, noBuffers result.value⟩, result.value)
  | none => do
      let outcome ← operation.run
      pure (outcome, none)

/-- What is left of the handles after a call that was given this address. -/
def Operation.keeps (operation : Operation) (address : Option ℕ)
    (handles : List (ℕ × FrameworkEcHandle)) : List (ℕ × FrameworkEcHandle) :=
  match operation with
  | .system (.ecClose _) => handles.filter fun opened => some opened.1 ≠ address
  | _ => handles

section Calls

variable {operation : Operation} {m : Machine} {w w' : World}

theorem run_of_opening {opened : Ffi FrameworkEcHandleResult}
    (h : operation.opening = some opened) : operation.run = reporting noBuffers opened := by
  unfold Operation.opening at h
  split at h
  · obtain rfl := Option.some.inj h
    rfl
  · obtain rfl := Option.some.inj h
    rfl
  · cases h

theorem call_of_opening {opened : Ffi FrameworkEcHandleResult}
    (h : operation.opening = some opened) : operation.call = opened >>= fun result =>
      pure (⟨some result.status, noBuffers result.value⟩, result.value) := by
  unfold Operation.call
  rw [h]

theorem call_of_not_opening (h : operation.opening = none) :
    operation.call = operation.run >>= fun outcome => pure (outcome, none) := by
  unfold Operation.call
  rw [h]

theorem returns_run_iff_call {o : Outcome} :
    Returns operation.run m w o w' ↔ ∃ opened, Returns operation.call m w (o, opened) w' := by
  cases hopening : operation.opening with
  | none =>
      rw [call_of_not_opening hopening]
      constructor
      · exact fun hr => ⟨none, hr.bind_iff.mpr returns_pure_self⟩
      · rintro ⟨opened, hr⟩
        obtain ⟨outcome, w₁, hrun, hpure⟩ := returns_bind.mp hr
        obtain ⟨heq, rfl⟩ := returns_pure.mp hpure
        obtain ⟨rfl, -⟩ := Prod.mk.inj heq
        exact hrun
  | some opened =>
      rw [run_of_opening hopening, call_of_opening hopening]
      constructor
      · intro hr
        obtain ⟨result, w₁, hopened, hpure⟩ := returns_bind.mp hr
        obtain ⟨rfl, rfl⟩ := returns_pure.mp hpure
        exact ⟨result.value, hopened.bind_iff.mpr returns_pure_self⟩
      · rintro ⟨handle, hr⟩
        obtain ⟨result, w₁, hopened, hpure⟩ := returns_bind.mp hr
        obtain ⟨heq, rfl⟩ := returns_pure.mp hpure
        obtain ⟨rfl, -⟩ := Prod.mk.inj heq
        exact hopened.bind_iff.mpr returns_pure_self

end Calls

/-! ### Steps -/

/-- A call as the caller makes it, with the address it passes as the handle. -/
structure Call where
  operation : Operation
  address : Option ℕ

/-- The world and the handles that are open. -/
structure Session where
  world : World
  handles : List (ℕ × FrameworkEcHandle)

namespace Session

/-- What the exported functions demand of their caller. -/
structure Allows (s : Session) (call : Call) : Prop where
  /-- A handle that is not null is open. -/
  opened : ∀ handle ∈ call.operation.handle,
    ∃ address ∈ call.address, (address, handle) ∈ s.handles
  /-- Allocations are given back while they are live, and once. -/
  owned : Owned call.operation s.world
  /-- Buffers without an allocation are as this crate makes them. -/
  empty : ∀ buffer ∈ call.operation.given, buffer.capacity = 0 →
    buffer = .default ∨ buffer = ⟨1, 0, 0⟩

/-- A call returns. A handle it has opened gets an address no other has. -/
inductive Step (m : Machine) (s : Session) (call : Call) (o : Outcome) : Session → Prop
  | kept {w' : World} (hr : Returns call.operation.call m s.world (o, none) w') :
      Step m s call o ⟨w', call.operation.keeps call.address s.handles⟩
  | opened {w' : World} {handle : FrameworkEcHandle} {address : ℕ}
      (hr : Returns call.operation.call m s.world (o, some handle) w')
      (hfresh : ∀ other ∈ s.handles, other.1 ≠ address) :
      Step m s call o ⟨w', (address, handle) :: s.handles⟩

/-- The sessions of a process. -/
inductive Reached (m : Machine) : Session → Prop
  | start : Reached m ⟨.fresh, []⟩
  | step {s s' : Session} {call : Call} {o : Outcome} (hs : Reached m s) (hcall : s.Allows call)
      (hstep : s.Step m call o s') : Reached m s'

section Steps

variable {m : Machine} {s s' : Session} {call : Call} {o : Outcome}

theorem Step.returns (h : s.Step m call o s') :
    Returns call.operation.run m s.world o s'.world := by
  cases h with
  | kept hr => exact returns_run_iff_call.mpr ⟨none, hr⟩
  | opened hr => exact returns_run_iff_call.mpr ⟨_, hr⟩

/-- What holds in every session. -/
structure Sound (s : Session) : Prop where
  world : s.world.Sound
  handles : (s.handles.map Prod.fst).Nodup

theorem Sound.step (h : s.Sound) (hstep : s.Step m call o s') : s'.Sound := by
  refine ⟨h.world.call hstep.returns, ?_⟩
  cases hstep with
  | kept hr =>
      show ((call.operation.keeps call.address s.handles).map Prod.fst).Nodup
      unfold Operation.keeps
      split
      · exact h.handles.sublist (List.filter_sublist.map _)
      · exact h.handles
  | @opened _ _ address hr hfresh =>
      refine List.nodup_cons.mpr ⟨fun hmem => ?_, h.handles⟩
      obtain ⟨other, hother, heq⟩ := List.mem_map.mp hmem
      exact hfresh other hother heq

/-- A release stores no message. -/
theorem fits_of_returns (hm : m.Regular) {operation : Operation} {w w' : World}
    (hr : Returns operation.run m w o w') (hw : w.Fits) : w'.Fits := by
  by_cases hreleases : operation.Releases
  · refine (performs_operation operation).preserves (fun w event hevent hw => ?_) hr hw
    cases event with
    | stored message => exact absurd hreleases hevent
    | asked request => exact hw
    | handedOut bytes => exact hw
    | takenBack buffer => exact hw
  · obtain ⟨o', w'', hr', hfits, -⟩ := fine_operation hm hreleases w hw
    obtain ⟨-, rfl⟩ := hr.unique hr'
    exact hfits

theorem Reached.fits (hm : m.Regular) (h : Reached m s) : s.world.Fits := by
  induction h with
  | start => exact fits_fresh
  | step _ _ hstep ih => exact fits_of_returns hm hstep.returns ih

/-- The buffers that may be given back have sizes that are not negative. -/
theorem Allows.sized (h : s.Allows call) (hs : s.Sound) :
    ∀ buffer ∈ call.operation.given, buffer.Sized := by
  intro buffer hbuffer
  by_cases hzero : buffer.capacity = 0
  · rcases h.empty buffer hbuffer hzero with rfl | rfl
    · exact .inl ⟨rfl, rfl⟩
    · exact .inr ⟨by decide, by decide, by decide⟩
  · have howned : buffer ∈ ownedBy call.operation.given := by
      refine List.mem_flatMap.mpr ⟨buffer, hbuffer, ?_⟩
      rw [FrameworkByteBuffer.owned_of_capacity_ne_zero hzero]
      exact List.mem_singleton_self _
    exact (hs.world.owned_and_sized (h.owned.subset howned)).2

end Steps

end Session

open Session

end FrameworkFfi
