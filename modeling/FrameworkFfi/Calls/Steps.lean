import FrameworkFfi.Accounting.Aggregates
import FrameworkFfi.Accounting.OwnershipLedger
import FrameworkFfi.Accounting.SwallowedErrors
import FrameworkFfi.Calls.Families

/-!
# What each exported function may do

`Operation.Does` lists the events of a call: the queries and the one command its
arguments give, messages and buffers of a call that gives nothing back, and the
buffers of a release. Every run of every exported function is a list of these.
-/

namespace FrameworkFfi

open Effect

def ReleaseOperation.given : ReleaseOperation → List FrameworkByteBuffer
  | .byteBufferFree buffer => [buffer]
  | .peripheralVersionsFree none | .smartBatteryDataFree none => []
  | .peripheralVersionsFree (some versions) => versions.buffers
  | .smartBatteryDataFree (some data) => data.buffers

def Operation.given : Operation → List FrameworkByteBuffer
  | .release operation => operation.given
  | _ => []

def Operation.Does (operation : Operation) : Event → Prop
  | .asked request => request.isCommand = true → operation.command = some request
  | .stored _ => ¬ operation.Releases
  | .handedOut bytes => ¬ operation.Releases ∧ bytes.capacity < 2 ^ 31
  | .takenBack buffer => buffer ∈ operation.given

/-! ### Releases -/

/-- A release destroys the buffers it is given, one after the other. -/
theorem exists_run_release_eq (operation : ReleaseOperation) :
    ∃ (α : Type) (left : α),
      operation.run = unreported (destroyAll operation.given >>= fun () => pure left) := by
  cases operation with
  | byteBufferFree buffer =>
      refine ⟨Unit, (), ?_⟩
      have hone : destroyAll [buffer] = buffer.destroy := by
        rw [destroyAll_cons]
        exact bind_pure _
      show unreported buffer.destroy = unreported (destroyAll [buffer] >>= pure)
      rw [hone, bind_pure]
  | peripheralVersionsFree result =>
      cases result with
      | none => exact ⟨_, none, rfl⟩
      | some versions =>
          refine ⟨_, some versions.nulled, ?_⟩
          show unreported (frameworkPeripheralVersionsFree (some versions)) = _
          rw [frameworkPeripheralVersionsFree_some]
          rfl
  | smartBatteryDataFree data =>
      cases data with
      | none => exact ⟨_, none, rfl⟩
      | some data =>
          refine ⟨_, some data.nulled, ?_⟩
          show unreported (frameworkSmartBatteryDataFree (some data)) = _
          rw [frameworkSmartBatteryDataFree_some]
          rfl

theorem performs_destroy {P : Event → Prop} {buffer : FrameworkByteBuffer}
    (h : P (.takenBack buffer)) : Performs World.step P buffer.destroy := by
  intro m w a w' hr
  rcases FrameworkByteBuffer.returns_destroy.mp hr with ⟨-, rfl⟩ | ⟨-, -, -, -, rfl⟩
  · exact ⟨[], List.forall_mem_nil _, rfl⟩
  · exact ⟨[.takenBack buffer], List.forall_mem_singleton.mpr h, rfl⟩

theorem performs_destroyAll {P : Event → Prop} {buffers : List FrameworkByteBuffer}
    (h : ∀ buffer ∈ buffers, P (.takenBack buffer)) :
    Performs World.step P (destroyAll buffers) := by
  induction buffers with
  | nil => exact performs_pure ()
  | cons buffer buffers ih =>
      rw [List.forall_mem_cons] at h
      rw [destroyAll_cons]
      exact (performs_destroy h.1).bind fun () => ih h.2

/-! ### All exported functions -/

section Operations

variable {m : Machine}

theorem performs_release (operation : ReleaseOperation) :
    Performs World.step (Operation.release operation).Does operation.run := by
  obtain ⟨α, left, hrun⟩ := exists_run_release_eq operation
  rw [hrun]
  refine Performs.bind ?_ fun _ => performs_pure _
  exact (performs_destroyAll fun buffer hbuffer => hbuffer).bind fun _ => performs_pure _

/-- A release is never refused and reports nothing. -/
theorem handles_operation {operation : Operation} (hkept : ¬ operation.Releases) :
    Handles operation.command (operation.refusal m) m operation.run := by
  cases operation with
  | system operation => exact handles_systemOperation operation
  | thermal operation => exact handles_thermalOperation operation
  | controls operation => exact handles_controlsOperation operation
  | inventory operation => exact handles_inventoryOperation operation
  | diagnostics operation => exact handles_diagnosticsOperation operation
  | versions operation => exact handles_versionsOperation operation
  | release operation => exact (hkept trivial).elim

theorem performs_operation (operation : Operation) :
    Performs World.step operation.Does operation.run := by
  by_cases hreleases : operation.Releases
  · cases operation with
    | release operation => exact performs_release operation
    | system _ | thermal _ | controls _ | inventory _ | diagnostics _ | versions _ =>
        exact hreleases.elim
  · refine (handles_operation (m := Machine.silent) hreleases).sends.mono fun event h => ?_
    cases event with
    | asked request => exact h
    | stored message => exact hreleases
    | handedOut bytes => exact ⟨hreleases, h⟩
    | takenBack buffer => exact h.elim

end Operations

end FrameworkFfi
