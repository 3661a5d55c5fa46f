import FrameworkFfi.Accounting.LostSerial
import FrameworkFfi.Library.Program.Sequence

/-!
# Errors that are stored for nobody

The store keeps the last messages for the callers that were given their tokens.
A call that stores a message without reporting it takes a place from them. The
module inventory is the only function that does: it asks for the feature flags
and for the expansion bay, drops the failures and reports success.
-/

namespace FrameworkFfi

open Effect

/-- The calls that store a message without reporting it. -/
def Operation.Swallows : Operation → Machine → World → Prop
  | .inventory (.ecGetModuleInventory handle), m, w =>
      handle.isSome ∧ m.swallowedMessages w ≠ []
  | _, _, _ => False

def Outcome.deviceError (o : Outcome) : Bool :=
  o.status.map FrameworkStatus.code = some .deviceError

/-- How many of these calls reported a device error. -/
def deviceErrors (calls : List (Operation × Outcome)) : ℕ :=
  calls.countP fun call => call.2.deviceError

/-! ### Releases -/

theorem keeps_errors_destroy (buffer : FrameworkByteBuffer) :
    Keeps World.errors buffer.destroy := by
  intro m w a w' h
  rcases FrameworkByteBuffer.returns_destroy.mp h with ⟨-, rfl⟩ | ⟨-, -, -, -, rfl⟩
  · rfl
  · rfl

theorem keeps_errors_release (operation : ReleaseOperation) :
    Keeps World.errors operation.run := by
  cases operation with
  | byteBufferFree buffer => exact (keeps_errors_destroy buffer).bind fun _ => keeps_pure _
  | peripheralVersionsFree result =>
      refine Keeps.bind ?_ fun _ => keeps_pure _
      cases result with
      | none => exact keeps_pure _
      | some versions =>
          refine Keeps.bind (Keeps.foldlM (fun versions i => ?_) _ _) fun _ => keeps_pure _
          exact (keeps_errors_destroy _).bind fun _ => keeps_pure _
  | smartBatteryDataFree data =>
      refine Keeps.bind ?_ fun _ => keeps_pure _
      cases data with
      | none => exact keeps_pure _
      | some data =>
          refine Keeps.bind (Keeps.foldlM (fun data field => ?_) _ _) fun _ => keeps_pure _
          exact (keeps_errors_destroy _).bind fun _ => keeps_pure _

theorem status_release {operation : ReleaseOperation} {m : Machine} {w w' : World} {o : Outcome}
    (hr : Returns operation.run m w o w') : o.status = none := by
  have hunreported : ∀ {α : Type} {call : Ffi α}, Returns (unreported call) m w o w' →
      o.status = none := by
    intro α call h
    obtain ⟨a, w₁, -, hpure⟩ := returns_bind.mp h
    obtain ⟨rfl, -⟩ := returns_pure.mp hpure
    rfl
  cases operation with
  | byteBufferFree buffer => exact hunreported hr
  | peripheralVersionsFree result => exact hunreported hr
  | smartBatteryDataFree data => exact hunreported hr

/-! ### One call -/

section Calls

variable {m : Machine} {w w' : World} {operation : Operation} {o : Outcome}

/-- All calls but the inventory store for the status they report. -/
theorem stores_operation
    (hinventory : ∀ handle, operation ≠ .inventory (.ecGetModuleInventory (some handle)))
    (hr : Returns operation.run m w o w') : o.Stores w w' := by
  cases operation with
  | system operation => exact (accounted_systemOperation operation m w o w' hr).2
  | thermal operation => exact (accounted_thermalOperation operation m w o w' hr).2
  | controls operation => exact (accounted_controlsOperation operation m w o w' hr).2
  | inventory operation =>
      refine (outcome_inventoryOperation hr).2 fun handle h => hinventory handle ?_
      rw [h]
  | diagnostics operation => exact (accounted_diagnosticsOperation operation m w o w' hr).2
  | versions operation => exact (accounted_versionsOperation operation m w o w' hr).2
  | release operation =>
      unfold Outcome.Stores
      rw [status_release hr]
      exact keeps_errors_release operation m w o w' hr

theorem Outcome.deviceError_iff {status : FrameworkStatus} (h : o.status = some status) :
    o.deviceError = true ↔ status.code = .deviceError := by
  simp [Outcome.deviceError, h]

theorem Outcome.Stores.errors_eq (h : o.Stores w w') (ho : o.deviceError = false) :
    w'.errors = w.errors := by
  unfold Outcome.Stores at h
  cases hstatus : o.status with
  | none =>
      rw [hstatus] at h
      exact h
  | some status =>
      rw [hstatus] at h
      rcases h with ⟨-, herrors⟩ | ⟨message, hcode, -⟩
      · exact herrors
      · have hdevice : o.deviceError = true := by
          rw [Outcome.deviceError_iff hstatus, hcode, FrameworkStatus.code_withCode]
        rw [ho] at hdevice
        cases hdevice

/-- What is stored for a device error: one message, under the token reported. -/
theorem Outcome.Stores.exists_message (h : o.Stores w w') (ho : o.deviceError = true) :
    ∃ message, o.status = some (.withCode .deviceError w.errors.nextDeviceErrorId) ∧
      w'.errors = (w.errors.storeDeviceErrorMessage message).2 := by
  unfold Outcome.Stores at h
  cases hstatus : o.status with
  | none => simp [Outcome.deviceError, hstatus] at ho
  | some status =>
      rw [hstatus] at h
      rcases h with ⟨hcode, -⟩ | ⟨message, hcode, herrors⟩
      · exact absurd ((Outcome.deviceError_iff hstatus).mp ho) hcode
      · exact ⟨message, by rw [hcode], herrors⟩

/-- A call that swallows nothing stores as many messages as it reports device
errors. -/
theorem stored_call (hclean : ¬ operation.Swallows m w) (hr : Returns operation.run m w o w') :
    (o.deviceError = false ∧ w'.errors = w.errors) ∨
      (o.deviceError = true ∧ ∃ message,
        o.status = some (.withCode .deviceError w.errors.nextDeviceErrorId) ∧
          w'.errors = (w.errors.storeDeviceErrorMessage message).2) := by
  by_cases hinventory : ∃ handle, operation = .inventory (.ecGetModuleInventory (some handle))
  · obtain ⟨handle, rfl⟩ := hinventory
    obtain ⟨hstatus, -, herrors⟩ := outcome_moduleInventory hr
    have hnone : m.swallowedMessages w = [] := by
      by_contra hsome
      exact hclean ⟨rfl, hsome⟩
    rw [hnone] at herrors
    exact .inl ⟨by simp [Outcome.deviceError, hstatus], herrors⟩
  · have hstores := stores_operation (fun handle h => hinventory ⟨handle, h⟩) hr
    cases hdevice : o.deviceError with
    | false => exact .inl ⟨rfl, hstores.errors_eq hdevice⟩
    | true => exact .inr ⟨rfl, hstores.exists_message hdevice⟩

theorem length_replyMessages_le {α : Type} (reply : EcResult α) :
    (replyMessages reply).length ≤ 1 := by
  cases reply with
  | ok a => exact Nat.zero_le 1
  | error error => cases error <;> simp [replyMessages, EcError.messages]

/-- The inventory polls three times at most and asks the bay once. -/
theorem length_swallowedMessages_le (m : Machine) (w : World) :
    (m.swallowedMessages w).length ≤ 4 := by
  have hfeatures : ∀ n, (m.featureMessages w n).length ≤ n := by
    intro n
    induction n with
    | zero => exact Nat.le_refl 0
    | succ n ih =>
        have hlast := length_replyMessages_le
          (m.answer .getFeatures (w.asked .getFeatures + n))
        unfold Machine.featureMessages at ih ⊢
        rw [List.range_succ, List.flatMap_append, List.length_append, List.flatMap_singleton]
        omega
  have hpolls : inventoryPolls m.family ≤ 3 := by
    unfold inventoryPolls familyPolls
    split_ifs
    · decide
    · decide
  have hbay := length_replyMessages_le (m.bayReplies w)
  have hcount := hfeatures (inventoryPolls m.family)
  rw [Machine.swallowedMessages, List.length_append]
  omega

/-- A call that reports no device error leaves the store alone exactly when it
swallows nothing. -/
theorem errors_eq_iff (hr : Returns operation.run m w o w') :
    (o.deviceError = false → w'.errors = w.errors) ↔ ¬ operation.Swallows m w := by
  constructor
  · intro hkept hswallows
    cases operation with
    | inventory operation =>
        cases operation with
        | ecGetModuleInventory handle =>
            obtain ⟨hsome, hmessages⟩ := hswallows
            obtain ⟨handle, rfl⟩ := Option.isSome_iff_exists.mp hsome
            obtain ⟨hstatus, -, herrors⟩ := outcome_moduleInventory hr
            have hself := hkept (by simp [Outcome.deviceError, hstatus])
            have hle := length_swallowedMessages_le m w
            rw [herrors, DeviceErrorStore.storeAll_eq_self_iff (by omega)] at hself
            exact hmessages hself
        | ecGetFeatureFlags | ecGetExpansionBayStatus | ecGetGpuDescriptorHeader
        | ecReadGpuDescriptor | ecValidateGpuDescriptor | ecGetGpuSerial => exact hswallows
    | system | thermal | controls | diagnostics | versions | release => exact hswallows
  · intro hclean hdevice
    rcases stored_call hclean hr with ⟨-, herrors⟩ | ⟨htrue, -⟩
    · exact herrors
    · rw [hdevice] at htrue
      cases htrue

end Calls

/-! ### Runs -/

section Runs

variable {m : Machine} {w w' : World} {calls : List (Operation × Outcome)}

/-- Calls one after the other, none of which swallows an error. -/
abbrev CleanRun (m : Machine) : World → List (Operation × Outcome) → World → Prop :=
  Sequence Operation.run (fun operation w => ¬ operation.Swallows m w) m

/-- A clean run stores as many messages as its calls reported device errors. -/
theorem stored_cleanRun (h : CleanRun m w calls w') :
    ∃ messages : List String, messages.length = deviceErrors calls ∧
      w'.errors = w.errors.storeAll messages := by
  induction h with
  | nil w => exact ⟨[], rfl, rfl⟩
  | cons hclean hcall hrest ih =>
      obtain ⟨messages, hlength, herrors⟩ := ih
      rcases stored_call hclean hcall with ⟨hdevice, hkept⟩ | ⟨hdevice, message, -, hstored⟩
      · refine ⟨messages, ?_, ?_⟩
        · simp [deviceErrors, hdevice, hlength]
        · rw [herrors, hkept]
      · refine ⟨message :: messages, ?_, ?_⟩
        · simp [deviceErrors, hdevice, hlength]
        · rw [herrors, hstored, DeviceErrorStore.storeAll_cons]

/-- The message of a reported device error stays while fewer than
`storedDeviceErrorLimit` device errors are reported later. -/
theorem kept_cleanRun {operation : Operation} {o : Outcome} {w₀ : World}
    (hr : Returns operation.run m w₀ o w) (ho : o.deviceError = true)
    (hrun : CleanRun m w calls w') (hfew : deviceErrors calls < storedDeviceErrorLimit) :
    ∃ token message, o.status = some (.withCode .deviceError token) ∧
      (token, message) ∈ w.errors.deviceErrorMessages ∧
      (token, message) ∈ w'.errors.deviceErrorMessages := by
  have hstores : o.Stores w₀ w := by
    refine stores_operation ?_ hr
    rintro handle rfl
    obtain ⟨hstatus, -⟩ := outcome_moduleInventory hr
    simp [Outcome.deviceError, hstatus] at ho
  obtain ⟨message, hstatus, herrors⟩ := hstores.exists_message ho
  obtain ⟨messages, hlength, hlater⟩ := stored_cleanRun hrun
  refine ⟨_, message, hstatus, ?_, ?_⟩
  · have hnone : ([] : List String).length < storedDeviceErrorLimit := by decide
    rw [herrors]
    exact w₀.errors.mem_storeAll message hnone
  · rw [hlater, herrors]
    exact w₀.errors.mem_storeAll message (hlength ▸ hfew)

end Runs

/-- A call that reports no device error leaves the store alone exactly when it
swallows nothing. After calls that all swallow nothing the store has taken one
message for each device error reported, and a message that a caller has the token
of is still there unless `storedDeviceErrorLimit` of them were reported since. -/
theorem storedErrors_reported (m : Machine) :
    (∀ {operation : Operation} {w : World} {o : Outcome} {w' : World},
      Returns operation.run m w o w' →
        ((o.deviceError = false → w'.errors = w.errors) ↔ ¬ operation.Swallows m w)) ∧
    (∀ {w : World} {calls : List (Operation × Outcome)} {w' : World}, CleanRun m w calls w' →
      ∃ messages : List String, messages.length = deviceErrors calls ∧
        w'.errors = w.errors.storeAll messages) ∧
    ∀ {operation : Operation} {w₀ : World} {o : Outcome} {w : World}
      {calls : List (Operation × Outcome)} {w' : World}, Returns operation.run m w₀ o w →
      o.deviceError = true → CleanRun m w calls w' →
      deviceErrors calls < storedDeviceErrorLimit →
        ∃ token message, o.status = some (.withCode .deviceError token) ∧
          (token, message) ∈ w.errors.deviceErrorMessages ∧
          (token, message) ∈ w'.errors.deviceErrorMessages := by
  refine ⟨?_, ?_, ?_⟩
  · intro operation w o w' hr
    exact errors_eq_iff hr
  · intro w calls w' hrun
    exact stored_cleanRun hrun
  · intro operation w₀ o w calls w' hr ho hrun hfew
    exact kept_cleanRun hr ho hrun hfew

/-- A controller that does not answer the feature query. -/
def failingMachine : Machine :=
  Machine.silent.answering .getFeatures (.error (.deviceError "EC did not answer"))

def failingFlags : Operation := .inventory (.ecGetFeatureFlags (some ⟨.crosEc⟩))

def failingInventory : Operation := .inventory (.ecGetModuleInventory (some ⟨.crosEc⟩))

theorem swallows_failing : failingInventory.Swallows failingMachine .fresh := by
  refine ⟨rfl, ?_⟩
  decide

/-- An error of the feature query is reported by the one call and swallowed by the
other. -/
theorem storedErrors_reported_failing :
    (∃ o w', Returns failingInventory.run failingMachine .fresh o w' ∧
      ¬ (o.deviceError = false → w'.errors = World.fresh.errors)) ∧
    ∃ o w o' w', Returns failingFlags.run failingMachine .fresh o w ∧
      Returns failingFlags.run failingMachine w o' w' ∧
        ∃ token message, o.status = some (.withCode .deviceError token) ∧
          (token, message) ∈ w'.errors.deviceErrorMessages := by
  constructor
  · obtain ⟨o, w', hr⟩ : Completes failingInventory.run failingMachine .fresh := ⟨_, _, rfl⟩
    refine ⟨o, w', hr, fun h => ?_⟩
    exact ((storedErrors_reported failingMachine).1 hr).mp h swallows_failing
  · obtain ⟨w, hr⟩ : ∃ w, Returns failingFlags.run failingMachine .fresh
        ⟨some (.withCode .deviceError 1), []⟩ w := ⟨_, rfl⟩
    obtain ⟨o', w', hr'⟩ : Completes failingFlags.run failingMachine w := ⟨_, _, rfl⟩
    have hrun : CleanRun failingMachine w [(failingFlags, o')] w' := .cons id hr' (.nil w')
    have hone : deviceErrors [(failingFlags, o')] ≤ 1 := List.countP_le_length
    have hfew : deviceErrors [(failingFlags, o')] < storedDeviceErrorLimit :=
      Nat.lt_of_le_of_lt hone (by decide)
    obtain ⟨token, message, hstatus, -, hkept⟩ :=
      (storedErrors_reported failingMachine).2.2 hr rfl hrun hfew
    exact ⟨_, w, o', w', hr, hr', token, message, hstatus, hkept⟩

theorem inventoryPoll_stores :
    ¬ ∀ (m : Machine) (operation : Operation) (w : World) (o : Outcome) (w' : World),
      Returns operation.run m w o w' → o.deviceError = false → w'.errors = w.errors := by
  intro h
  obtain ⟨o, w', hr⟩ : Completes failingInventory.run failingMachine .fresh := ⟨_, _, rfl⟩
  exact (errors_eq_iff hr).mp (h _ _ _ o w' hr) swallows_failing

end FrameworkFfi
