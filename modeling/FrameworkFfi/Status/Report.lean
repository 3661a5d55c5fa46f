import FrameworkFfi.Abi.Status
import FrameworkFfi.Host.Machine
import FrameworkFfi.Library.Program.Agreement
import Mathlib.Algebra.Order.Ring.Int

/-!
# From an error to a status and from a status to a text

`statusFromError` is the only place that stores a message. What it does to the
world is said once, by `returns_statusFromError`: an error that is not a device
error leaves the world alone, and a device error changes the store only.
-/

namespace FrameworkFfi

open Effect

/-- `format!`, which allocates as it sees fit. -/
def format (text : String) : Ffi OwnedString :=
  view fun m => ⟨text, m.allocate (utf8Bytes text).length, m.le_allocate _⟩

/-- `status_from_error`. -/
def statusFromError (error : EcError) : Ffi FrameworkStatus :=
  match error with
  | .response response =>
      view fun m => .withCode .ecResponse (m.upstream.ecResponseStatusCode response)
  | .unknownResponseCode code =>
      pure (.withCode .unknownResponseCode
        (if code ≤ 0x7FFFFFFF then code.toInt32 else Int32.maxValue))
  | .deviceError message =>
      act fun _ w =>
        let stored := w.errors.storeDeviceErrorMessage message
        (.withCode .deviceError stored.1, { w with errors := stored.2 })

/-- `get_device_error_message` on the store of the process. -/
def getDeviceErrorMessage (detail : Int32) : Ffi (Option String) :=
  act fun _ w => (w.errors.getDeviceErrorMessage detail, w)

/-- `ec_response_detail_name`. -/
def ecResponseDetailName (detail : FrameworkEcResponseDetail) : String :=
  match detail with
  | .unknown => "Unknown"
  | .success => "Success"
  | .invalidCommand => "InvalidCommand"
  | .error => "Error"
  | .invalidParameter => "InvalidParameter"
  | .accessDenied => "AccessDenied"
  | .invalidResponse => "InvalidResponse"
  | .invalidVersion => "InvalidVersion"
  | .invalidChecksum => "InvalidChecksum"
  | .inProgress => "InProgress"
  | .unavailable => "Unavailable"
  | .timeout => "Timeout"
  | .overflow => "Overflow"
  | .invalidHeader => "InvalidHeader"
  | .requestTruncated => "RequestTruncated"
  | .responseTooBig => "ResponseTooBig"
  | .busError => "BusError"
  | .busy => "Busy"

/-- `status_description`. -/
def statusDescription (status : FrameworkStatus) : Ffi OwnedString :=
  match status.code with
  | .success => pure (.exact "Success")
  | .nullPointer => pure (.exact "Null pointer")
  | .invalidArgument =>
      format s!"Invalid fan index: {status.invalidFanIndexValue.getD 0}"
  | .noDriverAvailable => pure (.exact "No EC driver available")
  | .unsupportedDriver =>
      pure (.exact "Requested EC driver is not supported on this system")
  | .notSupported =>
      pure (.exact "This capability is not available in this build for this platform")
  | .deviceError => do
      match status.deviceErrorMessageToken with
      | none => pure (.exact "Device error")
      | some token =>
        match ← getDeviceErrorMessage token with
        | some message => format s!"Device error: {message}"
        | none => pure (.exact "Device error")
  | .ecResponse =>
      let detail := status.ecResponseDetail.getD .unknown
      format s!"EC response: {ecResponseDetailName detail} ({detail.toInt32})"
  | .unknownResponseCode =>
      format s!"Unknown EC response code: {status.unknownResponseCodeValue.getD 0}"
  | .dataUnavailable => pure (.exact "Data unavailable")

/-- What a call that reports `status` may do to the store: nothing, or store the one
message whose token it reports. -/
def StoredFor (status : FrameworkStatus) (before after : DeviceErrorStore) : Prop :=
  (status.code ≠ .deviceError ∧ after = before) ∨
    ∃ message, status = .withCode .deviceError before.nextDeviceErrorId ∧
      after = (before.storeDeviceErrorMessage message).2

theorem storedFor_of_code {status : FrameworkStatus} (h : status.code ≠ .deviceError)
    (store : DeviceErrorStore) : StoredFor status store store :=
  .inl ⟨h, rfl⟩

def EcError.messages : EcError → List String
  | .response _ | .unknownResponseCode _ => []
  | .deviceError message => [message]

/-- A status is made of every error. It is no success, and the store changes for
a device error only. -/
theorem returns_statusFromError {error : EcError} {m : Machine} {w w' : World}
    {status : FrameworkStatus} (h : Returns (statusFromError error) m w status w') :
    w' = { w with errors := w.errors.storeAll error.messages } ∧
      status.code ≠ .success ∧ StoredFor status w.errors w'.errors := by
  cases error with
  | response response =>
      obtain ⟨rfl, rfl⟩ := returns_view.mp h
      have hcode := FrameworkStatus.code_withCode .ecResponse
        (m.upstream.ecResponseStatusCode response)
      refine ⟨rfl, ?_, storedFor_of_code ?_ _⟩
      · rw [hcode]
        decide
      · rw [hcode]
        decide
  | unknownResponseCode code =>
      obtain ⟨rfl, rfl⟩ := returns_pure.mp h
      have hcode := FrameworkStatus.code_withCode .unknownResponseCode
        (if code ≤ 0x7FFFFFFF then code.toInt32 else Int32.maxValue)
      refine ⟨rfl, ?_, storedFor_of_code ?_ _⟩
      · rw [hcode]
        decide
      · rw [hcode]
        decide
  | deviceError message =>
      obtain ⟨rfl, rfl⟩ := returns_act.mp h
      refine ⟨rfl, ?_, .inr ⟨message, rfl, rfl⟩⟩
      intro hcode
      cases hcode

def EcError.statusCode : EcError → FrameworkStatusCode
  | .response _ => .ecResponse
  | .unknownResponseCode _ => .unknownResponseCode
  | .deviceError _ => .deviceError

theorem code_of_statusFromError {error : EcError} {m : Machine} {w w' : World}
    {status : FrameworkStatus} (h : Returns (statusFromError error) m w status w') :
    status.code = error.statusCode := by
  cases error with
  | response response =>
      obtain ⟨rfl, -⟩ := returns_view.mp h
      exact FrameworkStatus.code_withCode _ _
  | unknownResponseCode code =>
      obtain ⟨rfl, -⟩ := returns_pure.mp h
      exact FrameworkStatus.code_withCode _ _
  | deviceError message =>
      obtain ⟨rfl, -⟩ := returns_act.mp h
      exact FrameworkStatus.code_withCode _ _

theorem toInt_toInt32 (word : UInt32) :
    word.toInt32.toInt = if word.toNat < 2 ^ 31 then (word.toNat : ℤ)
      else word.toNat - 2 ^ 32 := by
  have hlt := word.toNat_lt
  have hbmod : word.toInt32.toInt = (word.toNat : ℤ).bmod (2 ^ 32) :=
    BitVec.toInt_eq_toNat_bmod word.toBitVec
  rw [hbmod, Int.bmod_def]
  split_ifs <;> omega

/-- The field of the status that a response code is told in. -/
def saturated (code : UInt32) : Int32 :=
  if code ≤ 0x7FFFFFFF then code.toInt32 else Int32.maxValue

theorem toInt_saturated (code : UInt32) :
    (saturated code).toInt = min (code.toNat : ℤ) (2 ^ 31 - 1) := by
  unfold saturated
  split_ifs with h
  · have hle : code.toNat ≤ 2 ^ 31 - 1 := UInt32.le_iff_toNat_le.mp h
    rw [toInt_toInt32, if_pos (by omega)]
    omega
  · have hlt : ¬ code.toNat ≤ 2 ^ 31 - 1 := fun hle => h (UInt32.le_iff_toNat_le.mpr hle)
    rw [Int32.toInt_maxValue]
    omega

/-- The status of an error, whole: the number of the detail a response is known by, a
code cut down to the largest `i32`, or the token the store gives to the message. -/
inductive EcError.ReportedAs (upstream : Upstream) (store : DeviceErrorStore) :
    EcError → FrameworkStatus → Prop
  | response {reply : EcResponseStatus} {word : Int32}
      (hknown : 0 ≤ upstream.ecResponseStatusCode reply ∧
        upstream.ecResponseStatusCode reply ≤ 16 → word = upstream.ecResponseStatusCode reply)
      (hunknown : upstream.ecResponseStatusCode reply < 0 ∨
        16 < upstream.ecResponseStatusCode reply → word = -1) :
      ReportedAs upstream store (.response reply) ⟨.ecResponse, ⟨word⟩⟩
  | code {code : UInt32} {word : Int32}
      (hword : word.toInt = min (code.toNat : ℤ) (2 ^ 31 - 1)) :
      ReportedAs upstream store (.unknownResponseCode code) ⟨.unknownResponseCode, ⟨word⟩⟩
  | message {message : String} :
      ReportedAs upstream store (.deviceError message)
        ⟨.deviceError, ⟨store.nextDeviceErrorId⟩⟩

theorem toInt32_ecResponseDetailFromRaw {detail : Int32} (h : 0 ≤ detail ∧ detail ≤ 16) :
    (ecResponseDetailFromRaw detail).toInt32 = detail := by
  have hdetails : ∀ k : Fin 17,
      (ecResponseDetailFromRaw (Int32.ofNat k)).toInt32 = Int32.ofNat k := by decide
  have hlow : 0 ≤ detail.toInt := Int32.le_iff_toInt_le.mp h.1
  have hhigh : detail.toInt ≤ 16 := Int32.le_iff_toInt_le.mp h.2
  have hdetail : detail = Int32.ofNat detail.toInt.toNat := by
    rw [← Int32.toInt_inj, Int32.toInt_ofNat_of_lt (by omega), Int.toNat_of_nonneg hlow]
  rw [hdetail]
  exact hdetails ⟨detail.toInt.toNat, by omega⟩

theorem ecResponseDetailFromRaw_of_unknown {detail : Int32} (h : detail < 0 ∨ 16 < detail) :
    ecResponseDetailFromRaw detail = .unknown := by
  have hne : ∀ known : Int32, 0 ≤ known ∧ known ≤ 16 → detail ≠ known := by
    rintro known ⟨hlow, hhigh⟩ rfl
    rcases h with h | h
    · exact absurd hlow (Int32.not_le.mpr h)
    · exact absurd hhigh (Int32.not_le.mpr h)
  simp (disch := decide) only [ecResponseDetailFromRaw, hne, if_false]

theorem reportedAs_of_statusFromError {error : EcError} {m : Machine} {w w' : World}
    {status : FrameworkStatus} (h : Returns (statusFromError error) m w status w') :
    error.ReportedAs m.upstream w.errors status := by
  cases error with
  | response reply =>
      obtain ⟨rfl, -⟩ := returns_view.mp h
      refine .response toInt32_ecResponseDetailFromRaw fun hunknown => ?_
      rw [ecResponseDetailFromRaw_of_unknown hunknown]
      rfl
  | unknownResponseCode code =>
      obtain ⟨rfl, -⟩ := returns_pure.mp h
      exact .code (toInt_saturated code)
  | deviceError message =>
      obtain ⟨rfl, rfl⟩ := returns_act.mp h
      exact .message

theorem safe_statusFromError (error : EcError) : Safe (statusFromError error) := by
  cases error with
  | response response => exact safe_view _
  | unknownResponseCode code => exact safe_pure _
  | deviceError message => exact safe_act _

/-- The status of an error depends on the machine through its constants only. -/
theorem agrees_statusFromError {R : Machine → Machine → World → Prop}
    (hupstream : ∀ m m' w, R m m' w → m'.upstream = m.upstream)
    (htrace : ∀ m m' w w', R m m' w → w'.trace = w.trace → R m m' w') (error : EcError) :
    Agrees R (statusFromError error) := by
  cases error with
  | response response =>
      refine agrees_view fun m m' w h => ?_
      rw [hupstream m m' w h]
  | unknownResponseCode code => exact agrees_pure _
  | deviceError message =>
      exact agrees_act (fun _ _ _ _ => rfl) fun m m' w h => htrace m m' w _ h rfl

theorem keeps_format {τ : Type} (f : World → τ) (text : String) : Keeps f (format text) :=
  keeps_view _

theorem keeps_statusDescription {τ : Type} (f : World → τ) (status : FrameworkStatus) :
    Keeps f (statusDescription status) := by
  unfold statusDescription
  cases status.code with
  | deviceError =>
      cases status.deviceErrorMessageToken with
      | none => exact keeps_pure _
      | some token =>
          refine (keeps_act fun _ _ => rfl : Keeps f (getDeviceErrorMessage token)).bind ?_
          rintro (_ | message)
          · exact keeps_pure _
          · exact keeps_format f _
  | success | nullPointer | noDriverAvailable | unsupportedDriver | notSupported
  | dataUnavailable => exact keeps_pure _
  | invalidArgument | ecResponse | unknownResponseCode => exact keeps_format f _

end FrameworkFfi
