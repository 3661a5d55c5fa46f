import Mathlib.Logic.Basic

/-!
# The status record

The result records of the ABI share one `FrameworkStatus`: a code and a payload
of one word that the code says how to read. The payload is a union, so it is
kept here as its word and the readings are functions of it.
-/

namespace FrameworkFfi

inductive FrameworkStatusCode where
  | success
  | nullPointer
  | invalidArgument
  | noDriverAvailable
  | unsupportedDriver
  | deviceError
  | ecResponse
  | unknownResponseCode
  | dataUnavailable
  | notSupported
  deriving DecidableEq

inductive FrameworkEcResponseDetail where
  | unknown
  | success
  | invalidCommand
  | error
  | invalidParameter
  | accessDenied
  | invalidResponse
  | invalidVersion
  | invalidChecksum
  | inProgress
  | unavailable
  | timeout
  | overflow
  | invalidHeader
  | requestTruncated
  | responseTooBig
  | busError
  | busy
  deriving DecidableEq

/-- `detail as i32`. -/
def FrameworkEcResponseDetail.toInt32 : FrameworkEcResponseDetail → Int32
  | .unknown => -1
  | .success => 0
  | .invalidCommand => 1
  | .error => 2
  | .invalidParameter => 3
  | .accessDenied => 4
  | .invalidResponse => 5
  | .invalidVersion => 6
  | .invalidChecksum => 7
  | .inProgress => 8
  | .unavailable => 9
  | .timeout => 10
  | .overflow => 11
  | .invalidHeader => 12
  | .requestTruncated => 13
  | .responseTooBig => 14
  | .busError => 15
  | .busy => 16

/-- `ec_response_detail_from_raw`. -/
def ecResponseDetailFromRaw (detail : Int32) : FrameworkEcResponseDetail :=
  if detail = 0 then .success
  else if detail = 1 then .invalidCommand
  else if detail = 2 then .error
  else if detail = 3 then .invalidParameter
  else if detail = 4 then .accessDenied
  else if detail = 5 then .invalidResponse
  else if detail = 6 then .invalidVersion
  else if detail = 7 then .invalidChecksum
  else if detail = 8 then .inProgress
  else if detail = 9 then .unavailable
  else if detail = 10 then .timeout
  else if detail = 11 then .overflow
  else if detail = 12 then .invalidHeader
  else if detail = 13 then .requestTruncated
  else if detail = 14 then .responseTooBig
  else if detail = 15 then .busError
  else if detail = 16 then .busy
  else .unknown

@[simp] theorem ecResponseDetailFromRaw_toInt32 (detail : FrameworkEcResponseDetail) :
    ecResponseDetailFromRaw detail.toInt32 = detail := by
  cases detail <;> rfl

/-- The union of the five one-word payload records. -/
structure FrameworkStatusPayload where
  word : Int32
  deriving DecidableEq

namespace FrameworkStatusPayload

def none : FrameworkStatusPayload := ⟨0⟩

def ofInvalidFanIndex (fanIndex : Int32) : FrameworkStatusPayload := ⟨fanIndex⟩

def ofEcResponse (response : FrameworkEcResponseDetail) : FrameworkStatusPayload :=
  ⟨response.toInt32⟩

def ofUnknownEcResponseCode (responseCode : Int32) : FrameworkStatusPayload :=
  ⟨responseCode⟩

def ofDeviceError (messageToken : Int32) : FrameworkStatusPayload := ⟨messageToken⟩

/-- The `ec_response` reading of the union. A word that is the number of no
detail may not be read this way in the source; here it reads as `unknown`. -/
def ecResponse (payload : FrameworkStatusPayload) : FrameworkEcResponseDetail :=
  ecResponseDetailFromRaw payload.word

@[simp] theorem ecResponse_ofEcResponse (response : FrameworkEcResponseDetail) :
    (ofEcResponse response).ecResponse = response :=
  ecResponseDetailFromRaw_toInt32 response

end FrameworkStatusPayload

structure FrameworkStatus where
  code : FrameworkStatusCode
  payload : FrameworkStatusPayload
  deriving DecidableEq

namespace FrameworkStatus

/-- `no_payload`. -/
def noPayload (code : FrameworkStatusCode) : FrameworkStatus :=
  ⟨code, .none⟩

def success : FrameworkStatus := noPayload .success

/-- `invalid_fan_index`. -/
def invalidFanIndex (fanIndex : Int32) : FrameworkStatus :=
  ⟨.invalidArgument, .ofInvalidFanIndex fanIndex⟩

/-- `ec_response`. -/
def ecResponse (response : FrameworkEcResponseDetail) : FrameworkStatus :=
  ⟨.ecResponse, .ofEcResponse response⟩

/-- `unknown_response_code`. -/
def unknownResponseCode (responseCode : Int32) : FrameworkStatus :=
  ⟨.unknownResponseCode, .ofUnknownEcResponseCode responseCode⟩

/-- `device_error`. -/
def deviceError (messageToken : Int32) : FrameworkStatus :=
  ⟨.deviceError, .ofDeviceError messageToken⟩

/-- `FrameworkStatus::with`. -/
def withCode (code : FrameworkStatusCode) (detail : Int32) : FrameworkStatus :=
  match code with
  | .success => success
  | .nullPointer => noPayload .nullPointer
  | .invalidArgument => invalidFanIndex detail
  | .noDriverAvailable => noPayload .noDriverAvailable
  | .unsupportedDriver => noPayload .unsupportedDriver
  | .deviceError => deviceError detail
  | .ecResponse => ecResponse (ecResponseDetailFromRaw detail)
  | .unknownResponseCode => unknownResponseCode detail
  | .notSupported => noPayload .notSupported
  | .dataUnavailable => noPayload .dataUnavailable

@[simp] theorem code_noPayload (code : FrameworkStatusCode) : (noPayload code).code = code := rfl

@[simp] theorem code_success : success.code = .success := rfl

@[simp] theorem code_withCode (code : FrameworkStatusCode) (detail : Int32) :
    (withCode code detail).code = code := by
  cases code <;> rfl

/-- `invalid_fan_index_value`. -/
def invalidFanIndexValue (status : FrameworkStatus) : Option Int32 :=
  if status.code ≠ .invalidArgument then none else some status.payload.word

/-- `ec_response_detail`. -/
def ecResponseDetail (status : FrameworkStatus) : Option FrameworkEcResponseDetail :=
  if status.code ≠ .ecResponse then none else some status.payload.ecResponse

/-- `unknown_response_code_value`. -/
def unknownResponseCodeValue (status : FrameworkStatus) : Option Int32 :=
  if status.code ≠ .unknownResponseCode then none else some status.payload.word

/-- `device_error_message_token`. -/
def deviceErrorMessageToken (status : FrameworkStatus) : Option Int32 :=
  if status.code ≠ .deviceError then none else some status.payload.word

end FrameworkStatus

end FrameworkFfi
