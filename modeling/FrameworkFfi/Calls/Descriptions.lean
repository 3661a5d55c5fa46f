import FrameworkFfi.Calls.Tokens
import Mathlib.Data.List.Nodup

/-!
# An error, as its description tells it

An error of the controller becomes a status, a device error by way of the store, and
the status becomes a text. As long as tokens are positive the text tells the error
apart from every other one, up to the response codes that are too large for the
field of the status.
-/

namespace FrameworkFfi

open Effect

/-- An error is reported and the status is described at once. -/
def describeError (error : EcError) : Ffi OwnedString := do
  let status ← statusFromError error
  statusDescription status

theorem safe_statusDescription (status : FrameworkStatus) : Safe (statusDescription status) := by
  unfold statusDescription
  cases status.code with
  | deviceError =>
      cases status.deviceErrorMessageToken with
      | none => exact safe_pure _
      | some token =>
          refine (safe_act _ : Safe (getDeviceErrorMessage token)).bind ?_
          rintro (_ | message)
          · exact safe_pure _
          · exact safe_view _
  | success | nullPointer | noDriverAvailable | unsupportedDriver | notSupported
  | dataUnavailable => exact safe_pure _
  | invalidArgument | ecResponse | unknownResponseCode => exact safe_view _

theorem safe_describeError (error : EcError) : Safe (describeError error) :=
  (safe_statusFromError error).bind safe_statusDescription

/-- Two errors that are one, or two response codes that are both too large. -/
def EcError.Alike (error error' : EcError) : Prop :=
  error = error' ∨ ∃ code code', error = .unknownResponseCode code ∧
    error' = .unknownResponseCode code' ∧ 0x7FFFFFFF ≤ code ∧ 0x7FFFFFFF ≤ code'

/-- What there is to tell of an error. -/
inductive ToldError where
  | detail (response : FrameworkEcResponseDetail)
  | code (responseCode : Int32)
  | message (message : String)

def EcError.told (upstream : Upstream) : EcError → ToldError
  | .response reply => .detail (ecResponseDetailFromRaw (upstream.ecResponseStatusCode reply))
  | .unknownResponseCode code => .code (saturated code)
  | .deviceError text => .message text

def detailText (detail : FrameworkEcResponseDetail) : String :=
  s!"EC response: {ecResponseDetailName detail} ({detail.toInt32})"

def ToldError.text : ToldError → String
  | .detail response => detailText response
  | .code responseCode => s!"Unknown EC response code: {responseCode}"
  | .message text => s!"Device error: {text}"

section Texts

/-- Every detail, in the order of its number. -/
def responseDetails : List FrameworkEcResponseDetail :=
  [.unknown, .success, .invalidCommand, .error, .invalidParameter, .accessDenied,
    .invalidResponse, .invalidVersion, .invalidChecksum, .inProgress, .unavailable, .timeout,
    .overflow, .invalidHeader, .requestTruncated, .responseTooBig, .busError, .busy]

theorem mem_responseDetails (detail : FrameworkEcResponseDetail) : detail ∈ responseDetails := by
  cases detail <;> decide

theorem detailText_injective : Function.Injective detailText := by
  have hnodup : (responseDetails.map detailText).Nodup := by decide
  intro detail detail' h
  exact List.inj_on_of_nodup_map hnodup (mem_responseDetails detail) (mem_responseDetails detail') h

theorem natRepr_injective : Function.Injective Nat.repr := by
  intro m n h
  have hdigits : Nat.toDigits 10 m = Nat.toDigits 10 n := by
    rw [← Nat.toList_repr, h, Nat.toList_repr]
  rw [← Nat.ofDigitChars_ten_toDigits (n := m), hdigits, Nat.ofDigitChars_ten_toDigits]

/-- No number starts with a sign. -/
theorem natRepr_ne_minus (n : ℕ) (rest : String) : n.repr ≠ "-" ++ rest := by
  intro h
  have hmem : '-' ∈ Nat.toDigits 10 n := by
    rw [← Nat.toList_repr, h, String.toList_append]
    exact List.mem_append_left _ (by decide)
  have hdigit : '-'.isDigit = true :=
    Nat.isDigit_of_mem_toDigits (by decide) (by decide) hmem
  exact absurd hdigit (by decide)

theorem intRepr_injective : Function.Injective Int.repr := by
  intro i j h
  rw [Int.repr_eq_if, Int.repr_eq_if] at h
  split_ifs at h with hi hj hj
  · have hnat := natRepr_injective h
    omega
  · exact absurd h (natRepr_ne_minus _ _)
  · exact absurd h.symm (natRepr_ne_minus _ _)
  · have hnat := natRepr_injective ((String.append_right_inj _).mp h)
    omega

theorem toString_int32_injective : Function.Injective (toString : Int32 → String) := by
  intro i j h
  have hrepr : i.toInt.repr = j.toInt.repr := h
  exact Int32.toInt_inj.mp (intRepr_injective hrepr)

def ToldError.initial : ToldError → Char
  | .detail _ => 'E'
  | .code _ => 'U'
  | .message _ => 'D'

theorem head?_toList_append {first : String} {c : Char} (h : first.toList.head? = some c)
    (rest : String) : (first ++ rest).toList.head? = some c := by
  rw [String.toList_append, List.head?_append, h, Option.some_or]

theorem head?_text (told : ToldError) : told.text.toList.head? = some told.initial := by
  cases told with
  | detail response =>
      have hhead : "EC response: ".toList.head? = some 'E' := by decide
      exact head?_toList_append (head?_toList_append (head?_toList_append
        (head?_toList_append hhead _) _) _) _
  | code responseCode =>
      have hhead : "Unknown EC response code: ".toList.head? = some 'U' := by decide
      exact head?_toList_append hhead _
  | message text =>
      have hhead : "Device error: ".toList.head? = some 'D' := by decide
      exact head?_toList_append hhead _

theorem text_injective : Function.Injective ToldError.text := by
  intro told told' h
  have hinitial : told.initial = told'.initial := by
    have hhead := head?_text told
    rw [h, head?_text] at hhead
    exact (Option.some.inj hhead).symm
  have hEU : 'E' ≠ 'U' := by decide
  have hED : 'E' ≠ 'D' := by decide
  have hUD : 'U' ≠ 'D' := by decide
  cases told with
  | detail response =>
      cases told' with
      | detail response' => exact congrArg _ (detailText_injective h)
      | code _ => exact absurd hinitial hEU
      | message _ => exact absurd hinitial hED
  | code responseCode =>
      cases told' with
      | code responseCode' =>
          have hcode : toString responseCode = toString responseCode' :=
            (String.append_right_inj _).mp h
          exact congrArg _ (toString_int32_injective hcode)
      | detail _ => exact absurd hinitial hEU.symm
      | message _ => exact absurd hinitial hUD
  | message text =>
      cases told' with
      | message text' => exact congrArg _ ((String.append_right_inj _).mp h)
      | detail _ => exact absurd hinitial hED.symm
      | code _ => exact absurd hinitial hUD.symm

end Texts

section Errors

variable {m : Machine} {w w' : World} {error : EcError} {text : OwnedString}

theorem saturated_eq_iff (code code' : UInt32) :
    saturated code = saturated code' ↔
      code = code' ∨ 0x7FFFFFFF ≤ code ∧ 0x7FFFFFFF ≤ code' := by
  have hle : ∀ code : UInt32, 0x7FFFFFFF ≤ code ↔ 2 ^ 31 - 1 ≤ code.toNat :=
    fun _ => UInt32.le_iff_toNat_le
  rw [← Int32.toInt_inj, toInt_saturated, toInt_saturated, hle, hle, ← UInt32.toNat_inj]
  omega

/-- What is told of two errors is the same when they are alike. -/
theorem told_eq_iff {upstream : Upstream}
    (hcodes : Function.Injective fun response =>
      ecResponseDetailFromRaw (upstream.ecResponseStatusCode response))
    (error error' : EcError) :
    error.told upstream = error'.told upstream ↔ error.Alike error' := by
  constructor
  · intro htold
    cases error with
    | response reply =>
        cases error' with
        | response reply' => exact .inl (congrArg _ (hcodes (ToldError.detail.inj htold)))
        | unknownResponseCode _ => cases htold
        | deviceError _ => cases htold
    | unknownResponseCode code =>
        cases error' with
        | unknownResponseCode code' =>
            rcases (saturated_eq_iff code code').mp (ToldError.code.inj htold) with rfl | hlarge
            · exact .inl rfl
            · exact .inr ⟨code, code', rfl, rfl, hlarge⟩
        | response _ => cases htold
        | deviceError _ => cases htold
    | deviceError text =>
        cases error' with
        | deviceError text' => exact .inl (congrArg _ (ToldError.message.inj htold))
        | response _ => cases htold
        | unknownResponseCode _ => cases htold
  · rintro (rfl | ⟨code, code', rfl, rfl, hlarge⟩)
    · rfl
    · exact congrArg ToldError.code ((saturated_eq_iff code code').mpr (.inr hlarge))

/-- The text of an error, when the token of the next message is positive. -/
theorem text_of_describeError (hnumbered : w.errors.Numbered)
    (hid : 0 < w.errors.nextDeviceErrorId) (h : Returns (describeError error) m w text w') :
    text.text = (error.told m.upstream).text := by
  obtain ⟨status, w₁, hstatus, hdescription⟩ := returns_bind.mp h
  cases error with
  | response reply =>
      obtain ⟨rfl, rfl⟩ := returns_view.mp hstatus
      obtain ⟨rfl, -⟩ := returns_view.mp hdescription
      have hdetail : (FrameworkStatus.withCode .ecResponse
          (m.upstream.ecResponseStatusCode reply)).ecResponseDetail =
            some (ecResponseDetailFromRaw (m.upstream.ecResponseStatusCode reply)) :=
        congrArg some (FrameworkStatusPayload.ecResponse_ofEcResponse _)
      show s!"EC response: {_} ({_})" = _
      rw [hdetail]
      rfl
  | unknownResponseCode code =>
      obtain ⟨rfl, rfl⟩ := returns_pure.mp hstatus
      obtain ⟨rfl, -⟩ := returns_view.mp hdescription
      rfl
  | deviceError message =>
      obtain ⟨_, _, _, hfresh, -, -, _, hdescribed, htext⟩ :=
        (resolvesFresh_iff hnumbered message).mpr (Int32.not_le.mpr hid)
      obtain ⟨rfl, rfl⟩ := hstatus.unique hfresh
      obtain ⟨rfl, -⟩ := hdescription.unique hdescribed
      exact htext

theorem nextDeviceErrorId_pos {calls : List (Operation × Outcome)}
    (h : Sequence Operation.run (fun _ _ => True) m .fresh calls w)
    (hshort : 4 * calls.length < 2 ^ 31 - 1) : 0 < w.errors.nextDeviceErrorId := by
  obtain ⟨messages, hlength, herrors⟩ := stored_run h
  have hid := DeviceErrorStore.next_le_zero_iff messages
  rw [herrors, ← Int32.not_le]
  show ¬ (DeviceErrorStore.initial.storeAll messages).nextDeviceErrorId ≤ 0
  rw [hid]
  omega

/-- After any two runs in which no token has wrapped, two errors that are reported and
described have the same text exactly when they are alike. -/
theorem errorDescriptions_apart
    (hcodes : Function.Injective fun response =>
      ecResponseDetailFromRaw (m.upstream.ecResponseStatusCode response))
    {earlier earlier' : List (Operation × Outcome)} {w₁ w₁' : World}
    (hearlier : Sequence Operation.run (fun _ _ => True) m .fresh earlier w)
    (hearlier' : Sequence Operation.run (fun _ _ => True) m .fresh earlier' w')
    (hshort : 4 * earlier.length < 2 ^ 31 - 1) (hshort' : 4 * earlier'.length < 2 ^ 31 - 1)
    {error error' : EcError} {text text' : OwnedString}
    (h : Returns (describeError error) m w text w₁)
    (h' : Returns (describeError error') m w' text' w₁') :
    text.text = text'.text ↔ error.Alike error' := by
  rw [text_of_describeError (numbered_run hearlier) (nextDeviceErrorId_pos hearlier hshort) h,
    text_of_describeError (numbered_run hearlier') (nextDeviceErrorId_pos hearlier' hshort') h',
    text_injective.eq_iff, told_eq_iff hcodes]

end Errors

theorem responseCodes_documented : Function.Injective fun response =>
    ecResponseDetailFromRaw (Upstream.documented.ecResponseStatusCode response) := by
  intro response response' h
  cases response <;> cases response' <;> first | rfl | exact absurd h (by decide)

/-- Behind one stored message and behind more, a message that reads like another error is
told apart from it, and the same message is told the same. -/
theorem errorDescriptions_apart_failing :
    ∃ o w o' w', Returns failingFlags.run failingMachine .fresh o w ∧
      w.errors.nextDeviceErrorId = 2 ∧ Returns failingInventory.run failingMachine w o' w' ∧
      ∃ text w₁ text' w₁' again w₂,
        Returns (describeError (.deviceError "EC response: Busy (16)")) failingMachine w
          text w₁ ∧
        Returns (describeError (.response .busy)) failingMachine w' text' w₁' ∧
        Returns (describeError (.deviceError "EC response: Busy (16)")) failingMachine w'
          again w₂ ∧
        text.text ≠ text'.text ∧ text.text = again.text := by
  obtain ⟨o, w, hflags, hnext⟩ : ∃ o w, Returns failingFlags.run failingMachine .fresh o w ∧
      w.errors.nextDeviceErrorId = 2 := ⟨_, _, rfl, rfl⟩
  obtain ⟨o', w', hinventory⟩ : Completes failingInventory.run failingMachine w := ⟨_, _, rfl⟩
  have hearlier : Sequence Operation.run (fun _ _ => True) failingMachine .fresh
      [(failingFlags, o)] w := .cons trivial hflags (.nil w)
  have hlater : Sequence Operation.run (fun _ _ => True) failingMachine .fresh
      [(failingFlags, o), (failingInventory, o')] w' :=
    .cons trivial hflags (.cons trivial hinventory (.nil w'))
  have hdescribed := fun error w => (safe_describeError error).returns failingMachine w
  obtain ⟨text, w₁, h⟩ := hdescribed (.deviceError "EC response: Busy (16)") w
  obtain ⟨text', w₁', h'⟩ := hdescribed (.response .busy) w'
  obtain ⟨again, w₂, hagain⟩ := hdescribed (.deviceError "EC response: Busy (16)") w'
  refine ⟨o, w, o', w', hflags, hnext, hinventory, text, w₁, text', w₁', again, w₂, h, h', hagain,
    fun hsame => ?_, ?_⟩
  · rcases (errorDescriptions_apart responseCodes_documented hearlier hlater (by simp) (by simp)
      h h').mp hsame with halike | ⟨code, code', halike, -⟩
    · cases halike
    · cases halike
  · exact (errorDescriptions_apart responseCodes_documented hearlier hlater (by simp) (by simp)
      h hagain).mpr (.inl rfl)

end FrameworkFfi
