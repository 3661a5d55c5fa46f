import FrameworkFfi.Calls.Steps

/-!
# Refused calls

A status blames the caller exactly when the arguments of the call are refused,
and a refused call has done nothing: the checks stand before every request.
-/

namespace FrameworkFfi

open Effect

/-! ### The checks -/

theorem failureOf_eq_some {γ : Type} {check : StatusResult γ} {status : FrameworkStatus}
    (h : failureOf check = some status) : check = .error status := by
  cases check with
  | ok c => cases h
  | error error => rw [Option.some.inj h]

/-- A check whose failures blame the caller. -/
def Blames {γ : Type} (check : StatusResult γ) : Prop :=
  ∀ status, check = .error status → status.blamesCaller = true

section Checks

variable {γ : Type} {check : StatusResult γ}

theorem blames_ok (c : γ) : Blames (.ok c : StatusResult γ) := by
  intro status h
  cases h

theorem blames_withCode {code : FrameworkStatusCode} (detail : Int32)
    (h : code = .nullPointer ∨ code = .invalidArgument ∨ code = .notSupported) :
    Blames (.error (.withCode code detail) : StatusResult γ) := by
  intro status hstatus
  obtain rfl := Except.error.inj hstatus
  simpa [FrameworkStatus.blamesCaller] using h

theorem blames_ite {c : Prop} [Decidable c] {first rest : StatusResult γ} (hfirst : Blames first)
    (hrest : Blames rest) : Blames (if c then first else rest) := by
  split_ifs
  · exact hfirst
  · exact hrest

theorem blames_parseOptionalFanIndex (fanIndex : Int32) :
    Blames (parseOptionalFanIndex fanIndex) :=
  blames_ite (blames_ok _) (blames_ite (blames_ok _) (blames_withCode _ (by decide)))

theorem blames_parseOptionalFanIndexU8 (fanIndex : Int32) :
    Blames (parseOptionalFanIndexU8 fanIndex) :=
  blames_ite (blames_ok _) (blames_ite (blames_ok _) (blames_withCode _ (by decide)))

theorem blames_requirePercent (percent : UInt8) : Blames (requirePercent percent) :=
  blames_ite (blames_withCode _ (by decide)) (blames_ok _)

theorem blames_requireLedLevel (level : FrameworkFingerprintLedLevel) :
    Blames (requireLedLevel level) := by
  unfold requireLedLevel
  cases fpLedBrightnessLevel level with
  | some ledLevel => exact blames_ok _
  | none => exact blames_withCode _ (by decide)

theorem blames_requireColors (colors : BytePtr) (colorCount : Int32) :
    Blames (requireColors colors colorCount) := by
  cases colors with
  | none => exact blames_withCode _ (by decide)
  | some memory => exact blames_ite (blames_withCode _ (by decide)) (blames_ok _)

theorem blames_requireAuthKey (authKey : BytePtr) : Blames (requireAuthKey authKey) := by
  cases authKey with
  | none => exact blames_withCode _ (by decide)
  | some memory => exact blames_ok _

theorem blames_borrowUtf8 (ptr : BytePtr) (length : Int32) : Blames (borrowUtf8 ptr length) := by
  cases ptr with
  | none => exact blames_withCode _ (by decide)
  | some memory =>
      refine blames_ite (blames_withCode _ (by decide)) ?_
      cases fromUtf8 (sliceFromRawParts memory length.toNatClampNeg) with
      | ok text => exact blames_ok _
      | error error => exact blames_withCode _ (by decide)

theorem blames_validateExpectedBytes (ptr : BytePtr) (length : UInt32) :
    Blames (validateExpectedBytes ptr length) := by
  refine blames_ite (blames_ok _) ?_
  cases ptr with
  | none => exact blames_withCode _ (by decide)
  | some memory => exact blames_ok _

/-- A handle that is missing is the caller's fault as well. -/
theorem blamesCaller_refusalOf (h : Blames check) {handle : HandlePtr} {status : FrameworkStatus}
    (hrefusal : refusalOf handle check = some status) : status.blamesCaller = true := by
  cases handle with
  | none =>
      obtain rfl := Option.some.inj hrefusal
      decide
  | some opened => exact h status (failureOf_eq_some hrefusal)

end Checks

/-! ### The calls -/

section Calls

variable {m : Machine} {w w' : World} {o : Outcome} {status : FrameworkStatus}

theorem blamesCaller_thermal {operation : ThermalOperation}
    (h : operation.refusal = some status) : status.blamesCaller = true := by
  cases operation with
  | ecSetFanRpm handle fanIndex _ | ecSetFanDuty handle fanIndex _ =>
      exact blamesCaller_refusalOf (blames_parseOptionalFanIndex fanIndex) h
  | ecRestoreAutoFanControl handle fanIndex =>
      exact blamesCaller_refusalOf (blames_parseOptionalFanIndexU8 fanIndex) h
  | _ => exact blamesCaller_refusalOf (blames_ok ()) h

theorem blamesCaller_controls {operation : ControlsOperation}
    (h : operation.refusal = some status) : status.blamesCaller = true := by
  cases operation with
  | ecSetKeyboardBacklight handle percent =>
      exact blamesCaller_refusalOf (blames_requirePercent percent) h
  | ecSetFingerprintLed handle level =>
      exact blamesCaller_refusalOf (blames_requireLedLevel level) h
  | ecSetRgbKeyboardColors handle _ colors colorCount =>
      exact blamesCaller_refusalOf (blames_requireColors colors colorCount) h
  | ecGetGpio handle name nameLength | ecSetGpio handle name nameLength _ =>
      exact blamesCaller_refusalOf (blames_borrowUtf8 name nameLength) h
  | getStylusBattery | touchscreenEnable _ | touchpadSetHapticIntensity _
  | touchpadSetClickForce _ => cases h
  | _ => exact blamesCaller_refusalOf (blames_ok ()) h

theorem blamesCaller_versions {operation : VersionsOperation}
    (h : operation.refusal m = some status) : status.blamesCaller = true := by
  cases operation with
  | ecGetPdControllerVersions handle | ecGetRetimerVersion handle =>
      exact blamesCaller_refusalOf (blames_ok ()) h
  | getNvmeVersion devicePath pathLength =>
      unfold VersionsOperation.refusal at h
      split_ifs at h
      · exact blames_borrowUtf8 devicePath pathLength status (failureOf_eq_some h)
      · obtain rfl := Option.some.inj h
        decide
  | _ => cases h

theorem blamesCaller_of_refusal {operation : Operation}
    (h : operation.refusal m = some status) : status.blamesCaller = true := by
  cases operation with
  | system operation =>
      cases operation with
      | ecGetActiveDriver handle | ecGetBuildInfo handle | ecGetFlashVersions handle =>
          exact blamesCaller_refusalOf (blames_ok ()) h
      | _ => cases h
  | thermal operation => exact blamesCaller_thermal h
  | controls operation => exact blamesCaller_controls h
  | inventory operation =>
      cases operation with
      | ecValidateGpuDescriptor handle ptr length =>
          exact blamesCaller_refusalOf (blames_validateExpectedBytes ptr length) h
      | _ => exact blamesCaller_refusalOf (blames_ok ()) h
  | diagnostics operation =>
      cases operation with
      | ecAuthenticateBattery handle authKey =>
          exact blamesCaller_refusalOf (blames_requireAuthKey authKey) h
      | _ => exact blamesCaller_refusalOf (blames_ok ()) h
  | versions operation => exact blamesCaller_versions h
  | release operation => cases h

/-- A call is blamed on its caller exactly when its arguments are refused. Then it
returns, with the reason and without a buffer, and the world is as it was. -/
theorem blamesCaller_iff_refused (operation : Operation) (m : Machine) (w : World)
    (status : FrameworkStatus) :
    (status.blamesCaller = true ∧
        ∃ buffers w', Returns operation.run m w ⟨some status, buffers⟩ w') ↔
      operation.refusal m = some status ∧
        ∃ buffers, ownedBy buffers = [] ∧ Returns operation.run m w ⟨some status, buffers⟩ w := by
  by_cases hreleases : operation.Releases
  · cases operation with
    | release operation =>
        constructor
        · rintro ⟨-, buffers, w', hr⟩
          cases status_release hr
        · rintro ⟨hrefusal, -⟩
          cases hrefusal
    | system _ | thermal _ | controls _ | inventory _ | diagnostics _ | versions _ =>
        exact hreleases.elim
  have hhandles := handles_operation (m := m) hreleases
  constructor
  · rintro ⟨hblames, buffers, w', hr⟩
    cases hrefusal : operation.refusal m with
    | none =>
        rw [hhandles.accepted hrefusal w _ w' hr status rfl] at hblames
        cases hblames
    | some refusal =>
        obtain ⟨nothing, howned, hrefused⟩ := hhandles.refused refusal hrefusal w
        obtain ⟨houtcome, rfl⟩ := hr.unique hrefused
        obtain rfl : status = refusal := Option.some.inj (congrArg Outcome.status houtcome)
        exact ⟨rfl, nothing, howned, hrefused⟩
  · rintro ⟨hrefusal, buffers, -, hr⟩
    exact ⟨blamesCaller_of_refusal hrefusal, buffers, w, hr⟩

end Calls

end FrameworkFfi
