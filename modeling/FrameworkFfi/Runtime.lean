import FrameworkFfi.AbiImpls
import FrameworkFfi.Status.Report

/-!
# Handles, features and fan indices

A handle is a pointer of the caller: it is null or it points to an open driver.
The results of helpers that can fail with a status are `Except FrameworkStatus`;
`orStatus` and `andThen` are the `map_err(status_from_error)` and the `?` that
the helpers are written with.
-/

namespace FrameworkFfi

open Effect

structure FrameworkEcHandle where
  driver : FrameworkEcDriver
  deriving DecidableEq

/-- A `*const FrameworkEcHandle`, null or valid. -/
abbrev HandlePtr := Option FrameworkEcHandle

abbrev StatusResult (α : Type) := Except FrameworkStatus α

/-- `.map_err(status_from_error)`. -/
def orStatus {α : Type} (result : EcResult α) : Ffi (StatusResult α) :=
  match result with
  | .ok a => pure (.ok a)
  | .error error => do
      let status ← statusFromError error
      pure (.error status)

/-- The `?` operator. -/
def andThen {ε α β : Type} (first : Ffi (Except ε α)) (rest : α → Ffi (Except ε β)) :
    Ffi (Except ε β) := do
  match ← first with
  | .ok a => rest a
  | .error error => pure (.error error)

/-- `CrosEc::with` for a handle that reports `driver`. -/
def openDriver (driverType : CrosEcDriverType) (driver : FrameworkEcDriver) :
    Ffi (Option FrameworkEcHandle) := do
  let opened ← ask (.crosEcWith driverType)
  pure (if opened then some ⟨driver⟩ else none)

/-- The driver `default_ec_handle` tries first on Windows. -/
def windowsEcHandle : Ffi (Option FrameworkEcHandle) := do
  let targetOs ← view Machine.targetOs
  if targetOs = .windows then openDriver .windows .windows else pure none

/-- `CrosEc::with(CrosEcDriverType::CrosEc)` when its device node exists. -/
def crosEcDevHandle : Ffi (Option FrameworkEcHandle) := do
  let pathExists ← ask .crosEcDevPathExists
  if pathExists then openDriver .crosEc .crosEc else pure none

/-- The driver `default_ec_handle` tries on Linux. -/
def linuxEcHandle : Ffi (Option FrameworkEcHandle) := do
  let targetOs ← view Machine.targetOs
  if targetOs = .linux then crosEcDevHandle else pure none

/-- The driver `default_ec_handle` tries last, on x86-64 without Windows. -/
def portioEcHandle : Ffi (Option FrameworkEcHandle) := do
  let targetOs ← view Machine.targetOs
  let x86_64 ← view Machine.x86_64
  if targetOs ≠ .windows ∧ x86_64 then openDriver .portio .portio else pure none

def orElseHandle (first rest : Ffi (Option FrameworkEcHandle)) :
    Ffi (Option FrameworkEcHandle) := do
  match ← first with
  | some handle => pure (some handle)
  | none => rest

/-- `default_ec_handle`. -/
def defaultEcHandle : Ffi (Option FrameworkEcHandle) :=
  orElseHandle windowsEcHandle (orElseHandle linuxEcHandle portioEcHandle)

/-- `driver_is_supported`. -/
def driverIsSupported (driver : FrameworkEcDriver) : Ffi Bool :=
  match CrosEcDriverType.tryFrom driver with
  | none => pure false
  | some driverType => ask (.crosEcWith driverType)

/-- A handle is given out once the EC memory answers. -/
def checkedHandle (handle : FrameworkEcHandle) : Ffi (StatusResult HandlePtr) :=
  andThen (do orStatus (← ask .checkMemMagic)) fun () => pure (.ok (some handle))

/-- `open_default_ec`. -/
def openDefaultEc : Ffi (StatusResult HandlePtr) := do
  match ← defaultEcHandle with
  | none => pure (.error (.withCode .noDriverAvailable 0))
  | some handle => checkedHandle handle

/-- `open_with_driver_ec` for a driver of this system. -/
def openDriverType (driverType : CrosEcDriverType) (driver : FrameworkEcDriver) :
    Ffi (StatusResult HandlePtr) := do
  match ← openDriver driverType driver with
  | none => pure (.error (.withCode .unsupportedDriver 0))
  | some handle => checkedHandle handle

/-- `open_with_driver_ec`. -/
def openWithDriverEc (driver : FrameworkEcDriver) : Ffi (StatusResult HandlePtr) :=
  match CrosEcDriverType.tryFrom driver with
  | none => pure (.error (.withCode .unsupportedDriver 0))
  | some driverType => openDriverType driverType driver

/-- `require_handle`. -/
def requireHandle (handle : HandlePtr) : StatusResult FrameworkEcHandle :=
  match handle with
  | none => .error (.withCode .nullPointer 0)
  | some handle => .ok handle

/-- `read_feature_flags`. -/
def readFeatureFlags : Ffi (StatusResult (FixedArray 2 UInt32)) := do
  let response ← ask .getFeatures
  orStatus response

/-- The word and the bit of a feature. -/
def featureWord (index : Fin 64) : Fin 2 := ⟨index / 32, by omega⟩

def featureBit (index : Fin 64) : UInt32 := 1 <<< UInt32.ofNat (index % 32)

/-- `feature_enabled`. -/
def featureEnabled (feature : EcFeatureCode) : Ffi (StatusResult Bool) :=
  andThen readFeatureFlags fun flags => do
    let index ← view fun m => m.upstream.featureCode feature
    pure (.ok (flags (featureWord index) &&& featureBit index ≠ 0))

/-- `.unwrap_or(default)` on a result. -/
def unwrapOr {α : Type} (result : StatusResult α) (default : α) : α :=
  match result with
  | .ok a => a
  | .error _ => default

/-- `parse_optional_fan_index`. -/
def parseOptionalFanIndex (fanIndex : Int32) : StatusResult (Option UInt32) :=
  if fanIndex = -1 then .ok none
  else if 0 ≤ fanIndex then .ok (some fanIndex.toUInt32)
  else .error (.withCode .invalidArgument fanIndex)

/-- `parse_optional_fan_index_u8`. -/
def parseOptionalFanIndexU8 (fanIndex : Int32) : StatusResult (Option UInt8) :=
  if fanIndex = -1 then .ok none
  else if 0 ≤ fanIndex ∧ fanIndex ≤ 255 then .ok (some fanIndex.toUInt32.toUInt8)
  else .error (.withCode .invalidArgument fanIndex)

theorem keeps_orStatus {τ α : Type} {f : World → τ}
    (hf : ∀ w errors, f { w with errors } = f w) (result : EcResult α) :
    Keeps f (orStatus result) := by
  cases result with
  | ok a => exact keeps_pure _
  | error error =>
      refine Keeps.bind ?_ fun status => keeps_pure _
      cases error with
      | response response => exact keeps_view _
      | unknownResponseCode code => exact keeps_pure _
      | deviceError message => exact keeps_act fun _ w => hf w _

theorem keeps_andThen {ε τ α β : Type} {f : World → τ} {first : Ffi (Except ε α)}
    {rest : α → Ffi (Except ε β)} (hfirst : Keeps f first)
    (hrest : ∀ a, Keeps f (rest a)) : Keeps f (andThen first rest) := by
  refine hfirst.bind ?_
  rintro (error | a)
  · exact keeps_pure _
  · exact hrest a

theorem safe_orStatus {α : Type} (result : EcResult α) : Safe (orStatus result) := by
  cases result with
  | ok a => exact safe_pure _
  | error error => exact (safe_statusFromError error).bind fun status => safe_pure _

theorem avoids_andThen {e : Panic} {ε α β : Type} {first : Ffi (Except ε α)}
    {rest : α → Ffi (Except ε β)} (hfirst : Avoids e first)
    (hrest : ∀ a, Avoids e (rest a)) : Avoids e (andThen first rest) := by
  refine hfirst.bind ?_
  rintro (error | a)
  · exact safe_pure _ e
  · exact hrest a

theorem safe_andThen {ε α β : Type} {first : Ffi (Except ε α)}
    {rest : α → Ffi (Except ε β)} (hfirst : Safe first) (hrest : ∀ a, Safe (rest a)) :
    Safe (andThen first rest) :=
  fun e => avoids_andThen (hfirst e) fun a => hrest a e

section AndThen

variable {ε α β : Type} {first : Ffi (Except ε α)} {rest : α → Ffi (Except ε β)}
  {m : Machine} {w w₁ w' : World} {result : Except ε β}

theorem returns_andThen_of_ok {a : α} (h : Returns first m w (.ok a) w₁) :
    Returns (andThen first rest) m w result w' ↔ Returns (rest a) m w₁ result w' :=
  h.bind_iff

theorem returns_andThen_of_error {error : ε} (h : Returns first m w (.error error) w₁) :
    Returns (andThen first rest) m w result w' ↔ result = .error error ∧ w' = w₁ := by
  unfold andThen
  rw [h.bind_iff]
  exact returns_pure

theorem completes_andThen_of_ok {a : α} (h : Returns first m w (.ok a) w₁) :
    Completes (andThen first rest) m w ↔ Completes (rest a) m w₁ :=
  h.completes_bind_iff

theorem completes_andThen_of_error {error : ε} (h : Returns first m w (.error error) w₁) :
    Completes (andThen first rest) m w :=
  ⟨.error error, w₁, (returns_andThen_of_error h).mpr ⟨rfl, rfl⟩⟩

/-- Either the first part failed, or it succeeded and the rest went on. -/
theorem returns_andThen (h : Returns (andThen first rest) m w result w') :
    (∃ error, Returns first m w (.error error) w' ∧ result = .error error) ∨
      ∃ a w₁, Returns first m w (.ok a) w₁ ∧ Returns (rest a) m w₁ result w' := by
  obtain ⟨outcome, w₁, hfirst, hrest⟩ := returns_bind.mp h
  cases outcome with
  | error error =>
      obtain ⟨rfl, rfl⟩ := returns_pure.mp hrest
      exact .inl ⟨error, hfirst, rfl⟩
  | ok a => exact .inr ⟨a, w₁, hfirst, hrest⟩

end AndThen

section Query

variable {α : Type} {query : Ffi (EcResult α)} {m : Machine} {w w₁ w' : World}

/-- The two ways a query with `map_err(status_from_error)` ends. -/
theorem returns_query {result : StatusResult α}
    (h : Returns (do orStatus (← query)) m w result w') :
    (∃ a, Returns query m w (.ok a) w' ∧ result = .ok a) ∨
      ∃ error w₁ status, Returns query m w (.error error) w₁ ∧
        Returns (statusFromError error) m w₁ status w' ∧ result = .error status := by
  obtain ⟨response, w₁, hquery, hstatus⟩ := returns_bind.mp h
  cases response with
  | ok a =>
      obtain ⟨rfl, rfl⟩ := returns_pure.mp hstatus
      exact .inl ⟨a, hquery, rfl⟩
  | error error =>
      obtain ⟨status, w₂, hstatus, hpure⟩ := returns_bind.mp hstatus
      obtain ⟨rfl, rfl⟩ := returns_pure.mp hpure
      exact .inr ⟨error, w₁, status, hquery, hstatus, rfl⟩

theorem returns_query_of_ok {a : α} (h : Returns query m w (.ok a) w₁) :
    Returns (do orStatus (← query)) m w (.ok a) w₁ :=
  h.bind_iff.mpr rfl

theorem returns_query_of_error {error : EcError} (h : Returns query m w (.error error) w₁) :
    ∃ status w', Returns (statusFromError error) m w₁ status w' ∧
      Returns (do orStatus (← query)) m w (.error status) w' := by
  obtain ⟨status, w', hstatus⟩ := (safe_statusFromError error).returns m w₁
  have herror : Returns (orStatus (.error error) : Ffi (StatusResult α)) m w₁ (.error status)
      w' := hstatus.bind_iff.mpr rfl
  exact ⟨status, w', hstatus, h.bind_iff.mpr herror⟩

end Query

end FrameworkFfi
