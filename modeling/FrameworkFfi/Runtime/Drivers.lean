import FrameworkFfi.Exports.System
import FrameworkFfi.Host.Silent
import FrameworkFfi.Library.Search

/-!
# Which driver a handle is opened on

`framework_ec_open_default` opens the first driver of the system that is
supported. It ends as `framework_ec_open_with_driver` does for that driver, and
no other driver is tried when the memory of the controller does not answer.
-/

namespace FrameworkFfi

open Effect Search

/-- The drivers of the system in the order they are tried, when the device node
of the kernel driver exists or not. -/
def Machine.candidates (m : Machine) (devPath : Bool) : List FrameworkEcDriver :=
  match m.targetOs with
  | .windows => [.windows]
  | .linux => (if devPath then [.crosEc] else []) ++ if m.x86_64 then [.portio] else []
  | .other => if m.x86_64 then [.portio] else []

/-- Detecting a driver has the same answer each time, and the device node stays. -/
structure Machine.StableDrivers (m : Machine) (devPath : Bool)
    (detected : CrosEcDriverType → Bool) : Prop where
  devPath : ∀ n, m.answer .crosEcDevPathExists n = devPath
  detected : ∀ driverType n, m.answer (.crosEcWith driverType) n = detected driverType

def HostRequest.tried : HostRequest → Option CrosEcDriverType
  | .crosEcWith driverType => some driverType
  | _ => none

/-- The drivers that were tried, the latest first. -/
def World.tried (w : World) : List CrosEcDriverType := w.trace.filterMap HostRequest.tried

/-- A driver is supported when this build knows it and it is detected. -/
def supports (detected : CrosEcDriverType → Bool) (driver : FrameworkEcDriver) : Bool :=
  (CrosEcDriverType.tryFrom driver).any detected

/-- A search tried `drivers` in order up to the first that is supported, and found
that one. -/
structure Tried (detected : CrosEcDriverType → Bool) (drivers : List FrameworkEcDriver)
    (handle : HandlePtr) (w w' : World) : Prop where
  handle : handle = (drivers.find? (supports detected)).map FrameworkEcHandle.mk
  tried : w'.tried = ((examined (supports detected) drivers).filterMap
    CrosEcDriverType.tryFrom).reverse ++ w.tried
  unchecked : w'.asked .checkMemMagic = w.asked .checkMemMagic

/-- Every run of `search` tries these drivers. -/
def Tries (m : Machine) (detected : CrosEcDriverType → Bool) (drivers : List FrameworkEcDriver)
    (search : Ffi HandlePtr) : Prop :=
  ∀ w handle w', Returns search m w handle w' → Tried detected drivers handle w w'

section Search

variable {m : Machine} {devPath : Bool} {detected : CrosEcDriverType → Bool}

theorem tries_nothing : Tries m detected [] (pure none) := by
  intro w handle w' h
  obtain ⟨rfl, rfl⟩ := returns_pure.mp h
  exact ⟨rfl, rfl, rfl⟩

theorem tried_record_of_none (w : World) {request : HostRequest} (h : request.tried = none) :
    (w.record request).tried = w.tried := by
  rw [World.tried, World.trace_record, List.filterMap_cons_none h, World.tried]

theorem tries_openDriver (hm : m.StableDrivers devPath detected)
    {driverType : CrosEcDriverType} {driver : FrameworkEcDriver}
    (hdriver : CrosEcDriverType.tryFrom driver = some driverType) :
    Tries m detected [driver] (openDriver driverType driver) := by
  intro w handle w' h
  obtain ⟨opened, w₁, hask, hpure⟩ := returns_bind.mp h
  obtain ⟨hopened, rfl⟩ := returns_ask.mp hask
  obtain ⟨rfl, rfl⟩ := returns_pure.mp hpure
  rw [hm.detected] at hopened
  have hsupports : supports detected driver = opened := by
    rw [supports, hdriver, Option.any_some, hopened]
  refine ⟨?_, ?_, w.asked_record_of_ne nofun⟩
  · cases opened with
    | true => rw [List.find?_cons_of_pos hsupports]; rfl
    | false => rw [List.find?_cons_of_neg (by simp [hsupports])]; rfl
  · have hexamined : examined (supports detected) [driver] = [driver] := by
      cases opened with
      | true => exact examined_cons_of_pos hsupports
      | false => exact examined_cons_of_neg hsupports
    rw [hexamined, List.filterMap_cons_some hdriver]
    rfl

theorem Tries.orElse {first rest : Ffi HandlePtr} {drivers more : List FrameworkEcDriver}
    (hfirst : Tries m detected drivers first) (hrest : Tries m detected more rest) :
    Tries m detected (drivers ++ more) (orElseHandle first rest) := by
  intro w handle w' h
  obtain ⟨found, w₁, hfound, hgoes⟩ := returns_bind.mp h
  obtain ⟨hhandle, htried, hunchecked⟩ := hfirst w found w₁ hfound
  cases hfind : drivers.find? (supports detected) with
  | some driver =>
      rw [hfind] at hhandle
      rw [hhandle] at hgoes
      obtain ⟨rfl, rfl⟩ := returns_pure.mp hgoes
      refine ⟨?_, ?_, hunchecked⟩
      · rw [List.find?_append, hfind]
        rfl
      · rw [examined_append_of_some hfind, htried]
  | none =>
      rw [hfind] at hhandle
      rw [hhandle] at hgoes
      obtain ⟨hhandle', htried', hunchecked'⟩ := hrest w₁ handle w' hgoes
      refine ⟨?_, ?_, hunchecked'.trans hunchecked⟩
      · rw [List.find?_append, hfind, Option.none_or, hhandle']
      · rw [examined_append_of_none hfind, htried', htried, examined_of_none hfind,
          List.filterMap_append, List.reverse_append, List.append_assoc]

theorem tries_windowsEcHandle (hm : m.StableDrivers devPath detected) :
    Tries m detected (if m.targetOs = .windows then [.windows] else []) windowsEcHandle := by
  intro w handle w' h
  obtain ⟨targetOs, w₁, hview, hrest⟩ := returns_bind.mp h
  obtain ⟨rfl, rfl⟩ := returns_view.mp hview
  split_ifs at hrest ⊢
  · exact tries_openDriver hm rfl _ handle w' hrest
  · exact tries_nothing _ handle w' hrest

theorem tries_crosEcDevHandle (hm : m.StableDrivers devPath detected) :
    Tries m detected (if devPath then [.crosEc] else []) crosEcDevHandle := by
  intro w handle w' h
  obtain ⟨pathExists, w₁, hask, hrest⟩ := returns_bind.mp h
  obtain ⟨hpath, rfl⟩ := returns_ask.mp hask
  rw [hm.devPath] at hpath
  have hkept : (w.record .crosEcDevPathExists).tried = w.tried := tried_record_of_none w rfl
  have hunasked : (w.record .crosEcDevPathExists).asked .checkMemMagic =
      w.asked .checkMemMagic := w.asked_record_of_ne (by decide)
  have htries : Tries m detected (if devPath then [.crosEc] else [])
      (if pathExists then openDriver .crosEc .crosEc else pure none) := by
    rw [hpath]
    split_ifs
    · exact tries_openDriver hm rfl
    · exact tries_nothing
  obtain ⟨hhandle, htried, hunchecked⟩ := htries _ handle w' hrest
  exact ⟨hhandle, hkept ▸ htried, hunchecked.trans hunasked⟩

theorem tries_linuxEcHandle (hm : m.StableDrivers devPath detected) :
    Tries m detected (if m.targetOs = .linux then if devPath then [.crosEc] else [] else [])
      linuxEcHandle := by
  intro w handle w' h
  obtain ⟨targetOs, w₁, hview, hrest⟩ := returns_bind.mp h
  obtain ⟨rfl, rfl⟩ := returns_view.mp hview
  split_ifs at hrest with hlinux
  · rw [if_pos hlinux]
    exact tries_crosEcDevHandle hm _ handle w' hrest
  · rw [if_neg hlinux]
    exact tries_nothing _ handle w' hrest

theorem tries_portioEcHandle (hm : m.StableDrivers devPath detected) :
    Tries m detected (if m.targetOs ≠ .windows ∧ m.x86_64 then [.portio] else [])
      portioEcHandle := by
  intro w handle w' h
  obtain ⟨targetOs, w₁, hos, hrest⟩ := returns_bind.mp h
  obtain ⟨x86_64, w₂, harch, hsearch⟩ := returns_bind.mp hrest
  obtain ⟨rfl, rfl⟩ := returns_view.mp hos
  obtain ⟨rfl, rfl⟩ := returns_view.mp harch
  split_ifs at hsearch ⊢
  · exact tries_openDriver hm rfl _ handle w' hsearch
  · exact tries_nothing _ handle w' hsearch

theorem tries_defaultEcHandle (hm : m.StableDrivers devPath detected) :
    Tries m detected (m.candidates devPath) defaultEcHandle := by
  have hcandidates : m.candidates devPath =
      (if m.targetOs = .windows then [.windows] else []) ++
        ((if m.targetOs = .linux then if devPath then [.crosEc] else [] else []) ++
          if m.targetOs ≠ .windows ∧ m.x86_64 then [.portio] else []) := by
    rw [Machine.candidates]
    cases m.targetOs <;> simp
  rw [hcandidates]
  exact (tries_windowsEcHandle hm).orElse
    ((tries_linuxEcHandle hm).orElse (tries_portioEcHandle hm))

end Search

/-- How the check of the memory ends an open. The token of a device error is not
told, since it depends on the errors before. -/
def checked (handle : FrameworkEcHandle) : EcResult Unit → FrameworkStatusCode × HandlePtr
  | .ok () => (.success, some handle)
  | .error error => (error.statusCode, none)

section Opening

variable {m : Machine} {devPath : Bool} {detected : CrosEcDriverType → Bool} {w w' : World}

theorem returns_checkedHandle {handle : FrameworkEcHandle} {result : StatusResult HandlePtr}
    (h : Returns (checkedHandle handle) m w result w') :
    ((reported none result).status.code, (reported none result).value) =
        checked handle (m.answer .checkMemMagic (w.asked .checkMemMagic)) ∧
      w'.tried = w.tried := by
  have hkept : (w.record .checkMemMagic).tried = w.tried := tried_record_of_none w rfl
  rcases returns_andThen h with ⟨status, hfirst, rfl⟩ | ⟨⟨⟩, w₁, hfirst, hrest⟩
  · rcases returns_query hfirst with ⟨_, -, hok⟩ | ⟨error, w₁, _, hask, hstatus, herror⟩
    · cases hok
    · obtain ⟨hanswer, rfl⟩ := returns_ask.mp hask
      obtain rfl := Except.error.inj herror
      have htrace : w'.trace = (w.record .checkMemMagic).trace := by
        rw [(returns_statusFromError hstatus).1]
      rw [← hanswer, checked, reported, code_of_statusFromError hstatus, World.tried, htrace]
      exact ⟨rfl, hkept⟩
  · obtain ⟨rfl, rfl⟩ := returns_pure.mp hrest
    rcases returns_query hfirst with ⟨_, hask, -⟩ | ⟨_, _, _, -, -, herror⟩
    · obtain ⟨hanswer, rfl⟩ := returns_ask.mp hask
      rw [← hanswer]
      exact ⟨rfl, hkept⟩
    · cases herror

theorem returns_frameworkEcDriverIsSupported (hm : m.StableDrivers devPath detected)
    {driver : FrameworkEcDriver} {answer : Bool}
    (h : Returns (frameworkEcDriverIsSupported driver) m w answer w') :
    answer = supports detected driver := by
  unfold frameworkEcDriverIsSupported driverIsSupported at h
  cases hdriver : CrosEcDriverType.tryFrom driver with
  | none =>
      rw [hdriver] at h
      obtain ⟨rfl, -⟩ := returns_pure.mp h
      rw [supports, hdriver]
      rfl
  | some driverType =>
      rw [hdriver] at h
      obtain ⟨rfl, -⟩ := returns_ask.mp h
      rw [hm.detected, supports, hdriver, Option.any_some]

/-- An open with a driver ends with the check of the memory, or the driver is not
supported. -/
theorem returns_frameworkEcOpenWithDriver (hm : m.StableDrivers devPath detected)
    {driver : FrameworkEcDriver} {result : FrameworkEcHandleResult}
    (h : Returns (frameworkEcOpenWithDriver driver) m w result w') :
    (supports detected driver = false → result = ⟨.withCode .unsupportedDriver 0, none⟩) ∧
      (supports detected driver = true → (result.status.code, result.value) =
        checked ⟨driver⟩ (m.answer .checkMemMagic (w.asked .checkMemMagic))) := by
  obtain ⟨opened, w₁, hopen, hresult⟩ := returns_bind.mp h
  obtain ⟨rfl, rfl⟩ := returns_pure.mp hresult
  unfold openWithDriverEc at hopen
  cases hdriver : CrosEcDriverType.tryFrom driver with
  | none =>
      rw [hdriver] at hopen
      obtain ⟨rfl, -⟩ := returns_pure.mp hopen
      rw [supports, hdriver]
      exact ⟨fun _ => rfl, nofun⟩
  | some driverType =>
      rw [hdriver] at hopen
      obtain ⟨handle, w₂, hsearch, hrest⟩ := returns_bind.mp hopen
      obtain ⟨hhandle, -, hunchecked⟩ := tries_openDriver hm hdriver _ _ _ hsearch
      cases hsupports : supports detected driver with
      | false =>
          rw [List.find?_cons_of_neg (by simp [hsupports])] at hhandle
          rw [hhandle] at hrest
          obtain ⟨rfl, -⟩ := returns_pure.mp hrest
          exact ⟨fun _ => rfl, nofun⟩
      | true =>
          rw [List.find?_cons_of_pos hsupports] at hhandle
          rw [hhandle] at hrest
          obtain ⟨hchecked, -⟩ := returns_checkedHandle hrest
          rw [hunchecked] at hchecked
          exact ⟨nofun, fun _ => hchecked⟩

end Opening

/-- On a machine whose drivers are detected the same way each time, an open by
default tries the drivers of the system in order, up to the first that
`framework_ec_driver_is_supported` tells supported, and then ends as an open with
that driver does when the memory of the controller answers the same. -/
theorem openDefault_agrees {m : Machine} {devPath : Bool} {detected : CrosEcDriverType → Bool}
    (hm : m.StableDrivers devPath detected) {supported : FrameworkEcDriver → Bool}
    (hsupported : ∀ driver, ∃ w w', Returns (frameworkEcDriverIsSupported driver) m w
      (supported driver) w')
    {w w' : World} {result : FrameworkEcHandleResult}
    (h : Returns frameworkEcOpenDefault m w result w') :
    w'.tried = ((examined supported (m.candidates devPath)).filterMap
        CrosEcDriverType.tryFrom).reverse ++ w.tried ∧
      ((m.candidates devPath).find? supported = none →
        result = ⟨.withCode .noDriverAvailable 0, none⟩) ∧
      ∀ driver, (m.candidates devPath).find? supported = some driver →
        ∀ w₁ chosen w₁', Returns (frameworkEcOpenWithDriver driver) m w₁ chosen w₁' →
          m.answer .checkMemMagic (w₁.asked .checkMemMagic) =
            m.answer .checkMemMagic (w.asked .checkMemMagic) →
          result.status.code = chosen.status.code ∧ result.value = chosen.value := by
  have hsame : supported = supports detected := by
    funext driver
    obtain ⟨_, _, hr⟩ := hsupported driver
    exact returns_frameworkEcDriverIsSupported hm hr
  obtain ⟨opened, w₁, hopen, hresult⟩ := returns_bind.mp h
  obtain ⟨rfl, rfl⟩ := returns_pure.mp hresult
  obtain ⟨handle, w₂, hsearch, hrest⟩ := returns_bind.mp hopen
  obtain ⟨hhandle, htried, hunchecked⟩ := tries_defaultEcHandle hm _ _ _ hsearch
  rw [hsame]
  cases hfind : (m.candidates devPath).find? (supports detected) with
  | none =>
      rw [hfind] at hhandle
      rw [hhandle] at hrest
      obtain ⟨rfl, rfl⟩ := returns_pure.mp hrest
      refine ⟨htried, fun _ => rfl, fun driver h => ?_⟩
      cases h
  | some driver =>
      rw [hfind] at hhandle
      rw [hhandle] at hrest
      obtain ⟨hchecked, hkept⟩ := returns_checkedHandle hrest
      refine ⟨hkept.trans htried, nofun, ?_⟩
      rintro _ ⟨⟩ w₃ chosen w₃' hr hmemory
      have hchosen := (returns_frameworkEcOpenWithDriver hm hr).2 (List.find?_some hfind)
      rw [hmemory, ← hunchecked] at hchosen
      exact Prod.mk.inj (hchecked.trans hchosen.symm)

/-- A Linux machine with the device node, on which only port I/O works. -/
def portioMachine : Machine :=
  ((Machine.silent.answering .crosEcDevPathExists true).answering (.crosEcWith .portio)
    true).answering .checkMemMagic (.ok ())

theorem openDefault_agrees_portio :
    ∃ result w' chosen w₁', Returns frameworkEcOpenDefault portioMachine .fresh result w' ∧
      Returns (frameworkEcOpenWithDriver .portio) portioMachine .fresh chosen w₁' ∧
      result.value = chosen.value ∧ chosen.value = some ⟨.portio⟩ ∧
      w'.tried = [.portio, .crosEc] := by
  have hm : portioMachine.StableDrivers true (· = .portio) :=
    { devPath := fun _ => rfl
      detected := by rintro (_ | _ | _) n <;> rfl }
  have hsupported : ∀ driver, ∃ w w', Returns (frameworkEcDriverIsSupported driver)
      portioMachine w (decide (driver = .portio)) w' := by
    intro driver
    cases driver <;> exact ⟨.fresh, _, rfl⟩
  have h : Returns frameworkEcOpenDefault portioMachine .fresh _ _ := rfl
  have hwith : Returns (frameworkEcOpenWithDriver .portio) portioMachine .fresh _ _ := rfl
  obtain ⟨htried, -, hagrees⟩ := openDefault_agrees hm hsupported h
  obtain ⟨-, hvalue⟩ := hagrees .portio rfl _ _ _ hwith rfl
  exact ⟨_, _, _, _, h, hwith, hvalue, rfl, htried⟩

end FrameworkFfi
