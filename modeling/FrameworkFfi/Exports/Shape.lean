import FrameworkFfi.Abi.Result
import FrameworkFfi.Runtime

/-!
# The shape of an exported function

Nearly every exported function requires a handle, makes a query and reports its
result: with `success` and the fields of the answer, or with the status of what
failed and empty fields. `exported` is that shape, `exportedStatus` the one of a
function that reports a status alone.
-/

namespace FrameworkFfi

open Effect

section Shape

variable {α β : Type}

/-- The record of a result, with the empty fields when it failed. -/
def reported (empty : α) (result : StatusResult α) : FrameworkResult α :=
  match result with
  | .ok value => ⟨.success, value⟩
  | .error status => ⟨status, empty⟩

def reportedStatus (result : StatusResult Unit) : FrameworkStatus :=
  match result with
  | .ok () => .success
  | .error status => status

/-- A query without a handle. -/
def exportedQuery (empty : α) (query : Ffi (StatusResult α)) : Ffi (FrameworkResult α) := do
  let result ← query
  pure (reported empty result)

/-- The part of an exported function that needs its handle. -/
def withHandle (handle : HandlePtr) (query : FrameworkEcHandle → Ffi (StatusResult α)) :
    Ffi (StatusResult α) :=
  match requireHandle handle with
  | .ok handle => query handle
  | .error status => pure (.error status)

def exported (handle : HandlePtr) (empty : α) (query : FrameworkEcHandle → Ffi (StatusResult α)) :
    Ffi (FrameworkResult α) :=
  exportedQuery empty (withHandle handle query)

def exportedStatus (handle : HandlePtr) (command : FrameworkEcHandle → Ffi (StatusResult Unit)) :
    Ffi FrameworkStatus := do
  let result ← withHandle handle command
  pure (reportedStatus result)

/-- `Ok(a) => Record { .. }, Err(error) => fail(status_from_error(error))`. -/
def ecReply (query : Ffi (EcResult α)) (record : α → Ffi β) : Ffi (StatusResult β) := do
  let response ← query
  andThen (orStatus response) fun a => do
    let value ← record a
    pure (.ok value)

/-- `Some(a) => Record { .. }, None => fail(DataUnavailable)`. -/
def someReply (query : Ffi (Option α)) (record : α → Ffi β) : Ffi (StatusResult β) := do
  match ← query with
  | some a =>
      let value ← record a
      pure (.ok value)
  | none => pure (.error (.withCode .dataUnavailable 0))

end Shape

section ShapeRuns

variable {α β : Type} {query : Ffi (EcResult α)} {record : α → Ffi β} {m : Machine}
  {w w₁ w' : World}

theorem completes_ecReply_of_ok {a : α} (h : Returns query m w (.ok a) w₁) :
    Completes (ecReply query record) m w ↔ Completes (record a) m w₁ := by
  have hok : Returns (orStatus (.ok a)) m w₁ (.ok a) w₁ := rfl
  unfold ecReply
  rw [h.completes_bind_iff, completes_andThen_of_ok hok]
  exact completes_bind_iff_of_safe (fun _ => safe_pure _) m w₁

theorem completes_ecReply_of_error {error : EcError}
    (h : Returns query m w (.error error) w₁) : Completes (ecReply query record) m w := by
  obtain ⟨status, w₂, hstatus⟩ := (safe_statusFromError error).returns m w₁
  have herror : Returns (orStatus (.error error) : Ffi (StatusResult α)) m w₁ (.error status)
      w₂ := hstatus.bind_iff.mpr rfl
  exact h.completes_bind_iff.mpr (completes_andThen_of_error herror)

theorem returns_exported_of_ok {a : α} (h : Returns query m w (.ok a) w₁)
    (handle : FrameworkEcHandle) {empty : β} {result : FrameworkResult β} :
    Returns (exported (some handle) empty fun _ => ecReply query record) m w result w' ↔
      Returns (do let value ← record a; pure ⟨.success, value⟩) m w₁ result w' := by
  have hreply : ∀ reply w₂, Returns (ecReply query record) m w reply w₂ ↔
      Returns (do let value ← record a; pure (.ok value)) m w₁ reply w₂ := by
    intro reply w₂
    have hok : Returns (orStatus (.ok a)) m w₁ (.ok a) w₁ := rfl
    exact h.bind_iff.trans (returns_andThen_of_ok hok)
  unfold exported exportedQuery
  constructor
  · intro hcall
    obtain ⟨reply, w₂, hquery, hrecord⟩ := returns_bind.mp hcall
    obtain ⟨value, w₃, hvalue, hpure⟩ := returns_bind.mp ((hreply reply w₂).mp hquery)
    obtain ⟨rfl, rfl⟩ := returns_pure.mp hpure
    exact hvalue.bind_iff.mpr hrecord
  · intro hcall
    obtain ⟨value, w₂, hvalue, hrecord⟩ := returns_bind.mp hcall
    have hquery := (hreply _ _).mpr (hvalue.bind_iff.mpr returns_pure_self)
    exact returns_bind.mpr ⟨.ok value, w₂, hquery, hrecord⟩

/-- The status of a failed query is reported with the empty fields. -/
theorem returns_exported_of_error {error : EcError} (h : Returns query m w (.error error) w₁)
    (handle : FrameworkEcHandle) {empty : β} {result : FrameworkResult β} :
    Returns (exported (some handle) empty fun _ => ecReply query record) m w result w' ↔
      Returns (do let status ← statusFromError error; pure ⟨status, empty⟩) m w₁ result w' := by
  obtain ⟨status, w₂, hstatus⟩ := (safe_statusFromError error).returns m w₁
  have herror : Returns (orStatus (.error error) : Ffi (StatusResult α)) m w₁ (.error status)
      w₂ := hstatus.bind_iff.mpr returns_pure_self
  have hreply : Returns (ecReply query record) m w (.error status) w₂ :=
    h.bind_iff.mpr ((returns_andThen_of_error herror).mpr ⟨rfl, rfl⟩)
  rw [hstatus.bind_iff]
  exact hreply.bind_iff

/-- A call that has its handle reports the result of its query. -/
theorem returns_exported {handle : FrameworkEcHandle} {empty : α}
    {query : FrameworkEcHandle → Ffi (StatusResult α)} {result : FrameworkResult α}
    (h : Returns (exported (some handle) empty query) m w result w') :
    ∃ outcome, Returns (query handle) m w outcome w' ∧ result = reported empty outcome := by
  obtain ⟨outcome, w₁, hquery, hresult⟩ := returns_bind.mp h
  obtain ⟨rfl, rfl⟩ := returns_pure.mp hresult
  exact ⟨outcome, hquery, rfl⟩

theorem completes_exported {handle : HandlePtr} {empty : α}
    {query : FrameworkEcHandle → Ffi (StatusResult α)} :
    Completes (exported handle empty query) m w ↔
      ∀ h, handle = some h → Completes (query h) m w := by
  have hquery : Completes (exported handle empty query) m w ↔
      Completes (withHandle handle query) m w :=
    completes_bind_iff_of_safe (fun _ => safe_pure _) m w
  rw [hquery]
  cases handle with
  | none =>
      simp only [reduceCtorEq, false_imp_iff, implies_true, iff_true]
      exact completes_pure _ m w
  | some handle =>
      simp only [Option.some.injEq, forall_eq']
      rfl

/-- A query that needs no more of its handle than that there is one. -/
theorem completes_exported_iff {handle : HandlePtr} {empty : α}
    {query : FrameworkEcHandle → Ffi (StatusResult α)} {P : Prop}
    (hquery : ∀ h, Completes (query h) m w ↔ P) :
    Completes (exported handle empty query) m w ↔ (handle.isSome → P) := by
  rw [completes_exported]
  cases handle with
  | none => simp
  | some handle => simp [hquery]

end ShapeRuns

end FrameworkFfi
