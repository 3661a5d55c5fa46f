import FrameworkFfi.Accounting.Accounts
import FrameworkFfi.Exports.Operation

/-!
# Calls that are accounted for

A call is `Accounted` when the ledger grows by the buffers of its outcome, by
none when it failed, and the store changes for the status it reports only. Each
exported function is accounted for by the rule of its shape, except the four
that ask the expansion bay for its presence alone.
-/

namespace FrameworkFfi

open Effect

namespace Outcome

/-- The ledger grows by some `lost` buffers and by those of the outcome. -/
structure Ledger (o : Outcome) (lost : List FrameworkByteBuffer) (w w' : World) : Prop where
  outstanding : w'.outstanding = w.outstanding ++ (lost ++ ownedBy o.buffers)
  failure : ∀ status, o.status = some status → status.code ≠ .success → ownedBy o.buffers = []

/-- The store changes for the status that is reported, if there is one. -/
def Stores (o : Outcome) (w w' : World) : Prop :=
  match o.status with
  | some status => StoredFor status w.errors w'.errors
  | none => w'.errors = w.errors

end Outcome

/-- A call whose lasting effects its outcome accounts for. -/
def Accounted (call : Ffi Outcome) : Prop :=
  ∀ m w o w', Returns call m w o w' → o.Ledger [] w w' ∧ o.Stores w w'

/-! ### The rules of the shapes -/

section Shapes

variable {α : Type} {made : α → List FrameworkByteBuffer} {empty : α}

theorem storedFor_success {before after : DeviceErrorStore} (h : after = before) :
    StoredFor .success before after :=
  .inl ⟨by decide, h⟩

/-- What a query loses is the only part of the ledger its outcome does not show. -/
theorem AccountsBut.outcome {loses : Machine → World → Prop}
    {query : Ffi (StatusResult α)} (h : AccountsBut loses query made)
    (hempty : ownedBy (made empty) = []) {m : Machine}
    {w w' : World} {o : Outcome}
    (hr : Returns (reporting made (exportedQuery empty query)) m w o w') :
    ∃ lost, (lost = [] ↔ ¬ loses m w) ∧ o.Ledger lost w w' ∧ o.Stores w w' := by
  obtain ⟨result, w₁, hresult, hpure⟩ := returns_bind.mp hr
  obtain ⟨rfl, rfl⟩ := returns_pure.mp hpure
  obtain ⟨answer, w₂, hanswer, hpure⟩ := returns_bind.mp hresult
  obtain ⟨rfl, rfl⟩ := returns_pure.mp hpure
  cases answer with
  | ok a =>
      obtain ⟨lost, hlost, houtstanding, herrors⟩ := h.ok m w a w' hanswer
      refine ⟨lost, hlost, ⟨houtstanding, ?_⟩, storedFor_success herrors⟩
      intro status hstatus hcode
      obtain rfl := Option.some.inj hstatus
      exact absurd rfl hcode
  | error status =>
      obtain ⟨lost, hlost, houtstanding, -, hstored⟩ := h.error m w status w' hanswer
      refine ⟨lost, hlost, ⟨?_, fun _ _ _ => hempty⟩, hstored⟩
      change w'.outstanding = w.outstanding ++ (lost ++ ownedBy (made empty))
      rw [hempty, houtstanding, List.append_nil]

theorem Accounts.accounted {query : Ffi (StatusResult α)} (hempty : ownedBy (made empty) = [])
    (h : Accounts query made) : Accounted (reporting made (exportedQuery empty query)) := by
  intro m w o w' hr
  have hbut : AccountsBut (fun _ _ => False) query made := h.but fun _ _ => id
  obtain ⟨lost, hlost, hledger, hstores⟩ := hbut.outcome hempty hr
  obtain rfl := hlost.mpr id
  exact ⟨hledger, hstores⟩

theorem accounts_withoutHandle (query : FrameworkEcHandle → Ffi (StatusResult α)) :
    Accounts (withHandle none query) made :=
  accounts_refusal (refusal_withCode 0 (by decide))

theorem accounts_withHandle {query : FrameworkEcHandle → Ffi (StatusResult α)}
    (h : ∀ handle, Accounts (query handle) made) (handle : HandlePtr) :
    Accounts (withHandle handle query) made := by
  cases handle with
  | none => exact accounts_withoutHandle query
  | some handle => exact h handle

theorem accounted_exported {query : FrameworkEcHandle → Ffi (StatusResult α)}
    (hempty : ownedBy (made empty) = []) (h : ∀ handle, Accounts (query handle) made)
    (handle : HandlePtr) : Accounted (reporting made (exported handle empty query)) :=
  (accounts_withHandle h handle).accounted hempty

theorem accounted_exportedStatus {command : FrameworkEcHandle → Ffi (StatusResult Unit)}
    (h : ∀ handle, Accounts (command handle) noBuffers) (handle : HandlePtr) :
    Accounted (statusOnly (exportedStatus handle command)) := by
  intro m w o w' hr
  obtain ⟨status, w₁, hstatus, hpure⟩ := returns_bind.mp hr
  obtain ⟨rfl, rfl⟩ := returns_pure.mp hpure
  obtain ⟨answer, w₂, hanswer, hpure⟩ := returns_bind.mp hstatus
  obtain ⟨rfl, rfl⟩ := returns_pure.mp hpure
  have hcommand := accounts_withHandle h handle
  cases answer with
  | ok a =>
      obtain ⟨houtstanding, herrors⟩ := hcommand.ok m w a w' hanswer
      exact ⟨⟨houtstanding, fun _ _ _ => rfl⟩, storedFor_success herrors⟩
  | error status =>
      obtain ⟨-, houtstanding, hstored⟩ := hcommand.error m w status w' hanswer
      refine ⟨⟨?_, fun _ _ _ => rfl⟩, hstored⟩
      rw [houtstanding]
      exact (List.append_nil _).symm

theorem accounted_doneStatus {command : Ffi Bool} (h : Quiet command) :
    Accounted (statusOnly (doneStatus command)) := by
  intro m w o w' hr
  obtain ⟨status, w₁, hstatus, hpure⟩ := returns_bind.mp hr
  obtain ⟨rfl, rfl⟩ := returns_pure.mp hpure
  obtain ⟨done, w₂, hdone, hpure⟩ := returns_bind.mp hstatus
  obtain ⟨rfl, rfl⟩ := returns_pure.mp hpure
  refine ⟨⟨?_, fun _ _ _ => rfl⟩, ?_⟩
  · rw [h.outstanding m w done w' hdone]
    exact (List.append_nil _).symm
  · have herrors := h.errors m w done w' hdone
    cases done with
    | true => exact storedFor_success herrors
    | false => exact .inl ⟨by decide, herrors⟩

theorem accounted_unreported {call : Ffi α} (h : Quiet call) : Accounted (unreported call) := by
  intro m w o w' hr
  obtain ⟨a, w₁, ha, hpure⟩ := returns_bind.mp hr
  obtain ⟨rfl, rfl⟩ := returns_pure.mp hpure
  refine ⟨⟨?_, fun _ _ _ => rfl⟩, h.errors m w a w' ha⟩
  rw [h.outstanding m w a w' ha]
  exact (List.append_nil _).symm

end Shapes

end FrameworkFfi
