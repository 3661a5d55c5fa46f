import FrameworkFfi.Accounting.LostSerial

/-!
# The ownership of buffers

A call is balanced when the buffers outstanding after it are those outstanding
before and those of its record, and a call that fails adds none. Every exported
function is, unless it asks the expansion bay only whether it is present while
the bay has a serial number to hand out.
-/

namespace FrameworkFfi

open Effect

/-- The functions that take buffers back. -/
def Operation.Releases : Operation → Prop
  | .release _ => True
  | _ => False

def Operation.LosesSerial : Operation → Machine → World → Prop
  | .inventory operation, m, w => operation.LosesSerial m w
  | _, _, _ => False

/-- The ledger after a call is the one before it with the buffers of the record,
which a failure does not have. The order of the entries does not matter. -/
structure Outcome.Balanced (o : Outcome) (w w' : World) : Prop where
  outstanding : w'.outstanding.Perm (w.outstanding ++ ownedBy o.buffers)
  failure : ∀ status, o.status = some status → status.code ≠ .success →
    w'.outstanding.Perm w.outstanding

theorem Outcome.Ledger.balanced_iff {o : Outcome} {lost : List FrameworkByteBuffer} {w w' : World}
    (h : o.Ledger lost w w') : o.Balanced w w' ↔ lost = [] := by
  constructor
  · intro hbalanced
    have hlength := hbalanced.outstanding.length_eq
    rw [h.outstanding, List.length_append, List.length_append, List.length_append] at hlength
    exact List.length_eq_zero_iff.mp (by omega)
  · rintro rfl
    have houtstanding : w'.outstanding = w.outstanding ++ ownedBy o.buffers := h.outstanding
    refine ⟨houtstanding ▸ .refl _, fun status hstatus hcode => ?_⟩
    rw [houtstanding, h.failure status hstatus hcode, List.append_nil]

section Calls

variable {m : Machine} {w w' : World} {operation : Operation} {o : Outcome}

theorem ledger_operation (hkept : ¬ operation.Releases) (hr : Returns operation.run m w o w') :
    ∃ lost, (lost = [] ↔ ¬ operation.LosesSerial m w) ∧ o.Ledger lost w w' := by
  have hexact : ∀ {call : Ffi Outcome}, Accounted call → Returns call m w o w' →
      o.Ledger [] w w' := fun h hr => (h m w o w' hr).1
  cases operation with
  | system operation =>
      exact ⟨[], iff_of_true rfl id, hexact (accounted_systemOperation operation) hr⟩
  | thermal operation =>
      exact ⟨[], iff_of_true rfl id, hexact (accounted_thermalOperation operation) hr⟩
  | controls operation =>
      exact ⟨[], iff_of_true rfl id, hexact (accounted_controlsOperation operation) hr⟩
  | inventory operation => exact (outcome_inventoryOperation hr).1
  | diagnostics operation =>
      exact ⟨[], iff_of_true rfl id, hexact (accounted_diagnosticsOperation operation) hr⟩
  | versions operation =>
      exact ⟨[], iff_of_true rfl id, hexact (accounted_versionsOperation operation) hr⟩
  | release operation => exact absurd trivial hkept

/-- A call is balanced unless it drops the bay's serial number. -/
theorem operation_balanced_iff (hkept : ¬ operation.Releases)
    (hr : Returns operation.run m w o w') :
    o.Balanced w w' ↔ ¬ operation.LosesSerial m w := by
  obtain ⟨lost, hlost, hledger⟩ := ledger_operation hkept hr
  exact hledger.balanced_iff.trans hlost

end Calls

/-- An expansion bay with a graphics module whose serial number is "A". -/
def seatedMachine : Machine :=
  ((Machine.silent.answering .expansionBayStatus (.ok
      { expansionBayBoard := .ok .dualInterposer
        moduleEnabled := true
        moduleFault := false
        hatchSwitchClosed := true })).answering .getGpuPcie (.ok ⟨0x02, 0x01⟩)).answering
    (.getGpuSerial 0) (.ok ⟨1, [0x41], by decide⟩)

def seatedHeader : Operation := .inventory (.ecGetGpuDescriptorHeader (some ⟨.crosEc⟩))

theorem losesSerial_seated : seatedHeader.LosesSerial seatedMachine .fresh := by
  refine ⟨rfl, _, _, rfl, rfl, .exact "A", rfl, ?_⟩
  decide

theorem operation_balanced_iff_seated :
    (∃ o w', Returns seatedHeader.run seatedMachine .fresh o w' ∧ ¬ o.Balanced .fresh w') ∧
      ∃ o w', Returns seatedHeader.run .silent .fresh o w' ∧ o.Balanced .fresh w' := by
  have hkept : ¬ seatedHeader.Releases := id
  constructor
  · obtain ⟨o, w', hr⟩ : Completes seatedHeader.run seatedMachine .fresh := ⟨_, _, rfl⟩
    exact ⟨o, w', hr, fun h => (operation_balanced_iff hkept hr).mp h losesSerial_seated⟩
  · obtain ⟨o, w', hr⟩ : Completes seatedHeader.run .silent .fresh := ⟨_, _, rfl⟩
    refine ⟨o, w', hr, (operation_balanced_iff hkept hr).mpr ?_⟩
    rintro ⟨-, replies, serial, hreplies, -⟩
    cases hreplies

/-- Reading the header drops the serial number's buffer. -/
theorem seatedHeader_leaks :
    ¬ ∀ (operation : Operation) (m : Machine) (w : World) (o : Outcome) (w' : World),
      ¬ operation.Releases → Returns operation.run m w o w' → o.Balanced w w' := by
  intro h
  have hkept : ¬ seatedHeader.Releases := id
  obtain ⟨o, w', hr⟩ : Completes seatedHeader.run seatedMachine .fresh := ⟨_, _, rfl⟩
  obtain ⟨lost, hlost, hledger⟩ := ledger_operation hkept hr
  exact hlost.mp (hledger.balanced_iff.mp (h _ _ _ o w' hkept hr)) losesSerial_seated

end FrameworkFfi
