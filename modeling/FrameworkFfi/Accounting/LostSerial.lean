import FrameworkFfi.Accounting.Operations
import FrameworkFfi.Host.Silent
import FrameworkFfi.Inventory.Polling

/-!
# The serial number that is lost

The module inventory and the three functions on the GPU descriptor ask for the
whole status of the expansion bay and look at its presence. The buffer of the
serial number is dropped with the rest, and nothing can free it any more. The
ledger of every other function is exact.
-/

namespace FrameworkFfi

open Effect

/-- Asking the bay hands out a serial number that owns an allocation. -/
def Machine.LosesSerial (m : Machine) (w : World) : Prop :=
  ∃ replies serial, m.bayReplies w = .ok replies ∧ m.crosEcSerial w = some serial ∧
    OwnsAllocation serial

theorem World.SameBay.losesSerial_iff {m : Machine} {w w' : World} (h : w.SameBay w') :
    m.LosesSerial w' ↔ m.LosesSerial w := by
  unfold Machine.LosesSerial
  rw [h.bayReplies_eq, h.crosEcSerial_eq]

/-! ### The status of the bay -/

section Bay

variable {m : Machine} {w w' : World}

theorem losesSerial_iff_of_ok {replies : EcResponseExpansionBayStatus × EcResponseGetGpuPcie}
    (hreplies : m.bayReplies w = .ok replies) {serial : EcResult OwnedString}
    (hserial : m.crosEcSerial w = some serial) : m.LosesSerial w ↔ OwnsAllocation serial := by
  constructor
  · rintro ⟨replies', serial', -, hserial', howns⟩
    rw [hserial] at hserial'
    obtain rfl := Option.some.inj hserial'
    exact howns
  · intro howns
    exact ⟨replies, serial, hreplies, hserial, howns⟩

theorem not_losesSerial_of_error {error : EcError} (h : m.bayReplies w = .error error) :
    ¬ m.LosesSerial w := by
  rintro ⟨replies, serial, hreplies, -⟩
  rw [h] at hreplies
  cases hreplies

/-- A status of the bay carries what was handed out for it. -/
theorem returns_expansionBayStatus_ok {bay : FrameworkEcExpansionBayStatus}
    (h : Returns expansionBayStatus m w (.ok bay) w') :
    w'.outstanding = w.outstanding ++ bay.serialNumber.owned ∧ w'.errors = w.errors ∧
      (∃ replies, m.bayReplies w = .ok replies) ∧
      (bay.serialNumber.owned = [] ↔ ¬ m.LosesSerial w) := by
  cases hreplies : m.bayReplies w with
  | error error =>
      obtain ⟨status, w₁, w₂, herror, -⟩ := returns_expansionBayStatus_of_error hreplies
      obtain ⟨hok, -⟩ := h.unique herror
      cases hok
  | ok replies =>
      obtain ⟨bay', hbay, hok⟩ := (returns_expansionBayStatus_of_ok hreplies).mp h
      obtain rfl := Except.ok.inj hok
      obtain ⟨serial, hserial, houtstanding, herrors, howned, -⟩ := returns_bayOfReplies hbay
      rw [crosEcSerial_bayQueries] at hserial
      rw [losesSerial_iff_of_ok hreplies hserial]
      exact ⟨houtstanding, herrors, ⟨replies, rfl⟩, howned⟩

/-- A bay that cannot be asked is reported with the status of the error. -/
theorem returns_expansionBayStatus_error {status : FrameworkStatus}
    (h : Returns expansionBayStatus m w (.error status) w') :
    ∃ error, m.bayReplies w = .error error ∧
      w'.errors = w.errors.storeAll error.messages ∧ w'.outstanding = w.outstanding ∧
      status.code ≠ .success ∧ StoredFor status w.errors w'.errors := by
  cases hreplies : m.bayReplies w with
  | ok replies =>
      obtain ⟨bay, -, herror⟩ := (returns_expansionBayStatus_of_ok hreplies).mp h
      cases herror
  | error error =>
      obtain ⟨status', w₁, w₂, herror, hstatus, houtstanding, herrors⟩ :=
        returns_expansionBayStatus_of_error hreplies
      obtain ⟨hstatus', rfl⟩ := h.unique herror
      obtain rfl := Except.error.inj hstatus'
      obtain ⟨hw', hcode, hstored⟩ := returns_statusFromError hstatus
      rw [herrors] at hstored
      refine ⟨error, rfl, ?_, ?_, hcode, hstored⟩
      · rw [hw', ← herrors]
      · rw [hw', ← houtstanding]

theorem accounts_expansionBayStatus :
    Accounts expansionBayStatus FrameworkEcExpansionBayStatus.buffers where
  ok m w bay w' h := by
    obtain ⟨houtstanding, herrors, -⟩ := returns_expansionBayStatus_ok h
    rw [← ownedBy_singleton] at houtstanding
    exact ⟨houtstanding, herrors⟩
  error m w status w' h := by
    obtain ⟨error, -, -, houtstanding, hcode, hstored⟩ := returns_expansionBayStatus_error h
    exact ⟨hcode, houtstanding, hstored⟩

end Bay

theorem accountsBut_ensureDescriptorPresent :
    AccountsBut Machine.LosesSerial ensureDescriptorPresent noBuffers := by
  have hcheck : ∀ (m : Machine) (w : World) (result : StatusResult Unit) (w' : World),
      Returns ensureDescriptorPresent m w result w' →
        (∃ bay, Returns expansionBayStatus m w (.ok bay) w' ∧
          (result = .ok () ∨ result = .error (.withCode .dataUnavailable 0))) ∨
        ∃ status, Returns expansionBayStatus m w (.error status) w' ∧ result = .error status := by
    intro m w result w' h
    rcases returns_andThen h with ⟨status, hstatus, rfl⟩ | ⟨bay, w₁, hbay, hrest⟩
    · exact .inr ⟨status, hstatus, rfl⟩
    · split_ifs at hrest
      · obtain ⟨rfl, rfl⟩ := returns_pure.mp hrest
        exact .inl ⟨bay, hbay, .inr rfl⟩
      · obtain ⟨rfl, rfl⟩ := returns_pure.mp hrest
        exact .inl ⟨bay, hbay, .inl rfl⟩
  constructor
  · intro m w a w' h
    rcases hcheck m w _ w' h with ⟨bay, hbay, -⟩ | ⟨status, -, herror⟩
    · obtain ⟨houtstanding, herrors, -, howned⟩ := returns_expansionBayStatus_ok hbay
      refine ⟨bay.serialNumber.owned, howned, ?_, herrors⟩
      rw [houtstanding]
      exact congrArg _ (List.append_nil _).symm
    · cases herror
  · intro m w status w' h
    rcases hcheck m w _ w' h with ⟨bay, hbay, hresult⟩ | ⟨status', hstatus, herror⟩
    · obtain ⟨houtstanding, herrors, -, howned⟩ := returns_expansionBayStatus_ok hbay
      have hstatus : status = .withCode .dataUnavailable 0 := by simpa using hresult
      refine ⟨bay.serialNumber.owned, howned, houtstanding, ?_⟩
      rw [hstatus, herrors]
      exact ⟨by decide, storedFor_of_code (by decide) _⟩
    · obtain rfl := Except.error.inj herror
      obtain ⟨error, hreplies, -, houtstanding, hcode, hstored⟩ :=
        returns_expansionBayStatus_error hstatus
      refine ⟨[], iff_of_true rfl (not_losesSerial_of_error hreplies), ?_, hcode, hstored⟩
      rw [houtstanding, List.append_nil]

/-! ### The inventory -/

section Inventory

variable {m : Machine} {w w' : World}

/-- The messages the module inventory stores, although it reports success: those
of the feature polls and those of the bay. -/
def Machine.swallowedMessages (m : Machine) (w : World) : List String :=
  m.featureMessages w (inventoryPolls m.family) ++ replyMessages (m.bayReplies w)

/-- The bay's serial number is lost, and an error of the bay is stored. -/
theorem returns_buildExpansionBayModule {module : FrameworkModuleDescriptor}
    (h : Returns buildExpansionBayModule m w module w') :
    ∃ lost, (lost = [] ↔ ¬ m.LosesSerial w) ∧ w'.outstanding = w.outstanding ++ lost ∧
      w'.errors = w.errors.storeAll (replyMessages (m.bayReplies w)) := by
  obtain ⟨result, w₁, hbay, hrest⟩ := returns_bind.mp h
  cases result with
  | ok bay =>
      obtain ⟨-, rfl⟩ := returns_pure.mp hrest
      obtain ⟨houtstanding, herrors, ⟨replies, hreplies⟩, howned⟩ :=
        returns_expansionBayStatus_ok hbay
      refine ⟨bay.serialNumber.owned, howned, houtstanding, ?_⟩
      rw [hreplies]
      exact herrors
  | error status =>
      obtain ⟨-, rfl⟩ := returns_pure.mp hrest
      obtain ⟨error, hreplies, herrors, houtstanding, -⟩ := returns_expansionBayStatus_error hbay
      refine ⟨[], iff_of_true rfl (not_losesSerial_of_error hreplies), ?_, ?_⟩
      · rw [houtstanding, List.append_nil]
      · rw [hreplies]
        exact herrors

theorem returns_buildModuleInventory_lasting {inventory : FrameworkModuleInventory}
    (h : Returns buildModuleInventory m w inventory w') :
    ∃ lost, (lost = [] ↔ ¬ m.LosesSerial w) ∧ w'.outstanding = w.outstanding ++ lost ∧
      w'.errors = w.errors.storeAll (m.swallowedMessages w) := by
  obtain ⟨internals, w₁, module, hinternals, hmodule, -⟩ := returns_buildModuleInventory.mp h
  have hpolls := polls_before_bay hinternals
  obtain ⟨lost, hlost, houtstanding, herrors⟩ := returns_buildExpansionBayModule hmodule
  refine ⟨lost, hlost.trans (not_congr hpolls.sameBay.losesSerial_iff), ?_, ?_⟩
  · rw [houtstanding, hpolls.outstanding]
  · rw [herrors, hpolls.errors, hpolls.sameBay.bayReplies_eq, Machine.swallowedMessages,
      DeviceErrorStore.storeAll_append]

end Inventory

/-! ### The functions on the bay -/

/-- The functions that ask the bay, and the ones that stop before they ask it. -/
def InventoryOperation.LosesSerial : InventoryOperation → Machine → World → Prop
  | .ecGetGpuDescriptorHeader handle, m, w => handle.isSome ∧ m.LosesSerial w
  | .ecReadGpuDescriptor handle, m, w => handle.isSome ∧ m.LosesSerial w
  | .ecValidateGpuDescriptor handle expectedDescriptorPtr expectedDescriptorLength, m, w =>
      handle.isSome ∧ (expectedDescriptorLength = 0 ∨ expectedDescriptorPtr.isSome) ∧
        m.LosesSerial w
  | .ecGetModuleInventory handle, m, w => handle.isSome ∧ m.LosesSerial w
  | _, _, _ => False

section Operations

variable {α : Type} {made : α → List FrameworkByteBuffer} {loses : Machine → World → Prop}

theorem accountsBut_withHandle {query : FrameworkEcHandle → Ffi (StatusResult α)}
    (h : ∀ handle, AccountsBut loses (query handle) made) (handle : HandlePtr) :
    AccountsBut (fun m w => handle.isSome ∧ loses m w) (withHandle handle query) made := by
  cases handle with
  | none =>
      refine (accounts_withoutHandle query).but fun m w => ?_
      rintro ⟨hsome, -⟩
      cases hsome
  | some handle => exact (h handle).congr fun m w => (and_iff_right rfl).symm

theorem accountsBut_readHeader : AccountsBut Machine.LosesSerial readHeader noBuffers :=
  accountsBut_ensureDescriptorPresent.andThen fun () =>
    (accounts_query (quiet_ask .readGpuDescHeader)).andThen fun _ => accounts_ok rfl

theorem accounts_descriptorBuffer (descriptor : ByteVec) :
    Accounts (descriptorBuffer descriptor) List.singleton := by
  unfold descriptorBuffer
  split_ifs
  · exact accounts_refusal (refusal_withCode 0 (by decide))
  · exact (handsOver_buffer descriptor).accounts

theorem accountsBut_readRawDescriptor :
    AccountsBut Machine.LosesSerial readRawDescriptor List.singleton :=
  accountsBut_ensureDescriptorPresent.andThen fun () =>
    (accounts_query (quiet_ask .readGpuDescriptor)).andThen accounts_descriptorBuffer

theorem accountsBut_validate (expectedDescriptor : List UInt8) :
    AccountsBut Machine.LosesSerial (validate expectedDescriptor) noBuffers :=
  accountsBut_ensureDescriptorPresent.andThen fun () =>
    accounts_query (quiet_ask (.validateGpuDescriptor expectedDescriptor))

/-- The bytes to compare with are checked before the bay is asked. -/
theorem accountsBut_validateExpected (ptr : BytePtr) (length : UInt32) :
    AccountsBut (fun m w => (length = 0 ∨ ptr.isSome) ∧ m.LosesSerial w)
      (andThen (pure (validateExpectedBytes ptr length)) fun expectedDescriptor =>
        andThen (validate expectedDescriptor) fun isMatch => pure (.ok (byteOfBool isMatch)))
      noBuffers := by
  cases hexpected : validateExpectedBytes ptr length with
  | error status =>
      have hrejected := validateExpectedBytes_error hexpected
      have hrefused : Accounts (pure (.error status) : Ffi (StatusResult UInt8)) noBuffers :=
        accounts_refusal (refused_validateExpectedBytes hexpected)
      exact hrefused.but fun m w h => hrejected h.1
  | ok expectedDescriptor =>
      have haccepted := validateExpectedBytes_ok hexpected
      have hvalidate : AccountsBut Machine.LosesSerial (andThen (validate expectedDescriptor)
          fun isMatch => pure (.ok (byteOfBool isMatch))) noBuffers :=
        (accountsBut_validate expectedDescriptor).andThen fun _ => accounts_ok rfl
      exact hvalidate.congr fun m w => (and_iff_right haccepted).symm

/-- The inventory reports success whatever it stored or lost. -/
theorem outcome_moduleInventory {handle : FrameworkEcHandle} {m : Machine} {w w' : World}
    {o : Outcome}
    (hr : Returns (InventoryOperation.ecGetModuleInventory (some handle)).run m w o w') :
    o.status = some .success ∧ (∃ lost, (lost = [] ↔ ¬ m.LosesSerial w) ∧ o.Ledger lost w w') ∧
      w'.errors = w.errors.storeAll (m.swallowedMessages w) := by
  obtain ⟨result, w₁, hresult, hpure⟩ := returns_bind.mp hr
  obtain ⟨rfl, rfl⟩ := returns_pure.mp hpure
  obtain ⟨answer, w₂, hanswer, hpure⟩ := returns_bind.mp hresult
  obtain ⟨rfl, rfl⟩ := returns_pure.mp hpure
  obtain ⟨inventory, w₃, hinventory, hpure⟩ := returns_bind.mp hanswer
  obtain ⟨rfl, rfl⟩ := returns_pure.mp hpure
  obtain ⟨lost, hlost, houtstanding, herrors⟩ := returns_buildModuleInventory_lasting hinventory
  refine ⟨rfl, ⟨lost, hlost, ?_, fun _ _ _ => rfl⟩, herrors⟩
  rw [houtstanding]
  exact congrArg _ (List.append_nil _).symm

theorem accounts_featureFlags : Accounts featureFlags noBuffers := by
  have hflag : ∀ feature flag flags, Accounts (addFeatureFlag feature flag flags) noBuffers :=
    fun feature flag flags => (accounts_featureEnabled feature).andThen fun _ => accounts_ok rfl
  unfold featureFlags
  iterate 5 refine (hflag _ _ _).andThen fun flags => ?_
  exact hflag _ _ _

/-- What the functions on modules and the bay lose. All but the inventory store for
the status they report. -/
theorem outcome_inventoryOperation {operation : InventoryOperation} {m : Machine} {w w' : World}
    {o : Outcome} (hr : Returns operation.run m w o w') :
    (∃ lost, (lost = [] ↔ ¬ operation.LosesSerial m w) ∧ o.Ledger lost w w') ∧
      ((∀ handle, operation ≠ .ecGetModuleInventory (some handle)) → o.Stores w w') := by
  have hexact : Accounted operation.run → (¬ operation.LosesSerial m w) →
      (∃ lost, (lost = [] ↔ ¬ operation.LosesSerial m w) ∧ o.Ledger lost w w') ∧
        ((∀ handle, operation ≠ .ecGetModuleInventory (some handle)) → o.Stores w w') := by
    intro haccounted hnot
    obtain ⟨hledger, hstores⟩ := haccounted m w o w' hr
    exact ⟨⟨[], iff_of_true rfl hnot, hledger⟩, fun _ => hstores⟩
  cases operation with
  | ecGetFeatureFlags handle =>
      exact hexact (accounted_exported rfl (fun _ => accounts_featureFlags) handle) id
  | ecGetExpansionBayStatus handle =>
      exact hexact (accounted_exported rfl (fun _ => accounts_expansionBayStatus) handle) id
  | ecGetGpuSerial handle =>
      refine hexact (accounted_exported rfl (fun _ => accounts_ecReply
        (quiet_converted (.getGpuSerial 0) _) fun serial => handsOver_buffer _) handle) id
  | ecGetGpuDescriptorHeader handle =>
      obtain ⟨lost, hlost, hledger, hstores⟩ :=
        (accountsBut_withHandle (fun _ => accountsBut_readHeader) handle).outcome rfl hr
      exact ⟨⟨lost, hlost, hledger⟩, fun _ => hstores⟩
  | ecReadGpuDescriptor handle =>
      obtain ⟨lost, hlost, hledger, hstores⟩ :=
        (accountsBut_withHandle (fun _ => accountsBut_readRawDescriptor) handle).outcome rfl hr
      exact ⟨⟨lost, hlost, hledger⟩, fun _ => hstores⟩
  | ecValidateGpuDescriptor handle ptr length =>
      obtain ⟨lost, hlost, hledger, hstores⟩ :=
        (accountsBut_withHandle (fun _ => accountsBut_validateExpected ptr length) handle).outcome
          rfl hr
      exact ⟨⟨lost, hlost, hledger⟩, fun _ => hstores⟩
  | ecGetModuleInventory handle =>
      cases handle with
      | none =>
          refine hexact ((accounts_withoutHandle _).accounted rfl) ?_
          rintro ⟨hsome, -⟩
          cases hsome
      | some handle =>
          obtain ⟨-, ⟨lost, hlost, hledger⟩, -⟩ := outcome_moduleInventory hr
          refine ⟨⟨lost, hlost.trans (not_congr (and_iff_right rfl).symm), hledger⟩, ?_⟩
          intro hne
          exact absurd rfl (hne handle)

end Operations

end FrameworkFfi
