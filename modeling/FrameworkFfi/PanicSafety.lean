import FrameworkFfi.Exports.Inventory
import FrameworkFfi.Host.Silent
import FrameworkFfi.Inventory.Polling

/-!
# Panics on a garbled serial number

`CrosEc::get_gpu_serial` unwraps the conversion of the serial number to a text.
`framework_ec_get_gpu_serial` sends the command itself and cannot panic. The five
other functions that report on the expansion bay call the upstream helper
through `expansionBayStatus`, so they return exactly when the bay does not
answer or its serial number is a text.
-/

namespace FrameworkFfi

open Effect

/-- What the controls of this crate note about `CrosEc::get_gpu_serial`: it panics
when a reply has a serial number that is not valid UTF-8 and in no other case.
The text it returns is made from one EC packet. -/
structure Upstream.UnwrapsSerial (u : Upstream) : Prop where
  eq_none_iff : ∀ reply, u.getGpuSerial reply = none ↔
    ∃ response error, reply = .ok response ∧ fromUtf8 response.serial = .error error
  capacity_lt : ∀ reply serial, u.getGpuSerial reply = some (.ok serial) →
    serial.capacity < 2 ^ 31

namespace Machine

variable (m : Machine) (w : World)

def BayAnswers : Prop := ∃ replies, m.bayReplies w = .ok replies

/-- The serial query fails or answers bytes that are a text. -/
def SerialValid : Prop :=
  ∀ response, m.gpuSerialReply w = .ok response →
    ∃ text, fromUtf8 response.serial = .ok text

def descriptorReply : EcResult ByteVec :=
  m.answer .readGpuDescriptor (w.asked .readGpuDescriptor)

/-- A descriptor that is read from a present bay is empty or has a size that fits
the buffer record. -/
def DescriptorFits : Prop :=
  ∀ info gpu descriptor, m.bayReplies w = .ok (info, gpu) → presentOfReplies info gpu →
    m.descriptorReply w = .ok descriptor → descriptor.bytes = [] ∨ descriptor.capacity < 2 ^ 31

end Machine

section Bay

variable {m : Machine} {w w' : World}

/-- The upstream helper returns a text that fits exactly when the serial is one. -/
theorem exists_crosEcSerial_iff (hupstream : m.upstream.UnwrapsSerial) :
    (∃ serial, m.crosEcSerial w = some serial ∧ SerialFits serial) ↔ m.SerialValid w := by
  constructor
  · rintro ⟨serial, hserial, -⟩ response hresponse
    cases htext : fromUtf8 response.serial with
    | ok text => exact ⟨text, rfl⟩
    | error error =>
        have hnone : m.crosEcSerial w = none :=
          (hupstream.eq_none_iff _).mpr ⟨response, error, hresponse, htext⟩
        rw [hnone] at hserial
        cases hserial
  · intro hvalid
    cases hserial : m.crosEcSerial w with
    | some serial =>
        refine ⟨serial, rfl, ?_⟩
        rintro text rfl
        exact hupstream.capacity_lt _ _ hserial
    | none =>
        obtain ⟨response, error, hresponse, hgarbled⟩ := (hupstream.eq_none_iff _).mp hserial
        obtain ⟨text, htext⟩ := hvalid response hresponse
        rw [htext] at hgarbled
        cases hgarbled

theorem completes_bay_iff (hupstream : m.upstream.UnwrapsSerial) :
    Completes expansionBayStatus m w ↔ (m.BayAnswers w → m.SerialValid w) := by
  rw [completes_expansionBayStatus, exists_crosEcSerial_iff hupstream]
  constructor
  · rintro h ⟨replies, hreplies⟩
    exact h replies hreplies
  · intro h replies hreplies
    exact h ⟨replies, hreplies⟩

theorem completes_ensureDescriptorPresent :
    Completes ensureDescriptorPresent m w ↔ Completes expansionBayStatus m w := by
  refine completes_bind_iff_of_safe ?_ m w
  rintro (status | bay)
  · exact safe_pure _
  · dsimp only
    split_ifs
    · exact safe_pure _
    · exact safe_pure _

theorem completes_checked {α : Type} {rest : Ffi (StatusResult α)} (hrest : Safe rest) :
    Completes (andThen ensureDescriptorPresent fun () => rest) m w ↔
      Completes expansionBayStatus m w := by
  rw [← completes_ensureDescriptorPresent]
  refine completes_bind_iff_of_safe ?_ m w
  rintro (status | ⟨⟩)
  · exact safe_pure _
  · exact hrest

theorem safe_query {α : Type} {query : Ffi (EcResult α)} (h : Safe query) :
    Safe (do orStatus (← query)) :=
  h.bind fun _ => safe_orStatus _

theorem completes_readHeader :
    Completes readHeader m w ↔ Completes expansionBayStatus m w :=
  completes_checked (safe_andThen (safe_query (safe_ask _)) fun _ => safe_pure _)

theorem completes_validate (expectedDescriptor : List UInt8) :
    Completes (validate expectedDescriptor) m w ↔ Completes expansionBayStatus m w :=
  completes_checked (safe_query (safe_ask _))

end Bay

section Descriptor

variable {m : Machine} {w w' : World}

theorem keeps_asked_readGpuDescriptor :
    Keeps (fun w : World => w.asked .readGpuDescriptor) expansionBayStatus := by
  refine keeps_expansionBayStatus ?_ (fun _ _ => rfl) (fun _ _ => rfl)
  intro w request hrequest
  refine World.asked_record_of_ne w ?_
  rintro rfl
  exact absurd hrequest (by decide)

theorem completes_descriptorBuffer {descriptor : ByteVec} :
    Completes (descriptorBuffer descriptor) m w ↔
      descriptor.bytes = [] ∨ descriptor.capacity < 2 ^ 31 := by
  unfold descriptorBuffer
  by_cases hempty : descriptor.bytes = []
  · rw [if_pos (List.isEmpty_iff.mpr hempty)]
    exact iff_of_true (completes_pure _ m w) (.inl hempty)
  · rw [if_neg fun h => hempty (List.isEmpty_iff.mp h), completes_bind_iff_of_safe
      fun _ => safe_pure _, or_iff_right hempty]
    exact FrameworkByteBuffer.completes_fromVec

theorem completes_readRawDescriptor_of_present {bay : FrameworkEcExpansionBayStatus} {w₁ : World}
    (hbay : Returns expansionBayStatus m w (.ok bay) w₁) (hpresent : bay.present ≠ 0) :
    Completes readRawDescriptor m w ↔ ∀ descriptor, m.descriptorReply w = .ok descriptor →
      descriptor.bytes = [] ∨ descriptor.capacity < 2 ^ 31 := by
  have hcheck : Returns ensureDescriptorPresent m w (.ok ()) w₁ := by
    refine (returns_andThen_of_ok hbay).mpr ?_
    rw [if_neg hpresent]
    rfl
  have hask : Returns (ask .readGpuDescriptor) m w₁ (m.descriptorReply w)
      (w₁.record .readGpuDescriptor) := by
    refine returns_ask.mpr ⟨?_, rfl⟩
    have hkept : w₁.asked .readGpuDescriptor = w.asked .readGpuDescriptor :=
      keeps_asked_readGpuDescriptor m w _ w₁ hbay
    rw [hkept]
    rfl
  unfold readRawDescriptor
  rw [completes_andThen_of_ok hcheck]
  cases hreply : m.descriptorReply w with
  | error error =>
      rw [hreply] at hask
      obtain ⟨status, w₂, -, hquery⟩ := returns_query_of_error hask
      simp only [reduceCtorEq, false_imp_iff, implies_true, iff_true]
      exact completes_andThen_of_error hquery
  | ok descriptor =>
      rw [hreply] at hask
      rw [completes_andThen_of_ok (returns_query_of_ok hask), completes_descriptorBuffer]
      simp only [Except.ok.injEq, forall_eq']

theorem completes_readRawDescriptor :
    Completes readRawDescriptor m w ↔ Completes expansionBayStatus m w ∧ m.DescriptorFits w := by
  by_cases hbay : Completes expansionBayStatus m w
  · rw [and_iff_right hbay]
    obtain ⟨result, w₁, hreturns⟩ := hbay
    cases hreplies : m.bayReplies w with
    | error error =>
        obtain ⟨status, -, w₂, herror, -⟩ := returns_expansionBayStatus_of_error hreplies
        refine iff_of_true (completes_andThen_of_error
          ((returns_andThen_of_error herror).mpr ⟨rfl, rfl⟩)) ?_
        intro info gpu descriptor hok
        rw [hreplies] at hok
        cases hok
    | ok replies =>
        obtain ⟨bay, hbayOf, rfl⟩ := (returns_expansionBayStatus_of_ok hreplies).mp hreturns
        obtain ⟨-, -, -, -, -, hpresent⟩ := returns_bayOfReplies hbayOf
        cases hof : presentOfReplies replies.1 replies.2 with
        | true =>
            rw [hof, byteOfBool_true] at hpresent
            rw [completes_readRawDescriptor_of_present hreturns (by rw [hpresent]; decide)]
            constructor
            · intro h info gpu descriptor hok _
              exact h descriptor
            · intro h descriptor
              exact h replies.1 replies.2 descriptor hreplies hof
        | false =>
            rw [hof, byteOfBool_false] at hpresent
            have hcheck : Returns ensureDescriptorPresent m w
                (.error (.withCode .dataUnavailable 0)) w₁ := by
              refine (returns_andThen_of_ok hreturns).mpr ?_
              rw [if_pos hpresent]
              rfl
            refine iff_of_true (completes_andThen_of_error hcheck) ?_
            intro info gpu descriptor hok hof'
            rw [hreplies] at hok
            obtain rfl := Except.ok.inj hok
            rw [hof] at hof'
            cases hof'
  · refine iff_of_false ?_ fun h => hbay h.1
    rintro ⟨result, w₁, h⟩
    obtain ⟨checked, w₂, hcheck, -⟩ := returns_bind.mp h
    exact hbay (completes_ensureDescriptorPresent.mp ⟨checked, w₂, hcheck⟩)

end Descriptor

section Inventory

variable {m : Machine} {w : World}

theorem completes_buildExpansionBayModule :
    Completes buildExpansionBayModule m w ↔ Completes expansionBayStatus m w := by
  refine completes_bind_iff_of_safe ?_ m w
  rintro (status | bay)
  · exact safe_pure _
  · exact safe_pure _

/-- The inventory returns exactly when asking the bay does: nothing before the bay
changes what it answers. -/
theorem completes_buildModuleInventory (hupstream : m.upstream.UnwrapsSerial) :
    Completes buildModuleInventory m w ↔ (m.BayAnswers w → m.SerialValid w) := by
  obtain ⟨internals, w₁, hinternals⟩ := (safe_detectInternalModules m.family).returns m
    (w.recordAll (slotRequests (mainboardPdPortCount m.family).toNat))
  have hbay := (polls_before_bay hinternals).sameBay
  have hbuild : Completes buildModuleInventory m w ↔ Completes buildExpansionBayModule m w₁ := by
    constructor
    · rintro ⟨inventory, w', h⟩
      obtain ⟨internals', w₂, expansionBay, h₁, h₂, -⟩ := returns_buildModuleInventory.mp h
      obtain ⟨-, rfl⟩ := hinternals.unique h₁
      exact ⟨expansionBay, w', h₂⟩
    · rintro ⟨expansionBay, w', h⟩
      exact ⟨_, w', returns_buildModuleInventory.mpr
        ⟨internals, w₁, expansionBay, hinternals, h, rfl⟩⟩
  rw [hbuild, completes_buildExpansionBayModule, completes_bay_iff hupstream]
  unfold Machine.BayAnswers Machine.SerialValid
  rw [hbay.bayReplies_eq, hbay.gpuSerialReply_eq]

end Inventory

section Serial

variable {m : Machine} {w : World}

theorem capacity_gpuSerialOfReply {response : EcResponseGetGpuSerial} {serial : OwnedString}
    (h : gpuSerialOfReply response = .ok serial) : serial.capacity < 2 ^ 31 := by
  unfold gpuSerialOfReply at h
  split_ifs at h
  cases htext : fromUtf8 response.serial with
  | error error =>
      rw [htext] at h
      cases h
  | ok text =>
      rw [htext] at h
      obtain rfl := Except.ok.inj h
      have htrim := length_trim_le (trimEndNuls text)
      have hnuls := length_trimEndNuls_le text
      have hserial := response.serial_length_lt
      rw [utf8Bytes_of_fromUtf8 htext] at hnuls
      rw [OwnedString.capacity_exact]
      omega

theorem completes_gpuSerialReply :
    Completes (ecReply getGpuSerial fun serial => FrameworkByteBuffer.fromVec serial.intoBytes)
      m w := by
  have hread : Returns getGpuSerial m w ((m.gpuSerialReply w).bind gpuSerialOfReply)
      (w.record (.getGpuSerial 0)) :=
    returns_converted rfl
  cases hreply : (m.gpuSerialReply w).bind gpuSerialOfReply with
  | error error =>
      rw [hreply] at hread
      exact completes_ecReply_of_error hread
  | ok serial =>
      rw [hreply] at hread
      rw [completes_ecReply_of_ok hread]
      have hlt : serial.capacity < 2 ^ 31 := by
        cases hresponse : m.gpuSerialReply w with
        | error error =>
            rw [hresponse] at hreply
            cases hreply
        | ok response =>
            rw [hresponse] at hreply
            exact capacity_gpuSerialOfReply hreply
      exact ⟨_, _, FrameworkByteBuffer.returns_fromVec.mpr ⟨hlt, rfl, rfl⟩⟩

end Serial

/-! ### The theorem -/

section Readers

variable {m : Machine} {w : World}

/-- The serial number is not read, or it is a text. -/
def Machine.SerialSafe (m : Machine) (w : World) : Prop := m.BayAnswers w → m.SerialValid w

theorem completes_inventoryReply (hupstream : m.upstream.UnwrapsSerial) :
    Completes (do
      let inventory ← buildModuleInventory
      pure (.ok inventory : StatusResult FrameworkModuleInventory)) m w ↔ m.SerialSafe w :=
  (completes_bind_iff_of_safe (fun _ => safe_pure _) m w).trans
    (completes_buildModuleInventory hupstream)

theorem completes_validateReply (hupstream : m.upstream.UnwrapsSerial) (ptr : BytePtr)
    (length : UInt32) :
    Completes (andThen (pure (validateExpectedBytes ptr length)) fun expectedDescriptor =>
        andThen (validate expectedDescriptor) fun isMatch =>
          pure (.ok (byteOfBool isMatch))) m w ↔
      (length = 0 ∨ ptr.isSome → m.SerialSafe w) := by
  have hbay : Completes expansionBayStatus m w ↔ m.SerialSafe w := completes_bay_iff hupstream
  cases hexpected : validateExpectedBytes ptr length with
  | ok expectedDescriptor =>
      have haccepted := validateExpectedBytes_ok hexpected
      have hpure : Returns (pure (.ok expectedDescriptor) : Ffi (StatusResult _)) m w
          (.ok expectedDescriptor) w := rfl
      rw [completes_andThen_of_ok hpure, forall_prop_of_true haccepted, ← hbay,
        ← completes_validate expectedDescriptor]
      refine completes_bind_iff_of_safe ?_ m w
      rintro (status | isMatch)
      · exact safe_pure _
      · exact safe_pure _
  | error status =>
      have hrejected := validateExpectedBytes_error hexpected
      have hpure : Returns (pure (.error status) : Ffi (StatusResult (List UInt8))) m w
          (.error status) w := rfl
      exact iff_of_true (completes_andThen_of_error hpure) fun h => absurd h hrejected

/-- What the five functions on the bay and the one on the serial number need to
return, whatever the machine answers to any other request. -/
theorem serialReaders_complete_iff (hupstream : m.upstream.UnwrapsSerial) (w : World)
    (handle : HandlePtr) (ptr : BytePtr) (length : UInt32) :
    (Completes (frameworkEcGetExpansionBayStatus handle) m w ↔
        (handle.isSome → m.SerialSafe w)) ∧
      (Completes (frameworkEcGetModuleInventory handle) m w ↔
        (handle.isSome → m.SerialSafe w)) ∧
      (Completes (frameworkEcGetGpuDescriptorHeader handle) m w ↔
        (handle.isSome → m.SerialSafe w)) ∧
      (Completes (frameworkEcReadGpuDescriptor handle) m w ↔
        (handle.isSome → m.SerialSafe w ∧ m.DescriptorFits w)) ∧
      (Completes (frameworkEcValidateGpuDescriptor handle ptr length) m w ↔
        (handle.isSome → length = 0 ∨ ptr.isSome → m.SerialSafe w)) ∧
      Completes (frameworkEcGetGpuSerial handle) m w := by
  have hbay : Completes expansionBayStatus m w ↔ m.SerialSafe w := completes_bay_iff hupstream
  refine ⟨?_, ?_, ?_, ?_, ?_, ?_⟩
  · exact completes_exported_iff fun _ => hbay
  · exact completes_exported_iff fun _ => completes_inventoryReply hupstream
  · exact completes_exported_iff fun _ => completes_readHeader.trans hbay
  · refine completes_exported_iff fun _ => ?_
    rw [completes_readRawDescriptor, hbay]
  · exact completes_exported_iff fun _ => completes_validateReply hupstream ptr length
  · unfold frameworkEcGetGpuSerial
    rw [completes_exported]
    intro _ _
    exact completes_gpuSerialReply

/-- An expansion bay with a graphics module whose serial number is no text. -/
def garbledMachine : Machine :=
  ((Machine.silent.answering .expansionBayStatus (.ok
      { expansionBayBoard := .ok .dualInterposer
        moduleEnabled := true
        moduleFault := false
        hatchSwitchClosed := true })).answering .getGpuPcie (.ok ⟨0x02, 0x01⟩)).answering
    (.getGpuSerial 0) (.ok ⟨1, [0xFF], by decide⟩)

theorem unwrapsSerial_documented : Upstream.documented.UnwrapsSerial where
  eq_none_iff reply := by
    cases reply with
    | error error => simp [Upstream.documented, Upstream.documentedGpuSerial]
    | ok response =>
        simp only [Upstream.documented, Upstream.documentedGpuSerial, ownedText, fromUtf8,
          Option.map_eq_none_iff, Except.ok.injEq, exists_and_left, exists_eq_left']
        cases String.fromUTF8? ⟨response.serial.toArray⟩ with
        | none => simp
        | some text => simp
  capacity_lt reply serial h := by
    cases reply with
    | error error => simp [Upstream.documented, Upstream.documentedGpuSerial] at h
    | ok response =>
        simp only [Upstream.documented, Upstream.documentedGpuSerial, ownedText,
          Option.map_eq_some_iff] at h
        obtain ⟨owned, ⟨text, htext, rfl⟩, hserial⟩ := h
        split_ifs at hserial
        obtain rfl := Except.ok.inj hserial
        have hdecoded : fromUtf8 response.serial = .ok text := by
          rw [fromUtf8, htext]
        rw [OwnedString.capacity_exact, utf8Bytes_of_fromUtf8 hdecoded]
        have hlength := response.serial_length_lt
        omega

theorem not_serialSafe_garbled : ¬ garbledMachine.SerialSafe .fresh := by
  intro h
  obtain ⟨text, htext⟩ := h ⟨_, rfl⟩ ⟨1, [0xFF], by decide⟩ rfl
  have hgarbled : fromUtf8 [0xFF] = .error ⟨0, some 1⟩ := by
    unfold fromUtf8 utf8Error utf8Step
    decide
  rw [hgarbled] at htext
  cases htext

/-- Without a module the serial is not read; a garbled one stops the inventory. -/
theorem serialReaders_complete_iff_garbled :
    Completes (frameworkEcGetModuleInventory (some ⟨.crosEc⟩)) .silent .fresh ∧
      ¬ Completes (frameworkEcGetModuleInventory (some ⟨.crosEc⟩)) garbledMachine .fresh := by
  have hsilent : Machine.silent.SerialSafe .fresh := by
    rintro ⟨replies, hreplies⟩
    cases hreplies
  constructor
  · exact (serialReaders_complete_iff unwrapsSerial_documented .fresh (some ⟨.crosEc⟩) none
      0).2.1.mpr fun _ => hsilent
  · intro h
    exact not_serialSafe_garbled ((serialReaders_complete_iff (m := garbledMachine)
      unwrapsSerial_documented .fresh (some ⟨.crosEc⟩) none 0).2.1.mp h rfl)

/-- One garbled byte makes the bay status panic. -/
theorem garbledSerial_panics :
    ¬ ∀ (m : Machine) (w : World), m.upstream.UnwrapsSerial →
      ∀ (handle : HandlePtr) (ptr : BytePtr) (length : UInt32),
        Completes (frameworkEcGetExpansionBayStatus handle) m w ∧
          Completes (frameworkEcGetModuleInventory handle) m w ∧
          Completes (frameworkEcGetGpuDescriptorHeader handle) m w ∧
          Completes (frameworkEcReadGpuDescriptor handle) m w ∧
          Completes (frameworkEcValidateGpuDescriptor handle ptr length) m w ∧
          Completes (frameworkEcGetGpuSerial handle) m w := by
  intro h
  have haborts : Aborts (frameworkEcGetExpansionBayStatus (some ⟨.crosEc⟩)) garbledMachine
      .fresh .unwrap := rfl
  obtain ⟨result, w', hreturns⟩ :=
    (h garbledMachine .fresh unwrapsSerial_documented (some ⟨.crosEc⟩) none 0).1
  exact hreturns.not_aborts haborts

end Readers

end FrameworkFfi
