import FrameworkFfi.Calls.HandedBack
import FrameworkFfi.Inventory.WellFormedRun

/-!
# The expansion bay, as five calls see it

The status of the bay, the inventory and the three calls about the GPU descriptor ask
the bay each for itself. When the bay answers the same each time they agree on
whether there is a module, on which one it is, and on whether the controller is
asked about its descriptor.
-/

namespace FrameworkFfi

open Effect

/-- The bay answers the same each time. Its serial number and the PD state of its port
are free. -/
structure Machine.StableBay (m : Machine) : Prop where
  expansionBayStatus : ∀ n k, m.answer .expansionBayStatus n = m.answer .expansionBayStatus k
  getGpuPcie : ∀ n k, m.answer .getGpuPcie n = m.answer .getGpuPcie k

/-- The bay that a result tells, the empty one when it failed. -/
def bayOf (result : StatusResult FrameworkEcExpansionBayStatus) : FrameworkEcExpansionBayStatus :=
  (reported defaultExpansionBayStatus result).value

/-- Two results that tell the same bay, up to its port and its serial number. -/
structure SameBayTold (result result' : StatusResult FrameworkEcExpansionBayStatus) : Prop where
  code : codeOf result' = codeOf result
  bay : ∃ pd serialNumber, bayOf result' = { bayOf result with pd, serialNumber }

/-- The identity of what is in the bay: by the vendor when it is known, and otherwise by
the board. -/
inductive NamesBay (board : FrameworkExpansionBayBoard) (vendor : FrameworkExpansionBayVendor) :
    FrameworkModuleIdentity → Prop
  | fanOnly (hvendor : vendor = .fanOnly) : NamesBay board vendor .expansionBayFanOnly
  | ssdHolder (hvendor : vendor = .ssdHolder) : NamesBay board vendor .expansionBaySsdHolder
  | pcieAccessory (hvendor : vendor = .pcieAccessory) :
      NamesBay board vendor .expansionBayPcieAccessory
  | amdGpu (hvendor : vendor = .amdGpu) : NamesBay board vendor .expansionBayAmdGpu
  | nvidiaGpu (hvendor : vendor = .nvidiaGpu) : NamesBay board vendor .expansionBayNvidiaGpu
  | dualInterposer (hvendor : vendor = .unknown ∨ vendor = .initializing)
      (hboard : board = .dualInterposer) : NamesBay board vendor .expansionBayDualInterposer
  | singleInterposer (hvendor : vendor = .unknown ∨ vendor = .initializing)
      (hboard : board = .singleInterposer) : NamesBay board vendor .expansionBaySingleInterposer
  | umaFans (hvendor : vendor = .unknown ∨ vendor = .initializing) (hboard : board = .umaFans) :
      NamesBay board vendor .expansionBayUmaFans
  | other (hvendor : vendor = .unknown ∨ vendor = .initializing)
      (hboard : board ≠ .dualInterposer ∧ board ≠ .singleInterposer ∧ board ≠ .umaFans) :
      NamesBay board vendor .expansionBay

/-- A module of the inventory tells what the status of the bay tells. -/
structure ListsBay (bay : FrameworkEcExpansionBayStatus) (module : FrameworkModuleDescriptor) :
    Prop where
  present : module.present = bay.present
  absent : bay.present = 0 → module = defaultModuleDescriptor
  identity : bay.present ≠ 0 → NamesBay bay.board bay.vendor module.identity
  enabled : bay.present ≠ 0 → (HasFlag module.flags .enabled ↔ bay.enabled ≠ 0)
  fault : bay.present ≠ 0 → (HasFlag module.flags .fault ↔ bay.fault ≠ 0)
  doorClosed : bay.present ≠ 0 → (HasFlag module.flags .doorClosed ↔ bay.doorClosed ≠ 0)
  connected : HasFlag module.flags .connected ↔ bay.present ≠ 0
  hasUsbCPort : bay.hasUsbCPort ≠ 0 ↔
    module.identity = .expansionBayAmdGpu ∨ module.identity = .expansionBayNvidiaGpu

/-- What the status of a bay says of itself. -/
structure BayOk (bay : FrameworkEcExpansionBayStatus) : Prop where
  present : bay.present = 0 ∨ bay.present = 1
  hasUsbCPort : bay.hasUsbCPort ≠ 0 ↔ bay.vendor = .amdGpu ∨ bay.vendor = .nvidiaGpu
  there : bay.hasUsbCPort ≠ 0 → bay.present ≠ 0

/-- A call that makes its request behind the check of the bay, and succeeds when the
answer is accepted. -/
structure Gated (bay : FrameworkEcExpansionBayStatusResult) (request : HostRequest)
    (accepts : Prop) (status : FrameworkStatus) (w w' : World) : Prop where
  refused : bay.value.present = 0 → w'.asked request = w.asked request ∧
    status.code = if bay.status.code = .success then .dataUnavailable else bay.status.code
  asked : bay.value.present ≠ 0 → w'.asked request = w.asked request + 1 ∧
    (status.code = .success ↔ accepts)

section Bay

variable {m : Machine} {w w' w₁ w₁' : World}

theorem bayHasUsbCPort_iff (vendor : FrameworkExpansionBayVendor) :
    bayHasUsbCPort vendor = true ↔ vendor = .amdGpu ∨ vendor = .nvidiaGpu := decide_eq_true_iff

/-- A graphics module counts as present whatever board it is on. -/
theorem bayPresent_of_bayHasUsbCPort (board : FrameworkExpansionBayBoard)
    {vendor : FrameworkExpansionBayVendor} (h : bayHasUsbCPort vendor = true) :
    bayPresent board vendor = true := by
  rw [bayPresent, decide_eq_true_iff]
  rcases (bayHasUsbCPort_iff vendor).mp h with hvendor | hvendor
  · exact .inr (.inr (.inr (.inr (.inl hvendor))))
  · exact .inr (.inr (.inr (.inr (.inr hvendor))))

theorem Machine.StableBay.bayReplies_eq (hm : m.StableBay) (w w' : World) :
    m.bayReplies w' = m.bayReplies w := by
  unfold Machine.bayReplies Machine.bayReply Machine.gpuPcieReply
  rw [hm.expansionBayStatus _ (w.asked .expansionBayStatus),
    hm.getGpuPcie _ (w.asked .getGpuPcie)]

/-- Two looks at a bay that answers the same tell the same. -/
theorem sameBayTold (hm : m.StableBay) {result result' : StatusResult FrameworkEcExpansionBayStatus}
    (h : Returns expansionBayStatus m w result w')
    (h' : Returns expansionBayStatus m w₁ result' w₁') : SameBayTold result result' := by
  have hsame := hm.bayReplies_eq w w₁
  cases hreplies : m.bayReplies w with
  | error error =>
      obtain ⟨status, _, _, hreturns, hstatus, -⟩ := returns_expansionBayStatus_of_error hreplies
      obtain ⟨status', _, _, hreturns', hstatus', -⟩ :=
        returns_expansionBayStatus_of_error (hsame.trans hreplies)
      obtain ⟨rfl, -⟩ := h.unique hreturns
      obtain ⟨rfl, -⟩ := h'.unique hreturns'
      exact
        { code := (code_of_statusFromError hstatus').trans (code_of_statusFromError hstatus).symm
          bay := ⟨_, _, rfl⟩ }
  | ok replies =>
      obtain ⟨bay, hbay, rfl⟩ := (returns_expansionBayStatus_of_ok hreplies).mp h
      obtain ⟨bay', hbay', rfl⟩ :=
        (returns_expansionBayStatus_of_ok (hsame.trans hreplies)).mp h'
      obtain ⟨_, _, -, hrest⟩ := returns_bind.mp hbay
      obtain ⟨_, _, -, hrest⟩ := returns_bind.mp hrest
      obtain ⟨_, _, -, hpure⟩ := returns_bind.mp hrest
      obtain ⟨rfl, -⟩ := returns_pure.mp hpure
      obtain ⟨_, _, -, hrest⟩ := returns_bind.mp hbay'
      obtain ⟨_, _, -, hrest⟩ := returns_bind.mp hrest
      obtain ⟨_, _, -, hpure⟩ := returns_bind.mp hrest
      obtain ⟨rfl, -⟩ := returns_pure.mp hpure
      exact ⟨rfl, _, _, rfl⟩

theorem bayOk_default : BayOk defaultExpansionBayStatus where
  present := .inl rfl
  hasUsbCPort := by decide
  there := by decide

theorem bayOk_of_ok {bay : FrameworkEcExpansionBayStatus}
    (h : Returns expansionBayStatus m w (.ok bay) w') : BayOk bay := by
  rcases returns_andThen h with ⟨_, -, herror⟩ | ⟨info, w₁, -, hrest⟩
  · cases herror
  rcases returns_andThen hrest with ⟨_, -, herror⟩ | ⟨gpu, w₂, -, hrest⟩
  · cases herror
  obtain ⟨_, w₃, hbay, hpure⟩ := returns_bind.mp hrest
  obtain ⟨hsame, -⟩ := returns_pure.mp hpure
  obtain rfl := Except.ok.inj hsame
  obtain ⟨_, _, -, hrest⟩ := returns_bind.mp hbay
  obtain ⟨_, _, -, hrest⟩ := returns_bind.mp hrest
  obtain ⟨_, _, -, hpure⟩ := returns_bind.mp hrest
  obtain ⟨rfl, -⟩ := returns_pure.mp hpure
  exact
    { present := by
        show byteOfBool _ = 0 ∨ byteOfBool _ = 1
        cases bayPresent _ _ with
        | true => exact .inr rfl
        | false => exact .inl rfl
      hasUsbCPort := (byteOfBool_ne_zero _).trans (bayHasUsbCPort_iff _)
      there := fun h => (byteOfBool_ne_zero _).mpr
        (bayPresent_of_bayHasUsbCPort _ ((byteOfBool_ne_zero _).mp h)) }

theorem bayOk_bayOf {result : StatusResult FrameworkEcExpansionBayStatus}
    (h : Returns expansionBayStatus m w result w') : BayOk (bayOf result) := by
  cases result with
  | ok bay => exact bayOk_of_ok h
  | error status => exact bayOk_default

theorem expansionBayIdentity_graphics (board : FrameworkExpansionBayBoard)
    (vendor : FrameworkExpansionBayVendor) :
    (expansionBayIdentity board vendor = .expansionBayAmdGpu ∨
        expansionBayIdentity board vendor = .expansionBayNvidiaGpu) ↔
      vendor = .amdGpu ∨ vendor = .nvidiaGpu := by
  cases vendor <;> cases board <;> simp [expansionBayIdentity]

theorem namesBay_expansionBayIdentity (board : FrameworkExpansionBayBoard)
    (vendor : FrameworkExpansionBayVendor) :
    NamesBay board vendor (expansionBayIdentity board vendor) := by
  cases vendor with
  | fanOnly => exact .fanOnly rfl
  | ssdHolder => exact .ssdHolder rfl
  | pcieAccessory => exact .pcieAccessory rfl
  | amdGpu => exact .amdGpu rfl
  | nvidiaGpu => exact .nvidiaGpu rfl
  | unknown | initializing =>
      cases board with
      | dualInterposer => exact .dualInterposer (by simp) rfl
      | singleInterposer => exact .singleInterposer (by simp) rfl
      | umaFans => exact .umaFans (by simp) rfl
      | _ => exact .other (by simp) (by simp)

theorem listsBay_expansionBayModule {bay : FrameworkEcExpansionBayStatus} (hbay : BayOk bay) :
    ListsBay bay (expansionBayModule bay) := by
  by_cases hpresent : bay.present = 0
  · have hmodule : expansionBayModule bay = defaultModuleDescriptor :=
      if_neg (not_not_intro hpresent)
    rw [hmodule]
    exact
      { present := hpresent.symm
        absent := fun _ => rfl
        identity := fun h => absurd hpresent h
        enabled := fun h => absurd hpresent h
        fault := fun h => absurd hpresent h
        doorClosed := fun h => absurd hpresent h
        connected := by simp [defaultModuleDescriptor, hpresent]
        hasUsbCPort := by
          have hnone : ¬ bay.hasUsbCPort ≠ 0 := fun h => hbay.there h hpresent
          simp [defaultModuleDescriptor, hnone] }
  · have hone : bay.present = 1 := hbay.present.resolve_left hpresent
    rw [expansionBayModule, if_pos hpresent]
    exact
      { present := hone.symm
        absent := fun h => absurd h hpresent
        identity := fun _ => namesBay_expansionBayIdentity bay.board bay.vendor
        enabled := fun _ => by simp [moduleDescriptor]
        fault := fun _ => by simp [moduleDescriptor]
        doorClosed := fun _ => by simp [moduleDescriptor]
        connected := by simp [moduleDescriptor, hpresent]
        hasUsbCPort := hbay.hasUsbCPort.trans (expansionBayIdentity_graphics _ _).symm }

end Bay

section Gate

variable {m : Machine} {w w' w₁ w₁' : World}

/-- The check behind another look at the bay: it fails like that look, or because there is
no module. -/
theorem returns_ensureDescriptorPresent_again (hm : m.StableBay)
    {told : StatusResult FrameworkEcExpansionBayStatus}
    (htold : Returns expansionBayStatus m w₁ told w₁') {result : StatusResult Unit}
    (h : Returns ensureDescriptorPresent m w result w') :
    (result = .ok () ∧ (bayOf told).present ≠ 0) ∨
      (bayOf told).present = 0 ∧ ∃ status, result = .error status ∧
        status.code = if codeOf told = .success then .dataUnavailable else codeOf told := by
  rcases returns_andThen h with ⟨status, hbay, rfl⟩ | ⟨bay, w₂, hbay, hrest⟩
  · obtain ⟨hcode, pd, serialNumber, hsame⟩ := sameBayTold hm hbay htold
    obtain ⟨_, -, -, -, hfailed, -⟩ := returns_expansionBayStatus_error hbay
    have hstatus : codeOf told = status.code := hcode
    refine .inr ⟨by rw [hsame]; rfl, status, rfl, ?_⟩
    rw [hstatus, if_neg hfailed]
  · obtain ⟨hcode, pd, serialNumber, hsame⟩ := sameBayTold hm hbay htold
    have hpresent : (bayOf told).present = bay.present := by rw [hsame]; rfl
    have hsuccess : codeOf told = .success := hcode
    rw [hpresent, hsuccess, if_pos rfl]
    split_ifs at hrest with hzero
    · obtain ⟨rfl, -⟩ := returns_pure.mp hrest
      exact .inr ⟨hzero, _, rfl, FrameworkStatus.code_withCode _ _⟩
    · obtain ⟨rfl, -⟩ := returns_pure.mp hrest
      exact .inl ⟨rfl, hzero⟩

/-- Another look at the bay lists the module that the first one told. -/
theorem returns_buildExpansionBayModule_again (hm : m.StableBay)
    {told : StatusResult FrameworkEcExpansionBayStatus}
    (htold : Returns expansionBayStatus m w₁ told w₁') {module : FrameworkModuleDescriptor}
    (h : Returns buildExpansionBayModule m w module w') :
    module = expansionBayModule (bayOf told) := by
  obtain ⟨result, w₂, hbay, hmodule⟩ := returns_bind.mp h
  obtain ⟨-, pd, serialNumber, hsame⟩ := sameBayTold hm hbay htold
  have hlisted : expansionBayModule (bayOf told) = expansionBayModule (bayOf result) := by
    rw [hsame]
    rfl
  rw [hlisted]
  cases result with
  | ok bay => exact (returns_pure.mp hmodule).1
  | error status => exact (returns_pure.mp hmodule).1

theorem gated_behind (hm : m.StableBay) {told : StatusResult FrameworkEcExpansionBayStatus}
    (htold : Returns expansionBayStatus m w₁ told w₁') {α : Type} {request : HostRequest}
    (hrequest : request ∉ bayRequests) (accepts : ℕ → Prop) {query : Ffi (StatusResult α)}
    (hquery : ∀ w result w', Returns query m w result w' →
      w'.asked request = w.asked request + 1 ∧
        (codeOf result = .success ↔ accepts (w.asked request)))
    {result : StatusResult α}
    (h : Returns (andThen ensureDescriptorPresent fun () => query) m w result w') (empty : α) :
    Gated (reported defaultExpansionBayStatus told) request (accepts (w.asked request))
      (reported empty result).status w w' := by
  have htoldCode : (reported defaultExpansionBayStatus told).status.code = codeOf told :=
    codeOf_reported _ _
  have hcode : (reported empty result).status.code = codeOf result := codeOf_reported _ _
  rcases returns_andThen h with ⟨status, hcheck, rfl⟩ | ⟨⟨⟩, w₂, hcheck, hrest⟩
  · have hasked := asked_ensureDescriptorPresent hcheck hrequest
    rcases returns_ensureDescriptorPresent_again hm htold hcheck with
      ⟨hok, -⟩ | ⟨hzero, other, hstatus, hfailed⟩
    · cases hok
    · obtain rfl := Except.error.inj hstatus
      refine ⟨fun _ => ⟨hasked, ?_⟩, fun hpresent => absurd hzero hpresent⟩
      rw [htoldCode]
      exact hfailed
  · have hasked := asked_ensureDescriptorPresent hcheck hrequest
    rcases returns_ensureDescriptorPresent_again hm htold hcheck with
      ⟨-, hpresent⟩ | ⟨-, _, hstatus, -⟩
    · obtain ⟨honce, haccepts⟩ := hquery w₂ result w' hrest
      refine ⟨fun hzero => absurd hzero hpresent, fun _ => ⟨by rw [honce, hasked], ?_⟩⟩
      rw [hcode, haccepts, hasked]
    · cases hstatus

theorem returns_queryOnce {α : Type} {request : HostRequest} (answer : ℕ → EcResult α)
    {query : Ffi (EcResult α)}
    (hquery : ∀ w reply w', Returns query m w reply w' →
      reply = answer (w.asked request) ∧ w' = w.record request)
    {result : StatusResult α} (h : Returns (do orStatus (← query)) m w result w') :
    w'.asked request = w.asked request + 1 ∧
      ((∃ a, answer (w.asked request) = .ok a ∧ result = .ok a) ∨
        (∀ a, answer (w.asked request) ≠ .ok a) ∧ codeOf result ≠ .success ∧
          ∀ a, result ≠ .ok a) := by
  rcases returns_query h with ⟨a, hask, rfl⟩ | ⟨error, w₂, status, hask, hstatus, rfl⟩
  · obtain ⟨hanswer, rfl⟩ := hquery _ _ _ hask
    exact ⟨World.asked_record_self w request, .inl ⟨a, hanswer.symm, rfl⟩⟩
  · obtain ⟨hanswer, rfl⟩ := hquery _ _ _ hask
    obtain ⟨rfl, hcode, -⟩ := returns_statusFromError hstatus
    refine ⟨World.asked_record_self w request, .inr ⟨fun a ha => ?_, hcode, fun a ha => ?_⟩⟩
    · cases hanswer.trans ha
    · cases ha

theorem returns_queryThen {α β : Type} {request : HostRequest} (answer : ℕ → EcResult α)
    {query : Ffi (EcResult α)}
    (hquery : ∀ w reply w', Returns query m w reply w' →
      reply = answer (w.asked request) ∧ w' = w.record request)
    {rest : α → Ffi (StatusResult β)} (accepts : α → Prop)
    (hrest : ∀ a w result w', Returns (rest a) m w result w' →
      w'.asked request = w.asked request ∧ (codeOf result = .success ↔ accepts a))
    {result : StatusResult β}
    (h : Returns (andThen (do orStatus (← query)) rest) m w result w') :
    w'.asked request = w.asked request + 1 ∧
      (codeOf result = .success ↔ ∃ a, answer (w.asked request) = .ok a ∧ accepts a) := by
  rcases returns_andThen h with ⟨status, hask, rfl⟩ | ⟨a, w₂, hask, hmade⟩
  · obtain ⟨hasked, ⟨a, -, hok⟩ | ⟨hanswer, hcode, -⟩⟩ := returns_queryOnce answer hquery hask
    · cases hok
    · refine ⟨hasked, iff_of_false hcode ?_⟩
      rintro ⟨a, ha, -⟩
      exact hanswer a ha
  · obtain ⟨hasked, ⟨b, hanswer, hok⟩ | ⟨-, -, hnone⟩⟩ := returns_queryOnce answer hquery hask
    · obtain rfl := Except.ok.inj hok
      obtain ⟨hkept, haccepts⟩ := hrest a w₂ result w' hmade
      refine ⟨hkept.trans hasked, haccepts.trans ?_⟩
      constructor
      · exact fun ha => ⟨a, hanswer, ha⟩
      · rintro ⟨b, hb, hacceptsb⟩
        obtain rfl := Except.ok.inj (hanswer.symm.trans hb)
        exact hacceptsb
    · exact absurd rfl (hnone a)

theorem returns_descriptorBuffer {request : HostRequest} {descriptor : ByteVec}
    {result : StatusResult FrameworkByteBuffer}
    (h : Returns (descriptorBuffer descriptor) m w result w') :
    w'.asked request = w.asked request ∧
      (codeOf result = .success ↔ descriptor.bytes ≠ []) := by
  unfold descriptorBuffer at h
  split_ifs at h with hempty
  · obtain ⟨rfl, rfl⟩ := returns_pure.mp h
    refine ⟨rfl, iff_of_false ?_ (not_not_intro (List.isEmpty_iff.mp hempty))⟩
    rw [codeOf, FrameworkStatus.code_withCode]
    decide
  · obtain ⟨buffer, w₂, hmade, hpure⟩ := returns_bind.mp h
    obtain ⟨rfl, rfl⟩ := returns_pure.mp hpure
    obtain ⟨-, -, rfl⟩ := FrameworkByteBuffer.returns_fromVec.mp hmade
    exact ⟨rfl, iff_of_true rfl fun hnil => hempty (List.isEmpty_iff.mpr hnil)⟩

theorem gated_validate (hm : m.StableBay) {told : StatusResult FrameworkEcExpansionBayStatus}
    (htold : Returns expansionBayStatus m w₁ told w₁') {expected : List UInt8}
    {result : StatusResult UInt8}
    (h : Returns (andThen (validate expected) fun isMatch => pure (.ok (byteOfBool isMatch)))
      m w result w') (empty : UInt8) :
    Gated (reported defaultExpansionBayStatus told) (.validateGpuDescriptor expected)
      (∃ isMatch, m.answer (.validateGpuDescriptor expected)
        (w.asked (.validateGpuDescriptor expected)) = .ok isMatch)
      (reported empty result).status w w' := by
  have hgated : ∀ {answer w₂}, Returns (validate expected) m w answer w₂ →
      Gated (reported defaultExpansionBayStatus told) (.validateGpuDescriptor expected)
        (∃ isMatch, m.answer (.validateGpuDescriptor expected)
          (w.asked (.validateGpuDescriptor expected)) = .ok isMatch)
        (reported false answer).status w w₂ := by
    intro answer w₂ hvalidate
    refine gated_behind hm htold (by simp [bayRequests]) (fun n => ∃ isMatch,
      m.answer (.validateGpuDescriptor expected) n = .ok isMatch)
      (fun w result w' h => ?_) hvalidate _
    obtain ⟨hasked, ⟨isMatch, hanswer, rfl⟩ | ⟨hanswer, hcode, -⟩⟩ :=
      returns_queryOnce (m.answer (.validateGpuDescriptor expected))
        (fun _ _ _ => returns_ask.mp) h
    · exact ⟨hasked, iff_of_true rfl ⟨isMatch, hanswer⟩⟩
    · refine ⟨hasked, iff_of_false hcode ?_⟩
      rintro ⟨isMatch, hmatch⟩
      exact hanswer isMatch hmatch
  rcases returns_andThen h with ⟨status, hvalidate, rfl⟩ | ⟨isMatch, w₂, hvalidate, hpure⟩
  · exact hgated hvalidate
  · obtain ⟨rfl, rfl⟩ := returns_pure.mp hpure
    exact hgated hvalidate

end Gate

/-- When the bay answers the same each time, the inventory lists the module that the
status tells, and the descriptor calls ask the controller about it exactly when there
is one. Otherwise they fail as the status does, or for want of a module. -/
theorem bayViews_agree {m : Machine} (hm : m.StableBay) {handle : FrameworkEcHandle}
    {w₁ w₁' : World} {bay : FrameworkEcExpansionBayStatusResult}
    (hbay : Returns (frameworkEcGetExpansionBayStatus (some handle)) m w₁ bay w₁') (w w' : World) :
    (∀ handle inventory, Returns (frameworkEcGetModuleInventory (some handle)) m w inventory w' →
      ListsBay bay.value inventory.value.expansionBay) ∧
    (∀ handle header, Returns (frameworkEcGetGpuDescriptorHeader (some handle)) m w header w' →
      Gated bay .readGpuDescHeader
        (∃ header, m.answer .readGpuDescHeader (w.asked .readGpuDescHeader) = .ok header)
        header.status w w') ∧
    (∀ handle read, Returns (frameworkEcReadGpuDescriptor (some handle)) m w read w' →
      Gated bay .readGpuDescriptor
        (∃ descriptor, m.answer .readGpuDescriptor (w.asked .readGpuDescriptor) = .ok descriptor ∧
          descriptor.bytes ≠ []) read.status w w') ∧
    ∀ handle ptr length expected result, validateExpectedBytes ptr length = .ok expected →
      Returns (frameworkEcValidateGpuDescriptor (some handle) ptr length) m w result w' →
        Gated bay (.validateGpuDescriptor expected)
          (∃ isMatch, m.answer (.validateGpuDescriptor expected)
            (w.asked (.validateGpuDescriptor expected)) = .ok isMatch) result.status w w' := by
  obtain ⟨told, htold, rfl⟩ := returns_exported hbay
  refine ⟨fun handle inventory h => ?_, fun handle header h => ?_, fun handle read h => ?_,
    fun handle ptr length expected result hexpected h => ?_⟩
  · obtain ⟨built, hbuilt, rfl⟩ := returns_frameworkEcGetModuleInventory h
    obtain ⟨internals, w₅, listed, -, hlisted, rfl⟩ := returns_buildModuleInventory.mp hbuilt
    have hmodule := returns_buildExpansionBayModule_again hm htold hlisted
    show ListsBay (bayOf told) listed
    rw [hmodule]
    exact listsBay_expansionBayModule (bayOk_bayOf htold)
  · obtain ⟨outcome, hread, rfl⟩ := returns_exported h
    refine gated_behind hm htold (by decide) (fun n => ∃ header,
      m.answer .readGpuDescHeader n = .ok header) (fun w result w' h => ?_) hread _
    have hasked := returns_queryThen (m.answer .readGpuDescHeader) (fun _ _ _ => returns_ask.mp)
      (fun _ => True) (fun _ _ _ _ hmade => ?_) h
    · simpa using hasked
    · obtain ⟨rfl, rfl⟩ := returns_pure.mp hmade
      exact ⟨rfl, iff_of_true rfl trivial⟩
  · obtain ⟨outcome, hread, rfl⟩ := returns_exported h
    refine gated_behind hm htold (by decide) (fun n => ∃ descriptor,
      m.answer .readGpuDescriptor n = .ok descriptor ∧ descriptor.bytes ≠ [])
      (fun w result w' h => ?_) hread _
    exact returns_queryThen (m.answer .readGpuDescriptor) (fun _ _ _ => returns_ask.mp)
      (fun descriptor => descriptor.bytes ≠ []) (fun _ _ _ _ => returns_descriptorBuffer) h
  · obtain ⟨outcome, hcall, rfl⟩ := returns_exported h
    rw [hexpected] at hcall
    exact gated_validate hm htold hcall _

/-- A machine with a graphics module that does not answer about its descriptor. -/
def graphicsMachine : Machine :=
  (Machine.silent.answering .expansionBayStatus
    (.ok ⟨.ok .dualInterposer, true, false, true⟩)).answering .getGpuPcie (.ok ⟨0x05, 1⟩)

theorem bayViews_agree_graphics :
    ∃ bay w₁ inventory w₂ header w₃,
      Returns (frameworkEcGetExpansionBayStatus (some ⟨.crosEc⟩)) graphicsMachine .fresh bay w₁ ∧
      Returns (frameworkEcGetModuleInventory (some ⟨.crosEc⟩)) graphicsMachine .fresh
        inventory w₂ ∧
      Returns (frameworkEcGetGpuDescriptorHeader (some ⟨.crosEc⟩)) graphicsMachine .fresh
        header w₃ ∧
      inventory.value.expansionBay.identity = .expansionBayNvidiaGpu ∧
      w₃.asked .readGpuDescHeader = 1 ∧ header.status.code ≠ .success := by
  have hm : graphicsMachine.StableBay := ⟨fun _ _ => rfl, fun _ _ => rfl⟩
  obtain ⟨bay, w₁, hbay, hpresent⟩ : ∃ bay w₁,
      Returns (frameworkEcGetExpansionBayStatus (some ⟨.crosEc⟩)) graphicsMachine .fresh bay w₁ ∧
        bay.value.present ≠ 0 ∧ bay.value.board = .dualInterposer ∧
          bay.value.vendor = .nvidiaGpu := ⟨_, _, rfl, by decide⟩
  obtain ⟨inventory, w₂, hinventory⟩ : Completes
      (frameworkEcGetModuleInventory (some ⟨.crosEc⟩)) graphicsMachine .fresh := ⟨_, _, rfl⟩
  obtain ⟨header, w₃, hheader⟩ : Completes
      (frameworkEcGetGpuDescriptorHeader (some ⟨.crosEc⟩)) graphicsMachine .fresh := ⟨_, _, rfl⟩
  have hlists := (bayViews_agree hm hbay .fresh w₂).1 _ _ hinventory
  obtain ⟨hasked, haccepted⟩ := ((bayViews_agree hm hbay .fresh w₃).2.1 _ _ hheader).asked
    hpresent.1
  refine ⟨bay, w₁, inventory, w₂, header, w₃, hbay, hinventory, hheader, ?_, hasked, ?_⟩
  · have hnames := hlists.identity hpresent.1
    rw [hpresent.2.1, hpresent.2.2] at hnames
    generalize inventory.value.expansionBay.identity = identity at hnames ⊢
    cases hnames with
    | nvidiaGpu => rfl
    | dualInterposer hvendor => simp at hvendor
    | _ => contradiction
  · rw [Ne, haccepted]
    rintro ⟨_, h⟩
    cases h

end FrameworkFfi
