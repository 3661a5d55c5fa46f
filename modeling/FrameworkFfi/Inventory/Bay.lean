import FrameworkFfi.Inventory.Query

/-!
# What asking the bay does

`expansionBayStatus` makes two queries. When one fails, its error becomes the
status. When both are answered, the serial number is read through the upstream
helper and handed out in the result, which is the only effect on the ledger.
-/

namespace FrameworkFfi

open Effect

namespace Machine

variable (m : Machine) (w : World)

/-- What the bay reports when it is asked next. -/
def bayReply : EcResult EcResponseExpansionBayStatus :=
  m.answer .expansionBayStatus (w.asked .expansionBayStatus)

def gpuPcieReply : EcResult EcResponseGetGpuPcie :=
  m.answer .getGpuPcie (w.asked .getGpuPcie)

def gpuSerialReply : EcResult EcResponseGetGpuSerial :=
  m.answer (.getGpuSerial 0) (w.asked (.getGpuSerial 0))

/-- What `CrosEc::get_gpu_serial` returns when it is called next, `none` when it
panics. -/
def crosEcSerial : Option (EcResult OwnedString) :=
  m.upstream.getGpuSerial (m.gpuSerialReply w)

/-- The two replies the bay status is made of, or the first error. -/
def bayReplies : EcResult (EcResponseExpansionBayStatus × EcResponseGetGpuPcie) :=
  (m.bayReply w).bind fun info => (m.gpuPcieReply w).map fun gpu => (info, gpu)

end Machine

/-- The requests of the bay were made equally often. -/
structure World.SameBay (w w' : World) : Prop where
  expansionBayStatus : w'.asked .expansionBayStatus = w.asked .expansionBayStatus
  getGpuPcie : w'.asked .getGpuPcie = w.asked .getGpuPcie
  getGpuSerial : w'.asked (.getGpuSerial 0) = w.asked (.getGpuSerial 0)

namespace World.SameBay

variable {m : Machine} {w w' w'' : World}

theorem refl (w : World) : w.SameBay w := ⟨rfl, rfl, rfl⟩

theorem trans (h : w.SameBay w') (h' : w'.SameBay w'') : w.SameBay w'' where
  expansionBayStatus := h'.expansionBayStatus.trans h.expansionBayStatus
  getGpuPcie := h'.getGpuPcie.trans h.getGpuPcie
  getGpuSerial := h'.getGpuSerial.trans h.getGpuSerial

theorem bayReplies_eq (h : w.SameBay w') : m.bayReplies w' = m.bayReplies w := by
  unfold Machine.bayReplies Machine.bayReply Machine.gpuPcieReply
  rw [h.expansionBayStatus, h.getGpuPcie]

theorem gpuSerialReply_eq (h : w.SameBay w') : m.gpuSerialReply w' = m.gpuSerialReply w := by
  unfold Machine.gpuSerialReply
  rw [h.getGpuSerial]

theorem crosEcSerial_eq (h : w.SameBay w') : m.crosEcSerial w' = m.crosEcSerial w := by
  unfold Machine.crosEcSerial
  rw [h.gpuSerialReply_eq]

end World.SameBay

/-- A serial that owns an allocation once it is handed out. -/
def OwnsAllocation (serial : EcResult OwnedString) : Prop :=
  ∃ text, serial = .ok text ∧ text.capacity ≠ 0

def SerialFits (serial : EcResult OwnedString) : Prop :=
  ∀ text, serial = .ok text → text.capacity < 2 ^ 31

theorem FrameworkByteBuffer.owned_ofVec_eq_nil_iff {bytes : ByteVec} {nextAddress : ℕ}
    (h : bytes.capacity < 2 ^ 31) :
    (ofVec bytes nextAddress).owned = [] ↔ bytes.capacity = 0 := by
  rw [owned_eq_nil_iff]
  constructor
  · intro hzero
    have hint := congrArg Int32.toInt hzero
    rw [ofVec, Int32.toInt_ofNat_of_lt h, Int32.toInt_zero] at hint
    omega
  · intro hzero
    rw [ofVec, hzero]
    rfl

section Serial

variable {m : Machine} {w w' : World}

theorem returns_crosEcGetGpuSerial {serial : EcResult OwnedString} :
    Returns crosEcGetGpuSerial m w serial w' ↔
      m.crosEcSerial w = some serial ∧ w' = w.record (.getGpuSerial 0) := by
  unfold crosEcGetGpuSerial
  rw [(returns_ask_self).bind_iff, (returns_view_self).bind_iff]
  have hserial : m.upstream.getGpuSerial (m.answer (.getGpuSerial 0)
      (w.asked (.getGpuSerial 0))) = m.crosEcSerial w := rfl
  rw [hserial]
  cases m.crosEcSerial w with
  | none => simp
  | some result => simp [eq_comm]

/-- The serial enters the ledger, and only if it owns an allocation. -/
theorem returns_serialBuffer {serial : EcResult OwnedString} {buffer : FrameworkByteBuffer}
    (h : Returns (serialBuffer serial) m w buffer w') :
    w'.outstanding = w.outstanding ++ buffer.owned ∧ w'.errors = w.errors ∧
      (buffer.owned = [] ↔ ¬ OwnsAllocation serial) := by
  cases serial with
  | error error =>
      obtain ⟨rfl, rfl⟩ := returns_pure.mp h
      refine ⟨(List.append_nil _).symm, rfl, ?_⟩
      simp [OwnsAllocation]
  | ok text =>
      obtain ⟨hlt, rfl, rfl⟩ := FrameworkByteBuffer.returns_fromVec.mp h
      refine ⟨rfl, rfl, ?_⟩
      rw [FrameworkByteBuffer.owned_ofVec_eq_nil_iff hlt]
      simp [OwnsAllocation]

theorem completes_serialBuffer {serial : EcResult OwnedString} :
    Completes (serialBuffer serial) m w ↔ SerialFits serial := by
  cases serial with
  | error error =>
      simp only [SerialFits, reduceCtorEq, false_imp_iff, implies_true, iff_true]
      exact completes_pure _ m w
  | ok text =>
      simp only [SerialFits, Except.ok.injEq, forall_eq']
      exact FrameworkByteBuffer.completes_fromVec

theorem keeps_bayPdPortState {τ : Type} {f : World → τ}
    (hf : ∀ w request, f (w.record request) = f w) (hasUsbCPort : Bool) :
    Keeps f (bayPdPortState hasUsbCPort) := by
  unfold bayPdPortState
  split_ifs
  · exact (keeps_ask hf _).bind fun _ => keeps_pure _
  · exact keeps_pure _

theorem safe_bayPdPortState (hasUsbCPort : Bool) : Safe (bayPdPortState hasUsbCPort) := by
  unfold bayPdPortState
  split_ifs
  · exact (safe_ask _).bind fun _ => safe_pure _
  · exact safe_pure _

end Serial

def bayRequests : List HostRequest :=
  [.expansionBayStatus, .getGpuPcie, .getGpuSerial 0, .getPdPortState 4]

/-- What neither the store, nor the ledger, nor one of these requests touches. -/
theorem keeps_expansionBayStatus {τ : Type} {f : World → τ}
    (hrecord : ∀ w, ∀ request ∈ bayRequests, f (w.record request) = f w)
    (herrors : ∀ w errors, f { w with errors } = f w)
    (hhandOut : ∀ w buffer, f (World.handOut w buffer) = f w) : Keeps f expansionBayStatus := by
  have hask : ∀ request ∈ bayRequests, Keeps f (ask request) := fun request hrequest =>
    keeps_act fun _ w => hrecord w request hrequest
  have hserial : Keeps f crosEcGetGpuSerial := by
    intro m w serial w' h
    obtain ⟨-, rfl⟩ := returns_crosEcGetGpuSerial.mp h
    exact hrecord w _ (by simp [bayRequests])
  have hbuffer : ∀ serial, Keeps f (serialBuffer serial) := by
    intro serial
    cases serial with
    | error error => exact keeps_pure _
    | ok text =>
        intro m w buffer w' h
        obtain ⟨-, -, rfl⟩ := FrameworkByteBuffer.returns_fromVec.mp h
        exact hhandOut w _
  have hpd : ∀ hasUsbCPort, Keeps f (bayPdPortState hasUsbCPort) := by
    intro hasUsbCPort
    unfold bayPdPortState
    split_ifs
    · exact (hask _ (by simp [bayRequests])).bind fun _ => keeps_pure _
    · exact keeps_pure _
  refine keeps_andThen ((hask _ (by simp [bayRequests])).bind fun _ => ?_) fun info => ?_
  · exact keeps_orStatus herrors _
  refine keeps_andThen ((hask _ (by simp [bayRequests])).bind fun _ => ?_) fun gpu => ?_
  · exact keeps_orStatus herrors _
  refine Keeps.bind ?_ fun bay => keeps_pure _
  exact hserial.bind fun serial => (hbuffer serial).bind fun buffer =>
    (hpd _).bind fun pd => keeps_pure _

section Replies

variable {m : Machine} {w w' : World} {info : EcResponseExpansionBayStatus}
  {gpu : EcResponseGetGpuPcie}

def presentOfReplies (info : EcResponseExpansionBayStatus) (gpu : EcResponseGetGpuPcie) : Bool :=
  bayPresent (expansionBayBoard info.expansionBayBoard)
    (expansionBayVendor (gpuVendorOfByte gpu.gpuVendor))

theorem returns_bayOfReplies {bay : FrameworkEcExpansionBayStatus}
    (h : Returns (bayOfReplies info gpu) m w bay w') :
    ∃ serial, m.crosEcSerial w = some serial ∧
      w'.outstanding = w.outstanding ++ bay.serialNumber.owned ∧ w'.errors = w.errors ∧
      (bay.serialNumber.owned = [] ↔ ¬ OwnsAllocation serial) ∧
      bay.present = byteOfBool (presentOfReplies info gpu) := by
  obtain ⟨serial, w₁, hserial, hrest⟩ := returns_bind.mp h
  obtain ⟨hread, rfl⟩ := returns_crosEcGetGpuSerial.mp hserial
  obtain ⟨buffer, w₂, hbuffer, hrest⟩ := returns_bind.mp hrest
  obtain ⟨houtstanding, herrors, howned⟩ := returns_serialBuffer hbuffer
  obtain ⟨pd, w₃, hpd, hpure⟩ := returns_bind.mp hrest
  obtain ⟨rfl, rfl⟩ := returns_pure.mp hpure
  have hledger := keeps_bayPdPortState (f := World.outstanding) (fun _ _ => rfl) _ m _ _ _ hpd
  have hstore := keeps_bayPdPortState (f := World.errors) (fun _ _ => rfl) _ m _ _ _ hpd
  exact ⟨serial, hread, hledger.trans houtstanding, hstore.trans herrors, howned, rfl⟩

theorem completes_bayOfReplies :
    Completes (bayOfReplies info gpu) m w ↔
      ∃ serial, m.crosEcSerial w = some serial ∧ SerialFits serial := by
  constructor
  · rintro ⟨bay, w', h⟩
    obtain ⟨serial, w₁, hserial, hrest⟩ := returns_bind.mp h
    obtain ⟨hread, rfl⟩ := returns_crosEcGetGpuSerial.mp hserial
    obtain ⟨buffer, w₂, hbuffer, -⟩ := returns_bind.mp hrest
    exact ⟨serial, hread, completes_serialBuffer.mp ⟨buffer, w₂, hbuffer⟩⟩
  · rintro ⟨serial, hread, hfits⟩
    have hserial := returns_crosEcGetGpuSerial.mpr ⟨hread, rfl⟩
    obtain ⟨buffer, w₂, hbuffer⟩ := completes_serialBuffer.mpr hfits
    refine hserial.completes_bind_iff.mpr (hbuffer.completes_bind_iff.mpr ?_)
    exact ((safe_bayPdPortState _).bind fun _ => safe_pure _).returns m w₂

end Replies

section Bay

variable {m : Machine} {w w' : World}

theorem crosEcSerial_bayQueries (w : World) :
    m.crosEcSerial ((w.record .expansionBayStatus).record .getGpuPcie) = m.crosEcSerial w := by
  unfold Machine.crosEcSerial Machine.gpuSerialReply
  rw [World.asked_record_of_ne _ (by decide), World.asked_record_of_ne _ (by decide)]

theorem returns_bayQuery :
    Returns (ask .expansionBayStatus) m w (m.bayReply w) (w.record .expansionBayStatus) :=
  returns_ask_self

theorem returns_gpuPcieQuery :
    Returns (ask .getGpuPcie) m (w.record .expansionBayStatus) (m.gpuPcieReply w)
      ((w.record .expansionBayStatus).record .getGpuPcie) := by
  refine returns_ask.mpr ⟨?_, rfl⟩
  rw [World.asked_record_of_ne _ (by decide)]
  rfl

theorem bayReplies_eq_ok_iff {info : EcResponseExpansionBayStatus} {gpu : EcResponseGetGpuPcie} :
    m.bayReplies w = .ok (info, gpu) ↔ m.bayReply w = .ok info ∧ m.gpuPcieReply w = .ok gpu := by
  unfold Machine.bayReplies
  cases m.bayReply w <;> cases m.gpuPcieReply w <;> simp [Except.bind, Except.map]

theorem returns_expansionBayStatus_of_ok {info : EcResponseExpansionBayStatus}
    {gpu : EcResponseGetGpuPcie} (h : m.bayReplies w = .ok (info, gpu))
    {result : StatusResult FrameworkEcExpansionBayStatus} :
    Returns expansionBayStatus m w result w' ↔
      ∃ bay, Returns (bayOfReplies info gpu) m
          ((w.record .expansionBayStatus).record .getGpuPcie) bay w' ∧ result = .ok bay := by
  obtain ⟨hinfo, hgpu⟩ := bayReplies_eq_ok_iff.mp h
  have hbay : Returns (ask .expansionBayStatus) m w (.ok info) (w.record .expansionBayStatus) :=
    hinfo ▸ returns_bayQuery
  have hpcie : Returns (ask .getGpuPcie) m (w.record .expansionBayStatus) (.ok gpu)
      ((w.record .expansionBayStatus).record .getGpuPcie) := hgpu ▸ returns_gpuPcieQuery
  unfold expansionBayStatus
  rw [returns_andThen_of_ok (returns_query_of_ok hbay),
    returns_andThen_of_ok (returns_query_of_ok hpcie), returns_bind]
  constructor
  · rintro ⟨bay, w₁, hreturns, hpure⟩
    obtain ⟨rfl, rfl⟩ := returns_pure.mp hpure
    exact ⟨bay, hreturns, rfl⟩
  · rintro ⟨bay, hreturns, rfl⟩
    exact ⟨bay, w', hreturns, rfl⟩

theorem returns_expansionBayStatus_of_error {error : EcError}
    (h : m.bayReplies w = .error error) :
    ∃ status w₁ w', Returns expansionBayStatus m w (.error status) w' ∧
      Returns (statusFromError error) m w₁ status w' ∧ w₁.outstanding = w.outstanding ∧
      w₁.errors = w.errors := by
  unfold expansionBayStatus
  cases hinfo : m.bayReply w with
  | error bayError =>
      have herror : bayError = error := by simpa [Machine.bayReplies, hinfo, Except.bind] using h
      subst herror
      have hbay : Returns (ask .expansionBayStatus) m w (.error bayError)
          (w.record .expansionBayStatus) := hinfo ▸ returns_bayQuery
      obtain ⟨status, w', hstatus, hquery⟩ := returns_query_of_error hbay
      exact ⟨status, _, w', (returns_andThen_of_error hquery).mpr ⟨rfl, rfl⟩, hstatus, rfl, rfl⟩
  | ok info =>
      have hbay : Returns (ask .expansionBayStatus) m w (.ok info)
          (w.record .expansionBayStatus) := hinfo ▸ returns_bayQuery
      have hgpu : m.gpuPcieReply w = .error error := by
        cases hgpu : m.gpuPcieReply w <;>
          simp_all [Machine.bayReplies, Except.bind, Except.map]
      have hpcie : Returns (ask .getGpuPcie) m (w.record .expansionBayStatus) (.error error)
          ((w.record .expansionBayStatus).record .getGpuPcie) := hgpu ▸ returns_gpuPcieQuery
      obtain ⟨status, w', hstatus, hquery⟩ := returns_query_of_error hpcie
      refine ⟨status, _, w', ?_, hstatus, rfl, rfl⟩
      rw [returns_andThen_of_ok (returns_query_of_ok hbay)]
      exact (returns_andThen_of_error hquery).mpr ⟨rfl, rfl⟩

/-- Asking the bay returns unless it answers and its serial panics. -/
theorem completes_expansionBayStatus :
    Completes expansionBayStatus m w ↔
      ∀ replies, m.bayReplies w = .ok replies →
        ∃ serial, m.crosEcSerial w = some serial ∧ SerialFits serial := by
  cases hreplies : m.bayReplies w with
  | error error =>
      obtain ⟨status, w₁, w', hreturns, -⟩ := returns_expansionBayStatus_of_error hreplies
      simp only [reduceCtorEq, false_imp_iff, implies_true, iff_true]
      exact ⟨_, w', hreturns⟩
  | ok replies =>
      have hbay : Completes expansionBayStatus m w ↔
          Completes (bayOfReplies replies.1 replies.2) m
            ((w.record .expansionBayStatus).record .getGpuPcie) := by
        constructor
        · rintro ⟨result, w', h⟩
          obtain ⟨bay, hreturns, -⟩ := (returns_expansionBayStatus_of_ok hreplies).mp h
          exact ⟨bay, w', hreturns⟩
        · rintro ⟨bay, w', h⟩
          exact ⟨.ok bay, w', (returns_expansionBayStatus_of_ok hreplies).mpr ⟨bay, h, rfl⟩⟩
      rw [hbay, completes_bayOfReplies, crosEcSerial_bayQueries]
      simp only [Except.ok.injEq, forall_eq']

end Bay

end FrameworkFfi
