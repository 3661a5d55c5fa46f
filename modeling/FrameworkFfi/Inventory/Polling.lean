import FrameworkFfi.Inventory.Bay
import FrameworkFfi.Inventory.ReportedOnceRun
import FrameworkFfi.Inventory.WellFormedRun

/-!
# What the inventory does behind its result

The detectors of the internal modules ask for the feature flags and take a
failure for "no". The failure has become a status by then, so its message has
been stored. `Polls m n w w'` is what a part of the inventory does between `w`
and `w'` when it asks for the flags `n` times: the messages of these answers are
stored, the bay is not asked and nothing is handed out.
-/

namespace FrameworkFfi

open Effect

def replyMessages {α : Type} (reply : EcResult α) : List String :=
  match reply with
  | .ok _ => []
  | .error error => error.messages

/-- The messages in the next `n` answers to the feature query. -/
def Machine.featureMessages (m : Machine) (w : World) (n : ℕ) : List String :=
  (List.range n).flatMap fun k =>
    replyMessages (m.answer .getFeatures (w.asked .getFeatures + k))

structure Polls (m : Machine) (n : ℕ) (w w' : World) : Prop where
  outstanding : w'.outstanding = w.outstanding
  errors : w'.errors = w.errors.storeAll (m.featureMessages w n)
  features : w'.asked .getFeatures = w.asked .getFeatures + n
  sameBay : w.SameBay w'

namespace Polls

variable {m : Machine} {n k : ℕ} {w w' w'' : World}

theorem refl (m : Machine) (w : World) : Polls m 0 w w := ⟨rfl, rfl, rfl, .refl w⟩

theorem trans (h : Polls m n w w') (h' : Polls m k w' w'') : Polls m (n + k) w w'' where
  outstanding := h'.outstanding.trans h.outstanding
  errors := by
    have hmessages : m.featureMessages w (n + k) =
        m.featureMessages w n ++ m.featureMessages w' k := by
      unfold Machine.featureMessages
      rw [List.range_add, List.flatMap_append, List.flatMap_map, h.features]
      simp only [Nat.add_assoc]
    rw [hmessages, DeviceErrorStore.storeAll_append, ← h.errors]
    exact h'.errors
  features := by rw [h'.features, h.features, Nat.add_assoc]
  sameBay := h.sameBay.trans h'.sameBay

end Polls

/-- The requests whose answers decide what happens behind the result. -/
def watchedRequests : List HostRequest :=
  [.getFeatures, .expansionBayStatus, .getGpuPcie, .getGpuSerial 0]

theorem polls_record {m : Machine} {w : World} {request : HostRequest}
    (h : request ∉ watchedRequests) : Polls m 0 w (w.record request) := by
  simp only [watchedRequests, List.mem_cons, List.not_mem_nil, or_false, not_or] at h
  obtain ⟨hfeatures, hbay, hpcie, hserial⟩ := h
  refine ⟨rfl, rfl, World.asked_record_of_ne w (Ne.symm hfeatures), ?_⟩
  exact ⟨World.asked_record_of_ne w (Ne.symm hbay), World.asked_record_of_ne w (Ne.symm hpcie),
    World.asked_record_of_ne w (Ne.symm hserial)⟩

theorem polls_recordAll {m : Machine} {w : World} {requests : List HostRequest}
    (h : ∀ request ∈ requests, request ∉ watchedRequests) :
    Polls m 0 w (w.recordAll requests) := by
  induction requests generalizing w with
  | nil => exact Polls.refl m w
  | cons request requests ih =>
      rw [List.forall_mem_cons] at h
      exact (polls_record h.1).trans (ih h.2)

/-- Every run of `p` that returns asks for the flags `n` times. -/
def PollsTimes {α : Type} (n : ℕ) (p : Ffi α) : Prop :=
  ∀ m w a w', Returns p m w a w' → Polls m n w w'

section Rules

variable {α β : Type} {n k : ℕ}

theorem pollsTimes_pure (a : α) : PollsTimes 0 (pure a) := by
  intro m w b w' h
  obtain ⟨-, rfl⟩ := returns_pure.mp h
  exact Polls.refl m _

theorem pollsTimes_view (f : Machine → α) : PollsTimes 0 (view f) := by
  intro m w b w' h
  obtain ⟨-, rfl⟩ := returns_view.mp h
  exact Polls.refl m _

theorem pollsTimes_ask {request : HostRequest} (hrequest : request ∉ watchedRequests) :
    PollsTimes 0 (ask request) := by
  intro m w reply w' h
  obtain ⟨-, rfl⟩ := returns_ask.mp h
  exact polls_record hrequest

theorem PollsTimes.bind {p : Ffi α} {q : α → Ffi β} (hp : PollsTimes n p)
    (hq : ∀ a, PollsTimes k (q a)) : PollsTimes (n + k) (p >>= q) := by
  intro m w b w' h
  obtain ⟨a, w₁, h₁, h₂⟩ := returns_bind.mp h
  exact (hp m w a w₁ h₁).trans (hq a m w₁ b w' h₂)

theorem PollsTimes.then {p : Ffi α} {q : α → Ffi β} (hp : PollsTimes n p)
    (hq : ∀ a, PollsTimes 0 (q a)) : PollsTimes n (p >>= q) :=
  hp.bind hq

theorem PollsTimes.foldlM {ι : Type} {g : β → ι → Ffi β} (h : ∀ b i, PollsTimes 0 (g b i))
    (xs : List ι) (b : β) : PollsTimes 0 (xs.foldlM g b) := by
  induction xs generalizing b with
  | nil => exact pollsTimes_pure b
  | cons x xs ih =>
      rw [List.foldlM_cons]
      exact (h b x).then fun b' => ih b'

end Rules

/-! ### The detectors -/

/-- A feature query is one poll, whether or not its caller looks at the failure. -/
theorem pollsTimes_featureEnabled (feature : EcFeatureCode) :
    PollsTimes 1 (featureEnabled feature) := by
  intro m w result w' h
  have hask : Returns (ask .getFeatures) m w (m.answer .getFeatures (w.asked .getFeatures))
      (w.record .getFeatures) := returns_ask_self
  have hbay : w.SameBay (w.record .getFeatures) :=
    ⟨World.asked_record_of_ne w (by decide), World.asked_record_of_ne w (by decide),
      World.asked_record_of_ne w (by decide)⟩
  have hmessages : m.featureMessages w 1 =
      replyMessages (m.answer .getFeatures (w.asked .getFeatures)) := by
    simp [Machine.featureMessages]
  have hfirst : ∀ {result : StatusResult (FixedArray 2 UInt32)} {w'},
      Returns readFeatureFlags m w result w' → Polls m 1 w w' := by
    intro result w' hread
    rcases returns_query hread with ⟨flags, hok, -⟩ | ⟨error, w₁, status, herror, hstatus, -⟩
    · obtain ⟨hanswer, rfl⟩ := hask.unique hok
      refine ⟨rfl, ?_, World.asked_record_self w .getFeatures, hbay⟩
      rw [hmessages, hanswer]
      rfl
    · obtain ⟨hanswer, rfl⟩ := hask.unique herror
      obtain ⟨rfl, -⟩ := returns_statusFromError hstatus
      refine ⟨rfl, ?_, World.asked_record_self w .getFeatures, hbay.expansionBayStatus,
        hbay.getGpuPcie, hbay.getGpuSerial⟩
      rw [hmessages, hanswer]
      rfl
  rcases returns_andThen h with ⟨status, hread, -⟩ | ⟨flags, w₁, hread, hrest⟩
  · exact hfirst hread
  · obtain ⟨index, w₂, hview, hpure⟩ := returns_bind.mp hrest
    obtain ⟨-, rfl⟩ := returns_view.mp hview
    obtain ⟨-, rfl⟩ := returns_pure.mp hpure
    exact hfirst hread

theorem pollsTimes_detectUsbLocal (isMatch : UsbMatch) :
    PollsTimes 0 (detectUsbLocal isMatch) :=
  (pollsTimes_ask (by decide)).then fun _ => pollsTimes_pure _

theorem pollsTimes_detectHidLocal (isMatch : Upstream → HidDevice → Bool) :
    PollsTimes 0 (do
      let upstream ← view Machine.upstream
      let devices ← ask .hidDeviceList
      pure (hidObservations (isMatch upstream) devices) : Ffi _) :=
  (pollsTimes_view _).then fun _ => (pollsTimes_ask (by decide)).then fun _ => pollsTimes_pure _

theorem pollsTimes_placeInputModule (upstream : Upstream)
    (topRow : FixedArray 5 FrameworkModuleDescriptor) (module : UsbModuleObservation) :
    PollsTimes 0 (placeInputModule upstream topRow module) := by
  unfold placeInputModule
  split_ifs with hguard
  · exact pollsTimes_pure _
  · rw [checkIndex_of_lt (toNatClampNeg_lt_five hguard)]
    exact (pollsTimes_pure _).then fun _ => pollsTimes_pure _

theorem pollsTimes_detectInputDeck : PollsTimes 0 detectInputDeck := by
  refine (pollsTimes_view _).then fun upstream => (pollsTimes_ask (by decide)).then fun deck => ?_
  refine PollsTimes.then ?_ fun modules => ?_
  · exact (pollsTimes_view _).then fun _ =>
      (pollsTimes_ask (by decide)).then fun _ => pollsTimes_pure _
  · exact (PollsTimes.foldlM (pollsTimes_placeInputModule upstream) modules _).then
      fun _ => pollsTimes_pure _

/-- How often the keyboard, and how often the touchpad, is looked for in the flags. -/
def familyPolls (family : Option PlatformFamily) : ℕ :=
  if family = some .framework16 then 0 else 1

theorem pollsTimes_detectDeckOrKeyboard (family : Option PlatformFamily) :
    PollsTimes (familyPolls family) (detectDeckOrKeyboard family) := by
  unfold detectDeckOrKeyboard familyPolls
  by_cases hfamily : family = some .framework16
  · rw [if_pos (inputTopRowCount_pos_iff.mpr hfamily), if_pos hfamily]
    exact pollsTimes_detectInputDeck.then fun _ => pollsTimes_pure _
  · rw [if_neg fun h => hfamily (inputTopRowCount_pos_iff.mp h), if_neg hfamily]
    refine PollsTimes.then ?_ fun _ => pollsTimes_pure _
    exact (pollsTimes_featureEnabled _).then fun _ => pollsTimes_pure _

theorem pollsTimes_detectTouchpad (family : Option PlatformFamily)
    (touchpadDevices : List HidModuleObservation) (inputTouchpad : FrameworkModuleDescriptor) :
    PollsTimes (familyPolls family) (detectTouchpad family touchpadDevices inputTouchpad) := by
  unfold detectTouchpad familyPolls
  split_ifs
  · exact pollsTimes_pure _
  · refine PollsTimes.then ?_ fun _ => pollsTimes_pure _
    exact (pollsTimes_featureEnabled _).then fun _ =>
      (pollsTimes_ask (by decide)).then fun _ => pollsTimes_pure _

theorem pollsTimes_fpLedAnswers : PollsTimes 0 fpLedAnswers := by
  refine (pollsTimes_ask (by decide)).then fun reply => ?_
  cases reply with
  | ok level => exact pollsTimes_pure _
  | error error => exact pollsTimes_pure _

theorem pollsTimes_detectFingerprintReader : PollsTimes 1 detectFingerprintReader := by
  refine PollsTimes.then ?_ fun present => ?_
  · refine (pollsTimes_featureEnabled _).then fun enabled => ?_
    split_ifs
    · exact pollsTimes_pure _
    · exact pollsTimes_fpLedAnswers
  · split_ifs
    · exact pollsTimes_fpLedAnswers.then fun _ => pollsTimes_pure _
    · exact pollsTimes_pure _

def inventoryPolls (family : Option PlatformFamily) : ℕ :=
  familyPolls family + (familyPolls family + 1)

theorem pollsTimes_detectInternalModules (family : Option PlatformFamily) :
    PollsTimes (inventoryPolls family) (detectInternalModules family) := by
  refine (pollsTimes_detectDeckOrKeyboard family).bind fun deck => ?_
  rw [← Nat.zero_add (familyPolls family + 1)]
  refine (pollsTimes_detectHidLocal touchpadMatch).bind fun touchpadDevices => ?_
  refine (pollsTimes_detectTouchpad family touchpadDevices _).bind fun touchpads => ?_
  refine pollsTimes_detectFingerprintReader.then fun fingerprintReader => ?_
  refine PollsTimes.then ((pollsTimes_detectHidLocal touchscreenMatch).then
    fun _ => pollsTimes_pure _) fun touchscreen => ?_
  refine PollsTimes.then ?_ fun webcam => pollsTimes_pure _
  exact ((pollsTimes_view _).then fun _ => pollsTimes_detectUsbLocal _).then
    fun _ => pollsTimes_pure _

theorem slotRequests_notWatched (n : ℕ) :
    ∀ request ∈ slotRequests n, request ∉ watchedRequests := by
  intro request hrequest hwatched
  rcases List.mem_append.mp hrequest with hport | hbus
  · obtain ⟨k, -, rfl⟩ := List.mem_map.mp hport
    simp [watchedRequests] at hwatched
  · have hdevices : request = .findExpansionCardDevices ∨ request = .usbDevices := by
      simpa using hbus
    rcases hdevices with rfl | rfl
    · exact absurd hwatched (by decide)
    · exact absurd hwatched (by decide)

/-- When the bay is asked, the flags have been polled and nothing else has been
done that a later call could see. -/
theorem polls_before_bay {m : Machine} {w w₁ : World} {internals : InternalModules}
    (h : Returns (detectInternalModules m.family) m
      (w.recordAll (slotRequests (mainboardPdPortCount m.family).toNat)) internals w₁) :
    Polls m (inventoryPolls m.family) w w₁ := by
  have hslots := polls_recordAll (m := m) (w := w)
    (slotRequests_notWatched (mainboardPdPortCount m.family).toNat)
  rw [← Nat.zero_add (inventoryPolls m.family)]
  exact hslots.trans (pollsTimes_detectInternalModules m.family m _ internals w₁ h)

end FrameworkFfi
