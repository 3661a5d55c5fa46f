import FrameworkFfi.Exports.Inventory
import FrameworkFfi.Host.Silent
import FrameworkFfi.Library.FlagMask
import FrameworkFfi.Library.Search
import Mathlib.Data.Fin.VecNotation

/-!
# The feature flags, all or none

`framework_ec_get_feature_flags` polls the controller once for each of its six
flags, and each flag is read from the answer to its own poll. The first poll that
fails ends the call: nothing is polled behind it, and no flag is told.
-/

namespace FrameworkFfi

open Effect Search

/-- The features in the order they are polled, with their flags. -/
def polledFeatures : List (EcFeatureCode × FrameworkEcFeatureFlag) :=
  [(.keyboard, .keyboard), (.pwmKeyboardBacklight, .keyboardBacklight), (.touchpad, .touchpad),
    (.fingerprint, .fingerprint), (.motionSense, .ambientLight), (.motionSense, .tabletMode)]

def FrameworkEcFeatureFlag.bit : FrameworkEcFeatureFlag → ℕ
  | .none | .keyboard => 0
  | .keyboardBacklight => 1
  | .touchpad => 2
  | .fingerprint => 3
  | .ambientLight => 4
  | .tabletMode => 5

/-- A feature, its flag, and how often the features were asked for before. -/
abbrev FeaturePoll := (EcFeatureCode × FrameworkEcFeatureFlag) × ℕ

namespace Machine

/-- The error that a poll ends the call with, when it fails. -/
def pollError (m : Machine) (poll : FeaturePoll) : Option EcError :=
  match m.answer .getFeatures poll.2 with
  | .ok _ => none
  | .error error => some error

def pollFails (m : Machine) (poll : FeaturePoll) : Bool := (m.pollError poll).isSome

/-- The answer to a poll has its feature: a word holds the bits of 32 features. -/
def tells (m : Machine) (poll : FeaturePoll) : Bool :=
  match m.answer .getFeatures poll.2 with
  | .ok words =>
      let index := m.upstream.featureCode poll.1.1
      (words ⟨index / 32, by omega⟩).toNat.testBit (index % 32)
  | .error _ => false

end Machine

theorem toNat_featureBit (index : Fin 64) : (featureBit index).toNat = 2 ^ (index.val % 32) := by
  revert index
  decide

theorem answer_of_pollError {m : Machine} {poll : FeaturePoll} {error : EcError}
    (h : m.pollError poll = some error) : m.answer .getFeatures poll.2 = .error error := by
  unfold Machine.pollError at h
  cases hanswer : m.answer .getFeatures poll.2 with
  | ok words =>
      rw [hanswer] at h
      cases h
  | error failure =>
      rw [hanswer] at h
      rw [Option.some.inj h]

/-- The mask of a feature picks its bit out of the word. -/
theorem and_featureBit_ne_zero (word : UInt32) (index : Fin 64) :
    decide (word &&& featureBit index ≠ 0) = word.toNat.testBit (index % 32) := by
  have hzero : word &&& featureBit index = 0 ↔ (word &&& featureBit index).toNat = 0 :=
    UInt32.toNat_inj.symm
  rw [Bool.eq_iff_iff, decide_eq_true_iff, ne_eq, hzero, UInt32.toNat_and, toNat_featureBit,
    Nat.and_two_pow]
  cases word.toNat.testBit (index % 32) with
  | false => simp
  | true => simp

def addFeatureFlags :
    List (EcFeatureCode × FrameworkEcFeatureFlag) → UInt64 → Ffi (StatusResult UInt64)
  | [], flags => pure (.ok flags)
  | (feature, flag) :: features, flags =>
      andThen (addFeatureFlag feature flag flags) (addFeatureFlags features)

theorem toNat_frameworkFeatureFlag {flag : FrameworkEcFeatureFlag} (h : flag ≠ .none) :
    (frameworkFeatureFlag flag).toNat = 2 ^ flag.bit := by
  cases flag with
  | none => exact absurd rfl h
  | keyboard | keyboardBacklight | touchpad | fingerprint | ambientLight | tabletMode => rfl

theorem andThen_ok {ε α : Type} (query : Ffi (Except ε α)) :
    andThen query (fun a => pure (.ok a)) = query := by
  refine (bind_congr fun result => ?_).trans (bind_pure query)
  cases result <;> rfl

theorem featureFlags_eq : featureFlags = addFeatureFlags polledFeatures 0 := by
  simp only [featureFlags, polledFeatures, addFeatureFlags, andThen_ok]

abbrev pollMark (m : Machine) (poll : FeaturePoll) : ℕ :=
  FlagMask.mark (fun poll : FeaturePoll => poll.1.2.bit) m.tells poll

/-- What polling features adds to the flags: every bit, or the status of the first
poll that fails, behind which nothing is asked. -/
structure PollsInto (m : Machine) (polls : List FeaturePoll) (flags : UInt64)
    (result : StatusResult UInt64) (w w' : World) : Prop where
  asked : w'.asked .getFeatures =
    w.asked .getFeatures + (examined m.pollFails polls).length
  ok : ∀ marked, result = .ok marked → polls.find? m.pollFails = none ∧
    w'.errors = w.errors ∧
    marked.toNat = polls.foldl (fun marked poll => marked ||| pollMark m poll) flags.toNat
  error : ∀ status, result = .error status → ∃ poll error,
    polls.find? m.pollFails = some poll ∧ m.pollError poll = some error ∧
    error.ReportedAs m.upstream w.errors status ∧
    w'.errors = w.errors.storeAll error.messages

section Polls

variable {m : Machine} {w w' : World}

/-- What a query that polls once for a feature has done: the answer decides `result`,
and an error is reported under a status of its own. -/
structure PolledFor {α : Type} (m : Machine) (poll : EcFeatureCode × FrameworkEcFeatureFlag)
    (result : StatusResult α) (value : Bool → α) (w w' : World) : Prop where
  trace : w'.trace = .getFeatures :: w.trace
  ok : ∀ a, result = .ok a → m.pollError (poll, w.asked .getFeatures) = none ∧
    w'.errors = w.errors ∧ a = value (m.tells (poll, w.asked .getFeatures))
  error : ∀ status, result = .error status → ∃ error,
    m.pollError (poll, w.asked .getFeatures) = some error ∧
    error.ReportedAs m.upstream w.errors status ∧
    w'.errors = w.errors.storeAll error.messages

theorem PolledFor.asked {α : Type} {poll : EcFeatureCode × FrameworkEcFeatureFlag}
    {result : StatusResult α} {value : Bool → α} (h : PolledFor m poll result value w w') :
    w'.asked .getFeatures = w.asked .getFeatures + 1 := by
  rw [World.asked, h.trace]
  exact World.asked_record_self w .getFeatures

theorem returns_featureEnabled {feature : EcFeatureCode} {result : StatusResult Bool}
    (h : Returns (featureEnabled feature) m w result w') (flag : FrameworkEcFeatureFlag) :
    PolledFor m (feature, flag) result id w w' := by
  rcases returns_andThen h with ⟨status, hread, rfl⟩ | ⟨words, w₁, hread, hrest⟩
  · rcases returns_query hread with ⟨_, -, hok⟩ | ⟨error, w₁, _, hask, hstatus, herror⟩
    · cases hok
    · obtain ⟨hanswer, rfl⟩ := returns_ask.mp hask
      obtain rfl := Except.error.inj herror
      have hworld : w' = { w.record .getFeatures with
          errors := w.errors.storeAll error.messages } := (returns_statusFromError hstatus).1
      refine ⟨by rw [hworld]; rfl, nofun, ?_⟩
      rintro _ ⟨⟩
      have hreported : error.ReportedAs m.upstream w.errors _ :=
        reportedAs_of_statusFromError (w := w.record .getFeatures) hstatus
      refine ⟨error, ?_, hreported, by rw [hworld]⟩
      rw [Machine.pollError, ← hanswer]
  · obtain ⟨index, w₂, hview, hpure⟩ := returns_bind.mp hrest
    obtain ⟨rfl, rfl⟩ := returns_view.mp hview
    obtain ⟨rfl, rfl⟩ := returns_pure.mp hpure
    rcases returns_query hread with ⟨_, hask, hok⟩ | ⟨_, _, _, -, -, herror⟩
    · obtain ⟨hanswer, rfl⟩ := returns_ask.mp hask
      obtain rfl := Except.ok.inj hok
      refine ⟨rfl, ?_, nofun⟩
      rintro _ ⟨⟩
      rw [Machine.pollError, Machine.tells, ← hanswer]
      exact ⟨rfl, rfl, and_featureBit_ne_zero _ _⟩
    · cases herror

/-- One step asks once. It adds the flag when the answer has the feature, and fails
with the poll. -/
theorem returns_addFeatureFlag {feature : EcFeatureCode} {flag : FrameworkEcFeatureFlag}
    {flags : UInt64} {result : StatusResult UInt64}
    (h : Returns (addFeatureFlag feature flag flags) m w result w') :
    PolledFor m (feature, flag) result
      (fun tells => if tells then flags ||| frameworkFeatureFlag flag else flags) w w' := by
  rcases returns_andThen h with ⟨status, henabled, rfl⟩ | ⟨enabled, w₁, henabled, hpure⟩
  · obtain ⟨htrace, -, hfails⟩ := returns_featureEnabled henabled flag
    refine ⟨htrace, nofun, ?_⟩
    rintro _ ⟨⟩
    exact hfails status rfl
  · obtain ⟨rfl, rfl⟩ := returns_pure.mp hpure
    obtain ⟨htrace, htells, -⟩ := returns_featureEnabled henabled flag
    obtain ⟨hanswered, herrors, htells⟩ := htells enabled rfl
    refine ⟨htrace, ?_, nofun⟩
    rintro _ ⟨⟩
    exact ⟨hanswered, herrors, by rw [htells, id]⟩

theorem toNat_or_frameworkFeatureFlag {poll : FeaturePoll} (hflag : poll.1.2 ≠ .none)
    (flags : UInt64) :
    (if m.tells poll then flags ||| frameworkFeatureFlag poll.1.2 else flags).toNat =
      flags.toNat ||| pollMark m poll := by
  rw [pollMark, FlagMask.mark]
  split_ifs
  · rw [UInt64.toNat_or, toNat_frameworkFeatureFlag hflag]
  · rw [Nat.or_zero]

/-- By induction on the features that are left. -/
theorem pollsInto_addFeatureFlags {features : List (EcFeatureCode × FrameworkEcFeatureFlag)}
    {flags : UInt64} (hfeatures : ∀ feature ∈ features, feature.2 ≠ .none)
    {result : StatusResult UInt64}
    (h : Returns (addFeatureFlags features flags) m w result w') :
    PollsInto m (features.zipIdx (w.asked .getFeatures)) flags result w w' := by
  induction features generalizing flags w with
  | nil =>
      obtain ⟨rfl, rfl⟩ := returns_pure.mp h
      refine ⟨rfl, ?_, nofun⟩
      rintro _ ⟨⟩
      exact ⟨rfl, rfl, rfl⟩
  | cons feature features ih =>
      obtain ⟨hfeature, hrest⟩ := List.forall_mem_cons.mp hfeatures
      rw [List.zipIdx_cons]
      rcases returns_andThen h with ⟨status, hfirst, rfl⟩ | ⟨marked, w₁, hfirst, hnext⟩
      · have hpolled := returns_addFeatureFlag hfirst
        obtain ⟨error, hpoll, hreported, herrors⟩ := hpolled.error status rfl
        have hfails : m.pollFails (feature, w.asked .getFeatures) = true := by
          rw [Machine.pollFails, hpoll, Option.isSome_some]
        refine ⟨?_, nofun, ?_⟩
        · rw [examined_cons_of_pos hfails]
          exact hpolled.asked
        · rintro _ ⟨⟩
          exact ⟨_, error, List.find?_cons_of_pos hfails, hpoll, hreported, herrors⟩
      · have hpolled := returns_addFeatureFlag hfirst
        obtain ⟨hanswered, herrors, hmarked⟩ := hpolled.ok marked rfl
        have hflags : marked.toNat =
            flags.toNat ||| pollMark m (feature, w.asked .getFeatures) :=
          (congrArg UInt64.toNat hmarked).trans (toNat_or_frameworkFeatureFlag hfeature flags)
        have hfails : m.pollFails (feature, w.asked .getFeatures) = false := by
          rw [Machine.pollFails, hanswered, Option.isSome_none]
        have hfind : ((feature, w.asked .getFeatures) ::
              features.zipIdx (w.asked .getFeatures + 1)).find? m.pollFails =
            (features.zipIdx (w.asked .getFeatures + 1)).find? m.pollFails :=
          List.find?_cons_of_neg (by simp [hfails])
        obtain ⟨hcount, hok, herror⟩ := ih hrest hnext
        rw [hpolled.asked] at hcount hok herror
        refine ⟨?_, ?_, ?_⟩
        · rw [hcount, examined_cons_of_neg hfails, List.length_cons]
          omega
        · rwa [hfind, List.foldl_cons, ← hflags, ← herrors]
        · rwa [hfind, ← herrors]

end Polls

/-- The six polls of a call that is made after the features were asked for `n`
times. -/
def featurePolls (n : ℕ) : List FeaturePoll := polledFeatures.zipIdx n

/-- The call tells the flags when all six polls are answered, each flag by the
answer to its own poll and no other flag. Otherwise it fails with the status of the
error of the first poll that fails, stores the message of that error alone, tells no
flag, and polls no more. -/
theorem featureFlags_allOrNone {m : Machine} {handle : FrameworkEcHandle} {w w' : World}
    {result : FrameworkEcFeatureFlagsResult}
    (h : Returns (frameworkEcGetFeatureFlags (some handle)) m w result w') :
    w'.asked .getFeatures = w.asked .getFeatures +
        (examined m.pollFails (featurePolls (w.asked .getFeatures))).length ∧
      ((featurePolls (w.asked .getFeatures)).find? m.pollFails = none →
        result.status = .success ∧ w'.errors = w.errors ∧
        ∀ k, result.value.toNat.testBit k = true ↔
          ∃ poll ∈ featurePolls (w.asked .getFeatures), m.tells poll = true ∧
            poll.1.2.bit = k) ∧
      ∀ poll, (featurePolls (w.asked .getFeatures)).find? m.pollFails = some poll →
        ∃ error, m.answer .getFeatures poll.2 = .error error ∧
          error.ReportedAs m.upstream w.errors result.status ∧
          w'.errors = w.errors.storeAll error.messages ∧ result.value = 0 := by
  obtain ⟨outcome, hflags, rfl⟩ := returns_exported h
  have hnone : ∀ feature ∈ polledFeatures, feature.2 ≠ .none := by decide
  have hrun : Returns (addFeatureFlags polledFeatures 0) m w outcome w' := featureFlags_eq ▸ hflags
  obtain ⟨hasked, hok, herror⟩ := pollsInto_addFeatureFlags hnone hrun
  refine ⟨hasked, fun hfind => ?_, fun poll hfind => ?_⟩
  · cases outcome with
    | error status =>
        obtain ⟨poll, _, hfails, -⟩ := herror status rfl
        exact absurd (hfind.symm.trans hfails) nofun
    | ok marked =>
        obtain ⟨-, herrors, hmarked⟩ := hok marked rfl
        refine ⟨rfl, herrors, fun k => ?_⟩
        rw [reported, hmarked, UInt64.toNat_zero]
        exact FlagMask.testBit_mask
  · cases outcome with
    | error status =>
        obtain ⟨failing, error, hfails, hpoll, hreported, herrors⟩ := herror status rfl
        obtain rfl := Option.some.inj (hfind.symm.trans hfails)
        exact ⟨error, answer_of_pollError hpoll, hreported, herrors, rfl⟩
    | ok marked => exact absurd (hfind.symm.trans (hok marked rfl).1) nofun

/-- A controller with a keyboard and a fingerprint reader. -/
def fingerprintMachine : Machine :=
  Machine.silent.answering .getFeatures (.ok ![0x10000080, 0])

/-- The same controller, stalled when it is asked for the third time. -/
def stalledMachine : Machine :=
  { fingerprintMachine with
    answer := fun request k =>
      match request with
      | .getFeatures =>
          if k = 2 then .error (.deviceError "stalled")
          else fingerprintMachine.answer .getFeatures k
      | other => fingerprintMachine.answer other k }

theorem featureFlags_allOrNone_fingerprint :
    (∃ result w', Returns (frameworkEcGetFeatureFlags (some ⟨.crosEc⟩)) fingerprintMachine .fresh
        result w' ∧ w'.asked .getFeatures = 6 ∧ result.status = .success ∧
      result.value.toNat.testBit 3 = true) ∧
    ∃ result w', Returns (frameworkEcGetFeatureFlags (some ⟨.crosEc⟩)) stalledMachine .fresh
        result w' ∧ w'.asked .getFeatures = 3 ∧ result.status = ⟨.deviceError, ⟨1⟩⟩ ∧
      w'.errors.getDeviceErrorMessage 1 = some "stalled" ∧ result.value = 0 := by
  constructor
  · have h : Returns (frameworkEcGetFeatureFlags (some ⟨.crosEc⟩)) fingerprintMachine .fresh
      _ _ := rfl
    obtain ⟨hasked, hok, -⟩ := featureFlags_allOrNone h
    have hanswered : (featurePolls (World.fresh.asked .getFeatures)).find?
        fingerprintMachine.pollFails = none := by decide
    obtain ⟨hstatus, -, hbits⟩ := hok hanswered
    exact ⟨_, _, h, hasked, hstatus, (hbits 3).mpr (by decide)⟩
  · obtain ⟨result, w', h⟩ : Completes (frameworkEcGetFeatureFlags (some ⟨.crosEc⟩))
        stalledMachine .fresh := ⟨_, _, rfl⟩
    obtain ⟨hasked, -, hfailed⟩ := featureFlags_allOrNone h
    have hstalled : (featurePolls (World.fresh.asked .getFeatures)).find?
        stalledMachine.pollFails = some ((.touchpad, .touchpad), 2) := by decide
    obtain ⟨error, herror, hreported, herrors, hvalue⟩ := hfailed _ hstalled
    obtain rfl : EcError.deviceError "stalled" = error := Except.error.inj herror
    refine ⟨result, w', h, hasked, ?_, ?_, hvalue⟩
    · generalize result.status = status at hreported ⊢
      cases hreported with
      | message => rfl
    · rw [herrors]
      decide

end FrameworkFfi
