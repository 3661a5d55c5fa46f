import FrameworkFfi.Inventory.FeatureFlags
import FrameworkFfi.Inventory.WellFormedRun

/-!
# The feature flags and the modules of the inventory

`framework_ec_get_feature_flags` tells the features of the controller, and
`framework_ec_get_module_inventory` lists built-in modules that it derives from the
same features or finds on its own. When the features are the same each time they
are asked for, the two calls agree.
-/

namespace FrameworkFfi

open Effect Search

/-- The controller answers the same each time it is asked for its features, or for the
LED of its fingerprint reader. -/
structure Machine.StableFeatures (m : Machine) : Prop where
  answer : ∀ n k, m.answer .getFeatures n = m.answer .getFeatures k
  fpLed : ∀ n k, m.answer .getFpLedLevel n = m.answer .getFpLedLevel k

def Machine.hasFeature (m : Machine) (feature : EcFeatureCode) : Bool :=
  m.tells ((feature, .none), 0)

def Machine.FpLedAnswers (m : Machine) : Prop :=
  ∃ level, m.answer .getFpLedLevel 0 = .ok level

/-- The HID bus lists one of the touchpads when it is asked after `n` times. -/
def Machine.ListsTouchpad (m : Machine) (n : ℕ) : Prop :=
  ∃ devices, m.answer .hidDeviceList n = some devices ∧ ∃ device ∈ devices,
    device.vendorId = m.upstream.pixVid ∧
      device.productId ∈ ([0x0274, 0x0239, 0x0360, 0x0343] : List UInt16) ∧
      device.usagePage = 0xFF00

/-- A module that is listed exactly when its flag is set or it was found on its own. It
counts as direct exactly when it was found. -/
structure Backed (flag : Bool) (found : Prop) (identity : FrameworkModuleIdentity)
    (module : FrameworkModuleDescriptor) : Prop where
  listed : flag = true ∨ found → module.present = 1 ∧ module.identity = identity
  unlisted : ¬ (flag = true ∨ found) → module.present = 0
  direct : module.confidence = .direct ↔ found
  derived : module.confidence = .derivedStrong ↔ flag = true ∧ ¬ found

section Features

variable {m : Machine} {w w' : World}

theorem Machine.StableFeatures.tells_eq (hm : m.StableFeatures) (poll : FeaturePoll) :
    m.tells poll = m.hasFeature poll.1.1 := by
  rw [Machine.hasFeature, Machine.tells, Machine.tells, hm.answer poll.2 0]

theorem tells_of_pollError {poll : FeaturePoll} {error : EcError}
    (h : m.pollError poll = some error) : m.tells poll = false := by
  rw [Machine.tells, answer_of_pollError h]

/-- The feature as the inventory reads it, which takes a failure for an absence. -/
theorem unwrapOr_featureEnabled (hm : m.StableFeatures) {feature : EcFeatureCode}
    {result : StatusResult Bool} (h : Returns (featureEnabled feature) m w result w') :
    unwrapOr result false = m.hasFeature feature := by
  obtain ⟨-, hok, herror⟩ := returns_featureEnabled h .none
  cases result with
  | ok enabled =>
      obtain ⟨-, -, htells⟩ := hok enabled rfl
      exact htells.trans (hm.tells_eq _)
  | error status =>
      obtain ⟨error, hpoll, -⟩ := herror status rfl
      exact (tells_of_pollError hpoll).symm.trans (hm.tells_eq _)

/-- The bit of each flag is its feature. When the polls fail there is no bit, and no feature
either. -/
theorem testBit_of_getFeatureFlags (hm : m.StableFeatures) {handle : FrameworkEcHandle}
    {flags : FrameworkEcFeatureFlagsResult}
    (h : Returns (frameworkEcGetFeatureFlags (some handle)) m w flags w')
    {feature : EcFeatureCode × FrameworkEcFeatureFlag} (hfeature : feature ∈ polledFeatures) :
    flags.value.toNat.testBit feature.2.bit = m.hasFeature feature.1 := by
  obtain ⟨outcome, hflags, rfl⟩ := returns_exported h
  have hnone : ∀ feature ∈ polledFeatures, feature.2 ≠ .none := by decide
  have hrun : Returns (addFeatureFlags polledFeatures 0) m w outcome w' := featureFlags_eq ▸ hflags
  obtain ⟨-, hok, herror⟩ := pollsInto_addFeatureFlags hnone hrun
  cases outcome with
  | error status =>
      obtain ⟨poll, error, -, hpoll, -⟩ := herror status rfl
      have hsame : m.pollError ((feature.1, .none), 0) = m.pollError poll := by
        rw [Machine.pollError, Machine.pollError, hm.answer 0 poll.2]
      rw [Machine.hasFeature, tells_of_pollError (hsame.trans hpoll)]
      exact Nat.zero_testBit _
  | ok marked =>
      have hmask : marked.toNat = FlagMask.mask (fun poll : FeaturePoll => poll.1.2.bit) m.tells
          (polledFeatures.zipIdx (w.asked .getFeatures)) := (hok marked rfl).2.2
      have hmem : ∀ {pair}, pair ∈ polledFeatures ↔
          ∃ poll ∈ polledFeatures.zipIdx (w.asked .getFeatures), poll.1 = pair := by
        intro pair
        rw [← List.mem_map, List.zipIdx_map_fst]
      have hbits : ∀ a ∈ polledFeatures, ∀ b ∈ polledFeatures, a.2.bit = b.2.bit → a.1 = b.1 := by
        decide
      rw [reported, hmask, Bool.eq_iff_iff, FlagMask.testBit_mask]
      constructor
      · rintro ⟨poll, hpoll, htells, hbit⟩
        rwa [← hbits _ (hmem.mpr ⟨poll, hpoll, rfl⟩) _ hfeature hbit, ← hm.tells_eq]
      · intro htells
        obtain ⟨poll, hpoll, rfl⟩ := hmem.mp hfeature
        exact ⟨poll, hpoll, (hm.tells_eq poll).trans htells, rfl⟩

end Features

section Modules

variable {m : Machine} {w w' : World} {module : FrameworkModuleDescriptor}

theorem backed_default (identity : FrameworkModuleIdentity) :
    Backed false False identity defaultModuleDescriptor where
  listed := by rintro (h | h) <;> cases h
  unlisted := fun _ => rfl
  direct := iff_of_false nofun id
  derived := iff_of_false nofun nofun

theorem Backed.congr {flag : Bool} {found found' : Prop} {identity : FrameworkModuleIdentity}
    (h : Backed flag found identity module) (hfound : found ↔ found') :
    Backed flag found' identity module :=
  propext hfound ▸ h

theorem returns_detectInternalKeyboard (hm : m.StableFeatures)
    (h : Returns detectInternalKeyboard m w module w') :
    Backed (m.hasFeature .keyboard) False .internalKeyboard module := by
  obtain ⟨enabled, w₁, henabled, hpure⟩ := returns_bind.mp h
  obtain ⟨rfl, rfl⟩ := returns_pure.mp hpure
  rw [unwrapOr_featureEnabled hm henabled]
  cases m.hasFeature .keyboard with
  | true => exact ⟨fun _ => ⟨rfl, rfl⟩, fun h => absurd (.inl rfl) h, iff_of_false nofun id,
      iff_of_true rfl ⟨rfl, id⟩⟩
  | false => exact backed_default _

/-- Looking for the keyboard does not enumerate the HID bus. -/
theorem asked_detectInternalKeyboard (h : Returns detectInternalKeyboard m w module w') :
    w'.asked .hidDeviceList = w.asked .hidDeviceList := by
  obtain ⟨enabled, w₁, henabled, hpure⟩ := returns_bind.mp h
  obtain ⟨-, rfl⟩ := returns_pure.mp hpure
  have htrace := (returns_featureEnabled henabled .none).trace
  rw [World.asked, htrace]
  exact w.asked_record_of_ne (by decide)

/-- The touchpad is listed for its flag, or because the HID bus has one. -/
theorem backed_internalTouchpadEntry (enabled : Bool) (boardId : Int32)
    (device : Option HidModuleObservation) :
    Backed enabled (device.isSome = true) .internalTouchpad
      (internalTouchpadEntry enabled boardId device) := by
  cases device with
  | none =>
      cases enabled with
      | true => exact ⟨fun _ => ⟨rfl, rfl⟩, fun h => absurd (.inl rfl) h, iff_of_false nofun nofun,
          iff_of_true rfl ⟨rfl, nofun⟩⟩
      | false => exact (backed_default _).congr (iff_of_false id nofun)
  | some device =>
      cases enabled with
      | true => exact ⟨fun _ => ⟨rfl, rfl⟩, fun h => absurd (.inl rfl) h, iff_of_true rfl rfl,
          iff_of_false nofun fun h => h.2 rfl⟩
      | false => exact ⟨fun _ => ⟨rfl, rfl⟩, fun h => absurd (.inr rfl) h, iff_of_true rfl rfl,
          iff_of_false nofun fun h => h.2 rfl⟩

theorem returns_detectTouchpadsLocal {devices : List HidModuleObservation}
    (h : Returns detectTouchpadsLocal m w devices w') :
    devices.head?.isSome = true ↔ m.ListsTouchpad (w.asked .hidDeviceList) := by
  obtain ⟨upstream, w₁, hview, hrest⟩ := returns_bind.mp h
  obtain ⟨rfl, rfl⟩ := returns_view.mp hview
  obtain ⟨listed, w₂, hask, hpure⟩ := returns_bind.mp hrest
  obtain ⟨rfl, rfl⟩ := returns_ask.mp hask
  obtain ⟨rfl, rfl⟩ := returns_pure.mp hpure
  rw [Machine.ListsTouchpad, List.isSome_head?]
  cases m.answer .hidDeviceList (w₁.asked .hidDeviceList) with
  | none => exact iff_of_false (fun hne => hne rfl) (by simp)
  | some listed => simp [hidObservations, touchpadMatch, and_assoc]

theorem returns_detectInternalTouchpad (hm : m.StableFeatures)
    {devices : List HidModuleObservation}
    (h : Returns (detectInternalTouchpad devices) m w module w') :
    Backed (m.hasFeature .touchpad) (devices.head?.isSome = true) .internalTouchpad module := by
  obtain ⟨enabled, w₁, henabled, hrest⟩ := returns_bind.mp h
  obtain ⟨boardId, w₂, -, hpure⟩ := returns_bind.mp hrest
  obtain ⟨rfl, rfl⟩ := returns_pure.mp hpure
  rw [unwrapOr_featureEnabled hm henabled]
  exact backed_internalTouchpadEntry _ _ _

theorem returns_fpLedAnswers (hm : m.StableFeatures) {answers : Bool}
    (h : Returns fpLedAnswers m w answers w') : answers = true ↔ m.FpLedAnswers := by
  obtain ⟨reply, w₁, hask, hpure⟩ := returns_bind.mp h
  obtain ⟨hreply, rfl⟩ := returns_ask.mp hask
  rw [Machine.FpLedAnswers, hm.fpLed 0 (w.asked .getFpLedLevel), ← hreply]
  cases reply with
  | ok level =>
      obtain ⟨rfl, -⟩ := returns_pure.mp hpure
      exact iff_of_true rfl ⟨level, rfl⟩
  | error error =>
      obtain ⟨rfl, -⟩ := returns_pure.mp hpure
      exact iff_of_false nofun nofun

theorem backed_fingerprintReader {flag direct : Bool} (h : flag = true ∨ direct = true) :
    Backed flag (direct = true) .fingerprintReader
      (moduleDescriptor .fingerprintReader .ec .internalFixed
        (if direct then .direct else .derivedStrong) true (-1) builtInFlags 0 0 (-1)) := by
  cases direct with
  | true => exact ⟨fun _ => ⟨rfl, rfl⟩, fun hnot => absurd h hnot, iff_of_true rfl rfl,
      iff_of_false nofun fun h => h.2 rfl⟩
  | false =>
      have hflag : flag = true := h.resolve_right Bool.false_ne_true
      exact ⟨fun _ => ⟨rfl, rfl⟩, fun hnot => absurd h hnot, iff_of_false nofun nofun,
        iff_of_true rfl ⟨hflag, nofun⟩⟩

/-- The fingerprint reader is listed for its flag, or because its LED answers. -/
theorem returns_detectFingerprintReader (hm : m.StableFeatures)
    (h : Returns detectFingerprintReader m w module w') :
    Backed (m.hasFeature .fingerprint) m.FpLedAnswers .fingerprintReader module := by
  obtain ⟨present, w₁, hpresent, hrest⟩ := returns_bind.mp h
  obtain ⟨enabled, w₂, henabled, hled⟩ := returns_bind.mp hpresent
  rw [← unwrapOr_featureEnabled hm henabled]
  cases present with
  | true =>
      obtain ⟨direct, w₃, hdirect, hpure⟩ := returns_bind.mp hrest
      obtain ⟨rfl, -⟩ := returns_pure.mp hpure
      refine (backed_fingerprintReader ?_).congr (returns_fpLedAnswers hm hdirect)
      cases hfeature : unwrapOr enabled false with
      | true => exact .inl rfl
      | false =>
          rw [hfeature, if_neg Bool.false_ne_true] at hled
          exact .inr ((returns_fpLedAnswers hm hdirect).mpr
            ((returns_fpLedAnswers hm hled).mp rfl))
  | false =>
      obtain ⟨rfl, -⟩ := returns_pure.mp hrest
      cases hfeature : unwrapOr enabled false with
      | true =>
          rw [hfeature, if_pos rfl] at hled
          exact absurd (returns_pure.mp hled).1 nofun
      | false =>
          rw [hfeature, if_neg Bool.false_ne_true] at hled
          exact (backed_default _).congr
            (iff_of_false id fun hanswers => nomatch (returns_fpLedAnswers hm hled).mpr hanswers)

end Modules

theorem hidDeviceList_notMem_slotRequests (n : ℕ) :
    HostRequest.hidDeviceList ∉ slotRequests n := by
  simp [slotRequests, portRequests]

/-- The inventory lists the fingerprint reader exactly when its flag is set or its LED
answers, the keyboard exactly when its flag is set, and the touchpad exactly when its
flag is set or the HID bus lists one. What was found without its flag counts as direct.
A Framework 16 lists neither keyboard nor touchpad here. -/
theorem featureFlags_backModules {m : Machine} (hm : m.StableFeatures)
    {handle handle' : FrameworkEcHandle} {w₁ w₁' w₂ w₂' : World}
    {flags : FrameworkEcFeatureFlagsResult} {inventory : FrameworkEcModuleInventoryResult}
    (hflags : Returns (frameworkEcGetFeatureFlags (some handle)) m w₁ flags w₁')
    (hinventory : Returns (frameworkEcGetModuleInventory (some handle')) m w₂ inventory w₂') :
    Backed (flags.value.toNat.testBit FrameworkEcFeatureFlag.fingerprint.bit) m.FpLedAnswers
        .fingerprintReader inventory.value.fingerprintReader ∧
      (m.family ≠ some .framework16 →
        Backed (flags.value.toNat.testBit FrameworkEcFeatureFlag.keyboard.bit) False
            .internalKeyboard inventory.value.internalKeyboard ∧
          Backed (flags.value.toNat.testBit FrameworkEcFeatureFlag.touchpad.bit)
            (m.ListsTouchpad (w₂.asked .hidDeviceList)) .internalTouchpad
            inventory.value.internalTouchpad) ∧
      (m.family = some .framework16 →
        Backed false False .internalKeyboard inventory.value.internalKeyboard ∧
          Backed false False .internalTouchpad inventory.value.internalTouchpad) := by
  obtain ⟨built, hbuilt, rfl⟩ := returns_frameworkEcGetModuleInventory hinventory
  obtain ⟨internals, w₅, bay, hinternals, -, rfl⟩ := returns_buildModuleInventory.mp hbuilt
  obtain ⟨deck, w₆, hdeck, hrest⟩ := returns_bind.mp hinternals
  obtain ⟨devices, w₇, hdevices, hrest⟩ := returns_bind.mp hrest
  obtain ⟨touchpads, w₈, htouchpads, hrest⟩ := returns_bind.mp hrest
  obtain ⟨reader, w₉, hreader, hrest⟩ := returns_bind.mp hrest
  obtain ⟨touchscreen, _, -, hrest⟩ := returns_bind.mp hrest
  obtain ⟨webcam, _, -, hpure⟩ := returns_bind.mp hrest
  obtain ⟨rfl, -⟩ := returns_pure.mp hpure
  have hbit : ∀ feature ∈ polledFeatures,
      flags.value.toNat.testBit feature.2.bit = m.hasFeature feature.1 :=
    fun _ => testBit_of_getFeatureFlags hm hflags
  have hkeyboard := hbit (.keyboard, .keyboard) (by decide)
  have htouchpad := hbit (.touchpad, .touchpad) (by decide)
  have hfingerprint := hbit (.fingerprint, .fingerprint) (by decide)
  refine ⟨?_, fun hfamily => ?_, fun hfamily => ?_⟩
  · rw [hfingerprint]
    exact returns_detectFingerprintReader hm hreader
  · have hrow : ¬ inputTopRowCount m.family > 0 := by
      rw [inputTopRowCount, if_neg hfamily]
      decide
    rw [detectDeckOrKeyboard, if_neg hrow] at hdeck
    rw [detectTouchpad, if_neg hfamily] at htouchpads
    obtain ⟨keyboard, _, hkeyboard', hpure⟩ := returns_bind.mp hdeck
    obtain ⟨rfl, rfl⟩ := returns_pure.mp hpure
    obtain ⟨touchpad, _, htouchpad', hpure⟩ := returns_bind.mp htouchpads
    obtain ⟨rfl, -⟩ := returns_pure.mp hpure
    -- The bus is enumerated for the touchpad first.
    have hasked : w₆.asked .hidDeviceList = w₂.asked .hidDeviceList :=
      (asked_detectInternalKeyboard hkeyboard').trans
        (World.asked_recordAll_of_notMem w₂ (hidDeviceList_notMem_slotRequests _))
    rw [hkeyboard, htouchpad, ← hasked]
    exact ⟨returns_detectInternalKeyboard hm hkeyboard',
      (returns_detectInternalTouchpad hm htouchpad').congr
        (returns_detectTouchpadsLocal hdevices)⟩
  · have hrow : inputTopRowCount m.family > 0 := by
      rw [inputTopRowCount, if_pos hfamily]
      decide
    rw [detectDeckOrKeyboard, if_pos hrow] at hdeck
    rw [detectTouchpad, if_pos hfamily] at htouchpads
    obtain ⟨_, _, -, hpure⟩ := returns_bind.mp hdeck
    obtain ⟨rfl, -⟩ := returns_pure.mp hpure
    obtain ⟨rfl, -⟩ := returns_pure.mp htouchpads
    exact ⟨backed_default _, backed_default _⟩

/-- A controller with a keyboard and a fingerprint reader, whose touchpad is on the HID
bus only. -/
def hidTouchpadMachine : Machine :=
  fingerprintMachine.answering .hidDeviceList (some
    [⟨0x046D, 0xC52B, 0x0001⟩, ⟨0x093A, 0x0274, 0xFF00⟩])

/-- The reader and the keyboard are listed for their flags, and the touchpad directly. -/
theorem featureFlags_backModules_fingerprint :
    ∃ flags w₁ inventory w₂,
      Returns (frameworkEcGetFeatureFlags (some ⟨.crosEc⟩)) hidTouchpadMachine .fresh flags w₁ ∧
      Returns (frameworkEcGetModuleInventory (some ⟨.crosEc⟩)) hidTouchpadMachine .fresh
        inventory w₂ ∧
      inventory.value.fingerprintReader.present = 1 ∧
      inventory.value.internalKeyboard.present = 1 ∧
      inventory.value.internalKeyboard.confidence = .derivedStrong ∧
      inventory.value.internalTouchpad.present = 1 ∧
      inventory.value.internalTouchpad.confidence = .direct := by
  have hm : hidTouchpadMachine.StableFeatures := ⟨fun _ _ => rfl, fun _ _ => rfl⟩
  obtain ⟨flags, w₁, hflags, hvalue⟩ : ∃ flags w₁, Returns
      (frameworkEcGetFeatureFlags (some ⟨.crosEc⟩)) hidTouchpadMachine .fresh flags w₁ ∧
        flags.value = 9 := ⟨_, _, rfl, by decide⟩
  obtain ⟨inventory, w₂, hinventory⟩ : Completes
      (frameworkEcGetModuleInventory (some ⟨.crosEc⟩)) hidTouchpadMachine .fresh := ⟨_, _, rfl⟩
  obtain ⟨hreader, hfixed, -⟩ := featureFlags_backModules hm hflags hinventory
  obtain ⟨hkeyboard, htouchpad⟩ := hfixed nofun
  have hset : ∀ k ∈ [FrameworkEcFeatureFlag.keyboard.bit, FrameworkEcFeatureFlag.fingerprint.bit],
      flags.value.toNat.testBit k = true := by
    rw [hvalue]
    decide
  have hlisted : hidTouchpadMachine.ListsTouchpad (World.fresh.asked .hidDeviceList) :=
    ⟨_, rfl, ⟨0x093A, 0x0274, 0xFF00⟩, by decide, rfl, by decide, rfl⟩
  exact ⟨flags, w₁, inventory, w₂, hflags, hinventory,
    (hreader.listed (.inl (hset _ (by decide)))).1,
    (hkeyboard.listed (.inl (hset _ (by decide)))).1,
    hkeyboard.derived.mpr ⟨hset _ (by decide), id⟩,
    (htouchpad.listed (.inr hlisted)).1, htouchpad.direct.mpr hlisted⟩

end FrameworkFfi
