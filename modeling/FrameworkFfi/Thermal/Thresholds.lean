import FrameworkFfi.Library.FlagMask
import FrameworkFfi.Thermal.RoundTrip

/-!
# What a threshold record says of its words

Each of the eight thresholds has a word in Kelvin, a bit in the mask and a field
in degrees Celsius. The bit is right for every word. The field is the word less
273 as long as the word is one of the first half of its range. Beyond that the
cast to `i32` makes it negative, and the first 273 of these words overflow.
-/

namespace FrameworkFfi

open Effect

namespace FrameworkThermalThresholdFlag

def all : List FrameworkThermalThresholdFlag :=
  [.warn, .high, .halt, .warnRelease, .highRelease, .haltRelease, .fanOff, .fanMax]

def bit : FrameworkThermalThresholdFlag → ℕ
  | .warn => 0
  | .high => 1
  | .halt => 2
  | .warnRelease => 3
  | .highRelease => 4
  | .haltRelease => 5
  | .fanOff => 6
  | .fanMax => 7

theorem mem_all (flag : FrameworkThermalThresholdFlag) : flag ∈ all := by
  cases flag <;> decide

theorem toNat_toUInt32 (flag : FrameworkThermalThresholdFlag) :
    flag.toUInt32.toNat = 2 ^ flag.bit := by
  cases flag <;> rfl

end FrameworkThermalThresholdFlag

open FrameworkThermalThresholdFlag

def EcThermalConfig.word (cfg : EcThermalConfig) : FrameworkThermalThresholdFlag → UInt32
  | .warn => cfg.tempHost 0
  | .high => cfg.tempHost 1
  | .halt => cfg.tempHost 2
  | .warnRelease => cfg.tempHostRelease 0
  | .highRelease => cfg.tempHostRelease 1
  | .haltRelease => cfg.tempHostRelease 2
  | .fanOff => cfg.tempFanOff
  | .fanMax => cfg.tempFanMax

def FrameworkThermalThresholds.celsius (thresholds : FrameworkThermalThresholds) :
    FrameworkThermalThresholdFlag → Int32
  | .warn => thresholds.warnCelsius
  | .high => thresholds.highCelsius
  | .halt => thresholds.haltCelsius
  | .warnRelease => thresholds.warnReleaseCelsius
  | .highRelease => thresholds.highReleaseCelsius
  | .haltRelease => thresholds.haltReleaseCelsius
  | .fanOff => thresholds.fanOffCelsius
  | .fanMax => thresholds.fanMaxCelsius

/-- The bits of the mask are those of the words that are not zero. -/
def MarksEnabled (cfg : EcThermalConfig) (thresholds : FrameworkThermalThresholds) : Prop :=
  ∀ k, thresholds.enabledMask.toNat.testBit k = true ↔ ∃ flag, flag.bit = k ∧ cfg.word flag ≠ 0

/-- The record has the words of a configuration, in degrees Celsius. -/
structure DecodesWords (cfg : EcThermalConfig) (thresholds : FrameworkThermalThresholds) :
    Prop where
  celsius : ∀ flag, (thresholds.celsius flag).toInt = (cfg.word flag).toNat - 273
  mask : MarksEnabled cfg thresholds

def Machine.withOverflowChecks (m : Machine) (overflowChecks : Bool) : Machine :=
  { m with overflowChecks }

/-! ### One word -/

section Word

variable {kelvin : UInt32}

/-- The overflow of a word is the one of its difference. -/
theorem thresholdFits_iff : thresholdFits kelvin = true ↔
    kelvin.toNat < 2 ^ 31 ∨ 2 ^ 31 + 273 ≤ kelvin.toNat := by
  rw [thresholdFits, decide_eq_true_iff, toInt_toInt32]
  split_ifs <;> omega

/-- A difference that is an `i32` is the value of the field. -/
theorem toInt_readValue (hfits : thresholdFits kelvin = true) :
    (readValue kelvin).toInt = kelvin.toInt32.toInt - 273 := by
  have hlow : -2 ^ 31 ≤ kelvin.toInt32.toInt - 273 := of_decide_eq_true hfits
  have hhigh := kelvin.toInt32.toInt_lt
  have hoffset : kelvinOffset.toInt = 273 := rfl
  rw [readValue, Int32.toInt_sub, hoffset]
  exact Int.bmod_eq_of_le (by omega) (by omega)

theorem exact_readValue_iff :
    thresholdFits kelvin = true ∧ (readValue kelvin).toInt = kelvin.toNat - 273 ↔
      kelvin.toNat < 2 ^ 31 := by
  constructor
  · rintro ⟨hfits, hexact⟩
    rw [toInt_readValue hfits, toInt_toInt32] at hexact
    by_contra hlarge
    rw [if_neg hlarge] at hexact
    omega
  · intro hsmall
    have hfits : thresholdFits kelvin = true := thresholdFits_iff.mpr (.inl hsmall)
    rw [toInt_readValue hfits, toInt_toInt32, if_pos hsmall]
    exact ⟨hfits, rfl⟩

/-- No two words read alike, whatever overflows. -/
theorem readValue_injective : Function.Injective readValue := by
  intro kelvin kelvin' h
  have hword : kelvin - 273 = kelvin' - 273 := congrArg Int32.toUInt32 h
  rw [← UInt32.sub_add_cancel kelvin 273, hword, UInt32.sub_add_cancel]

end Word

/-! ### The record -/

section Record

variable {cfg cfg' : EcThermalConfig}

theorem celsius_thresholdsRecord (flag : FrameworkThermalThresholdFlag) :
    (thresholdsRecord cfg).celsius flag = readValue (cfg.word flag) := by
  cases flag <;> rfl

theorem mem_words_iff {word : UInt32} : word ∈ cfg.words ↔ ∃ flag, cfg.word flag = word := by
  have hwords : cfg.words = all.map cfg.word := rfl
  rw [hwords, List.mem_map]
  exact exists_congr fun flag => and_iff_right (mem_all flag)

theorem EcThermalConfig.ext_word (h : ∀ flag, cfg.word flag = cfg'.word flag) : cfg = cfg' := by
  apply EcThermalConfig.ext
  · funext i
    fin_cases i
    · exact h .warn
    · exact h .high
    · exact h .halt
  · funext i
    fin_cases i
    · exact h .warnRelease
    · exact h .highRelease
    · exact h .haltRelease
  · exact h .fanOff
  · exact h .fanMax

theorem toNat_thresholdMark (flag : FrameworkThermalThresholdFlag) :
    (thresholdMark flag (cfg.word flag)).toNat =
      FlagMask.mark bit (fun flag => cfg.word flag ≠ 0) flag := by
  unfold thresholdMark FlagMask.mark
  by_cases hzero : cfg.word flag = 0
  · simp [hzero]
  · simp [hzero, toNat_toUInt32]

theorem toNat_enabledMask :
    (enabledMask cfg).toNat = FlagMask.mask bit (fun flag => cfg.word flag ≠ 0) all := by
  have hchain : enabledMask cfg = all.foldl
      (fun marked flag => marked ||| thresholdMark flag (cfg.word flag)) 0 := by
    rw [all, List.foldl_cons, UInt32.zero_or]
    rfl
  have hfold : ∀ (flags : List FrameworkThermalThresholdFlag) (marked : UInt32),
      (flags.foldl (fun marked flag => marked ||| thresholdMark flag (cfg.word flag))
        marked).toNat = flags.foldl (fun marked flag =>
          marked ||| FlagMask.mark bit (fun flag => cfg.word flag ≠ 0) flag) marked.toNat := by
    intro flags
    induction flags with
    | nil => intro marked; rfl
    | cons flag flags ih =>
        intro marked
        rw [List.foldl_cons, List.foldl_cons, ih, UInt32.toNat_or, toNat_thresholdMark]
  rw [hchain, hfold]
  rfl

theorem marksEnabled_thresholdsRecord : MarksEnabled cfg (thresholdsRecord cfg) := by
  intro k
  have hmask : (thresholdsRecord cfg).enabledMask = enabledMask cfg := rfl
  rw [hmask, toNat_enabledMask, FlagMask.testBit_mask]
  constructor
  · rintro ⟨flag, -, hset, hbit⟩
    exact ⟨flag, hbit, of_decide_eq_true hset⟩
  · rintro ⟨flag, hbit, hne⟩
    exact ⟨flag, mem_all flag, decide_eq_true hne, hbit⟩

/-- A record determines the configuration it was made from. -/
theorem thresholdsRecord_injective : Function.Injective thresholdsRecord := by
  intro cfg cfg' h
  apply EcThermalConfig.ext_word
  intro flag
  apply readValue_injective
  rw [← celsius_thresholdsRecord, ← celsius_thresholdsRecord, h]

theorem decodesWords_thresholdsRecord_iff
    (hfits : ∀ word ∈ cfg.words, thresholdFits word = true) :
    DecodesWords cfg (thresholdsRecord cfg) ↔ ∀ flag, (cfg.word flag).toNat < 2 ^ 31 := by
  constructor
  · intro h flag
    have hexact := h.celsius flag
    rw [celsius_thresholdsRecord] at hexact
    exact exact_readValue_iff.mp ⟨hfits _ (mem_words_iff.mpr ⟨flag, rfl⟩), hexact⟩
  · intro h
    refine ⟨fun flag => ?_, marksEnabled_thresholdsRecord⟩
    rw [celsius_thresholdsRecord]
    exact (exact_readValue_iff.mpr (h flag)).2

end Record

/-- With and without overflow checks the thresholds are read without overflow and
exactly if and only if all words are below `2 ^ 31`. The mask is right for all
words, and whatever is read determines the words. -/
theorem getThermalThresholds_exact_iff {m : Machine} {w : World} {sensor : UInt32}
    {cfg : EcThermalConfig}
    (hcfg : m.answer (.getThermalThreshold sensor) (w.asked (.getThermalThreshold sensor)) =
      .ok cfg) :
    ((∀ overflowChecks, ∃ thresholds w',
        Returns (getThermalThresholds sensor) (m.withOverflowChecks overflowChecks) w
          (.ok thresholds) w' ∧ DecodesWords cfg thresholds) ↔
      ∀ flag, (cfg.word flag).toNat < 2 ^ 31) ∧
    ∀ thresholds w', Returns (getThermalThresholds sensor) m w (.ok thresholds) w' →
      MarksEnabled cfg thresholds ∧
        ∀ m' w₁ cfg' w₂,
          Machine.answer m' (.getThermalThreshold sensor)
              (w₁.asked (.getThermalThreshold sensor)) = .ok cfg' →
            Returns (getThermalThresholds sensor) m' w₁ (.ok thresholds) w₂ → cfg' = cfg := by
  have hbuild : ∀ overflowChecks, (m.withOverflowChecks overflowChecks).answer
      (.getThermalThreshold sensor) (w.asked (.getThermalThreshold sensor)) = .ok cfg :=
    fun _ => hcfg
  refine ⟨⟨fun h => ?_, fun h overflowChecks => ?_⟩, fun thresholds w' hread => ?_⟩
  · -- a build with checks shows every overflow
    obtain ⟨thresholds, w', hread, hdecodes⟩ := h true
    obtain ⟨hfits, hthresholds, -⟩ := (returns_getThermalThresholds (hbuild true)).mp hread
    obtain rfl := Except.ok.inj hthresholds
    exact (decodesWords_thresholdsRecord_iff (hfits rfl)).mp hdecodes
  · have hfits : ∀ word ∈ cfg.words, thresholdFits word = true := by
      intro word hword
      obtain ⟨flag, rfl⟩ := mem_words_iff.mp hword
      exact (exact_readValue_iff.mpr (h flag)).1
    exact ⟨thresholdsRecord cfg, _,
      (returns_getThermalThresholds (hbuild overflowChecks)).mpr ⟨fun _ => hfits, rfl, rfl⟩,
      (decodesWords_thresholdsRecord_iff hfits).mpr h⟩
  · obtain ⟨-, hthresholds, -⟩ := (returns_getThermalThresholds hcfg).mp hread
    obtain rfl := Except.ok.inj hthresholds
    refine ⟨marksEnabled_thresholdsRecord, fun m' w₁ cfg' w₂ hcfg' hread' => ?_⟩
    obtain ⟨-, hsame, -⟩ := (returns_getThermalThresholds hcfg').mp hread'
    exact thresholdsRecord_injective (Except.ok.inj hsame).symm

/-- A configuration that was never written, with all bits set in its first word. -/
def unwrittenWarn : EcThermalConfig :=
  { tempHost := ![0xFFFFFFFF, 353, 363]
    tempHostRelease := fun _ => 0
    tempFanOff := 313
    tempFanMax := 343 }

/-- A machine that stores `unwrittenWarn` for its first sensor. -/
def unwrittenMachine : Machine :=
  Machine.silent.answering (.getThermalThreshold 0) (.ok unwrittenWarn)

theorem getThermalThresholds_exact_iff_unwritten :
    (∀ overflowChecks, ∃ thresholds w',
        Returns (getThermalThresholds 0) (unwrittenMachine.withOverflowChecks overflowChecks)
          .fresh (.ok thresholds) w' ∧ DecodesWords unwrittenWarn thresholds) ↔
      ∀ flag, (unwrittenWarn.word flag).toNat < 2 ^ 31 :=
  (getThermalThresholds_exact_iff (Machine.answer_answering_self _ _ _ _)).1

/-- The warning threshold of `0xFFFFFFFF` K reads as -274 °C. -/
theorem unwrittenWarn_misread :
    ∃ thresholds w',
      Returns (getThermalThresholds 0) unwrittenMachine .fresh (.ok thresholds) w' ∧
        thresholds.warnCelsius = -274 ∧ ¬ DecodesWords unwrittenWarn thresholds := by
  refine ⟨_, _, rfl, rfl, fun h => ?_⟩
  have hexact : (-274 : ℤ) = 4294967295 - 273 := h.celsius .warn
  omega

end FrameworkFfi
