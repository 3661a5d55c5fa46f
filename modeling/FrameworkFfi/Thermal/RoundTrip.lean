import FrameworkFfi.Exports.Thermal
import FrameworkFfi.Host.Silent
import Mathlib.Data.Fintype.Basic
import Mathlib.Tactic.FinCases

/-!
# Writing back the thresholds that were read

A read offsets the Kelvin words by 273 and a write adds 273 again, but a write
reads the sign of a value as an instruction: a negative value keeps the stored
word and zero disables it. So a threshold of exactly 273 K, which reads as zero
degrees, is disabled by writing it back, and every other word is left as it was.
-/

namespace FrameworkFfi

open Effect

/-! ### The convention of the write -/

/-- The value a word reads as, in a build without overflow checks. -/
def readValue (kelvin : UInt32) : Int32 := kelvin.toInt32 - kelvinOffset

section Write

variable {write : EcThermalConfig → FixedArray 5 Int32 → EcThermalConfig}
  {cfg : EcThermalConfig} {values : FixedArray 5 Int32}

end Write

/-! ### The read -/

section Read

variable {m : Machine} {w w' : World}

theorem returns_thresholdCelsius {kelvin : UInt32} {value : Int32} :
    Returns (thresholdCelsius kelvin) m w value w' ↔
      (m.overflowChecks = true → thresholdFits kelvin = true) ∧ value = readValue kelvin ∧
        w' = w := by
  unfold thresholdCelsius
  constructor
  · intro h
    obtain ⟨⟨⟩, w₁, hcheck, hpure⟩ := returns_bind.mp h
    obtain ⟨rfl, hfits⟩ := returns_checkArithmetic.mp hcheck
    obtain ⟨rfl, rfl⟩ := returns_pure.mp hpure
    exact ⟨hfits, rfl, rfl⟩
  · rintro ⟨hfits, rfl, rfl⟩
    exact returns_bind.mpr
      ⟨(), w', returns_checkArithmetic.mpr ⟨rfl, hfits⟩, returns_pure_self⟩

theorem returns_thresholdCelsius_bind {α : Type} {kelvin : UInt32} {rest : Int32 → Ffi α}
    {a : α} :
    Returns (thresholdCelsius kelvin >>= rest) m w a w' ↔
      (m.overflowChecks = true → thresholdFits kelvin = true) ∧
        Returns (rest (readValue kelvin)) m w a w' := by
  constructor
  · intro h
    obtain ⟨value, w₁, hvalue, hrest⟩ := returns_bind.mp h
    obtain ⟨hfits, rfl, rfl⟩ := returns_thresholdCelsius.mp hvalue
    exact ⟨hfits, hrest⟩
  · rintro ⟨hfits, hrest⟩
    exact (returns_thresholdCelsius.mpr ⟨hfits, rfl, rfl⟩).bind_iff.mpr hrest

/-- The words of a configuration, in the order in which they are converted. -/
def EcThermalConfig.words (cfg : EcThermalConfig) : List UInt32 :=
  [cfg.tempHost 0, cfg.tempHost 1, cfg.tempHost 2, cfg.tempHostRelease 0,
    cfg.tempHostRelease 1, cfg.tempHostRelease 2, cfg.tempFanOff, cfg.tempFanMax]

def thresholdsRecord (cfg : EcThermalConfig) : FrameworkThermalThresholds :=
  { enabledMask := enabledMask cfg
    warnCelsius := readValue (cfg.tempHost 0)
    highCelsius := readValue (cfg.tempHost 1)
    haltCelsius := readValue (cfg.tempHost 2)
    warnReleaseCelsius := readValue (cfg.tempHostRelease 0)
    highReleaseCelsius := readValue (cfg.tempHostRelease 1)
    haltReleaseCelsius := readValue (cfg.tempHostRelease 2)
    fanOffCelsius := readValue cfg.tempFanOff
    fanMaxCelsius := readValue cfg.tempFanMax }

theorem returns_thresholdsOfConfig {cfg : EcThermalConfig}
    {thresholds : FrameworkThermalThresholds} :
    Returns (thresholdsOfConfig cfg) m w thresholds w' ↔
      (m.overflowChecks = true → ∀ word ∈ cfg.words, thresholdFits word = true) ∧
        thresholds = thresholdsRecord cfg ∧ w' = w := by
  unfold thresholdsOfConfig EcThermalConfig.words
  simp only [returns_thresholdCelsius_bind, returns_pure, List.forall_mem_cons,
    List.not_mem_nil, false_imp_iff, implies_true, and_true, imp_and, and_assoc]
  rfl

theorem returns_getThermalThresholds {sensor : UInt32} {cfg : EcThermalConfig}
    (hcfg : m.answer (.getThermalThreshold sensor) (w.asked (.getThermalThreshold sensor)) =
      .ok cfg) {result : EcResult FrameworkThermalThresholds} :
    Returns (getThermalThresholds sensor) m w result w' ↔
      (m.overflowChecks = true → ∀ word ∈ cfg.words, thresholdFits word = true) ∧
        result = .ok (thresholdsRecord cfg) ∧ w' = w.record (.getThermalThreshold sensor) := by
  unfold getThermalThresholds andThen
  rw [(returns_ask_self).bind_iff, hcfg]
  constructor
  · intro h
    obtain ⟨thresholds, w₁, hthresholds, hpure⟩ := returns_bind.mp h
    obtain ⟨hfits, rfl, rfl⟩ := returns_thresholdsOfConfig.mp hthresholds
    obtain ⟨rfl, rfl⟩ := returns_pure.mp hpure
    exact ⟨hfits, rfl, rfl⟩
  · rintro ⟨hfits, rfl, rfl⟩
    exact returns_bind.mpr ⟨_, _, returns_thresholdsOfConfig.mpr ⟨hfits, rfl, rfl⟩,
      returns_pure_self⟩

end Read

/-! ### The round trip -/

end FrameworkFfi
