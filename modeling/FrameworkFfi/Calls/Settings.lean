import FrameworkFfi.Calls.HandedBack
import FrameworkFfi.Calls.Refusals
import FrameworkFfi.Thermal.Thresholds

/-!
# Settings that are read back

The controller keeps the settings it has accepted in registers of its own, with levels as
upstream numbers them and thresholds in Kelvin. A caller sees them as the fields of the
records that the getters return. A call that succeeds changes the one as the other, so
what a getter reads after a run is what the calls of the run have set last. The keyboard
backlight is left out: its call succeeds whether the controller took the setting or not.
-/

namespace FrameworkFfi

open Effect

/-! ### Registers and settings -/

/-- What the fingerprint LED was set to. A percentage has no level of its own. -/
inductive LedSetting (Level : Type) where
  | level (level : Level)
  | percentage (percentage : UInt8)

namespace LedSetting

variable {α β : Type}

def map (f : α → β) : LedSetting α → LedSetting β
  | .level l => .level (f l)
  | .percentage p => .percentage p

/-- A raw level and what is told of the level are those of the setting. -/
def Agrees (setting : LedSetting α) (rawLevel : UInt8) (tells : α → Prop) : Prop :=
  match setting with
  | .level l => tells l
  | .percentage p => rawLevel = p

theorem Agrees.map {setting : LedSetting α} {rawLevel : UInt8} {tells : α → Prop}
    {tells' : β → Prop} {f : α → β} (h : setting.Agrees rawLevel tells)
    (htells : ∀ level, tells level → tells' (f level)) :
    (setting.map f).Agrees rawLevel tells' := by
  cases setting with
  | level l => exact htells l h
  | percentage p => exact h

end LedSetting

/-- What the controller keeps of the settings that it has accepted. -/
structure Registers where
  fpLed : LedSetting FpLedBrightnessLevel
  chargeLimit : UInt8 × UInt8
  ecHibDelay : UInt32
  gpio : String → Bool
  thermalThreshold : UInt32 → EcThermalConfig

/-- The registers after a command. The five thresholds are written by `write`. -/
def Registers.store (write : EcThermalConfig → FixedArray 5 Int32 → EcThermalConfig)
    (r : Registers) : HostRequest → Registers
  | .setFpLedLevel level => { r with fpLed := .level level }
  | .setFpLedPercentage percentage => { r with fpLed := .percentage percentage }
  | .setChargeLimit min max => { r with chargeLimit := (min, max) }
  | .setEcHibDelay seconds => { r with ecHibDelay := seconds }
  | .setGpio name value => { r with gpio := Function.update r.gpio name value }
  | .setThermalThresholds sensor warn high halt fanOff fanMax =>
      { r with
        thermalThreshold := Function.update r.thermalThreshold sensor
          (write (r.thermalThreshold sensor) ![warn, high, halt, fanOff, fanMax]) }
  | _ => r

/-- A threshold in degrees Celsius, unless it is disabled. -/
abbrev Threshold := Option Int32

/-- The settings as a caller sees them. -/
structure Settings where
  fingerprintLed : LedSetting FrameworkFingerprintLedLevel
  chargeLimits : ChargeLimits
  hibernateDelay : UInt32
  gpio : String → Bool
  thresholds : UInt32 → FrameworkThermalThresholdFlag → Threshold

/-- The documented convention for one value: a negative one keeps the threshold and zero
disables it. -/
def Threshold.set (threshold : Threshold) (value : Int32) : Threshold :=
  if value < 0 then threshold else if value = 0 then none else some value

/-- The release points cannot be set. -/
def setThresholds (thresholds : FrameworkThermalThresholdFlag → Threshold)
    (warn high halt fanOff fanMax : Int32) : FrameworkThermalThresholdFlag → Threshold
  | .warn => (thresholds .warn).set warn
  | .high => (thresholds .high).set high
  | .halt => (thresholds .halt).set halt
  | .warnRelease => thresholds .warnRelease
  | .highRelease => thresholds .highRelease
  | .haltRelease => thresholds .haltRelease
  | .fanOff => (thresholds .fanOff).set fanOff
  | .fanMax => (thresholds .fanMax).set fanMax

/-- The settings after a call that succeeds. -/
def Settings.obey (s : Settings) : Operation → Settings
  | .controls (.ecSetFingerprintLed _ level) => { s with fingerprintLed := .level level }
  | .controls (.ecSetFingerprintLedPercentage _ percentage) =>
      { s with fingerprintLed := .percentage percentage }
  | .controls (.ecSetChargeLimits _ minPercent maxPercent) =>
      { s with chargeLimits := ⟨minPercent, maxPercent⟩ }
  | .controls (.ecSetHibernateDelay _ seconds) => { s with hibernateDelay := seconds }
  | .controls (.ecSetGpio _ name nameLength value) =>
      match borrowUtf8 name nameLength with
      | .ok name => { s with gpio := Function.update s.gpio name value }
      | .error _ => s
  | .thermal (.ecSetThermalThresholds _ sensorIndex warnCelsius highCelsius haltCelsius
      fanOffCelsius fanMaxCelsius) =>
      { s with
        thresholds := Function.update s.thresholds sensorIndex
          (setThresholds (s.thresholds sensorIndex) warnCelsius highCelsius haltCelsius
            fanOffCelsius fanMaxCelsius) }
  | _ => s

/-- A call that fails sets nothing. -/
def Settings.after (s : Settings) (call : Operation × Outcome) : Settings :=
  if call.2.succeeded then s.obey call.1 else s

section Store

variable {write : EcThermalConfig → FixedArray 5 Int32 → EcThermalConfig}

end Store

/-! ### Runs -/

section Runs

variable {m : Machine} {w w' : World} {operation : Operation} {o : Outcome}

variable {write : EcThermalConfig → FixedArray 5 Int32 → EcThermalConfig} {start : Registers}

end Runs

/-! ### What the getters read -/

section Getters

variable {α β : Type} {m : Machine} {w w' : World}

end Getters

end FrameworkFfi
