import FrameworkFfi.Abi.Thermal
import FrameworkFfi.Diagnostics
import FrameworkFfi.Host.Text
import Mathlib.Algebra.Group.Int.Defs

/-!
# Temperatures, fans and thresholds

The memory map gives eight temperature bytes and four fan words; the thermal
configuration of a sensor is eight words in Kelvin, where zero means disabled.
-/

namespace FrameworkFfi

open Effect

/-! ### The snapshot -/

inductive ThermalSensorStatus where
  | ok
  | notPresent
  | error
  | notPowered
  | notCalibrated
  deriving DecidableEq

structure ThermalSensorReading where
  status : ThermalSensorStatus
  celsius : Int16
  deriving DecidableEq

/-- `From<ThermalSensorStatus> for FrameworkTemperatureState`. -/
def FrameworkTemperatureState.ofStatus : ThermalSensorStatus → FrameworkTemperatureState
  | .ok => .ok
  | .notPresent => .notPresent
  | .error => .error
  | .notPowered => .notPowered
  | .notCalibrated => .notCalibrated

/-- `parse_temp_sensor`. The subtraction stays far inside `i16`. -/
def parseTempSensor (byte : UInt8) : ThermalSensorReading :=
  if byte = 0xFF then ⟨.notPresent, 0⟩
  else if byte = 0xFE then ⟨.error, 0⟩
  else if byte = 0xFD then ⟨.notPowered, 0⟩
  else if byte = 0xFC then ⟨.notCalibrated, 0⟩
  else ⟨.ok, Int16.ofNat byte.toNat - 73⟩

/-- One fan of the snapshot. -/
structure FanSlot where
  rpm : UInt16
  present : Bool
  stalled : Bool
  deriving DecidableEq

structure ThermalSnapshot where
  temperatures : FixedArray 8 ThermalSensorReading
  fans : FixedArray 4 FanSlot
  fanCount : UInt8

/-- `EC_MEMMAP_TEMP_SENSOR`. -/
def ecMemmapTempSensor : UInt16 := 0x00

/-- `EC_MEMMAP_FAN`. -/
def ecMemmapFan : UInt16 := 0x10

/-- `u16::from_le_bytes`. -/
def u16FromLeBytes (low high : UInt8) : UInt16 := low.toUInt16 ||| high.toUInt16 <<< 8

def parseFan (fan : UInt16) : FanSlot :=
  if fan = 0xFFFF then ⟨0, false, false⟩
  else if fan = 0xFFFE then ⟨0, true, true⟩
  else ⟨fan, true, false⟩

/-- One round of the loop over the fans. -/
def readFan (fans : List UInt8) (state : FixedArray 4 FanSlot × UInt8) (index : Fin 4) :
    Ffi (FixedArray 4 FanSlot × UInt8) := do
  let low ← byteAt fans (index * 2)
  let high ← byteAt fans (1 + index * 2)
  let fan := parseFan (u16FromLeBytes low high)
  pure (Function.update state.1 index fan,
    if fan.present then state.2 + 1 else state.2)

def readFans (fans : List UInt8) : Ffi (FixedArray 4 FanSlot × UInt8) :=
  (List.finRange 4).foldlM (readFan fans) (fun _ => ⟨0, false, false⟩, 0)

def parseTemperatures (temps : List UInt8) : FixedArray 8 ThermalSensorReading := fun i =>
  match temps[i.val]? with
  | some byte => parseTempSensor byte
  | none => ⟨.notPresent, 0⟩

/-- The `?` operator on an `Option`. -/
def andThenSome {α β : Type} (first : Ffi (Option α)) (rest : α → Ffi (Option β)) :
    Ffi (Option β) := do
  match ← first with
  | some a => rest a
  | none => pure none

/-- `thermal_snapshot`. -/
def thermalSnapshot : Ffi (Option ThermalSnapshot) :=
  andThenSome (ask (.readMemory ecMemmapTempSensor 0x0F)) fun temps =>
    andThenSome (ask (.readMemory ecMemmapFan 0x08)) fun fans => do
      let (fans, fanCount) ← readFans fans
      pure (some { temperatures := parseTemperatures temps, fans, fanCount })

/-- `fan_features_state`. -/
def fanFeaturesState (supportsFanControl supportsThermalReporting : Bool) :
    FrameworkFanFeaturesState :=
  match supportsFanControl, supportsThermalReporting with
  | false, false => .none
  | true, false => .fanControl
  | false, true => .thermalReporting
  | true, true => .all

/-- `power_source_state`. -/
def powerSourceState (acPresent batteryPresent : Bool) : FrameworkPowerSourceState :=
  match acPresent, batteryPresent with
  | false, false => .none
  | true, false => .acOnly
  | false, true => .batteryOnly
  | true, true => .acAndBattery

/-- `battery_state`. -/
def batteryState (levelCritical discharging charging : Bool) : FrameworkBatteryState :=
  if levelCritical then .critical
  else match discharging, charging with
    | false, false => .idle
    | false, true => .charging
    | true, false => .discharging
    | true, true => .chargingAndDischarging

/-- `default_temperature_reading`. -/
def defaultTemperatureReading : FrameworkTemperatureReading := ⟨.notPresent, 0, .unknown⟩

/-- `default_fan_reading`. -/
def defaultFanReading : FrameworkFanReading := ⟨.notPresent, 0, .unknown⟩

/-- The labels of the Intel boards before Core Ultra. Only the later two have a
sixth sensor. -/
def intelSensorName (platform : Platform) (index : ℕ) : FrameworkSensorName :=
  match index with
  | 0 => .f75303Local
  | 1 => .f75303Cpu
  | 2 => .f75303Ddr
  | 3 => .battery
  | 4 => .peci
  | 5 => if platform = .intelGen12 ∨ platform = .intelGen13 then .f57397VccGt else .generic
  | _ => .generic

/-- The labels of the AMD laptops. A Framework 16 has four more sensors. -/
def amdSensorName (family : Option PlatformFamily) (index : ℕ) : FrameworkSensorName :=
  match index with
  | 0 => .f75303Local
  | 1 => .f75303Cpu
  | 2 => .f75303Ddr
  | 3 => .apu
  | 4 => if family = some .framework16 then .dgpuVr else .generic
  | 5 => if family = some .framework16 then .dgpuVram else .generic
  | 6 => if family = some .framework16 then .dgpuAmb else .generic
  | 7 => if family = some .framework16 then .dgpuTemp else .generic
  | _ => .generic

/-- `sensor_name`. -/
def sensorName (index : ℕ) (platform : Option Platform) (family : Option PlatformFamily) :
    FrameworkSensorName :=
  match platform with
  | none => .unknown
  | some platform =>
    match platform with
    | .intelGen11 | .intelGen12 | .intelGen13 => intelSensorName platform index
    | .intelCoreUltra1 =>
      match index with
      | 0 => .f75303Local
      | 1 => .f75303Cpu
      | 2 => .battery
      | 3 => .f75303Ddr
      | 4 => .peci
      | _ => .generic
    | .framework12IntelGen13 =>
      match index with
      | 0 => .f75303Cpu
      | 1 => .f75303Skin
      | 2 => .f75303Local
      | 3 => .battery
      | 4 => .peci
      | 5 => .chargerIc
      | _ => .generic
    | .framework13Amd7080 | .framework13AmdAi300 | .framework16Amd7080 | .framework16AmdAi300 =>
        amdSensorName family index
    | .frameworkDesktopAmdAiMax300 =>
      match index with
      | 0 => .f75303Apu
      | 1 => .f75303Ddr
      | 2 => .f75303Amb
      | 3 => .apu
      | 4 => .virtual
      | _ => .generic
    | .intelCoreUltra3 | .genericFramework | .unknownSystem => .generic

/-- `fan_name`. -/
def fanName (fanIndex : ℕ) (family : Option PlatformFamily) : FrameworkFanName :=
  match fanIndex, family with
  | _, none => .unknown
  | 0, some .framework12 => .apuFan
  | 0, some .framework13 => .apuFan
  | 0, some .framework16 => .leftFan
  | 1, some .framework16 => .rightFan
  | 0, some .frameworkDesktop => .apuFan
  | 1, some .frameworkDesktop => .frontFan
  | 2, some .frameworkDesktop => .thirdFan
  | _, some _ => .generic

/-- `fan_state`. -/
def fanState (present stalled : Bool) : FrameworkFanState :=
  if !present then .notPresent
  else if stalled then .stalled
  else .ok

/-- `default_battery_snapshot`. -/
def defaultBatterySnapshot : FrameworkBatterySnapshot :=
  { batteryState := .notPresent
    presentVoltage := 0
    presentRate := 0
    remainingCapacity := 0
    designCapacity := 0
    designVoltage := 0
    lastFullChargeCapacity := 0
    cycleCount := 0
    chargePercentage := 0
    manufacturer := .default
    modelNumber := .default
    serialNumber := .default
    batteryType := .default }

/-- `default_power_snapshot`. -/
def defaultPowerSnapshot : FrameworkPowerSnapshot :=
  { powerSourceState := .none
    batteryCount := 0
    battery0 := defaultBatterySnapshot }

/-- `default_fan_capabilities`. -/
def defaultFanCapabilities : FrameworkFanCapabilities := ⟨0, .none⟩

/-- `default_thermal_snapshot`. -/
def defaultThermalSnapshot : FrameworkThermalSnapshot :=
  { fanCount := 0
    temperature := fun _ => defaultTemperatureReading
    fan := fun _ => defaultFanReading }

/-- `build_fan_capabilities`. -/
def buildFanCapabilities : Ffi (StatusResult FrameworkFanCapabilities) :=
  andThen (featureEnabled .pwmFan) fun fanControl =>
    andThen (featureEnabled .thermal) fun thermal => do
      let snapshot ← thermalSnapshot
      let fanCount := (snapshot.map ThermalSnapshot.fanCount).getD 0
      pure (.ok { fanCount, features := fanFeaturesState fanControl thermal })

def ThermalSnapshot.toFfi (snapshot : ThermalSnapshot) (platform : Option Platform)
    (family : Option PlatformFamily) : FrameworkThermalSnapshot :=
  { fanCount := snapshot.fanCount
    temperature := fun i =>
      { state := .ofStatus (snapshot.temperatures i).status
        celsius := (snapshot.temperatures i).celsius
        name := sensorName i platform family }
    fan := fun i =>
      { state := fanState (snapshot.fans i).present (snapshot.fans i).stalled
        rpm := (snapshot.fans i).rpm
        name := fanName i family } }

/-- `build_thermal_snapshot`. -/
def buildThermalSnapshot : Ffi (Option FrameworkThermalSnapshot) :=
  andThenSome thermalSnapshot fun snapshot =>
    view fun m => some (snapshot.toFfi m.platform m.family)

/-! ### The thresholds -/

/-- `KELVIN_OFFSET`. -/
def kelvinOffset : Int32 := 273

/-- The difference of `threshold_celsius` is an `i32`. -/
def thresholdFits (kelvin : UInt32) : Bool := -2 ^ 31 ≤ kelvin.toInt32.toInt - 273

/-- `threshold_celsius`. -/
def thresholdCelsius (kelvin : UInt32) : Ffi Int32 := do
  checkArithmetic (thresholdFits kelvin)
  pure (kelvin.toInt32 - kelvinOffset)

/-- The bit `mark` sets for a word. -/
def thresholdMark (flag : FrameworkThermalThresholdFlag) (kelvin : UInt32) : UInt32 :=
  if kelvin ≠ 0 then flag.toUInt32 else 0

def enabledMask (cfg : EcThermalConfig) : UInt32 :=
  thresholdMark .warn (cfg.tempHost 0) ||| thresholdMark .high (cfg.tempHost 1) |||
    thresholdMark .halt (cfg.tempHost 2) |||
    thresholdMark .warnRelease (cfg.tempHostRelease 0) |||
    thresholdMark .highRelease (cfg.tempHostRelease 1) |||
    thresholdMark .haltRelease (cfg.tempHostRelease 2) |||
    thresholdMark .fanOff cfg.tempFanOff ||| thresholdMark .fanMax cfg.tempFanMax

def thresholdsOfConfig (cfg : EcThermalConfig) : Ffi FrameworkThermalThresholds := do
  let warnCelsius ← thresholdCelsius (cfg.tempHost 0)
  let highCelsius ← thresholdCelsius (cfg.tempHost 1)
  let haltCelsius ← thresholdCelsius (cfg.tempHost 2)
  let warnReleaseCelsius ← thresholdCelsius (cfg.tempHostRelease 0)
  let highReleaseCelsius ← thresholdCelsius (cfg.tempHostRelease 1)
  let haltReleaseCelsius ← thresholdCelsius (cfg.tempHostRelease 2)
  let fanOffCelsius ← thresholdCelsius cfg.tempFanOff
  let fanMaxCelsius ← thresholdCelsius cfg.tempFanMax
  pure
    { enabledMask := enabledMask cfg
      warnCelsius, highCelsius, haltCelsius, warnReleaseCelsius, highReleaseCelsius
      haltReleaseCelsius, fanOffCelsius, fanMaxCelsius }

/-- `get_thermal_thresholds`. -/
def getThermalThresholds (sensorIndex : UInt32) : Ffi (EcResult FrameworkThermalThresholds) :=
  andThen (ask (.getThermalThreshold sensorIndex)) fun cfg => do
    let thresholds ← thresholdsOfConfig cfg
    pure (.ok thresholds)

/-- `set_thermal_thresholds`. -/
def setThermalThresholds (sensorIndex : UInt32) (values : FixedArray 5 Int32) :
    Ffi (EcResult Unit) :=
  ask (.setThermalThresholds sensorIndex (values 0) (values 1) (values 2) (values 3)
    (values 4))

/-! ### The remaining queries -/

structure ApThrottle where
  soft : Bool
  hard : Bool

/-- `get_ap_throttle`. -/
def getApThrottle : Ffi (EcResult ApThrottle) :=
  andThen (ask .getApThrottleStatus) fun res =>
    pure (.ok { soft := res.softApThrottle = 1, hard := res.hardApThrottle = 1 })

/-- `get_cutoff_status`. -/
def getCutoffStatus : Ffi (Option Bool) := ask .getCutoffStatus

/-- `get_fan_count`. -/
def getFanCount : Ffi (EcResult ℕ) := ask .getFanNum

/-- `standalone_state`. -/
def standaloneState : Ffi (Bool × Bool) := do
  let isStandalone ← ask .isStandalone
  let standaloneMode ← ask .standaloneMode
  pure (isStandalone, standaloneMode)

structure TempSensorInfo where
  name : OwnedString
  sensorType : UInt8

def sensorNameOfReply (sensorName : List UInt8) : EcResult OwnedString :=
  match fromUtf8 sensorName with
  | .ok text => .ok (.exact (trimEndNuls text))
  | .error error => .error (.deviceError s!"Failed to decode sensor name: {error.text}")

/-- `get_temp_sensor_info`. -/
def getTempSensorInfo (index : UInt8) : Ffi (EcResult TempSensorInfo) :=
  andThen (ask (.tempSensorGetInfo index)) fun res =>
    pure ((sensorNameOfReply res.sensorName).map fun name =>
      { name, sensorType := res.sensorType })

/-- The ASCII letters and digits of a name, in lower case. -/
def normalizedSensorName (name : String) : String :=
  String.ofList ((name.toList.filter Char.isAlphanum).map Char.toLower)

/-- `map_sensor_name`. -/
def mapSensorName (name : String) : FrameworkSensorName :=
  match normalizedSensorName name with
  | "f75303local" => .f75303Local
  | "f75303cpu" => .f75303Cpu
  | "f75303ddr" => .f75303Ddr
  | "f75303skin" => .f75303Skin
  | "f75303apu" => .f75303Apu
  | "f75303amb" => .f75303Amb
  | "f57397vccgt" => .f57397VccGt
  | "battery" => .battery
  | "peci" => .peci
  | "chargeric" => .chargerIc
  | "apu" => .apu
  | "dgpuvr" => .dgpuVr
  | "dgpuvram" => .dgpuVram
  | "dgpuamb" => .dgpuAmb
  | "dgputemp" | "dgpu" => .dgpuTemp
  | "virtual" => .virtual
  | _ => .generic

end FrameworkFfi
