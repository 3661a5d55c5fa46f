import FrameworkFfi.Abi.Result
import FrameworkFfi.Abi.Versions
import FrameworkFfi.Host.Ownership

/-!
# The smart battery

The data set of the battery as the ABI reports it. Ten of its fields are
buffers, which the caller gives back together.
-/

namespace FrameworkFfi

open Effect

/-- `decode_manufacture_date`: the year, the month and the day of a packed date. -/
def decodeManufactureDate (raw : UInt16) : UInt16 × UInt8 × UInt8 :=
  ((raw >>> 9) + 1980, ((raw >>> 5) &&& 0x0F).toUInt8, (raw &&& 0x1F).toUInt8)

/-- The buffer fields of the record. -/
inductive SmartBatteryField where
  | deviceName
  | manufacturerName
  | deviceChemistry
  | stateOfHealth
  | firmwareVersion
  | lifetime1
  | lifetime2
  | lifetime3
  | lifetime4
  | lifetime5
  deriving DecidableEq

namespace FrameworkSmartBatteryData

/-- `*buffer`, for a reference to a field. -/
def get (data : FrameworkSmartBatteryData) : SmartBatteryField → FrameworkByteBuffer
  | .deviceName => data.deviceName
  | .manufacturerName => data.manufacturerName
  | .deviceChemistry => data.deviceChemistry
  | .stateOfHealth => data.stateOfHealth
  | .firmwareVersion => data.firmwareVersion
  | .lifetime1 => data.lifetime1
  | .lifetime2 => data.lifetime2
  | .lifetime3 => data.lifetime3
  | .lifetime4 => data.lifetime4
  | .lifetime5 => data.lifetime5

/-- `*buffer = value`. -/
def set (data : FrameworkSmartBatteryData) (field : SmartBatteryField)
    (value : FrameworkByteBuffer) : FrameworkSmartBatteryData :=
  match field with
  | .deviceName => { data with deviceName := value }
  | .manufacturerName => { data with manufacturerName := value }
  | .deviceChemistry => { data with deviceChemistry := value }
  | .stateOfHealth => { data with stateOfHealth := value }
  | .firmwareVersion => { data with firmwareVersion := value }
  | .lifetime1 => { data with lifetime1 := value }
  | .lifetime2 => { data with lifetime2 := value }
  | .lifetime3 => { data with lifetime3 := value }
  | .lifetime4 => { data with lifetime4 := value }
  | .lifetime5 => { data with lifetime5 := value }

theorem get_set_of_ne {field other : SmartBatteryField} (h : other ≠ field)
    (data : FrameworkSmartBatteryData) (value : FrameworkByteBuffer) :
    (data.set field value).get other = data.get other := by
  cases field <;> cases other <;> first | rfl | exact absurd rfl h

/-- `default_ffi`. -/
def defaultFfi : FrameworkSmartBatteryData :=
  { mode := 0
    serialNumber := 0
    manufactureDateRaw := 0
    manufactureYear := 0
    manufactureMonth := 0
    manufactureDay := 0
    temperatureDecikelvin := 0
    voltageMv := 0
    cellVoltage1Mv := 0
    cellVoltage2Mv := 0
    cellVoltage3Mv := 0
    cellVoltage4Mv := 0
    cycleCount := 0
    currentMa := 0
    avgCurrentMa := 0
    relStateOfCharge := 0
    absStateOfCharge := 0
    remainingCapacity := 0
    fullChargeCapacity := 0
    chargingCurrentMa := 0
    chargingVoltageMv := 0
    batteryStatus := 0
    designCapacity := 0
    designVoltageMv := 0
    operationStatus := 0
    safetyAlert := 0
    safetyStatus := 0
    pfAlert := 0
    pfStatus := 0
    unsealed := 0
    deviceName := .default
    manufacturerName := .default
    deviceChemistry := .default
    stateOfHealth := .default
    firmwareVersion := .default
    lifetime1 := .default
    lifetime2 := .default
    lifetime3 := .default
    lifetime4 := .default
    lifetime5 := .default }

def buffers (data : FrameworkSmartBatteryData) : List FrameworkByteBuffer :=
  [data.deviceName, data.manufacturerName, data.deviceChemistry, data.stateOfHealth,
    data.firmwareVersion, data.lifetime1, data.lifetime2, data.lifetime3, data.lifetime4,
    data.lifetime5]

/-- `into_ffi`. -/
def intoFfi (data : BatteryData) : Ffi FrameworkSmartBatteryData := do
  let (manufactureYear, manufactureMonth, manufactureDay) :=
    decodeManufactureDate data.manufactureDate
  let unsealed := !data.stateOfHealth.bytes.isEmpty
  let deviceName ← FrameworkByteBuffer.fromVec data.deviceName.intoBytes
  let manufacturerName ← FrameworkByteBuffer.fromVec data.manufacturerName.intoBytes
  let deviceChemistry ← FrameworkByteBuffer.fromVec data.deviceChemistry.intoBytes
  let stateOfHealth ← FrameworkByteBuffer.fromVec data.stateOfHealth
  let firmwareVersion ← FrameworkByteBuffer.fromVec data.firmwareVersion
  let lifetime1 ← FrameworkByteBuffer.fromVec data.lifetime1
  let lifetime2 ← FrameworkByteBuffer.fromVec data.lifetime2
  let lifetime3 ← FrameworkByteBuffer.fromVec data.lifetime3
  let lifetime4 ← FrameworkByteBuffer.fromVec data.lifetime4
  let lifetime5 ← FrameworkByteBuffer.fromVec data.lifetime5
  pure
    { mode := data.mode
      serialNumber := data.serialNum
      manufactureDateRaw := data.manufactureDate
      manufactureYear, manufactureMonth, manufactureDay
      temperatureDecikelvin := data.temperature
      voltageMv := data.voltage
      cellVoltage1Mv := data.cellVoltage1
      cellVoltage2Mv := data.cellVoltage2
      cellVoltage3Mv := data.cellVoltage3
      cellVoltage4Mv := data.cellVoltage4
      cycleCount := data.cycleCount
      currentMa := data.current.toInt16
      avgCurrentMa := data.avgCurrent.toInt16
      relStateOfCharge := data.relStateOfCharge
      absStateOfCharge := data.absStateOfCharge
      remainingCapacity := data.remainingCapacity
      fullChargeCapacity := data.fullChargeCapacity
      chargingCurrentMa := data.chargingCurrent.toInt16
      chargingVoltageMv := data.chargingVoltage
      batteryStatus := data.batteryStatus
      designCapacity := data.designCapacity
      designVoltageMv := data.designVoltage
      operationStatus := data.operationStatus
      safetyAlert := data.safetyAlert
      safetyStatus := data.safetyStatus
      pfAlert := data.pfAlert
      pfStatus := data.pfStatus
      unsealed := byteOfBool unsealed
      deviceName, manufacturerName, deviceChemistry, stateOfHealth, firmwareVersion
      lifetime1, lifetime2, lifetime3, lifetime4, lifetime5 }

end FrameworkSmartBatteryData

end FrameworkFfi
