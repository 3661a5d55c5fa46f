import FrameworkFfi.Diagnostics
import FrameworkFfi.Exports.Shape
import FrameworkFfi.Host.Pointer
import FrameworkFfi.SmartBattery

/-!
# Exported functions: diagnostics and the smart battery
-/

namespace FrameworkFfi

open Effect

/-- `FrameworkEcSwitchesResult` without its status. -/
structure SwitchFlags where
  raw : UInt8
  lidOpen : UInt8
  powerButtonPressed : UInt8
  writeProtectDisabled : UInt8
  dedicatedRecovery : UInt8

abbrev FrameworkEcSwitchesResult := FrameworkResult SwitchFlags

/-- `framework_ec_get_switches`. -/
def frameworkEcGetSwitches (handle : HandlePtr) : Ffi FrameworkEcSwitchesResult :=
  exported handle ⟨0, 0, 0, 0, 0⟩ fun _ => someReply getSwitches fun switches =>
    pure
      { raw := switches.raw
        lidOpen := byteOfBool switches.lidOpen
        powerButtonPressed := byteOfBool switches.powerButtonPressed
        writeProtectDisabled := byteOfBool switches.writeProtectDisabled
        dedicatedRecovery := byteOfBool switches.dedicatedRecovery }

/-- `FrameworkEcHelloResult` without its status. -/
structure HelloEcho where
  outData : UInt32
  isExpected : UInt8

abbrev FrameworkEcHelloResult := FrameworkResult HelloEcho

/-- `framework_ec_hello`. -/
def frameworkEcHello (handle : HandlePtr) (inData : UInt32) : Ffi FrameworkEcHelloResult :=
  exported handle ⟨0, 0⟩ fun _ => ecReply (ask (.hello inData)) fun outData =>
    pure ⟨outData, byteOfBool (outData = inData + helloOffset)⟩

/-- `framework_ec_check_hello`. -/
def frameworkEcCheckHello (handle : HandlePtr) : Ffi FrameworkEcHelloResult :=
  frameworkEcHello handle helloDefaultInData

/-- `FrameworkEcProtocolInfoResult` without its status. -/
structure ProtocolInfo where
  protocolVersions : UInt32
  maxRequestPacketSize : UInt16
  maxResponsePacketSize : UInt16
  flags : UInt32

abbrev FrameworkEcProtocolInfoResult := FrameworkResult ProtocolInfo

/-- `framework_ec_get_protocol_info`. -/
def frameworkEcGetProtocolInfo (handle : HandlePtr) : Ffi FrameworkEcProtocolInfoResult :=
  exported handle ⟨0, 0, 0, 0⟩ fun _ => ecReply getProtocolInfo fun info =>
    pure
      { protocolVersions := info.protocolVersions
        maxRequestPacketSize := info.maxRequestPacketSize
        maxResponsePacketSize := info.maxResponsePacketSize
        flags := info.flags }

/-- `FrameworkEcSysinfoResult` without its status. -/
structure Sysinfo where
  currentImage : FrameworkEcCurrentImage
  resetFlags : UInt32
  flags : UInt32

abbrev FrameworkEcSysinfoResult := FrameworkResult Sysinfo

def currentImageOfWord (currentImage : UInt32) : FrameworkEcCurrentImage :=
  if currentImage = 1 then .ro
  else if currentImage = 2 then .rw
  else .unknown

/-- `framework_ec_get_sysinfo`. -/
def frameworkEcGetSysinfo (handle : HandlePtr) : Ffi FrameworkEcSysinfoResult :=
  exported handle ⟨.unknown, 0, 0⟩ fun _ => ecReply getSysinfo fun info =>
    pure ⟨currentImageOfWord info.currentImage, info.resetFlags, info.flags⟩

/-- `FrameworkEcPanicInfoResult` without its status. -/
structure PanicRecord where
  data : FrameworkByteBuffer
  arch : UInt8
  structVersion : UInt8
  flags : UInt8
  isValid : UInt8
  structSize : UInt32
  magic : UInt32

abbrev FrameworkEcPanicInfoResult := FrameworkResult PanicRecord

def panicRecord (info : PanicInfo) : Ffi PanicRecord := do
  let data ← FrameworkByteBuffer.fromVec info.data
  pure
    { data
      arch := info.arch
      structVersion := info.structVersion
      flags := info.flags
      isValid := byteOfBool info.isValid
      structSize := info.structSize
      magic := info.magic }

/-- `framework_ec_get_panic_info`. -/
def frameworkEcGetPanicInfo (handle : HandlePtr) : Ffi FrameworkEcPanicInfoResult :=
  exported handle ⟨.default, 0, 0, 0, 0, 0, 0⟩ fun _ => ecReply getPanicInfo panicRecord

/-- `FrameworkEcPort80HistoryResult` without its status. -/
structure Port80Record where
  writes : UInt32
  historySize : UInt32
  codes : FrameworkByteBuffer

abbrev FrameworkEcPort80HistoryResult := FrameworkResult Port80Record

def port80Record (history : Port80History) : Ffi Port80Record := do
  let codes ← FrameworkByteBuffer.fromVec history.codes
  pure { writes := history.writes, historySize := history.historySize, codes }

/-- `framework_ec_get_port80_history`. -/
def frameworkEcGetPort80History (handle : HandlePtr) : Ffi FrameworkEcPort80HistoryResult :=
  exported handle ⟨0, 0, .default⟩ fun _ => ecReply port80Read port80Record

abbrev FrameworkEcSmartBatteryResult := FrameworkResult FrameworkSmartBatteryData

/-- `framework_ec_get_smart_battery_data`. -/
def frameworkEcGetSmartBatteryData (handle : HandlePtr) (useUnsealKey : UInt8)
    (unsealKey : UInt32) : Ffi FrameworkEcSmartBatteryResult :=
  let key := if useUnsealKey ≠ 0 then some unsealKey else none
  exported handle .defaultFfi fun _ =>
    ecReply (ask (.collectSmartBattery key)) FrameworkSmartBatteryData.intoFfi

/-- The fields that are freed, in the order of the loop. -/
def freedBatteryFields : List SmartBatteryField :=
  [.deviceName, .manufacturerName, .deviceChemistry, .stateOfHealth, .firmwareVersion,
    .lifetime1, .lifetime2, .lifetime3, .lifetime4, .lifetime5]

/-- One round of `framework_smart_battery_data_free`. -/
def freeBatteryField (data : FrameworkSmartBatteryData) (field : SmartBatteryField) :
    Ffi FrameworkSmartBatteryData := do
  let owned := data.get field
  let data := data.set field .default
  owned.destroy
  pure data

/-- `framework_smart_battery_data_free`. It returns what it leaves of the record. -/
def frameworkSmartBatteryDataFree (data : Option FrameworkSmartBatteryData) :
    Ffi (Option FrameworkSmartBatteryData) :=
  match data with
  | none => pure none
  | some data => do
      let data ← freedBatteryFields.foldlM freeBatteryField data
      pure (some data)

/-- The result holds `authenticated`. -/
abbrev FrameworkEcBatteryAuthResult := FrameworkResult UInt8

def requireAuthKey (authKey : BytePtr) : StatusResult (List UInt8) :=
  match authKey with
  | none => .error (.withCode .nullPointer 0)
  | some memory => .ok (sliceFromRawParts memory 16)

/-- `framework_ec_authenticate_battery`. -/
def frameworkEcAuthenticateBattery (handle : HandlePtr) (authKey : BytePtr) :
    Ffi FrameworkEcBatteryAuthResult :=
  exported handle 0 fun _ => andThen (pure (requireAuthKey authKey)) fun key =>
    ecReply (ask (.authenticateBattery key)) fun authenticated =>
      pure (byteOfBool authenticated)

end FrameworkFfi
