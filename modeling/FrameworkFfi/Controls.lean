import FrameworkFfi.Abi.Controls
import FrameworkFfi.Diagnostics
import FrameworkFfi.Host.Text
import FrameworkFfi.Thermal

/-!
# Controls

Switches and settings of the controller, the motion sensors, the GPIOs and the
serial number of the graphics module, and the HID devices that take commands.
-/

namespace FrameworkFfi

open Effect

/-- `set_tablet_mode`. -/
def setTabletMode (mode : FrameworkTabletModeOverride) : Ffi (EcResult Unit) :=
  ask (.setTabletMode mode.toUInt8)

/-- `into_deck_state_mode`. -/
def intoDeckStateMode : FrameworkDeckStateMode → DeckStateMode
  | .readOnly => .readOnly
  | .required => .required
  | .forceOn => .forceOn
  | .forceOff => .forceOff

/-- `EC_MEMMAP_ACC_DATA`. -/
def ecMemmapAccData : UInt16 := 0x92

/-- `EC_MEMMAP_ALS`. -/
def ecMemmapAls : UInt16 := 0x80

/-- `LID_ANGLE_UNRELIABLE`. -/
def lidAngleUnreliable : UInt16 := 500

/-- `u16::from_le_bytes` on two bytes of a slice. -/
def u16At (data : List UInt8) (offset : ℕ) : Ffi UInt16 := do
  let low ← byteAt data offset
  let high ← byteAt data (offset + 1)
  pure (u16FromLeBytes low high)

/-- `i16::from_le_bytes` on two bytes of a slice. -/
def i16At (data : List UInt8) (offset : ℕ) : Ffi Int16 := do
  let raw ← u16At data offset
  pure raw.toInt16

/-- `FrameworkAccelDataResult` without its status. -/
structure AccelData where
  lidAngleDegrees : Int16
  baseX : Int16
  baseY : Int16
  baseZ : Int16
  lidX : Int16
  lidY : Int16
  lidZ : Int16

def lidAngleDegrees (raw : UInt16) : Int16 :=
  if raw = lidAngleUnreliable then -1 else raw.toInt16

def accelDataOfMemory (lidRaw baseRaw lidAccelRaw : List UInt8) : Ffi AccelData := do
  let lidAngleRaw ← u16At lidRaw 0
  let baseX ← i16At baseRaw 0
  let baseY ← i16At baseRaw 2
  let baseZ ← i16At baseRaw 4
  let lidX ← i16At lidAccelRaw 0
  let lidY ← i16At lidAccelRaw 2
  let lidZ ← i16At lidAccelRaw 4
  pure
    { lidAngleDegrees := lidAngleDegrees lidAngleRaw
      baseX, baseY, baseZ, lidX, lidY, lidZ }

/-- `get_accel_data`. -/
def getAccelData : Ffi (Option AccelData) :=
  andThenSome (ask (.readMemory ecMemmapAccData 2)) fun lidRaw =>
    andThenSome (ask (.readMemory (ecMemmapAccData + 2) 6)) fun baseRaw =>
      andThenSome (ask (.readMemory (ecMemmapAccData + 8) 6)) fun lidAccelRaw => do
        let data ← accelDataOfMemory lidRaw baseRaw lidAccelRaw
        pure (some data)

/-- `get_als`. -/
def getAls : Ffi (Option (UInt32 × UInt32)) :=
  andThenSome (ask (.readMemory ecMemmapAls 4)) fun als => do
    let lux0 ← u16At als 0
    let lux1 ← u16At als 2
    pure (some (lux0.toUInt32, lux1.toUInt32))

/-- `sensor_category`. -/
def sensorCategory : FrameworkSensorType → FrameworkSensorCategory
  | .accel | .gyro | .mag => .motion
  | .light | .lightRgb | .prox | .baro => .environmental
  | .activity | .sync => .other
  | .unknown => .unknown

/-- `sensor_type`. -/
def sensorType : MotionSenseType → FrameworkSensorType
  | .accel => .accel
  | .gyro => .gyro
  | .mag => .mag
  | .prox => .prox
  | .light => .light
  | .activity => .activity
  | .baro => .baro
  | .sync => .sync
  | .lightRgb => .lightRgb

/-- `sensor_location`. -/
def sensorLocation : MotionSenseLocation → FrameworkSensorLocation
  | .base => .base
  | .lid => .lid
  | .camera => .camera

/-- `sensor_chip`. -/
def sensorChip : MotionSenseChip → FrameworkSensorChip
  | .kxcj9 => .kxcj9
  | .lsm6ds0 => .lsm6ds0
  | .bmi160 => .bmi160
  | .si1141 => .si1141
  | .si1142 => .si1142
  | .si1143 => .si1143
  | .kx022 => .kx022
  | .l3gd20h => .l3gd20h
  | .bma255 => .bma255
  | .bmp280 => .bmp280
  | .opt3001 => .opt3001
  | .bh1730 => .bh1730
  | .gpio => .gpio
  | .lis2dh => .lis2dh
  | .lsm6dsm => .lsm6dsm
  | .lis2de => .lis2de
  | .lis2mdl => .lis2mdl
  | .lsm6ds3 => .lsm6ds3
  | .lsm6dso => .lsm6dso
  | .lng2dm => .lng2dm
  | .tcs3400 => .tcs3400
  | .lis2dw12 => .lis2dw12
  | .lis2dwl => .lis2dwl
  | .lis2ds => .lis2ds
  | .bmi260 => .bmi260
  | .icm426xx => .icm426xx
  | .icm42607 => .icm42607
  | .bma422 => .bma422
  | .bmi323 => .bmi323
  | .bmi220 => .bmi220
  | .cm32183 => .cm32183
  | .veml3328 => .veml3328

/-- `into_sensor_descriptor`. -/
def intoSensorDescriptor (info : MotionSenseInfo) : FrameworkSensorDescriptor :=
  let st := sensorType info.sensorType
  { category := sensorCategory st
    sensorType := st
    location := sensorLocation info.location
    chip := sensorChip info.chip }

structure GpioInfo where
  name : OwnedString
  value : Bool
  flags : UInt32

/-- `from_utf8(bytes).unwrap_or_default().trim_end_matches(char::from(0))`. -/
def textOrEmpty (bytes : List UInt8) : String :=
  match fromUtf8 bytes with
  | .ok text => trimEndNuls text
  | .error _ => trimEndNuls ""

/-- What `gpio_info_at` makes of a reply. -/
def gpioInfoOfReply (info : EcResponseGpioGetV1Info) : GpioInfo :=
  { name := .exact (textOrEmpty info.name)
    value := info.val = 1
    flags := info.flags }

/-- `gpio_info_at`. -/
def gpioInfoAt (index : UInt8) : Ffi (EcResult GpioInfo) := do
  let info ← ask (.gpioGetInfo index)
  pure (info.map gpioInfoOfReply)

/-- What `get_gpu_serial` makes of a reply. -/
def gpuSerialOfReply (response : EcResponseGetGpuSerial) : EcResult OwnedString :=
  if response.valid = 0 then .error (.deviceError "No valid GPU serial")
  else match fromUtf8 response.serial with
    | .ok text => .ok (.exact (trim (trimEndNuls text)))
    | .error error =>
        .error (.deviceError s!"GPU serial is not valid UTF-8: {error.text}")

/-- `get_gpu_serial`. It sends the command itself and does not call
`CrosEc::get_gpu_serial`. -/
def getGpuSerial : Ffi (EcResult OwnedString) := do
  let response ← ask (.getGpuSerial 0)
  pure (response.bind gpuSerialOfReply)

/-- `enable_touchscreen`. -/
def enableTouchscreen (enable : Bool) : Ffi Bool := do
  let answer ← ask (.enableTouch enable)
  pure answer.isSome

/-- `into_click_force`. -/
def intoClickForce : FrameworkClickForce → ClickForce
  | .low => .low
  | .medium => .medium
  | .high => .high

end FrameworkFfi
