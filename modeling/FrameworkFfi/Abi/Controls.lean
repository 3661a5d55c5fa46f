import Mathlib.Logic.Basic

/-!
# Controls, sensors and peripherals
-/

namespace FrameworkFfi

inductive FrameworkFingerprintLedLevel where
  | unknown
  | high
  | medium
  | low
  | ultraLow
  | custom
  | auto
  deriving DecidableEq

inductive FrameworkTabletModeOverride where
  | default
  | forceTablet
  | forceClamshell
  deriving DecidableEq

/-- `mode as u8`. -/
def FrameworkTabletModeOverride.toUInt8 : FrameworkTabletModeOverride → UInt8
  | .default => 0
  | .forceTablet => 1
  | .forceClamshell => 2

inductive FrameworkDeckStateMode where
  | readOnly
  | required
  | forceOn
  | forceOff
  deriving DecidableEq

inductive FrameworkBoardIdType where
  | mainboard
  | powerButtonBoard
  | touchpad
  | audioBoard
  | dGpu0
  | dGpu1
  deriving DecidableEq

/-- `board_id_type as u8`. -/
def FrameworkBoardIdType.toUInt8 : FrameworkBoardIdType → UInt8
  | .mainboard => 0
  | .powerButtonBoard => 1
  | .touchpad => 2
  | .audioBoard => 3
  | .dGpu0 => 4
  | .dGpu1 => 5

inductive FrameworkSensorCategory where
  | motion
  | environmental
  | other
  | unknown
  deriving DecidableEq

inductive FrameworkSensorType where
  | accel
  | gyro
  | mag
  | prox
  | light
  | activity
  | baro
  | sync
  | lightRgb
  | unknown
  deriving DecidableEq

inductive FrameworkSensorLocation where
  | base
  | lid
  | camera
  | unknown
  deriving DecidableEq

inductive FrameworkSensorChip where
  | kxcj9
  | lsm6ds0
  | bmi160
  | si1141
  | si1142
  | si1143
  | kx022
  | l3gd20h
  | bma255
  | bmp280
  | opt3001
  | bh1730
  | gpio
  | lis2dh
  | lsm6dsm
  | lis2de
  | lis2mdl
  | lsm6ds3
  | lsm6dso
  | lng2dm
  | tcs3400
  | lis2dw12
  | lis2dwl
  | lis2ds
  | bmi260
  | icm426xx
  | icm42607
  | bma422
  | bmi323
  | bmi220
  | cm32183
  | veml3328
  | unknown
  deriving DecidableEq

structure FrameworkSensorDescriptor where
  category : FrameworkSensorCategory
  sensorType : FrameworkSensorType
  location : FrameworkSensorLocation
  chip : FrameworkSensorChip
  deriving DecidableEq

inductive FrameworkClickForce where
  | low
  | medium
  | high
  deriving DecidableEq

end FrameworkFfi
