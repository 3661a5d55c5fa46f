import FrameworkFfi.Abi.Platform
import FrameworkFfi.Upstream.Ec

/-!
# Conversions between upstream and the ABI
-/

namespace FrameworkFfi

/-- `From<Platform> for FrameworkPlatform`. -/
def FrameworkPlatform.ofPlatform : Platform → FrameworkPlatform
  | .framework12IntelGen13 => .framework12IntelGen13
  | .intelGen11 => .intelGen11
  | .intelGen12 => .intelGen12
  | .intelGen13 => .intelGen13
  | .intelCoreUltra1 => .intelCoreUltra1
  | .intelCoreUltra3 => .intelCoreUltra3
  | .framework13Amd7080 => .framework13Amd7080
  | .framework13AmdAi300 => .framework13AmdAi300
  | .framework16Amd7080 => .framework16Amd7080
  | .framework16AmdAi300 => .framework16AmdAi300
  | .frameworkDesktopAmdAiMax300 => .frameworkDesktopAmdAiMax300
  | .genericFramework => .genericFramework
  | .unknownSystem => .unknownSystem

/-- `From<PlatformFamily> for FrameworkPlatformFamily`. -/
def FrameworkPlatformFamily.ofFamily : PlatformFamily → FrameworkPlatformFamily
  | .framework12 => .framework12
  | .framework13 => .framework13
  | .framework16 => .framework16
  | .frameworkDesktop => .frameworkDesktop

/-- `From<EcCurrentImage> for FrameworkEcCurrentImage`. -/
def FrameworkEcCurrentImage.ofImage : EcCurrentImage → FrameworkEcCurrentImage
  | .unknown => .unknown
  | .ro => .ro
  | .rw => .rw

/-- `TryFrom<FrameworkEcDriver> for CrosEcDriverType`. -/
def CrosEcDriverType.tryFrom : FrameworkEcDriver → Option CrosEcDriverType
  | .unknown => none
  | .portio => some .portio
  | .crosEc => some .crosEc
  | .windows => some .windows

end FrameworkFfi
