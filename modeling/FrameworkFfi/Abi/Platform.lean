import Mathlib.Logic.Basic

/-!
# Drivers, platforms and firmware images
-/

namespace FrameworkFfi

inductive FrameworkEcDriver where
  | unknown
  | portio
  | crosEc
  | windows
  deriving DecidableEq

inductive FrameworkPlatform where
  | framework12IntelGen13
  | intelGen11
  | intelGen12
  | intelGen13
  | intelCoreUltra1
  | framework13Amd7080
  | framework13AmdAi300
  | framework16Amd7080
  | framework16AmdAi300
  | frameworkDesktopAmdAiMax300
  | genericFramework
  | unknownSystem
  | intelCoreUltra3
  deriving DecidableEq

inductive FrameworkPlatformFamily where
  | unknown
  | framework12
  | framework13
  | framework16
  | frameworkDesktop
  deriving DecidableEq

inductive FrameworkEcCurrentImage where
  | unknown
  | ro
  | rw
  deriving DecidableEq

end FrameworkFfi
