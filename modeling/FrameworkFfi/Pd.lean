import FrameworkFfi.Host.Machine

/-!
# PD port state

`queryPdPortState` reads the Type-C link of one port. A failed query reads as a
port with nothing attached, so the query itself never fails.
-/

namespace FrameworkFfi

open Effect

/-- `default_pd_port_state`. -/
def defaultPdPortState : FrameworkEcPdPortState :=
  { cState := .nothing
    powerRole := .unknown
    dataRole := .unknown
    ccPolarity := .unknown
    voltageMv := 0
    currentMa := 0
    hasPdContract := 0
    vconnActive := 0
    eprActive := 0
    eprSupport := 0
    activePort := 0
    altModeFlags := 0 }

/-- `c_state`. -/
def cState (v : UInt8) : FrameworkPdTypeCState :=
  if v = 0 then .nothing
  else if v = 1 then .sink
  else if v = 2 then .source
  else if v = 3 then .debug
  else if v = 4 then .audio
  else if v = 5 then .poweredAccessory
  else if v = 6 then .unsupported
  else .invalid

/-- `power_role`. -/
def powerRole (v : UInt8) : FrameworkPdPowerRole :=
  if v = 0 then .sink
  else if v = 1 then .source
  else .unknown

/-- `data_role`. -/
def dataRole (v : UInt8) : FrameworkPdDataRole :=
  if v = 0 then .ufp
  else if v = 1 then .dfp
  else if v = 2 then .disconnected
  else .unknown

/-- `cc_polarity`. -/
def ccPolarity (v : UInt8) : FrameworkPdCcPolarity :=
  if v = 0 then .cc1
  else if v = 1 then .cc2
  else if v = 2 then .cc1Debug
  else if v = 3 then .cc2Debug
  else .unknown

/-- What `query_pd_port_state` makes of the controller's answer. -/
def pdPortStateOfReply (reply : EcResult EcResponseGetPdPortState) :
    FrameworkEcPdPortState :=
  match reply with
  | .error _ => defaultPdPortState
  | .ok response =>
      { cState := cState response.cState
        powerRole := powerRole response.powerRole
        dataRole := dataRole response.dataRole
        ccPolarity := ccPolarity response.ccPolarity
        voltageMv := response.voltage
        currentMa := response.current
        hasPdContract := response.pdState
        vconnActive := response.vconn
        eprActive := response.eprActive
        eprSupport := response.eprSupport
        activePort := response.activePort
        altModeFlags := response.pdAltModeStatus }

/-- `query_pd_port_state`. -/
def queryPdPortState (port : UInt8) : Ffi FrameworkEcPdPortState := do
  let response ← ask (.getPdPortState port)
  pure (pdPortStateOfReply response)

/-- The state of `port` the machine would report now. -/
def Machine.pdPortState (m : Machine) (w : World) (port : UInt8) : FrameworkEcPdPortState :=
  pdPortStateOfReply (m.answer (.getPdPortState port) (w.asked (.getPdPortState port)))

theorem returns_queryPdPortState {port : UInt8} {m : Machine} {w w' : World}
    {pd : FrameworkEcPdPortState} :
    Returns (queryPdPortState port) m w pd w' ↔
      pd = m.pdPortState w port ∧ w' = w.record (.getPdPortState port) := by
  unfold queryPdPortState
  rw [(returns_ask_self).bind_iff, returns_pure]
  rfl

/-! ### Charging -/

/-- What a port's charger offers. -/
structure PdPowerInfo where
  role : UInt8
  chargingType : UInt8
  dualrole : Bool
  voltageMaxMv : UInt16
  voltageNowMv : UInt16
  currentMaxMa : UInt16
  currentLimMa : UInt16
  maxPowerUw : UInt32

/-- The number `query_pd_power_info` gives a role. -/
def usbPowerRoleByte : UsbPowerRoles → UInt8
  | .disconnected => 0
  | .source => 1
  | .sink => 2
  | .sinkNotCharging => 3

/-- The number `query_pd_power_info` gives a charging type. -/
def usbChargingTypeByte : UsbChargingType → UInt8
  | .none => 0
  | .pd => 1
  | .typeC => 2
  | .proprietary => 3
  | .bc12Dcp => 4
  | .bc12Cdp => 5
  | .bc12Sdp => 6
  | .other => 7
  | .vBus => 8
  | .unknown => 9

def pdPowerInfoOf (info : UsbPdPowerInfo) : PdPowerInfo :=
  { role := usbPowerRoleByte info.role
    chargingType := usbChargingTypeByte info.chargingType
    dualrole := info.dualrole
    voltageMaxMv := info.meas.voltageMax
    voltageNowMv := info.meas.voltageNow
    currentMaxMa := info.meas.currentMax
    currentLimMa := info.meas.currentLim
    maxPowerUw := info.maxPower }

/-- `port.saturating_add(1)`. -/
def saturatingSucc (port : UInt8) : UInt8 := if port = 255 then 255 else port + 1

/-- The last entry of the sweep, `infos.pop()`. -/
def lastPdInfo (port : UInt8) (infos : List (EcResult UsbPdPowerInfo)) :
    EcResult UsbPdPowerInfo :=
  infos.getLast?.getD (.error (.deviceError s!"No PD port {port}"))

/-- `query_pd_power_info`. -/
def queryPdPowerInfo (port : UInt8) : Ffi (EcResult PdPowerInfo) := do
  let infos ← ask (.getPdInfo (saturatingSucc port))
  pure ((lastPdInfo port infos).map pdPowerInfoOf)

end FrameworkFfi
