import FrameworkFfi.Exports.Controls
import FrameworkFfi.Host.Silent

/-!
# The charger of a port

The power info of a port is the last entry of a sweep over the ports up to it.
The length of the sweep is a `u8`, so it stops one short for the last port: the
entry that is taken there is that of the port before it. For every other port it
is the port's own.
-/

namespace FrameworkFfi

open Effect

/-! ### What a port reports -/

def FrameworkUsbPowerRole.ofRole : UsbPowerRoles → FrameworkUsbPowerRole
  | .disconnected => .disconnected
  | .source => .source
  | .sink => .sink
  | .sinkNotCharging => .sinkNotCharging

def FrameworkUsbChargingType.ofType : UsbChargingType → FrameworkUsbChargingType
  | .none => .none
  | .pd => .pd
  | .typeC => .typeC
  | .proprietary => .proprietary
  | .bc12Dcp => .bc12Dcp
  | .bc12Cdp => .bc12Cdp
  | .bc12Sdp => .bc12Sdp
  | .other => .other
  | .vBus => .vBus
  | .unknown => .unknown

/-- The fields of a port whose charger reports `info`. -/
def PortPowerInfo.ofInfo (port : UInt8) (info : UsbPdPowerInfo) : PortPowerInfo :=
  { port
    dualrole := byteOfBool info.dualrole
    role := .ofRole info.role
    chargingType := .ofType info.chargingType
    voltageMaxMv := info.meas.voltageMax
    voltageNowMv := info.meas.voltageNow
    currentMaxMa := info.meas.currentMax
    currentLimMa := info.meas.currentLim
    maxPowerUw := info.maxPower }

/-- Every sweep has one result for each of its ports, in order. -/
def Machine.SweepsPorts (m : Machine) (w : World) (ports : ℕ → EcResult UsbPdPowerInfo) : Prop :=
  ∀ n : UInt8, m.answer (.getPdInfo n) (w.asked (.getPdInfo n)) = (List.range n.toNat).map ports

def HasEntry (port : UInt8) : Prop := ∃ n : UInt8, port.toNat < n.toNat

/-- The result says of a port what the port itself reports. -/
structure ReportsOwnPort (ports : ℕ → EcResult UsbPdPowerInfo) (port : UInt8)
    (result : FrameworkEcPdPowerInfoResult) : Prop where
  success : result.status.code = .success → ∃ info, HasEntry port ∧
    ports port.toNat = .ok info ∧ result = ⟨.success, .ofInfo port info⟩
  failure_iff : result.status.code ≠ .success ↔
    ¬ HasEntry port ∨ ∃ error, ports port.toNat = .error error
  empty : result.status.code ≠ .success → result.value = emptyPowerInfo port

/-- The call has the same result on every machine on which the port reports `own`,
whatever its other ports report. -/
def IgnoresOtherPorts (m : Machine) (w : World) (handle : FrameworkEcHandle) (port : UInt8)
    (own : EcResult UsbPdPowerInfo) (result : FrameworkEcPdPowerInfoResult) : Prop :=
  ∀ m' ports' result' w', m'.upstream = m.upstream → Machine.SweepsPorts m' w ports' →
    ports' port.toNat = own →
      Returns (frameworkEcGetPdPowerInfo (some handle) port) m' w result' w' → result' = result

/-! ### The two tables -/

theorem usbPowerRole_usbPowerRoleByte (role : UsbPowerRoles) :
    usbPowerRole (usbPowerRoleByte role) = .ofRole role := by
  cases role <;> rfl

theorem usbChargingType_usbChargingTypeByte (chargingType : UsbChargingType) :
    usbChargingType (usbChargingTypeByte chargingType) = .ofType chargingType := by
  cases chargingType <;> rfl

/-- The two tables are inverse to each other, so nothing is lost between them. -/
theorem ofInfo_eq (port : UInt8) (info : UsbPdPowerInfo) :
    PortPowerInfo.ofInfo port info =
      { port
        dualrole := byteOfBool info.dualrole
        role := usbPowerRole (usbPowerRoleByte info.role)
        chargingType := usbChargingType (usbChargingTypeByte info.chargingType)
        voltageMaxMv := info.meas.voltageMax
        voltageNowMv := info.meas.voltageNow
        currentMaxMa := info.meas.currentMax
        currentLimMa := info.meas.currentLim
        maxPowerUw := info.maxPower } := by
  rw [usbPowerRole_usbPowerRoleByte, usbChargingType_usbChargingTypeByte]
  rfl

/-! ### The last entry of a sweep -/

section Sweep

variable {ports : ℕ → EcResult UsbPdPowerInfo} {port : UInt8}

theorem hasEntry_iff : HasEntry port ↔ port ≠ 255 := by
  have hlt := port.toNat_lt
  constructor
  · rintro ⟨n, hn⟩ rfl
    have hn' := n.toNat_lt
    have h255 : (255 : UInt8).toNat = 255 := rfl
    omega
  · intro hne
    have h255 : (255 : UInt8).toNat = 255 := rfl
    refine ⟨255, lt_of_le_of_ne (by omega) fun heq => hne ?_⟩
    exact UInt8.toNat_inj.mp heq

theorem toNat_saturatingSucc (hport : port ≠ 255) :
    (saturatingSucc port).toNat = port.toNat + 1 := by
  obtain ⟨n, hn⟩ := hasEntry_iff.mpr hport
  have hlt := n.toNat_lt
  rw [saturatingSucc, if_neg hport, UInt8.toNat_add]
  exact Nat.mod_eq_of_lt (by simpa using by omega)

/-- The port whose entry ends the sweep that is made for `port`. -/
def sweptPort (port : UInt8) : ℕ := (saturatingSucc port).toNat - 1

theorem sweptPort_of_ne (hport : port ≠ 255) : sweptPort port = port.toNat := by
  rw [sweptPort, toNat_saturatingSucc hport, Nat.add_sub_cancel]

theorem lastPdInfo_range (n : ℕ) :
    lastPdInfo port ((List.range (n + 1)).map ports) = ports n := by
  rw [lastPdInfo, List.range_succ, List.map_append, List.map_singleton, List.getLast?_concat,
    Option.getD_some]

/-- No sweep is empty, so its last entry is that of a port. -/
theorem lastPdInfo_sweep (ports : ℕ → EcResult UsbPdPowerInfo) (port : UInt8) :
    lastPdInfo port ((List.range (saturatingSucc port).toNat).map ports) =
      ports (sweptPort port) := by
  have hlength : (saturatingSucc port).toNat = sweptPort port + 1 := by
    by_cases hport : port = 255
    · rw [hport]
      rfl
    · rw [sweptPort_of_ne hport, toNat_saturatingSucc hport]
  rw [hlength]
  exact lastPdInfo_range _

end Sweep

/-! ### The call -/

/-- The result that is made of the entry of a port. -/
def reportEntry (port : UInt8) (entry : EcResult UsbPdPowerInfo) :
    Ffi FrameworkEcPdPowerInfoResult :=
  match entry with
  | .ok info => pure ⟨.success, .ofInfo port info⟩
  | .error error => do
      let status ← statusFromError error
      pure ⟨status, emptyPowerInfo port⟩

section Call

variable {m : Machine} {w w' : World} {ports : ℕ → EcResult UsbPdPowerInfo} {port : UInt8}
  {result : FrameworkEcPdPowerInfoResult}

theorem returns_frameworkEcGetPdPowerInfo (hports : m.SweepsPorts w ports)
    (handle : FrameworkEcHandle) :
    Returns (frameworkEcGetPdPowerInfo (some handle) port) m w result w' ↔
      Returns (reportEntry port (ports (sweptPort port))) m
        (w.record (.getPdInfo (saturatingSucc port))) result w' := by
  have hquery : Returns (queryPdPowerInfo port) m w
      ((ports (sweptPort port)).map pdPowerInfoOf)
      (w.record (.getPdInfo (saturatingSucc port))) := by
    rw [← lastPdInfo_sweep ports port]
    exact returns_converted (hports _)
  cases hentry : ports (sweptPort port) with
  | ok info =>
      rw [hentry] at hquery
      rw [frameworkEcGetPdPowerInfo, returns_exported_of_ok hquery, returns_pure_self.bind_iff,
        reportEntry, ofInfo_eq]
      rfl
  | error error =>
      rw [hentry] at hquery
      exact returns_exported_of_error hquery handle

theorem returns_reportEntry {entry : EcResult UsbPdPowerInfo}
    (h : Returns (reportEntry port entry) m w result w') :
    (∃ info, entry = .ok info ∧ result = ⟨.success, .ofInfo port info⟩) ∨
      ∃ error, entry = .error error ∧ result.status.code ≠ .success ∧
        result.value = emptyPowerInfo port := by
  cases entry with
  | ok info =>
      obtain ⟨rfl, -⟩ := returns_pure.mp h
      exact .inl ⟨info, rfl, rfl⟩
  | error error =>
      obtain ⟨status, w₁, hstatus, hpure⟩ := returns_bind.mp h
      obtain ⟨rfl, rfl⟩ := returns_pure.mp hpure
      exact .inr ⟨error, rfl, (returns_statusFromError hstatus).2.1, rfl⟩

theorem safe_reportEntry (entry : EcResult UsbPdPowerInfo) : Safe (reportEntry port entry) := by
  cases entry with
  | ok info => exact safe_pure _
  | error error => exact (safe_statusFromError error).bind fun status => safe_pure _

/-- The constants of two machines are the same. -/
def Machine.SameUpstream (m m' : Machine) (_w : World) : Prop := m'.upstream = m.upstream

theorem agrees_reportEntry (entry : EcResult UsbPdPowerInfo) :
    Agrees Machine.SameUpstream (reportEntry port entry) := by
  cases entry with
  | ok info => exact agrees_pure _
  | error error =>
      exact (agrees_statusFromError (fun _ _ _ h => h) (fun _ _ _ _ h _ => h) error).bind
        fun status => agrees_pure _

theorem completes_frameworkEcGetPdPowerInfo (hports : m.SweepsPorts w ports)
    (handle : FrameworkEcHandle) (port : UInt8) :
    Completes (frameworkEcGetPdPowerInfo (some handle) port) m w := by
  obtain ⟨result, w', hreport⟩ := (safe_reportEntry (ports (sweptPort port))).returns m
    (w.record (.getPdInfo (saturatingSucc port)))
  exact ⟨result, w', (returns_frameworkEcGetPdPowerInfo hports handle).mpr hreport⟩

end Call

/-! ### Every port but the last -/

section Ports

variable {m : Machine} {w w' : World} {ports : ℕ → EcResult UsbPdPowerInfo} {port : UInt8}
  {result : FrameworkEcPdPowerInfoResult} {handle : FrameworkEcHandle}

theorem reportsOwnPort (hports : m.SweepsPorts w ports) (hport : port ≠ 255)
    (h : Returns (frameworkEcGetPdPowerInfo (some handle) port) m w result w') :
    ReportsOwnPort ports port result := by
  have hentry : HasEntry port := hasEntry_iff.mpr hport
  rw [returns_frameworkEcGetPdPowerInfo hports, sweptPort_of_ne hport] at h
  rcases returns_reportEntry h with ⟨info, hinfo, rfl⟩ | ⟨error, herror, hcode, hvalue⟩
  · exact
      { success := fun _ => ⟨info, hentry, hinfo, rfl⟩
        failure_iff := by simp [hentry, hinfo, FrameworkStatus.success]
        empty := fun hfailure => (hfailure rfl).elim }
  · exact
      { success := fun hsuccess => (hcode hsuccess).elim
        failure_iff := iff_of_true hcode (.inr ⟨error, herror⟩)
        empty := fun _ => hvalue }

theorem ignoresOtherPorts (hports : m.SweepsPorts w ports) (hport : port ≠ 255)
    (h : Returns (frameworkEcGetPdPowerInfo (some handle) port) m w result w') :
    IgnoresOtherPorts m w handle port (ports port.toNat) result := by
  intro m' ports' result' w₂ hupstream hports' hown h'
  rw [returns_frameworkEcGetPdPowerInfo hports, sweptPort_of_ne hport] at h
  rw [returns_frameworkEcGetPdPowerInfo hports', sweptPort_of_ne hport, hown] at h'
  exact ((agrees_reportEntry _).returns_unique hupstream h h').1

end Ports

/-! ### The last port -/

namespace Machine

def sweeping (m : Machine) (ports : ℕ → EcResult UsbPdPowerInfo) : Machine :=
  { m with
    answer := fun request k =>
      match request with
      | .getPdInfo n => (List.range n.toNat).map ports
      | other => m.answer other k }

theorem sweepsPorts_sweeping (m : Machine) (w : World) (ports : ℕ → EcResult UsbPdPowerInfo) :
    (m.sweeping ports).SweepsPorts w ports := fun _ => rfl

end Machine

/-- A charger that gives 20 V and 5 A. -/
def dedicatedCharger : UsbPdPowerInfo :=
  { role := .sink
    chargingType := .pd
    dualrole := true
    meas :=
      { voltageMax := 20000
        voltageNow := 19800
        currentMax := 5000
        currentLim := 5000 }
    maxPower := 100000000 }

section LastPort

variable {m : Machine} {w w' : World} {ports : ℕ → EcResult UsbPdPowerInfo}
  {result : FrameworkEcPdPowerInfoResult} {handle : FrameworkEcHandle}

/-- For the last port the entry of the port before it is reported. -/
theorem returns_lastPort (hports : m.SweepsPorts w ports)
    (h : Returns (frameworkEcGetPdPowerInfo (some handle) 255) m w result w')
    {info : UsbPdPowerInfo} (hinfo : ports 254 = .ok info) :
    result = ⟨.success, .ofInfo 255 info⟩ := by
  have hreport := (returns_frameworkEcGetPdPowerInfo hports handle).mp h
  have hentry : ports (sweptPort 255) = .ok info := hinfo
  rw [hentry] at hreport
  exact (returns_pure.mp hreport).1

/-- What the port before the last reports is never ignored. -/
theorem not_ownPort_lastPort (hown : ReportsOwnPort ports 255 result)
    (hignores : IgnoresOtherPorts m w handle 255 (ports 255) result) : False := by
  have hnone : ¬ HasEntry 255 := fun hentry => hasEntry_iff.mp hentry rfl
  have hfailed : result.status.code ≠ .success := hown.failure_iff.mpr (.inl hnone)
  -- the same machine with a charger at the port before the last
  let ports' : ℕ → EcResult UsbPdPowerInfo := Function.update ports 254 (.ok dedicatedCharger)
  have hports' : (m.sweeping ports').SweepsPorts w ports' := m.sweepsPorts_sweeping w ports'
  obtain ⟨result', w₂, h'⟩ := completes_frameworkEcGetPdPowerInfo hports' handle 255
  have hrest : ports' 255 = ports 255 := Function.update_of_ne (by decide) _ _
  have hsame : result' = result :=
    hignores (m.sweeping ports') ports' result' w₂ rfl hports' hrest h'
  have hsuccess := returns_lastPort hports' h' (Function.update_self ..)
  refine hfailed ?_
  rw [← hsame, hsuccess]
  rfl

end LastPort

/-- A sweep has an entry for the port and the call reports that entry, whatever the
other ports report, if and only if the port is not the last one. -/
theorem frameworkEcGetPdPowerInfo_ownPort_iff {m : Machine} {w : World}
    {ports : ℕ → EcResult UsbPdPowerInfo} (hports : m.SweepsPorts w ports)
    (handle : FrameworkEcHandle) (port : UInt8) :
    (∃ result w', Returns (frameworkEcGetPdPowerInfo (some handle) port) m w result w' ∧
      ReportsOwnPort ports port result ∧
        IgnoresOtherPorts m w handle port (ports port.toNat) result) ↔ port ≠ 255 := by
  constructor
  · rintro ⟨result, w', -, hown, hignores⟩ rfl
    exact not_ownPort_lastPort hown hignores
  · intro hport
    obtain ⟨result, w', h⟩ := completes_frameworkEcGetPdPowerInfo hports handle port
    exact ⟨result, w', h, reportsOwnPort hports hport h, ignoresOtherPorts hports hport h⟩

/-- Only the port before the last has a charger. -/
def chargerPorts : ℕ → EcResult UsbPdPowerInfo :=
  Function.update (fun _ => .error (.response .unavailable)) 254 (.ok dedicatedCharger)

def chargerMachine : Machine := Machine.silent.sweeping chargerPorts

theorem sweepsPorts_chargerMachine : chargerMachine.SweepsPorts .fresh chargerPorts :=
  Machine.silent.sweepsPorts_sweeping .fresh chargerPorts

theorem frameworkEcGetPdPowerInfo_ownPort_iff_charger :
    (∃ result w', Returns (frameworkEcGetPdPowerInfo (some ⟨.crosEc⟩) 254) chargerMachine .fresh
        result w' ∧ ReportsOwnPort chargerPorts 254 result ∧
      IgnoresOtherPorts chargerMachine .fresh ⟨.crosEc⟩ 254 (chargerPorts 254) result) ↔
        (254 : UInt8) ≠ 255 :=
  frameworkEcGetPdPowerInfo_ownPort_iff sweepsPorts_chargerMachine ⟨.crosEc⟩ 254

/-- The last port, which reports an error, is reported with the charger of the port
before it. -/
theorem chargerMachine_misreported :
    chargerMachine.SweepsPorts .fresh chargerPorts ∧
      ∃ result w', Returns (frameworkEcGetPdPowerInfo (some ⟨.crosEc⟩) 255) chargerMachine
          .fresh result w' ∧ result = ⟨.success, .ofInfo 255 dedicatedCharger⟩ ∧
        ¬ ReportsOwnPort chargerPorts 255 result := by
  obtain ⟨result, w', h⟩ :=
    completes_frameworkEcGetPdPowerInfo sweepsPorts_chargerMachine ⟨.crosEc⟩ 255
  have hsuccess := returns_lastPort sweepsPorts_chargerMachine h (Function.update_self ..)
  refine ⟨sweepsPorts_chargerMachine, result, w', h, hsuccess, fun hown => ?_⟩
  obtain ⟨info, hentry, -⟩ := hown.success (by rw [hsuccess]; rfl)
  exact hasEntry_iff.mp hentry rfl

end FrameworkFfi
