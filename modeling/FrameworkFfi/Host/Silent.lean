import FrameworkFfi.Host.Machine

/-!
# A silent machine

The constants of `framework_lib` as the notes of this crate tabulate them, and
a machine with these constants on which nothing is connected. Concrete machines
are variations of it: `answering` replaces the answers to one request.
-/

namespace FrameworkFfi

/-- The USB ids `FFI_NOTES` tabulates for the upstream detectors. -/
structure Upstream.Tabulated (u : Upstream) : Prop where
  audioCardFrameworkVid : u.audioCardFrameworkVid = 0x32AC
  audioCardPid : u.audioCardPid = 0x0010
  inputModuleFrameworkVid : u.inputModuleFrameworkVid = 0x32AC
  framework16InputModulePids : ∀ pid ∈ u.framework16InputModulePids,
    (0x0012 ≤ pid ∧ pid ≤ 0x0019) ∨ pid = 0x0030 ∨ pid = 0x0020
  cameraFrameworkVid : u.cameraFrameworkVid = 0x32AC
  framework13And16SecondGenPid : u.framework13And16SecondGenPid = 0x001C
  framework12Pid : u.framework12Pid = 0x001D

/-- A text read from bytes, allocated for exactly these bytes. -/
def ownedText (bytes : List UInt8) : Option OwnedString :=
  (String.fromUTF8? ⟨bytes.toArray⟩).map OwnedString.exact

namespace Upstream

/-- A serial reply read as `CrosEc::get_gpu_serial` does: bytes that are no text
are a panic, and a reply that is not valid is an error. -/
def documentedGpuSerial (reply : EcResult EcResponseGetGpuSerial) :
    Option (EcResult OwnedString) :=
  match reply with
  | .error error => some (.error error)
  | .ok response => (ownedText response.serial).map fun serial =>
      if response.valid = 0 then .error (.deviceError "No valid GPU serial") else .ok serial

def documented : Upstream where
  ecResponseStatusCode
    | .success => 0
    | .invalidCommand => 1
    | .error => 2
    | .invalidParameter => 3
    | .accessDenied => 4
    | .invalidResponse => 5
    | .invalidVersion => 6
    | .invalidChecksum => 7
    | .inProgress => 8
    | .unavailable => 9
    | .timeout => 10
    | .overflow => 11
    | .invalidHeader => 12
    | .requestTruncated => 13
    | .responseTooBig => 14
    | .busError => 15
    | .busy => 16
  featureCode
    | .pwmFan => 2
    | .pwmKeyboardBacklight => 3
    | .motionSense => 6
    | .keyboard => 7
    | .thermal => 10
    | .fingerprint => 28
    | .touchpad => 29
  dpCardPid := 0x0003
  hdmiCardPid := 0x0002
  audioCardFrameworkVid := 0x32AC
  audioCardPid := 0x0010
  inputModuleFrameworkVid := 0x32AC
  framework16InputModulePids := [0x0012, 0x0013, 0x0014, 0x0018, 0x0019, 0x0030, 0x0020]
  ledMatrixPid := 0x0020
  cameraFrameworkVid := 0x32AC
  framework13And16SecondGenPid := 0x001C
  framework12Pid := 0x001D
  pixVid := 0x093A
  iliVid := 0x222A
  iliPid := 0x5539
  hxVid := 0x3558
  hxPid := 0x14FD
  ecPort80SizeMax := 32
  ecPort80SizeMax_pos := by decide
  panicDataMagic := 0x21636E50
  getGpuSerial := documentedGpuSerial

theorem tabulated_documented : documented.Tabulated where
  audioCardFrameworkVid := rfl
  audioCardPid := rfl
  inputModuleFrameworkVid := rfl
  framework16InputModulePids := by
    intro pid hpid
    simp only [documented, List.mem_cons, List.not_mem_nil, or_false] at hpid
    rcases hpid with rfl | rfl | rfl | rfl | rfl | rfl | rfl <;> decide
  cameraFrameworkVid := rfl
  framework13And16SecondGenPid := rfl
  framework12Pid := rfl

end Upstream

namespace Machine

/-- The first address behind everything that is allocated. -/
def placeBehind (live : List FrameworkByteBuffer) : ℕ :=
  live.foldr (fun buffer address => max (buffer.ptr + buffer.capacity.toInt.toNat) address) 2

theorem one_lt_placeBehind (live : List FrameworkByteBuffer) : 1 < placeBehind live := by
  induction live with
  | nil => decide
  | cons buffer live ih => exact Nat.lt_of_lt_of_le ih (Nat.le_max_right _ _)

theorem le_placeBehind {live : List FrameworkByteBuffer} {buffer : FrameworkByteBuffer}
    (h : buffer ∈ live) : buffer.ptr + buffer.capacity.toInt.toNat ≤ placeBehind live := by
  induction live with
  | nil => exact (List.not_mem_nil h).elim
  | cons first live ih =>
      rcases List.mem_cons.mp h with rfl | h
      · exact Nat.le_max_left _ _
      · exact Nat.le_trans (ih h) (Nat.le_max_right _ _)

def silent : Machine where
  answer request _ := request.silence
  family := none
  platform := none
  targetOs := .linux
  x86_64 := true
  overflowChecks := true
  upstream := .documented
  allocate n := n
  le_allocate n := Nat.le_refl n
  place live _ := placeBehind live
  one_lt_place live _ := one_lt_placeBehind live
  place_apart _ _ _ h := .inr (le_placeBehind h)

/-- A machine with the answers to one request replaced. -/
def answering (m : Machine) (request : HostRequest) (reply : request.Reply) : Machine :=
  { m with
    answer := fun other k =>
      if h : request = other then h ▸ reply else m.answer other k }

@[simp] theorem answer_answering_self (m : Machine) (request : HostRequest)
    (reply : request.Reply) (k : ℕ) : (m.answering request reply).answer request k = reply := by
  simp [answering]

end Machine

/-- The answer of a port that is the source of an attached partner, with nothing
negotiated. -/
def attachedSource : EcResponseGetPdPortState :=
  { cState := 2
    powerRole := 1
    dataRole := 1
    ccPolarity := 0
    voltage := 5000
    current := 900
    pdState := 0
    vconn := 0
    eprActive := 0
    eprSupport := 0
    activePort := 0
    pdAltModeStatus := 0 }

end FrameworkFfi
