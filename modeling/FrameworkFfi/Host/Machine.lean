import FrameworkFfi.Host.Request
import FrameworkFfi.Abi.Platform
import FrameworkFfi.Library.Program.Frame
import FrameworkFfi.Status.Store

/-!
# The machine a call runs on

A call of this crate runs on a `Machine`, which answers the requests and says
how the crate was built, and in a `World`, which is what the process keeps
between calls: the requests made so far, the device-error store and the buffers
that were handed out. A request is answered by what it asks and by how often it
was asked before. No two requests of a run share both, so any behaviour of the
controller and of the buses in one run is the behaviour of some machine.
-/

namespace FrameworkFfi

open Effect

/-- The ways a call ends without a result. All are panics but the last one: to free
what is not allocated is undefined behaviour, and nothing is said of what follows. -/
inductive Panic where
  | expect (message : String)
  | unwrap
  | indexOutOfBounds
  | arithmeticOverflow
  | invalidFree
  deriving DecidableEq

inductive TargetOs where
  | windows
  | linux
  | other
  deriving DecidableEq

/-- The constants and the one helper of `framework_lib` the results depend on.
`getGpuSerial` is what `CrosEc::get_gpu_serial` makes of a serial reply, `none`
when it panics. -/
structure Upstream where
  ecResponseStatusCode : EcResponseStatus → Int32
  featureCode : EcFeatureCode → Fin 64
  dpCardPid : UInt16
  hdmiCardPid : UInt16
  audioCardFrameworkVid : UInt16
  audioCardPid : UInt16
  inputModuleFrameworkVid : UInt16
  framework16InputModulePids : List UInt16
  ledMatrixPid : UInt16
  cameraFrameworkVid : UInt16
  framework13And16SecondGenPid : UInt16
  framework12Pid : UInt16
  pixVid : UInt16
  iliVid : UInt16
  iliPid : UInt16
  hxVid : UInt16
  hxPid : UInt16
  ecPort80SizeMax : UInt32
  ecPort80SizeMax_pos : 0 < ecPort80SizeMax
  panicDataMagic : UInt32
  getGpuSerial : EcResult EcResponseGetGpuSerial → Option (EcResult OwnedString)

/-- The answers of the host, how the crate was built, and the allocator. `place`
chooses the address of an allocation by what is allocated: it may reuse addresses
that were freed, and never overlaps what was not. -/
structure Machine where
  answer : (request : HostRequest) → ℕ → request.Reply
  family : Option PlatformFamily
  platform : Option Platform
  targetOs : TargetOs
  x86_64 : Bool
  overflowChecks : Bool
  upstream : Upstream
  /-- The capacity of an allocation for a requested number of bytes. -/
  allocate : ℕ → ℕ
  le_allocate : ∀ n, n ≤ allocate n
  place : List FrameworkByteBuffer → ℕ → ℕ
  one_lt_place : ∀ live size, 1 < place live size
  place_apart : ∀ live size, ∀ buffer ∈ live, place live size + size ≤ buffer.ptr ∨
    buffer.ptr + buffer.capacity.toInt.toNat ≤ place live size

namespace Machine

/-- `Vec::with_capacity`. -/
def vecWithCapacity (m : Machine) (capacity : ℕ) : ByteVec :=
  ⟨[], m.allocate capacity, Nat.zero_le _⟩

/-- `Vec::extend_from_slice`. A vector that is too small is allocated anew. -/
def extendFromSlice (m : Machine) (vec : ByteVec) (slice : List UInt8) : ByteVec :=
  if h : (vec.bytes ++ slice).length ≤ vec.capacity then
    ⟨vec.bytes ++ slice, vec.capacity, h⟩
  else
    ⟨vec.bytes ++ slice, m.allocate (vec.bytes ++ slice).length, m.le_allocate _⟩

@[simp] theorem bytes_vecWithCapacity (m : Machine) (capacity : ℕ) :
    (m.vecWithCapacity capacity).bytes = [] := rfl

@[simp] theorem bytes_extendFromSlice (m : Machine) (vec : ByteVec) (slice : List UInt8) :
    (m.extendFromSlice vec slice).bytes = vec.bytes ++ slice := by
  unfold extendFromSlice
  split <;> rfl

end Machine

/-- What the process keeps between calls. The latest request stands first in
`trace`; `outstanding` are the buffers whose allocations were handed out. -/
structure World where
  trace : List HostRequest
  errors : DeviceErrorStore
  outstanding : List FrameworkByteBuffer

namespace World

/-- How often a request was made before. -/
def asked (w : World) (request : HostRequest) : ℕ := w.trace.count request

def record (w : World) (request : HostRequest) : World :=
  { w with trace := request :: w.trace }

/-- Requests made in this order. -/
def recordAll (w : World) (requests : List HostRequest) : World :=
  requests.foldl record w

def fresh : World := ⟨[], .initial, []⟩

@[simp] theorem trace_record (w : World) (request : HostRequest) :
    (w.record request).trace = request :: w.trace := rfl

@[simp] theorem asked_record_self (w : World) (request : HostRequest) :
    (w.record request).asked request = w.asked request + 1 := by
  rw [asked, asked, trace_record, List.count_cons_self]

theorem asked_record_of_ne (w : World) {request other : HostRequest} (h : request ≠ other) :
    (w.record other).asked request = w.asked request := by
  rw [asked, asked, trace_record, List.count_cons_of_ne h.symm]

theorem asked_le_asked_record (w : World) (request other : HostRequest) :
    w.asked request ≤ (w.record other).asked request := by
  rw [asked, asked, trace_record]
  exact List.count_le_count_cons

theorem asked_recordAll_of_notMem (w : World) {request : HostRequest}
    {requests : List HostRequest} (h : request ∉ requests) :
    (w.recordAll requests).asked request = w.asked request := by
  induction requests generalizing w with
  | nil => rfl
  | cons other requests ih =>
      rw [List.mem_cons, not_or] at h
      have hrest := ih (w.record other) h.2
      rw [asked_record_of_ne w h.1] at hrest
      exact hrest

theorem recordAll_concat (w : World) (requests : List HostRequest) (request : HostRequest) :
    w.recordAll (requests ++ [request]) = (w.recordAll requests).record request := by
  rw [recordAll, recordAll, List.foldl_append, List.foldl_cons, List.foldl_nil]

theorem recordAll_append (w : World) (requests more : List HostRequest) :
    w.recordAll (requests ++ more) = (w.recordAll requests).recordAll more :=
  List.foldl_append

end World

/-- A call of this crate or a part of one. -/
abbrev Ffi : Type → Type := Program Machine World Panic

def ask (request : HostRequest) : Ffi request.Reply :=
  act fun m w => (m.answer request (w.asked request), w.record request)

@[simp] theorem returns_ask {request : HostRequest} {m : Machine} {w w' : World}
    {reply : request.Reply} :
    Returns (ask request) m w reply w' ↔
      reply = m.answer request (w.asked request) ∧ w' = w.record request :=
  returns_act

theorem returns_ask_self {request : HostRequest} {m : Machine} {w : World} :
    Returns (ask request) m w (m.answer request (w.asked request)) (w.record request) := rfl

theorem returns_ask_of_eq {request : HostRequest} {m : Machine} {w : World}
    {reply : request.Reply} (h : m.answer request (w.asked request) = reply) :
    Returns (ask request) m w reply (w.record request) :=
  returns_ask.mpr ⟨h.symm, rfl⟩

/-- A query that converts the answer to its one request. -/
theorem returns_converted {α : Type} {request : HostRequest} {convert : request.Reply → α}
    {m : Machine} {w : World} {reply : request.Reply}
    (h : m.answer request (w.asked request) = reply) :
    Returns (do let answer ← ask request; pure (convert answer)) m w (convert reply)
      (w.record request) :=
  (returns_ask_of_eq h).bind_iff.mpr returns_pure_self

theorem keeps_ask {τ : Type} {f : World → τ} (h : ∀ w request, f (w.record request) = f w)
    (request : HostRequest) : Keeps f (ask request) :=
  keeps_act fun _ w => h w request

theorem safe_ask (request : HostRequest) : Safe (ask request) := safe_act _

/-- An index into a fixed array, checked as the source's indexing is. -/
def checkIndex (n index : ℕ) : Ffi (Fin n) :=
  if h : index < n then pure ⟨index, h⟩ else abort .indexOutOfBounds

theorem checkIndex_of_lt {n index : ℕ} (h : index < n) :
    checkIndex n index = pure ⟨index, h⟩ := dif_pos h

/-- Arithmetic that leaves the range of its type panics in a build with overflow
checks and wraps in the others. -/
def checkArithmetic (fits : Bool) : Ffi Unit := do
  let overflowChecks ← view Machine.overflowChecks
  if overflowChecks && !fits then abort .arithmeticOverflow else pure ()

theorem returns_checkArithmetic {fits : Bool} {m : Machine} {w w' : World} :
    Returns (checkArithmetic fits) m w () w' ↔
      w' = w ∧ (m.overflowChecks = true → fits = true) := by
  unfold checkArithmetic
  rw [(returns_view_self : Returns (view Machine.overflowChecks) m w _ w).bind_iff]
  cases m.overflowChecks <;> cases fits <;> simp

end FrameworkFfi
