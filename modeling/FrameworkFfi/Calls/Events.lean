import FrameworkFfi.Exports.Shape
import FrameworkFfi.Host.Ownership
import FrameworkFfi.Library.Program.Events
import FrameworkFfi.Thermal

/-!
# The events of a call

Whatever a call does to the world it does in four kinds of steps: it makes a
request, stores a message, hands a buffer out or takes one back. A request is a
command when it changes a setting of the machine, and a query otherwise. The
rules say of the constructions calls are built from that they make queries only.
-/

namespace FrameworkFfi

open Effect

def HostRequest.isCommand : HostRequest → Bool
  | .setKeyboardBacklight _ | .setFpLedLevel _ | .setFpLedPercentage _ | .setChargeLimit _ _
  | .setChargeCurrentLimit _ _ | .setChargeRateLimit _ _ | .resetS0ixCounter | .setTabletMode _
  | .setInputDeckMode _ | .fanSetRpm _ _ | .fanSetDuty _ _ | .autofanctrl _
  | .setThermalThresholds _ _ _ _ _ _ | .setEcHibDelay _ | .rgbkbdSetColor _ _ | .remapKey _ _ _
  | .remapCapsToCtrl | .ps2EmulationEnable _ | .setGpio _ _ | .enableTouch _
  | .setHapticIntensity _ | .setClickForce _ => true
  | _ => false

inductive Event where
  | asked (request : HostRequest)
  | stored (message : String)
  | handedOut (bytes : ByteVec)
  | takenBack (buffer : FrameworkByteBuffer)

def World.step (m : Machine) (w : World) : Event → World
  | .asked request => w.record request
  | .stored message => { w with errors := (w.errors.storeDeviceErrorMessage message).2 }
  | .handedOut bytes => w.handOut (.ofVec bytes (m.place w.outstanding bytes.capacity))
  | .takenBack buffer => w.takeBack buffer

/-- What a call may do that can send this command and takes no buffer back. -/
def Event.Allowed (command : Option HostRequest) : Event → Prop
  | .asked request => request.isCommand = true → command = some request
  | .stored _ => True
  | .handedOut bytes => bytes.capacity < 2 ^ 31
  | .takenBack _ => False

abbrev Sends {α : Type} (command : Option HostRequest) (p : Ffi α) : Prop :=
  Performs World.step (Event.Allowed command) p

/-- A program that sends no command. -/
abbrev Reads {α : Type} (p : Ffi α) : Prop := ∀ command, Sends command p

section Rules

variable {ε α β : Type} {command : Option HostRequest}

theorem sends_ask {request : HostRequest} (h : request.isCommand = true → command = some request) :
    Sends command (ask request) :=
  performs_of_event fun _ _ _ _ hr => ⟨.asked request, h, (returns_ask.mp hr).2⟩

theorem reads_ask {request : HostRequest} (h : request.isCommand = false) :
    Reads (ask request) := by
  refine fun command => sends_ask fun hcommand => ?_
  rw [h] at hcommand
  cases hcommand

theorem reads_pure (a : α) : Reads (pure a) := fun _ => performs_pure a

theorem reads_view (f : Machine → α) : Reads (view f) := fun _ => performs_view f

theorem Reads.bind {p : Ffi α} {k : α → Ffi β} (hp : Reads p) (hk : ∀ a, Reads (k a)) :
    Reads (p >>= k) :=
  fun command => (hp command).bind fun a => hk a command

theorem Reads.foldlM {ι : Type} {g : β → ι → Ffi β} (h : ∀ b i, Reads (g b i)) (xs : List ι)
    (b : β) : Reads (xs.foldlM g b) :=
  fun command => Performs.foldlM (fun b i => h b i command) xs b

theorem reads_converted {request : HostRequest} (h : request.isCommand = false)
    (convert : request.Reply → β) : Reads (do let reply ← ask request; pure (convert reply)) :=
  (reads_ask h).bind fun _ => reads_pure _

theorem reads_statusFromError (error : EcError) : Reads (statusFromError error) := by
  cases error with
  | response response => exact reads_view _
  | unknownResponseCode code => exact reads_pure _
  | deviceError message =>
      refine fun command => performs_of_event fun _ w status w' hr => ?_
      exact ⟨.stored message, trivial, (returns_act.mp hr).2⟩

theorem reads_orStatus (result : EcResult α) : Reads (orStatus result) := by
  cases result with
  | ok a => exact reads_pure _
  | error error => exact (reads_statusFromError error).bind fun _ => reads_pure _

theorem sends_andThen {first : Ffi (Except ε α)} {rest : α → Ffi (Except ε β)}
    (hfirst : Sends command first) (hrest : ∀ a, Sends command (rest a)) :
    Sends command (andThen first rest) := by
  refine hfirst.bind ?_
  rintro (error | a)
  · exact performs_pure _
  · exact hrest a

theorem reads_andThen {first : Ffi (Except ε α)} {rest : α → Ffi (Except ε β)}
    (hfirst : Reads first) (hrest : ∀ a, Reads (rest a)) : Reads (andThen first rest) :=
  fun command => sends_andThen (hfirst command) fun a => hrest a command

theorem reads_andThenSome {first : Ffi (Option α)} {rest : α → Ffi (Option β)}
    (hfirst : Reads first) (hrest : ∀ a, Reads (rest a)) : Reads (andThenSome first rest) := by
  refine hfirst.bind ?_
  rintro (_ | a)
  · exact reads_pure _
  · exact hrest a

theorem reads_query {query : Ffi (EcResult α)} (h : Reads query) :
    Reads (do orStatus (← query)) :=
  h.bind reads_orStatus

theorem reads_fromVec (bytes : ByteVec) : Reads (FrameworkByteBuffer.fromVec bytes) := by
  refine fun command => performs_of_event fun m w buffer w' hr => ?_
  obtain ⟨hlt, rfl, rfl⟩ := FrameworkByteBuffer.returns_fromVec.mp hr
  exact ⟨.handedOut bytes, hlt, rfl⟩

theorem reads_checkArithmetic (fits : Bool) : Reads (checkArithmetic fits) := by
  refine (reads_view _).bind fun overflowChecks => ?_
  split_ifs
  · exact fun _ => performs_abort _
  · exact reads_pure _

theorem reads_byteAt (data : List UInt8) (index : ℕ) : Reads (byteAt data index) := by
  unfold byteAt
  cases data[index]? with
  | none => exact fun _ => performs_abort _
  | some byte => exact reads_pure byte

end Rules

end FrameworkFfi
