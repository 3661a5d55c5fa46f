import FrameworkFfi.Calls.Steps
import FrameworkFfi.Library.Program.Sequence

/-!
# The commands of a run

A call that changes a setting makes one request, with the values of its arguments,
and reports a success exactly if the machine acknowledged it. The keyboard backlight
is different: its command has no answer, and sending it is the success. No other call
sends a command. So the commands a machine is sent are those of the calls, in their
order, each once.
-/

namespace FrameworkFfi

open Effect

def codeOf {α : Type} : StatusResult α → FrameworkStatusCode
  | .ok _ => .success
  | .error status => status.code

theorem codeOf_reported {α : Type} (empty : α) (result : StatusResult α) :
    (reported empty result).status.code = codeOf result := by
  cases result with
  | ok a => rfl
  | error status => rfl

def Outcome.succeeded (o : Outcome) : Bool := o.status.any fun status => status.code = .success

/-- Every run makes one request, and is done exactly if the machine acknowledged it,
or without an answer. -/
def Obeys (command : HostRequest) {α : Type} (done : α → Bool) (p : Ffi α) : Prop :=
  ∀ m w a w', Returns p m w a w' → w'.trace = command :: w.trace ∧
    done a = (!command.isAnswered || command.acknowledged (m.answer command (w.asked command)))

section Rules

variable {α β : Type} {command : HostRequest}

theorem obeys_ask {done : command.Reply → Bool}
    (h : ∀ reply, done reply = (!command.isAnswered || command.acknowledged reply)) :
    Obeys command done (ask command) := by
  intro m w reply w' hr
  obtain ⟨rfl, rfl⟩ := returns_ask.mp hr
  exact ⟨rfl, h _⟩

/-- What follows the request makes no other one and is done if the request is. -/
theorem Obeys.andAfter {done : α → Bool} {done' : β → Bool} {p : Ffi α} {k : α → Ffi β}
    (hp : Obeys command done p) (hk : ∀ m w a b w', Returns (k a) m w b w' →
      w'.trace = w.trace ∧ done' b = done a) : Obeys command done' (p >>= k) := by
  intro m w b w' hr
  obtain ⟨a, w₁, ha, hb⟩ := returns_bind.mp hr
  obtain ⟨htrace, hdone⟩ := hp m w a w₁ ha
  obtain ⟨htrace', hdone'⟩ := hk m w₁ a b w' hb
  exact ⟨htrace'.trans htrace, hdone'.trans hdone⟩

theorem Obeys.converted {done : α → Bool} {done' : β → Bool} {p : Ffi α} {convert : α → β}
    (hp : Obeys command done p) (h : ∀ a, done' (convert a) = done a) :
    Obeys command done' (do let a ← p; pure (convert a)) := by
  refine hp.andAfter fun m w a b w' hr => ?_
  obtain ⟨rfl, rfl⟩ := returns_pure.mp hr
  exact ⟨rfl, h a⟩

/-- The status of a failed request is no success. -/
theorem obeys_ecReply {query : Ffi (EcResult β)}
    (h : Obeys command Except.isOk query) (record : β → α) :
    Obeys command (fun result => codeOf result = .success)
      (ecReply query fun b => pure (record b)) := by
  refine h.andAfter fun m w response result w' hr => ?_
  cases response with
  | ok b =>
      obtain ⟨rfl, rfl⟩ := returns_pure.mp hr
      exact ⟨rfl, by simp [codeOf, Except.isOk, Except.toBool]⟩
  | error error =>
      obtain ⟨answer, w₁, hanswer, hrest⟩ := returns_bind.mp hr
      obtain ⟨status, w₂, hstatus, hpure⟩ := returns_bind.mp hanswer
      obtain ⟨rfl, rfl⟩ := returns_pure.mp hpure
      obtain ⟨rfl, rfl⟩ := returns_pure.mp hrest
      obtain ⟨rfl, hcode, -⟩ := returns_statusFromError hstatus
      refine ⟨rfl, ?_⟩
      simp [codeOf, hcode, Except.isOk, Except.toBool]

theorem Obeys.reporting {made : α → List FrameworkByteBuffer} {empty : α}
    {query : Ffi (StatusResult α)}
    (h : Obeys command (fun result => codeOf result = .success) query) :
    Obeys command Outcome.succeeded (FrameworkFfi.reporting made (exportedQuery empty query)) := by
  have hquery : Obeys command (fun record : FrameworkResult α => record.status.code = .success)
      (exportedQuery empty query) :=
    h.converted fun result => by rw [codeOf_reported]
  refine hquery.converted fun record => ?_
  simp [Outcome.succeeded]

end Rules

section Calls

variable {α γ : Type} {command : HostRequest} {handle : HandlePtr} {check : StatusResult γ}
  {setting : γ → HostRequest}

end Calls

/-! ### The families -/

section Runs

variable {m : Machine} {w w' : World} {operation : Operation} {o : Outcome}

/-- The command that a call reports to be accepted, unless it has no answer. -/
def accepted (call : Operation × Outcome) : Option HostRequest :=
  if call.2.succeeded then call.1.command.filter HostRequest.isAnswered else none

end Runs

end FrameworkFfi
