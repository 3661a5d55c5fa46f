import FrameworkFfi.Accounting.Accounts
import FrameworkFfi.Calls.Arguments
import FrameworkFfi.Calls.Queries
import FrameworkFfi.Library.Program.Ensures

/-!
# How a call handles its arguments

`Answers command query` says of a query that it sends no other command and never
blames the caller. A call `Handles` its arguments when it is refused for the
reason the arguments give, before anything else is done, and does not blame the
caller otherwise. There is one rule for each shape of an exported function.
-/

namespace FrameworkFfi

open Effect

/-! ### Queries -/

section Queries

variable {α β : Type} {command : Option HostRequest}

/-- A result whose status does not blame the caller. -/
def Fair (result : StatusResult α) : Prop :=
  ∀ status, result = .error status → status.blamesCaller = false

theorem fair_ok (a : α) : Fair (.ok a : StatusResult α) := by
  intro status h
  cases h

theorem fair_error {status : FrameworkStatus} (h : status.blamesCaller = false) :
    Fair (.error status : StatusResult α) := by
  intro status' hstatus
  obtain rfl := Except.error.inj hstatus
  exact h

/-- A query that sends this command only and is fair. -/
structure Answers (command : Option HostRequest) (query : Ffi (StatusResult α)) : Prop where
  sends : Sends command query
  fair : Ensures query Fair

theorem answers_ok (a : α) : Answers command (pure (.ok a)) where
  sends := performs_pure _
  fair := ensures_pure (fair_ok a)

theorem answers_error {status : FrameworkStatus} (h : status.blamesCaller = false) :
    Answers command (pure (.error status) : Ffi (StatusResult α)) where
  sends := performs_pure _
  fair := ensures_pure (fair_error h)

theorem answers_done {p : Ffi α} (h : Sends command p) :
    Answers command (do let a ← p; pure (.ok a)) where
  sends := h.bind fun _ => performs_pure _
  fair := Ensures.of_forall fun a => ensures_pure (fair_ok a)

theorem Answers.after {p : Ffi β} {query : β → Ffi (StatusResult α)} (hp : Sends command p)
    (hquery : ∀ b, Answers command (query b)) : Answers command (p >>= query) where
  sends := hp.bind fun b => (hquery b).sends
  fair := Ensures.of_forall fun b => (hquery b).fair

theorem Answers.andThen {first : Ffi (StatusResult β)} {rest : β → Ffi (StatusResult α)}
    (hfirst : Answers command first) (hrest : ∀ b, Answers command (rest b)) :
    Answers command (FrameworkFfi.andThen first rest) where
  sends := sends_andThen hfirst.sends fun b => (hrest b).sends
  fair := by
    refine hfirst.fair.bind ?_
    rintro (status | b) hfair
    · exact ensures_pure (fair_error (hfair status rfl))
    · exact (hrest b).fair

theorem fair_statusFromError (error : EcError) :
    Ensures (statusFromError error) fun status => status.blamesCaller = false := by
  intro m w status w' h
  cases error with
  | response response =>
      obtain ⟨rfl, -⟩ := returns_view.mp h
      simp [FrameworkStatus.blamesCaller]
  | unknownResponseCode code =>
      obtain ⟨rfl, -⟩ := returns_pure.mp h
      simp [FrameworkStatus.blamesCaller]
  | deviceError message =>
      obtain ⟨rfl, -⟩ := returns_act.mp h
      simp [FrameworkStatus.blamesCaller]

theorem answers_orStatus (response : EcResult α) : Answers command (orStatus response) := by
  cases response with
  | ok a => exact answers_ok a
  | error error =>
      refine ⟨reads_orStatus _ command, ?_⟩
      exact (fair_statusFromError error).bind fun status h => ensures_pure (fair_error h)

theorem answers_query {query : Ffi (EcResult α)} (h : Sends command query) :
    Answers command (do orStatus (← query)) :=
  Answers.after h answers_orStatus

theorem answers_ecReply {query : Ffi (EcResult β)} {record : β → Ffi α}
    (hquery : Sends command query) (hrecord : ∀ b, Reads (record b)) :
    Answers command (ecReply query record) :=
  Answers.after hquery fun response => (answers_orStatus response).andThen fun b =>
    answers_done (hrecord b command)

theorem answers_someReply {query : Ffi (Option β)} {record : β → Ffi α}
    (hquery : Sends command query) (hrecord : ∀ b, Reads (record b)) :
    Answers command (someReply query record) := by
  refine Answers.after hquery ?_
  rintro (_ | b)
  · exact answers_error (by decide)
  · exact answers_done (hrecord b command)

end Queries

/-! ### Calls -/

/-- A call that is refused for this reason, and otherwise sends this command only and
does not blame the caller. -/
structure Handles (command : Option HostRequest) (refusal : Option FrameworkStatus)
    (m : Machine) (call : Ffi Outcome) : Prop where
  sends : Sends command call
  refused : ∀ status, refusal = some status → ∀ w, ∃ buffers, ownedBy buffers = [] ∧
    Returns call m w ⟨some status, buffers⟩ w
  accepted : refusal = none → ∀ w o w', Returns call m w o w' →
    ∀ status, o.status = some status → status.blamesCaller = false

section Calls

variable {α γ : Type} {command : Option HostRequest} {m : Machine}
  {made : α → List FrameworkByteBuffer} {empty : α}

theorem fair_reported {result : StatusResult α} (h : Fair result) (empty : α) :
    (reported empty result).status.blamesCaller = false := by
  cases result with
  | ok a => rfl
  | error status => exact h status rfl

theorem Answers.handles {query : Ffi (StatusResult α)} (h : Answers command query) :
    Handles command none m (reporting made (exportedQuery empty query)) where
  sends := (h.sends.bind fun _ => performs_pure _).bind fun _ => performs_pure _
  refused := by
    intro status hstatus
    cases hstatus
  accepted := by
    intro _ w o w' hr status hstatus
    obtain ⟨result, w₁, hresult, hpure⟩ := returns_bind.mp hr
    obtain ⟨rfl, rfl⟩ := returns_pure.mp hpure
    obtain ⟨answer, w₂, hanswer, hpure⟩ := returns_bind.mp hresult
    obtain ⟨rfl, rfl⟩ := returns_pure.mp hpure
    obtain rfl := Option.some.inj hstatus
    exact fair_reported (h.fair m w answer w' hanswer) empty

theorem handles_refused {query : Ffi (StatusResult α)} {refusal : FrameworkStatus}
    (h : query = pure (.error refusal)) (hempty : ownedBy (made empty) = []) :
    Handles command (some refusal) m (reporting made (exportedQuery empty query)) where
  sends := by
    rw [h]
    exact ((performs_pure _).bind fun _ => performs_pure _).bind fun _ => performs_pure _
  refused := by
    intro status hstatus w
    obtain rfl := Option.some.inj hstatus
    exact ⟨made empty, hempty, by rw [h]; rfl⟩
  accepted := by
    intro hnone
    cases hnone

theorem handles_guarded {guard : Ffi (StatusResult γ)} {result : StatusResult γ}
    {rest : γ → Ffi (StatusResult α)} (hguard : Reads guard)
    (hresult : ∀ w, Returns guard m w result w) (hempty : ownedBy (made empty) = [])
    (hrest : ∀ c, Answers command (rest c)) :
    Handles command (failureOf result) m
      (reporting made (exportedQuery empty (andThen guard rest))) where
  sends := ((sends_andThen (hguard command) fun c => (hrest c).sends).bind
    fun _ => performs_pure _).bind fun _ => performs_pure _
  refused := by
    intro status hstatus w
    cases result with
    | ok c => cases hstatus
    | error error =>
        obtain rfl := Option.some.inj hstatus
        have hfailed : Returns (andThen guard rest) m w (.error error) w :=
          (returns_andThen_of_error (hresult w)).mpr ⟨rfl, rfl⟩
        have hreported : Returns (exportedQuery empty (andThen guard rest)) m w
            ⟨error, empty⟩ w := hfailed.bind_iff.mpr returns_pure_self
        exact ⟨made empty, hempty, hreported.bind_iff.mpr returns_pure_self⟩
  accepted := by
    intro hnone w o w' hr status hstatus
    cases result with
    | error error => cases hnone
    | ok c =>
        obtain ⟨record, w₁, hrecord, hpure⟩ := returns_bind.mp hr
        obtain ⟨rfl, rfl⟩ := returns_pure.mp hpure
        obtain ⟨answer, w₂, hanswer, hpure⟩ := returns_bind.mp hrecord
        obtain ⟨rfl, rfl⟩ := returns_pure.mp hpure
        obtain rfl := Option.some.inj hstatus
        have hquery := (returns_andThen_of_ok (hresult w)).mp hanswer
        exact fair_reported ((hrest c).fair m w answer w' hquery) empty

theorem handles_checked {check : StatusResult γ} {handle : HandlePtr}
    {query : FrameworkEcHandle → Ffi (StatusResult α)}
    {rest : FrameworkEcHandle → γ → Ffi (StatusResult α)}
    (hquery : ∀ opened, query opened = andThen (pure check) (rest opened))
    (hempty : ownedBy (made empty) = [])
    (h : ∀ opened c, handle = some opened → check = .ok c → Answers command (rest opened c)) :
    Handles command (refusalOf handle check) m (reporting made (exported handle empty query)) := by
  cases handle with
  | none => exact handles_refused rfl hempty
  | some opened =>
      have hcall : withHandle (some opened) query = andThen (pure check) (rest opened) :=
        hquery opened
      unfold exported
      rw [hcall]
      cases check with
      | ok c => exact (h opened c rfl rfl).handles
      | error status => exact handles_refused rfl hempty

theorem handles_checkedReply {δ : Type} {check : StatusResult γ} {query : γ → Ffi (EcResult δ)}
    {record : γ → δ → Ffi α} (hempty : ownedBy (made empty) = []) (hquery : ∀ c, Reads (query c))
    (hrecord : ∀ c d, Reads (record c d)) (handle : HandlePtr) :
    Handles command (refusalOf handle check) m (reporting made (exported handle empty
      fun _ => andThen (pure check) fun c => ecReply (query c) (record c))) :=
  handles_checked (fun _ => rfl) hempty fun _ c _ _ =>
    answers_ecReply (hquery c command) (hrecord c)

theorem handles_setting {check : StatusResult γ} {setting : γ → HostRequest}
    {query : FrameworkEcHandle → Ffi (StatusResult α)}
    {rest : FrameworkEcHandle → γ → Ffi (StatusResult α)}
    (hquery : ∀ opened, query opened = andThen (pure check) (rest opened))
    (hempty : ownedBy (made empty) = [])
    (h : ∀ opened c, Answers (some (setting c)) (rest opened c)) (handle : HandlePtr) :
    Handles (commandOf handle check setting) (refusalOf handle check) m
      (reporting made (exported handle empty query)) := by
  refine handles_checked hquery hempty ?_
  rintro opened c rfl rfl
  exact h opened c

theorem handles_exported {query : FrameworkEcHandle → Ffi (StatusResult α)}
    (hempty : ownedBy (made empty) = []) (h : ∀ opened, Answers command (query opened))
    (handle : HandlePtr) :
    Handles command (refusalOf handle unchecked) m
      (reporting made (exported handle empty query)) :=
  handles_checked (fun _ => rfl) hempty fun opened _ _ _ => h opened

theorem handles_ecReply {δ : Type} {query : Ffi (EcResult δ)} {record : δ → Ffi α}
    (hempty : ownedBy (made empty) = []) (hquery : Reads query) (hrecord : ∀ d, Reads (record d))
    (handle : HandlePtr) :
    Handles command (refusalOf handle unchecked) m
      (reporting made (exported handle empty fun _ => ecReply query record)) :=
  handles_exported hempty (fun _ => answers_ecReply (hquery command) hrecord) handle

theorem handles_someReply {δ : Type} {query : Ffi (Option δ)} {record : δ → Ffi α}
    (hempty : ownedBy (made empty) = []) (hquery : Reads query) (hrecord : ∀ d, Reads (record d))
    (handle : HandlePtr) :
    Handles command (refusalOf handle unchecked) m
      (reporting made (exported handle empty fun _ => someReply query record)) :=
  handles_exported hempty (fun _ => answers_someReply (hquery command) hrecord) handle

/-- A command on a handle is a query whose record holds its status alone. -/
theorem statusOnly_exportedStatus (handle : HandlePtr)
    (query : FrameworkEcHandle → Ffi (StatusResult Unit)) :
    statusOnly (exportedStatus handle query) =
      reporting noBuffers (exported handle () query) := by
  have hstatus : ∀ result : StatusResult Unit,
      reportedStatus result = (reported () result).status := by
    rintro (status | ⟨⟩)
    · rfl
    · rfl
  unfold statusOnly exportedStatus reporting exported exportedQuery
  rw [bind_assoc, bind_assoc]
  simp only [pure_bind, hstatus]
  rfl

theorem handles_checkedCommand {check : StatusResult γ} {setting : γ → HostRequest}
    {send : γ → Ffi (EcResult Unit)} (h : ∀ c, Sends (some (setting c)) (send c))
    (handle : HandlePtr) :
    Handles (commandOf handle check setting) (refusalOf handle check) m (statusOnly
      (exportedStatus handle fun _ => andThen (pure check) fun c => ecReply (send c) pure)) := by
  rw [statusOnly_exportedStatus]
  exact handles_setting (fun _ => rfl) rfl
    (fun _ c => answers_ecReply (h c) fun _ => reads_pure _) handle

theorem handles_command {setting : HostRequest} {send : Ffi (EcResult Unit)}
    (h : Sends (some setting) send) (handle : HandlePtr) :
    Handles (commandOf handle unchecked fun () => setting) (refusalOf handle unchecked) m
      (statusOnly (exportedStatus handle fun _ => ecReply send pure)) := by
  have hquery : ∀ _ : FrameworkEcHandle, (ecReply send pure : Ffi (StatusResult Unit)) =
      andThen (pure unchecked) fun _ => ecReply send pure := fun _ => rfl
  rw [statusOnly_exportedStatus]
  exact handles_setting hquery rfl (fun _ _ => answers_ecReply h fun _ => reads_pure _) handle

theorem handles_doneStatus {p : Ffi Bool} (h : Sends command p) :
    Handles command none m (statusOnly (doneStatus p)) where
  sends := (h.bind fun _ => performs_pure _).bind fun _ => performs_pure _
  refused := by
    intro status hstatus
    cases hstatus
  accepted := by
    intro _ w o w' hr status hstatus
    obtain ⟨result, w₁, hresult, hpure⟩ := returns_bind.mp hr
    obtain ⟨rfl, rfl⟩ := returns_pure.mp hpure
    obtain ⟨done, w₂, -, hpure⟩ := returns_bind.mp hresult
    obtain ⟨rfl, rfl⟩ := returns_pure.mp hpure
    obtain rfl := Option.some.inj hstatus
    cases done with
    | true => rfl
    | false => rfl

theorem handles_unreported {p : Ffi α} (h : Reads p) : Handles none none m (unreported p) where
  sends := (h none).bind fun _ => performs_pure _
  refused := by
    intro status hstatus
    cases hstatus
  accepted := by
    intro _ w o w' hr status hstatus
    obtain ⟨a, w₁, -, hpure⟩ := returns_bind.mp hr
    obtain ⟨rfl, -⟩ := returns_pure.mp hpure
    cases hstatus

end Calls

end FrameworkFfi
