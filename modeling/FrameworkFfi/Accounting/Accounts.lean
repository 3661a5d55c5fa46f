import FrameworkFfi.Exports.Shape
import FrameworkFfi.Host.Ownership
import FrameworkFfi.Library.Program.Ledger

/-!
# What a query hands over and what it stores

The two lasting effects of a call are on the ledger of buffers and on the
device-error store. `Quiet` programs have neither. `HandsOver given p made` adds
buffers to the ledger, and `Accounts query made` says of a query that can fail
that a success hands over the buffers of its answer, that a failure hands over
nothing and that the store changes for the status the failure reports.
-/

namespace FrameworkFfi

open Effect

variable {α β : Type}

def ownedBy (buffers : List FrameworkByteBuffer) : List FrameworkByteBuffer :=
  buffers.flatMap FrameworkByteBuffer.owned

@[simp] theorem ownedBy_nil : ownedBy [] = [] := rfl

@[simp] theorem ownedBy_singleton (buffer : FrameworkByteBuffer) :
    ownedBy [buffer] = buffer.owned := List.flatMap_singleton _ _

@[simp] theorem ownedBy_append (buffers more : List FrameworkByteBuffer) :
    ownedBy (buffers ++ more) = ownedBy buffers ++ ownedBy more := List.flatMap_append

/-- The two parts of the world that outlast a call. -/
def World.lasting (w : World) : List FrameworkByteBuffer × DeviceErrorStore :=
  (w.outstanding, w.errors)

/-- A program without a lasting effect. -/
abbrev Quiet (p : Ffi α) : Prop := Keeps World.lasting p

theorem quiet_ask (request : HostRequest) : Quiet (ask request) :=
  keeps_ask (fun _ _ => rfl) request

theorem Quiet.outstanding {p : Ffi α} (h : Quiet p) : Keeps World.outstanding p :=
  fun m w a w' hr => congrArg Prod.fst (h m w a w' hr)

theorem Quiet.errors {p : Ffi α} (h : Quiet p) : Keeps World.errors p :=
  fun m w a w' hr => congrArg Prod.snd (h m w a w' hr)

/-! ### Handing over -/

/-- A program that was given `given` and hands over the buffers of its result. -/
structure HandsOver (given : List FrameworkByteBuffer) (p : Ffi α)
    (made : α → List FrameworkByteBuffer) : Prop where
  ledger : Settles World.outstanding (ownedBy given) p fun a => ownedBy (made a)
  store : Keeps World.errors p

section HandsOver

variable {given : List FrameworkByteBuffer}

theorem handsOver_pure {a : α} {made : α → List FrameworkByteBuffer}
    (h : ownedBy (made a) = ownedBy given) : HandsOver given (pure a) made where
  ledger := settles_pure h
  store := keeps_pure a

theorem HandsOver.ofOwned {given' : List FrameworkByteBuffer} {p : Ffi α}
    {made : α → List FrameworkByteBuffer} (hp : HandsOver given p made)
    (h : ownedBy given = ownedBy given') : HandsOver given' p made where
  ledger := h ▸ hp.ledger
  store := hp.store

theorem HandsOver.bind {p : Ffi α} {k : α → Ffi β} {made : α → List FrameworkByteBuffer}
    {made' : β → List FrameworkByteBuffer} (hp : HandsOver given p made)
    (hk : ∀ a, HandsOver (made a) (k a) made') : HandsOver given (p >>= k) made' where
  ledger := hp.ledger.bind fun a => (hk a).ledger
  store := hp.store.bind fun a => (hk a).store

theorem handsOver_fromVec (bytes : ByteVec) :
    HandsOver given (FrameworkByteBuffer.fromVec bytes) fun buffer => given ++ [buffer] where
  ledger := by
    have hadds : Settles World.outstanding [] (FrameworkByteBuffer.fromVec bytes)
        FrameworkByteBuffer.owned := by
      intro m w buffer w' h frame hw
      obtain ⟨-, -, rfl⟩ := FrameworkByteBuffer.returns_fromVec.mp h
      rw [World.outstanding_handOut, hw, List.append_nil]
    simp only [ownedBy_append, ownedBy_singleton]
    exact hadds.frame
  store := by
    intro m w buffer w' h
    obtain ⟨-, -, rfl⟩ := FrameworkByteBuffer.returns_fromVec.mp h
    rfl

/-- One vector is handed over, and the rest goes on with its buffer. -/
theorem HandsOver.afterVec {bytes : ByteVec} {k : FrameworkByteBuffer → Ffi β}
    {made : β → List FrameworkByteBuffer}
    (hk : ∀ buffer, HandsOver (given ++ [buffer]) (k buffer) made) :
    HandsOver given (FrameworkByteBuffer.fromVec bytes >>= k) made :=
  (handsOver_fromVec bytes).bind hk

end HandsOver

/-! ### Queries that can fail -/

/-- What a query does that hands over the buffers of its answer. -/
structure Accounts (query : Ffi (StatusResult α)) (made : α → List FrameworkByteBuffer) :
    Prop where
  ok : ∀ m w a w', Returns query m w (.ok a) w' →
    w'.outstanding = w.outstanding ++ ownedBy (made a) ∧ w'.errors = w.errors
  error : ∀ m w status w', Returns query m w (.error status) w' →
    status.code ≠ .success ∧ w'.outstanding = w.outstanding ∧
      StoredFor status w.errors w'.errors

/-- A status that is made without an error of the controller. -/
def FrameworkStatus.Refusal (status : FrameworkStatus) : Prop :=
  status.code ≠ .success ∧ status.code ≠ .deviceError

theorem refusal_withCode {code : FrameworkStatusCode} (detail : Int32)
    (h : code ≠ .success ∧ code ≠ .deviceError) :
    (FrameworkStatus.withCode code detail).Refusal := by
  unfold FrameworkStatus.Refusal
  rw [FrameworkStatus.code_withCode]
  exact h

theorem refused_withCode {γ : Type} {code : FrameworkStatusCode} {detail : Int32}
    {status : FrameworkStatus}
    (h : (.error (FrameworkStatus.withCode code detail) : StatusResult γ) = .error status)
    (hcode : code ≠ .success ∧ code ≠ .deviceError) : status.Refusal := by
  obtain rfl := Except.error.inj h
  exact refusal_withCode detail hcode

section Accounts

variable {made : α → List FrameworkByteBuffer}

theorem accounts_refusal {status : FrameworkStatus} (h : status.Refusal) :
    Accounts (pure (.error status)) made where
  ok m w a w' hr := by
    obtain ⟨hok, -⟩ := returns_pure.mp hr
    cases hok
  error m w status' w' hr := by
    obtain ⟨herror, rfl⟩ := returns_pure.mp hr
    obtain rfl := Except.error.inj herror
    exact ⟨h.1, rfl, storedFor_of_code h.2 _⟩

/-- Handing over is a query that cannot fail. -/
theorem HandsOver.accounts {p : Ffi α} (h : HandsOver [] p made) :
    Accounts (do let a ← p; pure (.ok a)) made where
  ok m w a w' hr := by
    obtain ⟨b, w₁, hp, hpure⟩ := returns_bind.mp hr
    obtain ⟨hok, rfl⟩ := returns_pure.mp hpure
    obtain rfl := Except.ok.inj hok
    exact ⟨h.ledger.appends hp, h.store m w a w' hp⟩
  error m w status w' hr := by
    obtain ⟨b, w₁, -, hpure⟩ := returns_bind.mp hr
    obtain ⟨herror, -⟩ := returns_pure.mp hpure
    cases herror

theorem accounts_ok {a : α} (h : ownedBy (made a) = []) : Accounts (pure (.ok a)) made :=
  (handsOver_pure h).accounts

theorem accounts_checked {result : StatusResult α}
    (h : ∀ status, result = .error status → status.Refusal) :
    Accounts (pure result) fun _ => [] := by
  cases result with
  | ok a => exact accounts_ok rfl
  | error status => exact accounts_refusal (h status rfl)

theorem Accounts.andThen {first : Ffi (StatusResult β)} {rest : β → Ffi (StatusResult α)}
    (hfirst : Accounts first fun _ => []) (hrest : ∀ b, Accounts (rest b) made) :
    Accounts (FrameworkFfi.andThen first rest) made where
  ok m w a w' hr := by
    rcases returns_andThen hr with ⟨status, -, hok⟩ | ⟨b, w₁, hb, hr⟩
    · cases hok
    · obtain ⟨houtstanding, herrors⟩ := hfirst.ok m w b w₁ hb
      obtain ⟨houtstanding', herrors'⟩ := (hrest b).ok m w₁ a w' hr
      rw [ownedBy_nil, List.append_nil] at houtstanding
      rw [houtstanding', houtstanding, herrors', herrors]
      exact ⟨rfl, rfl⟩
  error m w status w' hr := by
    rcases returns_andThen hr with ⟨status', herror, hstatus⟩ | ⟨b, w₁, hb, hr⟩
    · obtain rfl := Except.error.inj hstatus
      exact hfirst.error m w status w' herror
    · obtain ⟨houtstanding, herrors⟩ := hfirst.ok m w b w₁ hb
      obtain ⟨hcode, houtstanding', hstored⟩ := (hrest b).error m w₁ status w' hr
      rw [ownedBy_nil, List.append_nil] at houtstanding
      rw [herrors] at hstored
      exact ⟨hcode, houtstanding'.trans houtstanding, hstored⟩

theorem accounts_orStatus (response : EcResult α) :
    Accounts (orStatus response) fun _ => [] := by
  cases response with
  | ok a => exact accounts_ok rfl
  | error error =>
      constructor
      · intro m w a w' hr
        obtain ⟨status, w₁, -, hpure⟩ := returns_bind.mp hr
        obtain ⟨hok, -⟩ := returns_pure.mp hpure
        cases hok
      · intro m w status w' hr
        obtain ⟨status', w₁, hstatus, hpure⟩ := returns_bind.mp hr
        obtain ⟨herror, rfl⟩ := returns_pure.mp hpure
        obtain rfl := Except.error.inj herror
        obtain ⟨hw', hcode, hstored⟩ := returns_statusFromError hstatus
        refine ⟨hcode, ?_, hstored⟩
        rw [hw']

theorem Accounts.afterQuiet {p : Ffi β} {query : β → Ffi (StatusResult α)} (hp : Quiet p)
    (hquery : ∀ b, Accounts (query b) made) : Accounts (p >>= query) made where
  ok m w a w' hr := by
    obtain ⟨b, w₁, hb, hrest⟩ := returns_bind.mp hr
    have hkept := (hquery b).ok m w₁ a w' hrest
    rwa [hp.outstanding m w b w₁ hb, hp.errors m w b w₁ hb] at hkept
  error m w status w' hr := by
    obtain ⟨b, w₁, hb, hrest⟩ := returns_bind.mp hr
    have hkept := (hquery b).error m w₁ status w' hrest
    rwa [hp.outstanding m w b w₁ hb, hp.errors m w b w₁ hb] at hkept

theorem accounts_query {query : Ffi (EcResult α)} (hquery : Quiet query) :
    Accounts (do orStatus (← query)) fun _ => [] :=
  Accounts.afterQuiet hquery accounts_orStatus

theorem accounts_ecReply {query : Ffi (EcResult β)} {record : β → Ffi α} (hquery : Quiet query)
    (hrecord : ∀ b, HandsOver [] (record b) made) : Accounts (ecReply query record) made := by
  have hshape : ecReply query record =
      FrameworkFfi.andThen (do orStatus (← query)) (fun b => do
        let value ← record b
        pure (.ok value)) := by
    unfold ecReply FrameworkFfi.andThen
    rw [bind_assoc]
  rw [hshape]
  exact (accounts_query hquery).andThen fun b => (hrecord b).accounts

theorem accounts_someReply {query : Ffi (Option β)} {record : β → Ffi α} (hquery : Quiet query)
    (hrecord : ∀ b, HandsOver [] (record b) made) : Accounts (someReply query record) made := by
  refine Accounts.afterQuiet hquery fun reply => ?_
  cases reply with
  | some b => exact (hrecord b).accounts
  | none => exact accounts_refusal (refusal_withCode 0 (by decide))

end Accounts

/-! ### Queries that lose a buffer -/

/-- A query that accounts for all but some `lost` buffers, of which there are some
exactly when `loses` holds. -/
structure AccountsBut {α : Type} (loses : Machine → World → Prop) (query : Ffi (StatusResult α))
    (made : α → List FrameworkByteBuffer) : Prop where
  ok : ∀ m w a w', Returns query m w (.ok a) w' →
    ∃ lost, (lost = [] ↔ ¬ loses m w) ∧
      w'.outstanding = w.outstanding ++ (lost ++ ownedBy (made a)) ∧ w'.errors = w.errors
  error : ∀ m w status w', Returns query m w (.error status) w' →
    ∃ lost, (lost = [] ↔ ¬ loses m w) ∧ w'.outstanding = w.outstanding ++ lost ∧
      status.code ≠ .success ∧ StoredFor status w.errors w'.errors

section AccountsBut

variable {α β : Type} {loses : Machine → World → Prop} {made : α → List FrameworkByteBuffer}

theorem Accounts.but {query : Ffi (StatusResult α)} (h : Accounts query made)
    (hnot : ∀ m w, ¬ loses m w) : AccountsBut loses query made where
  ok m w a w' hr := ⟨[], iff_of_true rfl (hnot m w), h.ok m w a w' hr⟩
  error m w status w' hr := by
    obtain ⟨hcode, houtstanding, hstored⟩ := h.error m w status w' hr
    refine ⟨[], iff_of_true rfl (hnot m w), ?_, hcode, hstored⟩
    rw [houtstanding, List.append_nil]

theorem AccountsBut.congr {query : Ffi (StatusResult α)} {loses' : Machine → World → Prop}
    (h : AccountsBut loses query made) (hiff : ∀ m w, loses m w ↔ loses' m w) :
    AccountsBut loses' query made := by
  obtain rfl : loses = loses' := funext fun m => funext fun w => propext (hiff m w)
  exact h

theorem AccountsBut.andThen {first : Ffi (StatusResult β)} {rest : β → Ffi (StatusResult α)}
    (hfirst : AccountsBut loses first fun _ => []) (hrest : ∀ b, Accounts (rest b) made) :
    AccountsBut loses (FrameworkFfi.andThen first rest) made where
  ok m w a w' hr := by
    rcases returns_andThen hr with ⟨status, -, hok⟩ | ⟨b, w₁, hb, hr⟩
    · cases hok
    · obtain ⟨lost, hlost, houtstanding, herrors⟩ := hfirst.ok m w b w₁ hb
      obtain ⟨houtstanding', herrors'⟩ := (hrest b).ok m w₁ a w' hr
      refine ⟨lost, hlost, ?_, herrors'.trans herrors⟩
      rw [houtstanding', houtstanding]
      simp
  error m w status w' hr := by
    rcases returns_andThen hr with ⟨status', herror, hstatus⟩ | ⟨b, w₁, hb, hr⟩
    · obtain rfl := Except.error.inj hstatus
      exact hfirst.error m w status w' herror
    · obtain ⟨lost, hlost, houtstanding, herrors⟩ := hfirst.ok m w b w₁ hb
      obtain ⟨hcode, houtstanding', hstored⟩ := (hrest b).error m w₁ status w' hr
      rw [herrors] at hstored
      refine ⟨lost, hlost, ?_, hcode, hstored⟩
      rw [houtstanding', houtstanding]
      simp

end AccountsBut

end FrameworkFfi
