import FrameworkFfi.Accounting.LostSerial
import FrameworkFfi.Accounting.Release
import FrameworkFfi.Calls.Commands

/-!
# What is handed out can be handed back

A caller that reads the GPU descriptor or the name of a GPIO copies the buffer of
the result, and can pass the copy and its length to another call. That call then
asks the controller about exactly the descriptor, or exactly the name, that the
first one read. The copy is read for its length only, so what lies behind it in the
caller's memory does not matter.
-/

namespace FrameworkFfi

open Effect

/-- The memory of a caller begins with these bytes. -/
def Holds (memory : ℕ → UInt8) (bytes : List UInt8) : Prop :=
  ∀ i (h : i < bytes.length), memory i = bytes[i]

section Pointers

variable {memory : ℕ → UInt8} {bytes : ByteVec} {buffer : FrameworkByteBuffer}

theorem sliceFromRawParts_of_holds {bytes : List UInt8} (h : Holds memory bytes) :
    sliceFromRawParts memory bytes.length = bytes := by
  unfold sliceFromRawParts
  refine List.ext_getElem (by simp) fun i hi hi' => ?_
  rw [List.getElem_map, List.getElem_range, h i hi']

theorem length_of_madeFrom (h : MadeFrom bytes buffer) :
    bytes.length < 2 ^ 31 ∧ buffer.length = Int32.ofNat bytes.length := by
  obtain ⟨address, hlt, -, rfl⟩ := h
  exact ⟨Nat.lt_of_le_of_lt bytes.length_le hlt, rfl⟩

theorem borrowUtf8_of_madeFrom {text : OwnedString} (hmade : MadeFrom text.intoBytes buffer)
    (hmemory : Holds memory text.intoBytes.bytes) :
    borrowUtf8 (some memory) buffer.length = .ok text.text := by
  obtain ⟨hlt, hlength⟩ := length_of_madeFrom hmade
  have hnonneg : ¬ buffer.length < 0 := by
    rw [Int32.lt_iff_toInt_lt, hlength, Int32.toInt_ofNat_of_lt hlt, Int32.toInt_zero]
    omega
  have hslice : sliceFromRawParts memory buffer.length.toNatClampNeg =
      text.intoBytes.bytes := by
    rw [hlength, Int32.toNatClampNeg_ofNat_of_lt hlt]
    exact sliceFromRawParts_of_holds hmemory
  have htext : fromUtf8 text.intoBytes.bytes = .ok text.text := fromUtf8_utf8Bytes text.text
  rw [borrowUtf8, if_neg hnonneg, hslice, htext]

theorem validateExpectedBytes_of_madeFrom (hmade : MadeFrom bytes buffer)
    (hmemory : Holds memory bytes.bytes) :
    validateExpectedBytes (some memory) buffer.length.toUInt32 = .ok bytes.bytes := by
  obtain ⟨hlt, hlength⟩ := length_of_madeFrom hmade
  have hnat : buffer.length.toUInt32.toNat = bytes.length := by
    rw [hlength, Int32.toUInt32_ofNat', UInt32.toNat_ofNat_of_lt' (Nat.lt_trans hlt (by decide))]
  have hslice : sliceFromRawParts memory bytes.length = bytes.bytes :=
    sliceFromRawParts_of_holds hmemory
  rw [validateExpectedBytes]
  split_ifs with hzero
  · have hempty : bytes.bytes.length = 0 := by
      rw [← ByteVec.length, ← hnat, hzero]
      rfl
    rw [List.length_eq_zero_iff.mp hempty]
  · rw [hnat, hslice]

end Pointers

section Runs

variable {m : Machine} {w w' : World}

theorem code_of_ensureDescriptorPresent {status : FrameworkStatus}
    (h : Returns ensureDescriptorPresent m w (.error status) w') : status.code ≠ .success := by
  rcases returns_andThen h with ⟨error, hbay, herror⟩ | ⟨bay, w₁, hbay, hrest⟩
  · obtain rfl := Except.error.inj herror
    obtain ⟨_, -, -, -, hcode, -⟩ := returns_expansionBayStatus_error hbay
    exact hcode
  · split_ifs at hrest
    · obtain ⟨hstatus, -⟩ := returns_pure.mp hrest
      obtain rfl := Except.error.inj hstatus
      rw [FrameworkStatus.code_withCode]
      decide
    · obtain ⟨hstatus, -⟩ := returns_pure.mp hrest
      cases hstatus

theorem asked_ensureDescriptorPresent {result : StatusResult Unit}
    (h : Returns ensureDescriptorPresent m w result w') {request : HostRequest}
    (hrequest : request ∉ bayRequests) : w'.asked request = w.asked request := by
  have hkeeps : Keeps (fun w : World => w.asked request) ensureDescriptorPresent := by
    refine keeps_andThen (keeps_expansionBayStatus ?_ (fun _ _ => rfl) fun _ _ => rfl)
      fun bay => ?_
    · intro w other hother
      exact w.asked_record_of_ne (ne_of_mem_of_not_mem hother hrequest).symm
    · split_ifs <;> exact keeps_pure _
  exact hkeeps m w _ w' h

/-- The query behind the check of the bay is made when the call succeeds. -/
theorem returns_behind_ensureDescriptorPresent {α : Type} {query : Ffi (StatusResult α)}
    {result : StatusResult α}
    (h : Returns (andThen ensureDescriptorPresent fun () => query) m w result w')
    (hcode : codeOf result = .success) :
    ∃ w₁, Returns query m w₁ result w' ∧
      ∀ request ∉ bayRequests, w₁.asked request = w.asked request := by
  rcases returns_andThen h with ⟨status, hcheck, rfl⟩ | ⟨⟨⟩, w₁, hcheck, hquery⟩
  · exact absurd hcode (code_of_ensureDescriptorPresent hcheck)
  · exact ⟨w₁, hquery, fun request => asked_ensureDescriptorPresent hcheck⟩

theorem ok_of_query {α : Type} {query : Ffi (EcResult α)} {result : StatusResult α}
    (h : Returns (do orStatus (← query)) m w result w') (hcode : codeOf result = .success) :
    ∃ a, Returns query m w (.ok a) w' ∧ result = .ok a := by
  rcases returns_query h with hok | ⟨error, _, _, -, hstatus, rfl⟩
  · exact hok
  · exact absurd hcode (returns_statusFromError hstatus).2.1

/-- A call that succeeds was answered and made its record of the answer. -/
theorem ok_of_ecReply {α β : Type} {query : Ffi (EcResult α)} {record : α → Ffi β}
    {result : StatusResult β} (h : Returns (ecReply query record) m w result w')
    (hcode : codeOf result = .success) :
    ∃ a w₁ b, Returns query m w (.ok a) w₁ ∧ Returns (record a) m w₁ b w' ∧
      result = .ok b := by
  obtain ⟨response, w₁, hquery, hrest⟩ := returns_bind.mp h
  rcases returns_andThen hrest with ⟨status, hstatus, rfl⟩ | ⟨a, w₂, hok, hrecord⟩
  · obtain ⟨a, -, herror⟩ := ok_of_query (hquery.bind_iff.mpr hstatus) hcode
    cases herror
  · obtain ⟨b, w₃, hb, hpure⟩ := returns_bind.mp hrecord
    obtain ⟨rfl, rfl⟩ := returns_pure.mp hpure
    obtain ⟨_, hanswer, hsame⟩ := ok_of_query (hquery.bind_iff.mpr hok) rfl
    obtain rfl := Except.ok.inj hsame
    exact ⟨a, w₂, b, hanswer, hb, rfl⟩

/-- A read that succeeds handed out the descriptor that the controller answered. -/
theorem madeFrom_of_readGpuDescriptor {handle : FrameworkEcHandle}
    {result : FrameworkEcGpuDescriptorReadResult}
    (h : Returns (frameworkEcReadGpuDescriptor (some handle)) m w result w')
    (hcode : result.status.code = .success) :
    ∃ descriptor, m.answer .readGpuDescriptor (w.asked .readGpuDescriptor) = .ok descriptor ∧
      MadeFrom descriptor result.value := by
  obtain ⟨outcome, hread, rfl⟩ := returns_exported h
  rw [codeOf_reported] at hcode
  obtain ⟨w₂, hquery, hasked⟩ := returns_behind_ensureDescriptorPresent hread hcode
  rcases returns_andThen hquery with ⟨status, hask, rfl⟩ | ⟨descriptor, w₃, hask, hbuffer⟩
  · obtain ⟨_, -, herror⟩ := ok_of_query hask hcode
    cases herror
  · obtain ⟨_, hanswer, hsame⟩ := ok_of_query hask rfl
    obtain rfl := Except.ok.inj hsame
    obtain ⟨hanswer, -⟩ := returns_ask.mp hanswer
    rw [hasked _ (by decide)] at hanswer
    unfold descriptorBuffer at hbuffer
    split_ifs at hbuffer
    · obtain ⟨rfl, -⟩ := returns_pure.mp hbuffer
      rw [codeOf, FrameworkStatus.code_withCode] at hcode
      cases hcode
    · obtain ⟨buffer, w₄, hmade, hpure⟩ := returns_bind.mp hbuffer
      obtain ⟨rfl, -⟩ := returns_pure.mp hpure
      exact ⟨descriptor, hanswer.symm, madeFrom_of_returns hmade⟩

/-- A comparison that succeeds tells what the controller answered about these bytes. -/
theorem answer_of_validateGpuDescriptor {handle : FrameworkEcHandle} {ptr : BytePtr}
    {length : UInt32} {expected : List UInt8} {result : FrameworkEcGpuDescriptorValidationResult}
    (hexpected : validateExpectedBytes ptr length = .ok expected)
    (h : Returns (frameworkEcValidateGpuDescriptor (some handle) ptr length) m w result w')
    (hcode : result.status.code = .success) :
    ∃ isMatch, m.answer (.validateGpuDescriptor expected)
        (w.asked (.validateGpuDescriptor expected)) = .ok isMatch ∧
      result.value = byteOfBool isMatch := by
  obtain ⟨outcome, hcall, rfl⟩ := returns_exported h
  rw [codeOf_reported] at hcode
  rw [hexpected] at hcall
  have hvalidates : Returns (andThen (validate expected) fun isMatch =>
    pure (.ok (byteOfBool isMatch))) m w outcome w' := hcall
  have hanswered : ∀ {answer w₂}, Returns (validate expected) m w answer w₂ →
      codeOf answer = .success → ∃ isMatch, m.answer (.validateGpuDescriptor expected)
        (w.asked (.validateGpuDescriptor expected)) = .ok isMatch ∧ answer = .ok isMatch := by
    intro answer w₂ hvalidate hsuccess
    obtain ⟨w₃, hquery, hasked⟩ := returns_behind_ensureDescriptorPresent hvalidate hsuccess
    obtain ⟨isMatch, hask, hok⟩ := ok_of_query hquery hsuccess
    obtain ⟨hanswer, -⟩ := returns_ask.mp hask
    rw [hasked _ (by simp [bayRequests])] at hanswer
    exact ⟨isMatch, hanswer.symm, hok⟩
  rcases returns_andThen hvalidates with ⟨status, hvalidate, rfl⟩ | ⟨told, w₂, hvalidate, hpure⟩
  · obtain ⟨_, -, herror⟩ := hanswered hvalidate hcode
    cases herror
  · obtain ⟨rfl, -⟩ := returns_pure.mp hpure
    obtain ⟨isMatch, hanswer, hsame⟩ := hanswered hvalidate rfl
    obtain rfl := Except.ok.inj hsame
    exact ⟨told, hanswer, rfl⟩

/-- A look at a GPIO that succeeds handed out the name that the controller answered. -/
theorem madeFrom_of_getGpioInfo {handle : FrameworkEcHandle} {index : UInt8}
    {result : FrameworkEcGpioInfoResult}
    (h : Returns (frameworkEcGetGpioInfo (some handle) index) m w result w')
    (hcode : result.status.code = .success) :
    ∃ reply, m.answer (.gpioGetInfo index) (w.asked (.gpioGetInfo index)) = .ok reply ∧
      MadeFrom (gpioInfoOfReply reply).name.intoBytes result.value.name := by
  obtain ⟨outcome, hcall, rfl⟩ := returns_exported h
  rw [codeOf_reported] at hcode
  obtain ⟨info, w₂, record, hinfo, hrecord, rfl⟩ := ok_of_ecReply hcall hcode
  obtain ⟨answer, w₃, hask, hpure⟩ := returns_bind.mp hinfo
  obtain ⟨hanswer, -⟩ := returns_ask.mp hask
  obtain ⟨hreply, -⟩ := returns_pure.mp hpure
  obtain ⟨name, w₄, hname, hpure'⟩ := returns_bind.mp hrecord
  obtain ⟨rfl, -⟩ := returns_pure.mp hpure'
  cases answer with
  | error error => cases hreply
  | ok reply =>
      obtain rfl := Except.ok.inj hreply
      exact ⟨reply, hanswer.symm, madeFrom_of_returns hname⟩

/-- A call with a borrowed name is one request for exactly this name. -/
theorem obeys_setGpio {handle : FrameworkEcHandle} {ptr : BytePtr} {length : Int32}
    {name : String} {value : Bool} {status : FrameworkStatus}
    (hname : borrowUtf8 ptr length = .ok name)
    (h : Returns (frameworkEcSetGpio (some handle) ptr length value) m w status w') :
    w'.trace = .setGpio name value :: w.trace ∧ (status.code = .success ↔
      m.answer (.setGpio name value) (w.asked (.setGpio name value)) = .ok ()) := by
  obtain ⟨outcome, w₁, hcall, hstatus⟩ := returns_bind.mp h
  obtain ⟨rfl, rfl⟩ := returns_pure.mp hstatus
  rw [hname] at hcall
  have hsends : Obeys (.setGpio name value) (fun result => codeOf result = .success)
      (ecReply (ask (.setGpio name value)) pure) :=
    obeys_ecReply (obeys_ask fun _ => rfl) id
  obtain ⟨htrace, hdone⟩ := hsends m w outcome w' hcall
  have hdone : decide (codeOf outcome = .success) = HostRequest.acknowledged
      (.setGpio name value) (m.answer (.setGpio name value) (w.asked (.setGpio name value))) :=
    hdone
  refine ⟨htrace, ?_⟩
  have hcode : (reportedStatus outcome).code = codeOf outcome := by
    cases outcome with
    | ok => rfl
    | error status => rfl
  have hacknowledged : ∀ reply : EcResult Unit,
      HostRequest.acknowledged (.setGpio name value) reply = true ↔ reply = .ok () := by
    rintro (error | ⟨⟩)
    · exact iff_of_false Bool.false_ne_true nofun
    · exact iff_of_true rfl rfl
  rw [hcode, ← hacknowledged, ← hdone, decide_eq_true_iff]

/-- A look at a line by a borrowed name tells what the controller answered about
exactly this name. -/
theorem answer_of_getGpio {handle : FrameworkEcHandle} {ptr : BytePtr} {length : Int32}
    {name : String} {result : FrameworkEcGpioValueResult}
    (hname : borrowUtf8 ptr length = .ok name)
    (h : Returns (frameworkEcGetGpio (some handle) ptr length) m w result w')
    (hcode : result.status.code = .success) :
    ∃ value, m.answer (.getGpio name) (w.asked (.getGpio name)) = .ok value ∧
      result.value = byteOfBool value := by
  obtain ⟨outcome, hcall, rfl⟩ := returns_exported h
  rw [codeOf_reported] at hcode
  rw [hname] at hcall
  have hreply : Returns (ecReply (ask (.getGpio name)) fun value => pure (byteOfBool value)) m w
    outcome w' := hcall
  obtain ⟨value, w₂, told, hask, hpure, rfl⟩ := ok_of_ecReply hreply hcode
  obtain ⟨hanswer, -⟩ := returns_ask.mp hask
  obtain ⟨rfl, -⟩ := returns_pure.mp hpure
  exact ⟨value, hanswer.symm, rfl⟩

end Runs

/-- A pointer and a length name this line to the calls that read and write one. -/
structure NamesLine (m : Machine) (name : String) (ptr : BytePtr) (length : Int32) : Prop where
  set : ∀ handle value w status w',
    Returns (frameworkEcSetGpio (some handle) ptr length value) m w status w' →
      w'.trace = .setGpio name value :: w.trace ∧ (status.code = .success ↔
        m.answer (.setGpio name value) (w.asked (.setGpio name value)) = .ok ())
  get : ∀ handle w result w',
    Returns (frameworkEcGetGpio (some handle) ptr length) m w result w' →
      result.status.code = .success →
        ∃ value, m.answer (.getGpio name) (w.asked (.getGpio name)) = .ok value ∧
          result.value = byteOfBool value

/-- A pointer and a length stand for this descriptor in a comparison. -/
def ComparesDescriptor (m : Machine) (descriptor : List UInt8) (ptr : BytePtr)
    (length : UInt32) : Prop :=
  ∀ handle w result w',
    Returns (frameworkEcValidateGpuDescriptor (some handle) ptr length) m w result w' →
      result.status.code = .success →
        ∃ isMatch, m.answer (.validateGpuDescriptor descriptor)
          (w.asked (.validateGpuDescriptor descriptor)) = .ok isMatch ∧
          result.value = byteOfBool isMatch

/-- The name that a look at a GPIO hands out, copied and passed back, names the same
line to every later read and write, and the descriptor that a read hands out is
compared as it was read. -/
theorem handedBack_intact (m : Machine) :
    (∀ handle index w info w', Returns (frameworkEcGetGpioInfo (some handle) index) m w info w' →
      info.status.code = .success → ∃ reply,
        m.answer (.gpioGetInfo index) (w.asked (.gpioGetInfo index)) = .ok reply ∧
        ∀ memory, Holds memory (utf8Bytes (gpioInfoOfReply reply).name.text) →
          NamesLine m (gpioInfoOfReply reply).name.text (some memory)
            info.value.name.length) ∧
      ∀ handle w read w', Returns (frameworkEcReadGpuDescriptor (some handle)) m w read w' →
        read.status.code = .success → ∃ descriptor,
          m.answer .readGpuDescriptor (w.asked .readGpuDescriptor) = .ok descriptor ∧
          ∀ memory, Holds memory descriptor.bytes →
            ComparesDescriptor m descriptor.bytes (some memory) read.value.length.toUInt32 := by
  constructor
  · intro handle index w info w' h hcode
    obtain ⟨reply, hreply, hmade⟩ := madeFrom_of_getGpioInfo h hcode
    refine ⟨reply, hreply, fun memory hmemory => ?_⟩
    have hname := borrowUtf8_of_madeFrom hmade hmemory
    exact
      { set := fun handle value w status w' hset => obeys_setGpio hname hset
        get := fun handle w result w' hget hsuccess => answer_of_getGpio hname hget hsuccess }
  · intro handle w read w' h hcode
    obtain ⟨descriptor, hdescriptor, hmade⟩ := madeFrom_of_readGpuDescriptor h hcode
    refine ⟨descriptor, hdescriptor, fun memory hmemory handle w result w' hr hsuccess => ?_⟩
    exact answer_of_validateGpuDescriptor (validateExpectedBytes_of_madeFrom hmade hmemory) hr
      hsuccess

/-- A controller whose first line is called `P1`. -/
def lineMachine : Machine :=
  Machine.silent.answering (.gpioGetInfo 0) (.ok ⟨1, [0x50, 0x31, 0, 0], 0⟩)

/-- What lies behind the copy of the name is no part of it. -/
theorem handedBack_intact_line :
    ∃ w' status w₁',
      Returns (frameworkEcGetGpioInfo (some ⟨.crosEc⟩) 0) lineMachine .fresh
          ⟨.success, ⟨0, 1, 0, ⟨2, 2, 2⟩⟩⟩ w' ∧
        Returns (frameworkEcSetGpio (some ⟨.crosEc⟩) (some fun i => [0x50, 0x31].getD i 7) 2
          true) lineMachine .fresh status w₁' ∧
        w₁'.trace = [.setGpio "P1" true] := by
  have h : Returns (frameworkEcGetGpioInfo (some ⟨.crosEc⟩) 0) lineMachine .fresh
      ⟨.success, ⟨0, 1, 0, ⟨2, 2, 2⟩⟩⟩ _ := rfl
  have hset : Returns (frameworkEcSetGpio (some ⟨.crosEc⟩)
      (some fun i => [0x50, 0x31].getD i 7) 2 true) lineMachine .fresh _ _ := rfl
  obtain ⟨reply, hreply, hback⟩ := (handedBack_intact lineMachine).1 _ _ _ _ _ h rfl
  obtain rfl := Except.ok.inj hreply
  have hholds : Holds (fun i => [0x50, 0x31].getD i 7) (utf8Bytes "P1") := by
    have hbytes : utf8Bytes "P1" = [0x50, 0x31] := rfl
    rw [hbytes]
    rintro (_ | _ | i) hi
    · rfl
    · rfl
    · exact absurd hi (by simp)
  exact ⟨_, _, _, h, hset, ((hback _ hholds).set _ _ _ _ _ hset).1⟩

end FrameworkFfi
