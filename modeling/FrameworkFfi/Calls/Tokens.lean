import FrameworkFfi.Accounting.SwallowedErrors
import FrameworkFfi.Library.Program.Sequence
import FrameworkFfi.Status.FreshToken

/-!
# How long a token lasts

A status with a device error carries the token of its message. The calls that
follow store messages of their own, four each at most, and the token gives its
message back until `storedDeviceErrorLimit` of them have been stored.
-/

namespace FrameworkFfi

open Effect

namespace DeviceErrorStore

variable {store : DeviceErrorStore}

theorem Numbered.getElem?_reverse (h : store.Numbered) {k : ℕ} (hk : k + 1 < 2 ^ 31)
    {entry : Int32 × String} (hentry : entry ∈ store.deviceErrorMessages)
    (hid : entry.1 + Int32.ofNat (k + 1) = store.nextDeviceErrorId) :
    store.deviceErrorMessages.reverse[k]? = some entry := by
  obtain ⟨j, hj⟩ := List.mem_iff_getElem?.mp (List.mem_reverse.mpr hentry)
  have hlt := (List.getElem?_eq_some_iff.mp hj).1
  have hlength := h.length
  rw [List.length_reverse] at hlt
  rw [storedDeviceErrorLimit] at hlength
  have hoffset : Int32.ofNat (j + 1) = Int32.ofNat (k + 1) :=
    (Int32.add_right_inj entry.1).mp ((h.id j entry hj).trans hid.symm)
  have hint := congrArg Int32.toInt hoffset
  rw [Int32.toInt_ofNat_of_lt (by omega), Int32.toInt_ofNat_of_lt hk] at hint
  obtain rfl : j = k := by omega
  exact hj

theorem Numbered.nodup (h : store.Numbered) : (store.deviceErrorMessages.map Prod.fst).Nodup := by
  have hlength := h.length
  rw [storedDeviceErrorLimit] at hlength
  rw [← List.nodup_reverse, ← List.map_reverse, List.nodup_iff_getElem?_ne_getElem?]
  intro i j hij hj heq
  rw [List.length_map, List.length_reverse] at hj
  rw [List.getElem?_map, List.getElem?_map] at heq
  have hget : ∀ k : ℕ, k < store.deviceErrorMessages.length →
      ∃ entry, store.deviceErrorMessages.reverse[k]? = some entry := fun k hk =>
    ⟨_, List.getElem?_eq_getElem (by rw [List.length_reverse]; exact hk)⟩
  obtain ⟨first, hfirst⟩ := hget i (by omega)
  obtain ⟨last, hlast⟩ := hget j hj
  rw [hfirst, hlast] at heq
  have hid : first.1 = last.1 := Option.some.inj heq
  have hmem : first ∈ store.deviceErrorMessages :=
    List.mem_reverse.mp (List.mem_of_getElem? hfirst)
  have hsame := h.getElem?_reverse (k := j) (by omega) hmem (hid ▸ h.id j last hlast)
  have hoffset := (h.id i first hfirst).trans (h.id j first hsame).symm
  have hint := congrArg Int32.toInt ((Int32.add_right_inj first.1).mp hoffset)
  rw [Int32.toInt_ofNat_of_lt (by omega), Int32.toInt_ofNat_of_lt (by omega)] at hint
  omega

/-- The message of a token is found until `storedDeviceErrorLimit` messages have been
stored after it. -/
theorem Numbered.getDeviceErrorMessage_later (h : store.Numbered) (message : String)
    {messages : List String} (hfew : messages.length + 1 < 2 ^ 31) :
    ((store.storeDeviceErrorMessage message).2.storeAll messages).getDeviceErrorMessage
        store.nextDeviceErrorId =
      if store.nextDeviceErrorId ≤ 0 ∨ storedDeviceErrorLimit ≤ messages.length then none
      else some message := by
  have hlater := (h.storeDeviceErrorMessage message).storeAll messages
  have hnext : store.nextDeviceErrorId + Int32.ofNat (messages.length + 1) =
      ((store.storeDeviceErrorMessage message).2.storeAll messages).nextDeviceErrorId := by
    rw [nextDeviceErrorId_storeAll, nextDeviceErrorId_storeDeviceErrorMessage, Int32.ofNat_add,
      Int32.add_assoc, Int32.add_comm (Int32.ofNat messages.length)]
    rfl
  unfold getDeviceErrorMessage
  by_cases hpos : store.nextDeviceErrorId ≤ 0
  · rw [if_pos hpos, if_pos (.inl hpos)]
  rw [if_neg hpos]
  by_cases hkept : messages.length < storedDeviceErrorLimit
  · rw [if_neg (not_or.mpr ⟨hpos, Nat.not_le.mpr hkept⟩)]
    exact (BoundedQueue.lookup_eq_some_iff hlater.nodup _ _).mpr (store.mem_storeAll message hkept)
  · rw [if_pos (.inr (Nat.le_of_not_lt hkept))]
    cases hlookup : BoundedQueue.lookup
        ((store.storeDeviceErrorMessage message).2.storeAll messages).deviceErrorMessages
        store.nextDeviceErrorId with
    | none => rfl
    | some found =>
        -- the entry would stand behind all that the queue can hold
        have hat := hlater.getElem?_reverse hfew (BoundedQueue.mem_of_lookup hlookup) hnext
        have hlt := (List.getElem?_eq_some_iff.mp hat).1
        rw [List.length_reverse] at hlt
        have hlength := hlater.length
        omega

end DeviceErrorStore

/-! ### Calls -/

section Calls

variable {m : Machine} {w w₁ w' : World} {operation : Operation} {o : Outcome}
  {calls : List (Operation × Outcome)}

/-- The inventory reports no device error. -/
theorem stores_of_deviceError (hr : Returns operation.run m w o w') (ho : o.deviceError = true) :
    o.Stores w w' := by
  refine stores_operation ?_ hr
  rintro handle rfl
  obtain ⟨hstatus, -⟩ := outcome_moduleInventory hr
  simp [Outcome.deviceError, hstatus] at ho

theorem stored_atMost (hr : Returns operation.run m w o w') :
    ∃ messages : List String, messages.length ≤ 4 ∧ w'.errors = w.errors.storeAll messages := by
  by_cases hinventory : ∃ handle, operation = .inventory (.ecGetModuleInventory (some handle))
  · obtain ⟨handle, rfl⟩ := hinventory
    obtain ⟨-, -, herrors⟩ := outcome_moduleInventory hr
    exact ⟨m.swallowedMessages w, length_swallowedMessages_le m w, herrors⟩
  · have hstores := stores_operation (fun handle h => hinventory ⟨handle, h⟩) hr
    cases hdevice : o.deviceError with
    | false => exact ⟨[], Nat.zero_le 4, hstores.errors_eq hdevice⟩
    | true =>
        obtain ⟨message, -, herrors⟩ := hstores.exists_message hdevice
        exact ⟨[message], by simp, herrors⟩

theorem stored_run (h : Sequence Operation.run (fun _ _ => True) m w calls w') :
    ∃ messages : List String, messages.length ≤ 4 * calls.length ∧
      w'.errors = w.errors.storeAll messages := by
  induction h with
  | nil w => exact ⟨[], Nat.zero_le _, rfl⟩
  | cons _ hcall _ ih =>
      obtain ⟨first, hfirst, herrors⟩ := stored_atMost hcall
      obtain ⟨rest, hrest, herrors'⟩ := ih
      refine ⟨first ++ rest, ?_, ?_⟩
      · rw [List.length_append, List.length_cons]
        omega
      · rw [herrors', herrors, DeviceErrorStore.storeAll_append]

theorem numbered_run (h : Sequence Operation.run (fun _ _ => True) m .fresh calls w') :
    w'.errors.Numbered := by
  obtain ⟨messages, -, herrors⟩ := stored_run h
  rw [herrors]
  exact DeviceErrorStore.numbered_initial.storeAll messages

/-- In every run the status of a device error gives its message back, and keeps doing
so while the calls after it store fewer than `storedDeviceErrorLimit` messages. They
store four each at most. -/
theorem token_run {earlier later : List (Operation × Outcome)} {status : FrameworkStatus}
    (hearlier : Sequence Operation.run (fun _ _ => True) m .fresh earlier w)
    (hcall : Returns operation.run m w o w₁) (hstatus : o.status = some status)
    (hcode : status.code = .deviceError)
    (hlater : Sequence Operation.run (fun _ _ => True) m w₁ later w')
    (hfew : later.length < 2 ^ 28) :
    ∃ token message messages, status = .withCode .deviceError token ∧
      w₁.errors = (w.errors.storeDeviceErrorMessage message).2 ∧
      w'.errors = w₁.errors.storeAll messages ∧ messages.length ≤ 4 * later.length ∧
      Returns (deviceErrorMessageOf status) m w'
        (if token ≤ 0 ∨ storedDeviceErrorLimit ≤ messages.length then none
          else some (.exact message)) w' := by
  have hdevice : o.deviceError = true := (Outcome.deviceError_iff hstatus).mpr hcode
  obtain ⟨message, htoken, hstored⟩ :=
    (stores_of_deviceError hcall hdevice).exists_message hdevice
  obtain ⟨messages, hlength, herrors⟩ := stored_run hlater
  obtain rfl := Option.some.inj (hstatus.symm.trans htoken)
  refine ⟨w.errors.nextDeviceErrorId, message, messages, rfl, hstored, herrors, hlength, ?_⟩
  have hbound : messages.length + 1 < 2 ^ 31 := by omega
  have hfound := (numbered_run hearlier).getDeviceErrorMessage_later message hbound
  rw [← hstored, ← herrors] at hfound
  have hlookup : Returns (deviceErrorMessageOf (.withCode .deviceError w.errors.nextDeviceErrorId))
      m w' ((w'.errors.getDeviceErrorMessage w.errors.nextDeviceErrorId).map .exact) w' := rfl
  rw [hfound, apply_ite (Option.map OwnedString.exact)] at hlookup
  exact hlookup

end Calls

/-- The feature flags fail, and the inventory swallows more of the same error. The token
still gives the message back. -/
theorem token_run_failing :
    ∃ w₁ o w', Returns failingFlags.run failingMachine .fresh
        ⟨some (.withCode .deviceError 1), []⟩ w₁ ∧
      Returns failingInventory.run failingMachine w₁ o w' ∧
      Returns (deviceErrorMessageOf (.withCode .deviceError 1)) failingMachine w'
        (some (.exact "EC did not answer")) w' := by
  obtain ⟨w₁, hflags, herrors⟩ : ∃ w, Returns failingFlags.run failingMachine .fresh
      ⟨some (.withCode .deviceError 1), []⟩ w ∧
      w.errors.deviceErrorMessages = [(1, "EC did not answer")] := ⟨_, rfl, rfl⟩
  obtain ⟨o, w', hinventory⟩ : Completes failingInventory.run failingMachine w₁ := ⟨_, _, rfl⟩
  obtain ⟨token, message, messages, hstatus, hstored, -, hlength, hlookup⟩ :=
    token_run (.nil _) hflags rfl rfl (.cons trivial hinventory (.nil w'))
      (Nat.one_lt_two_pow (by decide))
  obtain rfl : 1 = token :=
    Option.some.inj (congrArg FrameworkStatus.deviceErrorMessageToken hstatus)
  rw [hstored] at herrors
  have hqueue : [((1 : Int32), message)] = [(1, "EC did not answer")] := herrors
  obtain rfl : message = "EC did not answer" := by simpa using hqueue
  have hkept : ¬ ((1 : Int32) ≤ 0 ∨ storedDeviceErrorLimit ≤ messages.length) := by
    rw [List.length_singleton] at hlength
    rw [not_or, storedDeviceErrorLimit]
    exact ⟨by decide, by omega⟩
  rw [if_neg hkept] at hlookup
  exact ⟨w₁, o, w', hflags, hinventory, hlookup⟩

end FrameworkFfi
