import FrameworkFfi.Host.Silent
import FrameworkFfi.Status.Report

/-!
# The token of the latest device error

The token of a message is the value of a counter that wraps, and a token that is
not positive is refused. So the message that was stored last is found as long as
the counter is positive, which it is for the first half of its period but one. It
is never mistaken for another: the entries before it have the ids just below its
own.
-/

namespace FrameworkFfi

open Effect

namespace DeviceErrorStore

/-- The entries have the ids just below the next one, the latest first. -/
structure Numbered (store : DeviceErrorStore) : Prop where
  length : store.deviceErrorMessages.length ≤ storedDeviceErrorLimit
  id : ∀ j entry, store.deviceErrorMessages.reverse[j]? = some entry →
    entry.1 + Int32.ofNat (j + 1) = store.nextDeviceErrorId

theorem numbered_initial : Numbered initial where
  length := Nat.zero_le _
  id := by simp [initial]

theorem Numbered.storeDeviceErrorMessage {store : DeviceErrorStore} (h : store.Numbered)
    (message : String) : (store.storeDeviceErrorMessage message).2.Numbered := by
  have hwindow : (store.storeDeviceErrorMessage message).2.deviceErrorMessages =
      BoundedQueue.window storedDeviceErrorLimit
        (store.deviceErrorMessages ++ [(store.nextDeviceErrorId, message)]) :=
    BoundedQueue.trim_eq_window _ _
  refine ⟨?_, fun j entry hj => ?_⟩
  · rw [hwindow]
    exact BoundedQueue.length_window_le _ _
  · rw [hwindow, BoundedQueue.window, List.reverse_drop, List.reverse_append,
      List.reverse_singleton, List.singleton_append] at hj
    rw [List.getElem?_take] at hj
    split_ifs at hj
    have hnext : ∀ k : ℕ, Int32.ofNat (k + 1) = Int32.ofNat k + 1 := fun k => Int32.ofNat_add k 1
    rw [nextDeviceErrorId_storeDeviceErrorMessage]
    cases j with
    | zero =>
        obtain rfl : (store.nextDeviceErrorId, message) = entry := by simpa using hj
        rfl
    | succ j =>
        rw [List.getElem?_cons_succ] at hj
        rw [hnext (j + 1), ← Int32.add_assoc, h.id j entry hj]

theorem Numbered.storeAll {store : DeviceErrorStore} (h : store.Numbered)
    (messages : List String) : (store.storeAll messages).Numbered := by
  induction messages generalizing store with
  | nil => exact h
  | cons message messages ih => exact ih (h.storeDeviceErrorMessage message)

theorem Numbered.ne_next {store : DeviceErrorStore} (h : store.Numbered) :
    ∀ entry ∈ store.deviceErrorMessages, entry.1 ≠ store.nextDeviceErrorId := by
  intro entry hentry heq
  obtain ⟨j, hj⟩ := List.mem_iff_getElem?.mp (List.mem_reverse.mpr hentry)
  have hlt := (List.getElem?_eq_some_iff.mp hj).1
  rw [List.length_reverse] at hlt
  have hlength := h.length
  have hid := h.id j entry hj
  rw [heq] at hid
  have hzero : Int32.ofNat (j + 1) = 0 := Int32.add_eq_left.mp hid
  have hint := congrArg Int32.toInt hzero
  rw [Int32.toInt_ofNat_of_lt (by rw [storedDeviceErrorLimit] at hlength; omega),
    Int32.toInt_zero] at hint
  omega

/-- The message that was stored last is found when its id is positive. -/
theorem Numbered.getDeviceErrorMessage_stored {store : DeviceErrorStore} (h : store.Numbered)
    (message : String) :
    (store.storeDeviceErrorMessage message).2.getDeviceErrorMessage store.nextDeviceErrorId =
      if store.nextDeviceErrorId ≤ 0 then none else some message := by
  have hlookup : BoundedQueue.lookup
      (store.storeDeviceErrorMessage message).2.deviceErrorMessages store.nextDeviceErrorId =
        some message :=
    BoundedQueue.lookup_push_of_fresh (by decide) h.ne_next message
  rw [getDeviceErrorMessage, hlookup]

/-- The counter after `n` messages is positive in the first half of its period. -/
theorem next_le_zero_iff (messages : List String) :
    (initial.storeAll messages).nextDeviceErrorId ≤ 0 ↔
      2 ^ 31 - 1 ≤ messages.length % 2 ^ 32 := by
  have hnext : (initial.storeAll messages).nextDeviceErrorId =
      Int32.ofNat (messages.length + 1) := by
    rw [nextDeviceErrorId_storeAll, Int32.ofNat_add, Int32.add_comm]
    rfl
  have hsize : Int32.size = 4294967296 := rfl
  rw [hnext, Int32.le_iff_toInt_le, Int32.toInt_ofNat', Int32.toInt_zero, Int.bmod_def, hsize]
  split_ifs <;> omega

end DeviceErrorStore

/-- A device error is reported by a status whose token gives the message back, in
the lookup and in the description, as long as nothing else is stored. -/
def ResolvesFresh (m : Machine) (w : World) (message : String) : Prop :=
  ∃ status w₁ token, Returns (statusFromError (.deviceError message)) m w status w₁ ∧
    status.deviceErrorMessageToken = some token ∧
    Returns (getDeviceErrorMessage token) m w₁ (some message) w₁ ∧
    ∃ text, Returns (statusDescription status) m w₁ text w₁ ∧
      text.text = "Device error: " ++ message

section Resolves

variable {m : Machine} {w : World}

theorem returns_statusFromError_deviceError (message : String) :
    Returns (statusFromError (.deviceError message)) m w
      (.deviceError w.errors.nextDeviceErrorId)
      { w with errors := (w.errors.storeDeviceErrorMessage message).2 } :=
  returns_act.mpr ⟨rfl, rfl⟩

theorem resolvesFresh_iff (h : w.errors.Numbered) (message : String) :
    ResolvesFresh m w message ↔ ¬ w.errors.nextDeviceErrorId ≤ 0 := by
  let w₁ : World := { w with errors := (w.errors.storeDeviceErrorMessage message).2 }
  have hstored := h.getDeviceErrorMessage_stored message
  constructor
  · rintro ⟨status, w', token, hstatus, htoken, hlookup, -⟩
    obtain ⟨rfl, rfl⟩ := hstatus.unique (returns_statusFromError_deviceError message)
    obtain rfl : w.errors.nextDeviceErrorId = token := Option.some.inj htoken
    obtain ⟨hfound, -⟩ := returns_act.mp hlookup
    intro hle
    rw [hstored, if_pos hle] at hfound
    cases hfound
  · intro hpos
    rw [if_neg hpos] at hstored
    have hlookup : Returns (getDeviceErrorMessage w.errors.nextDeviceErrorId) m w₁
        (some message) w₁ := returns_act.mpr ⟨hstored.symm, rfl⟩
    refine ⟨_, w₁, w.errors.nextDeviceErrorId, returns_statusFromError_deviceError message, rfl,
      hlookup, ?_⟩
    exact ⟨_, hlookup.bind_iff.mpr (returns_view_self), rfl⟩

end Resolves

/-- After any number of device errors the next one resolves exactly when that
number, modulo the period of the counter, is below the largest token. -/
theorem statusFromError_resolves_iff (m : Machine) (w : World) (earlier : List String)
    (message : String) :
    ResolvesFresh m { w with errors := DeviceErrorStore.initial.storeAll earlier } message ↔
      earlier.length % 2 ^ 32 < 2 ^ 31 - 1 := by
  rw [resolvesFresh_iff (DeviceErrorStore.numbered_initial.storeAll earlier),
    DeviceErrorStore.next_le_zero_iff, Nat.not_le]

/-- After `2 ^ 31 - 1` device errors the token of the next one is negative and its
message is lost. -/
theorem halfPeriod_loses_message :
    ¬ ResolvesFresh .silent
      { World.fresh with
        errors := DeviceErrorStore.initial.storeAll (List.replicate (2 ^ 31 - 1) "EC error") }
      "Expected 4 entries, got 2 bytes" := by
  rw [resolvesFresh_iff (DeviceErrorStore.numbered_initial.storeAll _),
    DeviceErrorStore.next_le_zero_iff, List.length_replicate]
  decide

end FrameworkFfi
