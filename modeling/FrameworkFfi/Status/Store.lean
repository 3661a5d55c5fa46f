import FrameworkFfi.Library.Queue

/-!
# The device-error store

Messages of device errors stay in the process: a store hands out an id and
keeps the last `storedDeviceErrorLimit` messages in a queue. The id counter
wraps, as an atomic `i32` does. A draw of an id and the push of its entry are
two steps; `store` makes both at once.
-/

namespace FrameworkFfi

/-- `STORED_DEVICE_ERROR_LIMIT`. -/
def storedDeviceErrorLimit : ℕ := 64

/-- `NEXT_DEVICE_ERROR_ID` and `DEVICE_ERROR_MESSAGES`. -/
@[ext] structure DeviceErrorStore where
  nextDeviceErrorId : Int32
  deviceErrorMessages : List (Int32 × String)
  deriving DecidableEq

namespace DeviceErrorStore

def initial : DeviceErrorStore := ⟨1, []⟩

/-- `NEXT_DEVICE_ERROR_ID.fetch_add(1)`. -/
def fetchAdd (store : DeviceErrorStore) : Int32 × DeviceErrorStore :=
  (store.nextDeviceErrorId, { store with nextDeviceErrorId := store.nextDeviceErrorId + 1 })

/-- The part of `store_device_error_message` under the lock: push the entry and
remove entries from the front while there are too many. -/
def push (store : DeviceErrorStore) (id : Int32) (message : String) : DeviceErrorStore :=
  { store with
    deviceErrorMessages :=
      BoundedQueue.push storedDeviceErrorLimit store.deviceErrorMessages (id, message) }

/-- `store_device_error_message`. -/
def storeDeviceErrorMessage (store : DeviceErrorStore) (message : String) :
    Int32 × DeviceErrorStore :=
  let (id, store) := store.fetchAdd
  (id, store.push id message)

/-- `get_device_error_message`. -/
def getDeviceErrorMessage (store : DeviceErrorStore) (detail : Int32) : Option String :=
  if detail ≤ 0 then none
  else BoundedQueue.lookup store.deviceErrorMessages detail

@[simp] theorem nextDeviceErrorId_storeDeviceErrorMessage (store : DeviceErrorStore)
    (message : String) :
    (store.storeDeviceErrorMessage message).2.nextDeviceErrorId =
      store.nextDeviceErrorId + 1 := rfl

@[simp] theorem deviceErrorMessages_storeDeviceErrorMessage (store : DeviceErrorStore)
    (message : String) :
    (store.storeDeviceErrorMessage message).2.deviceErrorMessages =
      BoundedQueue.push storedDeviceErrorLimit store.deviceErrorMessages
        (store.nextDeviceErrorId, message) := rfl

/-! ### Many messages -/

/-- The store after these messages, in this order. -/
def storeAll (store : DeviceErrorStore) (messages : List String) : DeviceErrorStore :=
  messages.foldl (fun store message => (store.storeDeviceErrorMessage message).2) store

@[simp] theorem storeAll_nil (store : DeviceErrorStore) : store.storeAll [] = store := rfl

@[simp] theorem storeAll_cons (store : DeviceErrorStore) (message : String)
    (messages : List String) : store.storeAll (message :: messages) =
      (store.storeDeviceErrorMessage message).2.storeAll messages := rfl

theorem storeAll_append (store : DeviceErrorStore) (messages more : List String) :
    store.storeAll (messages ++ more) = (store.storeAll messages).storeAll more :=
  List.foldl_append

theorem nextDeviceErrorId_storeAll (store : DeviceErrorStore) (messages : List String) :
    (store.storeAll messages).nextDeviceErrorId =
      store.nextDeviceErrorId + Int32.ofNat messages.length := by
  induction messages generalizing store with
  | nil => exact (Int32.add_zero _).symm
  | cons message messages ih =>
      have hone : (1 : Int32) + Int32.ofNat messages.length =
          Int32.ofNat (messages.length + 1) := by
        rw [Int32.ofNat_add, Int32.add_comm]
        rfl
      rw [storeAll_cons, ih, nextDeviceErrorId_storeDeviceErrorMessage, Int32.add_assoc, hone,
        List.length_cons]

/-- Every message moves the counter, so only no message leaves the store alone. -/
theorem storeAll_eq_self_iff {store : DeviceErrorStore} {messages : List String}
    (h : messages.length < 2 ^ 31) : store.storeAll messages = store ↔ messages = [] := by
  constructor
  · intro hself
    have hid := congrArg nextDeviceErrorId hself
    rw [nextDeviceErrorId_storeAll] at hid
    have hzero : Int32.ofNat messages.length = 0 := Int32.add_eq_left.mp hid
    have hint := congrArg Int32.toInt hzero
    rw [Int32.toInt_ofNat_of_lt h, Int32.toInt_zero] at hint
    exact List.length_eq_zero_iff.mp (by omega)
  · intro hnil
    rw [hnil, storeAll_nil]

theorem exists_pushed_storeAll (store : DeviceErrorStore) (messages : List String) :
    ∃ pushed : List (Int32 × String), pushed.length = messages.length ∧
      (store.storeAll messages).deviceErrorMessages =
        pushed.foldl (BoundedQueue.push storedDeviceErrorLimit) store.deviceErrorMessages := by
  induction messages generalizing store with
  | nil => exact ⟨[], rfl, rfl⟩
  | cons message messages ih =>
      obtain ⟨pushed, hlength, hqueue⟩ := ih (store.storeDeviceErrorMessage message).2
      refine ⟨(store.nextDeviceErrorId, message) :: pushed, ?_, ?_⟩
      · rw [List.length_cons, List.length_cons, hlength]
      · rw [storeAll_cons, hqueue, List.foldl_cons, deviceErrorMessages_storeDeviceErrorMessage]

/-- A stored entry stays while fewer than `storedDeviceErrorLimit` messages follow. -/
theorem mem_storeAll (store : DeviceErrorStore) (message : String) {messages : List String}
    (h : messages.length < storedDeviceErrorLimit) :
    (store.nextDeviceErrorId, message) ∈
      ((store.storeDeviceErrorMessage message).2.storeAll messages).deviceErrorMessages := by
  obtain ⟨pushed, hlength, hqueue⟩ :=
    exists_pushed_storeAll (store.storeDeviceErrorMessage message).2 messages
  have hwindow : (store.storeDeviceErrorMessage message).2.deviceErrorMessages =
      BoundedQueue.window storedDeviceErrorLimit
        (store.deviceErrorMessages ++ [(store.nextDeviceErrorId, message)]) :=
    BoundedQueue.trim_eq_window _ _
  rw [hqueue, hwindow, BoundedQueue.foldl_push_window, BoundedQueue.mem_window_iff]
  refine ⟨store.deviceErrorMessages.length, ?_, ?_⟩
  · rw [List.append_assoc, List.getElem?_append_right (Nat.le_refl _), Nat.sub_self]
    rfl
  · simp only [List.length_append, List.length_singleton]
    omega

end DeviceErrorStore

end FrameworkFfi
