import FrameworkFfi.Status.Store
import Mathlib.Data.List.Nodup
import Mathlib.Logic.Function.Basic
import Mathlib.Logic.Relation

/-!
# Stores from many threads

A thread that stores a message draws an id without the lock and pushes its entry
under it, and other threads can draw and push in between. The system keeps the
store, the draw each thread has not pushed yet, and the history of all draws and
of all pushes. The queue is the window of the push history, so a token resolves
exactly while fewer than 64 pushes followed its own.
-/

namespace FrameworkFfi

/-- The store, the open draw of every thread and the histories. -/
structure StoreSystem (Thread : Type) where
  store : DeviceErrorStore
  pending : Thread → Option (Int32 × String)
  drawn : List (Int32 × String)
  pushed : List (Int32 × String)

namespace StoreSystem

variable {Thread : Type}

def initial : StoreSystem Thread := ⟨.initial, fun _ => none, [], []⟩

/-- The ids the counter can hand out before it wraps. -/
def idLimit : ℕ := 2 ^ 31 - 1

/-- The id of the `k`-th draw. -/
def idOf (k : ℕ) : Int32 := Int32.ofNat (k + 1)

theorem toInt_idOf {k : ℕ} (h : k < idLimit) : (idOf k).toInt = k + 1 := by
  rw [idOf, Int32.toInt_ofNat_of_lt (by rw [idLimit] at h; omega)]
  rfl

theorem idOf_inj {j k : ℕ} (hj : j < idLimit) (hk : k < idLimit) (h : idOf j = idOf k) :
    j = k := by
  have hint := congrArg Int32.toInt h
  rw [toInt_idOf hj, toInt_idOf hk] at hint
  omega

theorem idOf_pos {k : ℕ} (h : k < idLimit) : 0 < idOf k := by
  rw [Int32.lt_iff_toInt_lt, toInt_idOf h, Int32.toInt_zero]
  omega

/-- What holds in every reachable state as long as the counter has not wrapped. -/
structure Invariant (s : StoreSystem Thread) : Prop where
  next : s.store.nextDeviceErrorId = idOf s.drawn.length
  drawnIds : ∀ k entry, s.drawn[k]? = some entry → entry.1 = idOf k
  queue : s.store.deviceErrorMessages = BoundedQueue.window storedDeviceErrorLimit s.pushed
  pendingDrawn : ∀ thread entry, s.pending thread = some entry → entry ∈ s.drawn
  pushedDrawn : ∀ entry ∈ s.pushed, entry ∈ s.drawn
  pushedIds : (s.pushed.map Prod.fst).Nodup
  pendingIds : ∀ thread entry, s.pending thread = some entry → entry.1 ∉ s.pushed.map Prod.fst
  pendingInj : ∀ thread thread' entry entry', s.pending thread = some entry →
    s.pending thread' = some entry' → entry.1 = entry'.1 → thread = thread'

theorem invariant_initial : Invariant (initial : StoreSystem Thread) where
  next := rfl
  drawnIds := by simp [initial]
  queue := rfl
  pendingDrawn := by simp [initial]
  pushedDrawn := by simp [initial]
  pushedIds := by simp [initial]
  pendingIds := by simp [initial]
  pendingInj := by simp [initial]

theorem next_idOf (k : ℕ) : idOf k + 1 = idOf (k + 1) := by
  rw [idOf, idOf, Int32.ofNat_add (k + 1) 1]
  rfl

theorem Invariant.ne_next {s : StoreSystem Thread} (h : Invariant s)
    (hlimit : s.drawn.length < idLimit) {entry : Int32 × String} (hentry : entry ∈ s.drawn) :
    entry.1 ≠ idOf s.drawn.length := by
  obtain ⟨k, hk⟩ := List.mem_iff_getElem?.mp hentry
  have hlt := (List.getElem?_eq_some_iff.mp hk).1
  rw [h.drawnIds k entry hk]
  intro heq
  have := idOf_inj (by omega) hlimit heq
  omega

theorem Invariant.drawnIds_nodup {s : StoreSystem Thread} (h : Invariant s)
    (hlimit : s.drawn.length < idLimit) : (s.drawn.map Prod.fst).Nodup := by
  rw [List.nodup_iff_injective_get]
  intro i j heq
  have hi : i.val < s.drawn.length := by simpa using i.isLt
  have hj : j.val < s.drawn.length := by simpa using j.isLt
  have hget : ∀ k : Fin (s.drawn.map Prod.fst).length, ∀ hk : k.val < s.drawn.length,
      (s.drawn.map Prod.fst).get k = idOf k := by
    intro k hk
    rw [List.get_eq_getElem, List.getElem_map]
    exact h.drawnIds k _ (List.getElem?_eq_getElem hk)
  rw [hget i hi, hget j hj] at heq
  exact Fin.ext (idOf_inj (by omega) (by omega) heq)

theorem Invariant.queueIds_nodup {s : StoreSystem Thread} (h : Invariant s) :
    (s.store.deviceErrorMessages.map Prod.fst).Nodup := by
  rw [h.queue]
  exact h.pushedIds.sublist ((BoundedQueue.window_sublist _ _).map _)

theorem Invariant.pos_of_mem_drawn {s : StoreSystem Thread} (h : Invariant s)
    (hlimit : s.drawn.length < idLimit) {entry : Int32 × String} (hentry : entry ∈ s.drawn) :
    0 < entry.1 := by
  obtain ⟨k, hk⟩ := List.mem_iff_getElem?.mp hentry
  have hlt := (List.getElem?_eq_some_iff.mp hk).1
  rw [h.drawnIds k entry hk]
  exact idOf_pos (by omega)

/-- A token resolves to a message exactly when their entry is still queued. -/
theorem Invariant.getDeviceErrorMessage_eq_some_iff {s : StoreSystem Thread}
    (h : Invariant s) (hlimit : s.drawn.length < idLimit) (token : Int32) (message : String) :
    s.store.getDeviceErrorMessage token = some message ↔
      (token, message) ∈ s.store.deviceErrorMessages := by
  have hlookup := BoundedQueue.lookup_eq_some_iff h.queueIds_nodup token message
  unfold DeviceErrorStore.getDeviceErrorMessage
  constructor
  · intro hget
    split_ifs at hget
    exact hlookup.mp hget
  · intro hmem
    have hdrawn : (token, message) ∈ s.drawn := by
      refine h.pushedDrawn _ ?_
      rw [h.queue] at hmem
      exact (BoundedQueue.window_sublist _ _).subset hmem
    have hpos := h.pos_of_mem_drawn hlimit hdrawn
    rw [if_neg (Int32.not_le.mpr hpos)]
    exact hlookup.mpr hmem

/-! ### The steps of the threads -/

variable [DecidableEq Thread]

/-- `fetch_add` by a thread that is about to store `message`. -/
def draw (s : StoreSystem Thread) (thread : Thread) (message : String) :
    StoreSystem Thread :=
  { store := s.store.fetchAdd.2
    pending := Function.update s.pending thread (some (s.store.fetchAdd.1, message))
    drawn := s.drawn ++ [(s.store.fetchAdd.1, message)]
    pushed := s.pushed }

/-- The part of a store under the lock. -/
def push (s : StoreSystem Thread) (thread : Thread) (entry : Int32 × String) :
    StoreSystem Thread :=
  { store := s.store.push entry.1 entry.2
    pending := Function.update s.pending thread none
    drawn := s.drawn
    pushed := s.pushed ++ [entry] }

/-- The atomic steps. A lookup reads under the lock and changes nothing. -/
inductive Step : StoreSystem Thread → StoreSystem Thread → Prop where
  | draw (s : StoreSystem Thread) (thread : Thread) (message : String)
      (h : s.pending thread = none) : Step s (s.draw thread message)
  | push (s : StoreSystem Thread) (thread : Thread) (entry : Int32 × String)
      (h : s.pending thread = some entry) : Step s (s.push thread entry)
  | lookup (s : StoreSystem Thread) (token : Int32) (answer : Option String)
      (h : answer = s.store.getDeviceErrorMessage token) : Step s s

def Reachable (s : StoreSystem Thread) : Prop := Relation.ReflTransGen Step initial s

theorem pending_draw_eq (s : StoreSystem Thread) (thread : Thread) (message : String) :
    (s.draw thread message).pending =
      Function.update s.pending thread (some (s.store.nextDeviceErrorId, message)) := rfl

theorem pending_push_eq (s : StoreSystem Thread) (thread : Thread) (entry : Int32 × String) :
    (s.push thread entry).pending = Function.update s.pending thread none := rfl

theorem pending_draw {s : StoreSystem Thread} {thread other : Thread} {message : String}
    {entry : Int32 × String} (h : (s.draw thread message).pending other = some entry) :
    (other = thread ∧ entry = (s.store.nextDeviceErrorId, message)) ∨
      s.pending other = some entry := by
  by_cases hother : other = thread
  · subst hother
    rw [pending_draw_eq, Function.update_self, Option.some.injEq] at h
    exact .inl ⟨rfl, h.symm⟩
  · rw [pending_draw_eq, Function.update_of_ne hother] at h
    exact .inr h

theorem pending_push {s : StoreSystem Thread} {thread other : Thread}
    {pushed entry : Int32 × String} (h : (s.push thread pushed).pending other = some entry) :
    other ≠ thread ∧ s.pending other = some entry := by
  by_cases hother : other = thread
  · subst hother
    rw [pending_push_eq, Function.update_self] at h
    cases h
  · rw [pending_push_eq, Function.update_of_ne hother] at h
    exact ⟨hother, h⟩

theorem mem_drawn_draw {s : StoreSystem Thread} {thread : Thread} {message : String}
    {entry : Int32 × String} (h : entry ∈ s.drawn) : entry ∈ (s.draw thread message).drawn :=
  List.mem_append_left _ h

/-- An entry of a list with one more is an old one or the last. -/
theorem getElem?_concat_eq_some {α : Type} {l : List α} {a b : α} {k : ℕ}
    (h : (l ++ [a])[k]? = some b) : l[k]? = some b ∨ k = l.length ∧ b = a := by
  rcases Nat.lt_trichotomy k l.length with hlt | rfl | hgt
  · exact .inl ((List.getElem?_append_left hlt).symm.trans h)
  · rw [List.getElem?_concat_length, Option.some.injEq] at h
    exact .inr ⟨rfl, h.symm⟩
  · have hlength : (l ++ [a]).length ≤ k := by simpa using Nat.succ_le_of_lt hgt
    rw [List.getElem?_eq_none hlength] at h
    cases h

/-- A draw takes an id that no thread and no push has. -/
theorem Invariant.draw {s : StoreSystem Thread} (h : Invariant s)
    (hlimit : s.drawn.length < idLimit) (thread : Thread) (message : String) :
    Invariant (s.draw thread message) where
  next := by
    show s.store.nextDeviceErrorId + 1 = idOf (s.drawn ++ [_]).length
    rw [h.next, next_idOf, List.length_append, List.length_singleton]
  drawnIds := by
    intro k entry hk
    rcases getElem?_concat_eq_some hk with hold | ⟨rfl, rfl⟩
    · exact h.drawnIds k entry hold
    · exact h.next
  queue := h.queue
  pendingDrawn := by
    intro other entry hpending
    rcases pending_draw hpending with ⟨-, rfl⟩ | hold
    · exact List.mem_append_right _ (List.mem_singleton_self _)
    · exact mem_drawn_draw (h.pendingDrawn other entry hold)
  pushedDrawn := fun entry hentry => mem_drawn_draw (h.pushedDrawn entry hentry)
  pushedIds := h.pushedIds
  pendingIds := by
    intro other entry hpending hmem
    rcases pending_draw hpending with ⟨-, rfl⟩ | hold
    · obtain ⟨pushed, hpushed, heq⟩ := List.mem_map.mp hmem
      exact h.ne_next hlimit (h.pushedDrawn pushed hpushed) (heq.trans h.next)
    · exact h.pendingIds other entry hold hmem
  pendingInj := by
    intro other other' entry entry' hpending hpending' heq
    rcases pending_draw hpending with ⟨rfl, rfl⟩ | hold
    · rcases pending_draw hpending' with ⟨rfl, rfl⟩ | hold'
      · rfl
      · exact absurd (heq.symm.trans h.next) (h.ne_next hlimit (h.pendingDrawn _ _ hold'))
    · rcases pending_draw hpending' with ⟨rfl, rfl⟩ | hold'
      · exact absurd (heq.trans h.next) (h.ne_next hlimit (h.pendingDrawn _ _ hold))
      · exact h.pendingInj other other' entry entry' hold hold' heq

/-- A push keeps the ids of the queue apart: the pushed id was open in one thread. -/
theorem Invariant.push {s : StoreSystem Thread} (h : Invariant s) {thread : Thread}
    {pushed : Int32 × String} (hthread : s.pending thread = some pushed) :
    Invariant (s.push thread pushed) where
  next := h.next
  drawnIds := h.drawnIds
  queue := by
    show BoundedQueue.push _ s.store.deviceErrorMessages _ = _
    rw [h.queue]
    exact BoundedQueue.push_window _ _ _
  pendingDrawn := fun other entry hpending =>
    h.pendingDrawn other entry (pending_push hpending).2
  pushedDrawn := by
    intro entry hentry
    rcases List.mem_append.mp hentry with hold | hnew
    · exact h.pushedDrawn entry hold
    · rw [List.mem_singleton.mp hnew]
      exact h.pendingDrawn thread _ hthread
  pushedIds := by
    show ((s.pushed ++ [pushed]).map Prod.fst).Nodup
    rw [List.map_append, List.nodup_append]
    refine ⟨h.pushedIds, List.nodup_singleton _, ?_⟩
    intro old hold new hnew heq
    rw [List.map_singleton, List.mem_singleton] at hnew
    refine h.pendingIds thread _ hthread ?_
    rw [← hnew, ← heq]
    exact hold
  pendingIds := by
    intro other entry hpending hmem
    obtain ⟨hne, hold⟩ := pending_push hpending
    have hmem : entry.1 ∈ (s.pushed ++ [pushed]).map Prod.fst := hmem
    rw [List.map_append, List.mem_append, List.map_singleton, List.mem_singleton] at hmem
    rcases hmem with hbefore | hnow
    · exact h.pendingIds other entry hold hbefore
    · exact hne (h.pendingInj other thread entry pushed hold hthread hnow)
  pendingInj := fun other other' entry entry' hpending hpending' heq =>
    h.pendingInj other other' entry entry' (pending_push hpending).2 (pending_push hpending').2
      heq

theorem Invariant.step {s s' : StoreSystem Thread} (h : Invariant s)
    (hlimit : s.drawn.length < idLimit) (hstep : Step s s') : Invariant s' := by
  cases hstep with
  | draw thread message _ => exact h.draw hlimit thread message
  | push thread entry hthread => exact h.push hthread
  | lookup token answer _ => exact h

theorem length_drawn_le {s s' : StoreSystem Thread} (hstep : Step s s') :
    s.drawn.length ≤ s'.drawn.length := by
  cases hstep with
  | draw thread message _ =>
      show s.drawn.length ≤ (s.drawn ++ [_]).length
      rw [List.length_append]
      exact Nat.le_add_right _ _
  | push thread entry _ => exact Nat.le_refl _
  | lookup token answer _ => exact Nat.le_refl _

/-- The invariant holds in every state reached while fewer than `idLimit` ids
have been drawn, whatever the order of the steps. -/
theorem invariant_of_reachable {s : StoreSystem Thread} (h : Reachable s)
    (hlimit : s.drawn.length < idLimit) : Invariant s := by
  induction h with
  | refl => exact invariant_initial
  | tail _ hstep ih =>
      have hle := length_drawn_le hstep
      exact (ih (by omega)).step (by omega) hstep

/-- In every interleaving that has drawn fewer than `2 ^ 31 - 1` ids, the queue
holds at most 64 entries with distinct positive ids, a token resolves to a
message exactly when the store that drew both has pushed and fewer than 64
pushes followed, and no token is drawn with two messages. -/
theorem reachable_store {s : StoreSystem Thread} (h : Reachable s)
    (hlimit : s.drawn.length < 2 ^ 31 - 1) :
    s.store.deviceErrorMessages.length ≤ 64 ∧
      (s.store.deviceErrorMessages.map Prod.fst).Nodup ∧
      (∀ entry ∈ s.store.deviceErrorMessages, 0 < entry.1) ∧
      (∀ token message, s.store.getDeviceErrorMessage token = some message ↔
        (token, message) ∈ s.drawn ∧
          ∃ k, s.pushed[k]? = some (token, message) ∧ s.pushed.length - (k + 1) < 64) ∧
      (∀ token message message', (token, message) ∈ s.drawn → (token, message') ∈ s.drawn →
        message = message') := by
  have hinv := invariant_of_reachable h hlimit
  have hsubset : ∀ entry ∈ s.store.deviceErrorMessages, entry ∈ s.drawn := by
    intro entry hentry
    rw [hinv.queue] at hentry
    exact hinv.pushedDrawn entry ((BoundedQueue.window_sublist _ _).subset hentry)
  refine ⟨?_, hinv.queueIds_nodup, ?_, ?_, ?_⟩
  · rw [hinv.queue]
    exact BoundedQueue.length_window_le _ _
  · intro entry hentry
    exact hinv.pos_of_mem_drawn hlimit (hsubset entry hentry)
  · intro token message
    rw [hinv.getDeviceErrorMessage_eq_some_iff hlimit]
    constructor
    · intro hmem
      refine ⟨hsubset _ hmem, ?_⟩
      rw [hinv.queue] at hmem
      exact (BoundedQueue.mem_window_iff _ _ _).mp hmem
    · rintro ⟨-, hpushed⟩
      rw [hinv.queue]
      exact (BoundedQueue.mem_window_iff _ _ _).mpr hpushed
  · intro token message message' hmem hmem'
    have hpair := List.inj_on_of_nodup_map (hinv.drawnIds_nodup hlimit) hmem hmem' rfl
    exact congrArg Prod.snd hpair

/-- Two threads of which the second pushes first. -/
def overtaken : StoreSystem Bool :=
  (((initial.draw false "a").draw true "b").push true (2, "b")).push false (1, "a")

theorem reachable_overtaken : Reachable overtaken :=
  (((Relation.ReflTransGen.refl.tail (.draw _ false "a" rfl)).tail (.draw _ true "b" rfl)).tail
    (.push _ true (2, "b") rfl)).tail (.push _ false (1, "a") rfl)

theorem reachable_store_overtaken :
    overtaken.store.deviceErrorMessages.length ≤ 64 ∧
      overtaken.store.deviceErrorMessages = [(2, "b"), (1, "a")] :=
  ⟨(reachable_store reachable_overtaken (by decide)).1, by decide⟩

end StoreSystem

end FrameworkFfi
