import FrameworkFfi.Thermal.Lossless
import FrameworkFfi.Versions

/-!
# The polls of an audio card

A poll writes the request and reads into a buffer that starts as a copy of the
request. A read can deliver fewer bytes than the buffer has, so what the buffer
shows after a poll is made of the reads so far and of the request. The exchange
ends with the first poll after which the buffer shows the reply id, whichever
read the other bytes come from.
-/

namespace FrameworkFfi

open Effect LittleEndian

def capeWrite (device : UsbDevice) (interface : UInt8) : HostRequest :=
  .usbWriteControl device.address interface capeRequest

def capeRead (device : UsbDevice) (interface : UInt8) : HostRequest :=
  .usbReadControl device.address interface capeRequest.length

theorem capeRead_ne_capeWrite (device : UsbDevice) (interface : UInt8) :
    capeRead device interface ≠ capeWrite device interface := by
  simp [capeRead, capeWrite]

namespace Machine

/-- Whether the write of poll `k` goes through. -/
def capeWrote (m : Machine) (w : World) (device : UsbDevice) (interface : UInt8) (k : ℕ) :
    Bool :=
  m.answer (.usbWriteControl device.address interface capeRequest)
    (w.asked (capeWrite device interface) + k)

/-- What the read of poll `k` delivers. -/
def capeDelivered (m : Machine) (w : World) (device : UsbDevice) (interface : UInt8) (k : ℕ) :
    Option (List UInt8) :=
  m.answer (.usbReadControl device.address interface capeRequest.length)
    (w.asked (capeRead device interface) + k)

/-- The buffer after `k` polls. -/
def capeBuffer (m : Machine) (w : World) (device : UsbDevice) (interface : UInt8) :
    ℕ → List UInt8
  | 0 => capeRequest
  | k + 1 => overwritten (m.capeBuffer w device interface k)
      ((m.capeDelivered w device interface k).getD [])

/-- The buffer shows the reply id after poll `k`. -/
def CapeReady (m : Machine) (w : World) (device : UsbDevice) (interface : UInt8) (k : ℕ) :
    Prop :=
  capeCommandId (m.capeBuffer w device interface (k + 1)) = capeGetVersionReply

/-- The first `k` polls go through, and the card is not ready after any of them. -/
structure PollsTo (m : Machine) (w : World) (device : UsbDevice) (interface : UInt8) (k : ℕ) :
    Prop where
  wrote : ∀ j < k, m.capeWrote w device interface j = true
  delivered : ∀ j < k, (m.capeDelivered w device interface j).isSome
  waiting : ∀ j < k, ¬ m.CapeReady w device interface j

/-- Poll `k` is made, and its read delivers these bytes. -/
structure Delivers (m : Machine) (w : World) (device : UsbDevice) (interface : UInt8) (k : ℕ)
    (bytes : List UInt8) : Prop where
  limit : k < capeMaxPolls
  polls : m.PollsTo w device interface k
  wrote : m.capeWrote w device interface k = true
  read : m.capeDelivered w device interface k = some bytes

end Machine

/-- One read that has the reply id `0x8103`, low byte first, and the three words of the
version. -/
def GenuineReply (bytes : List UInt8) : Prop :=
  (bytes.getD 4 0 = 0x03 ∧ bytes.getD 5 0 = 0x81) ∧ 22 ≤ bytes.length

/-! ### The buffer -/

section Buffer

variable {response bytes : List UInt8}

theorem length_overwritten (response bytes : List UInt8) :
    (overwritten response bytes).length = response.length := by
  rw [overwritten, List.length_append, List.length_take, List.length_drop]
  omega

theorem getD_overwritten {j : ℕ} (hbytes : j < bytes.length) (hresponse : j < response.length) :
    (overwritten response bytes).getD j 0 = bytes.getD j 0 := by
  have htake : j < (bytes.take response.length).length := by
    rw [List.length_take]
    omega
  rw [overwritten, List.getD_eq_getElem?_getD, List.getD_eq_getElem?_getD,
    List.getElem?_append_left htake, List.getElem?_take_of_lt hresponse]

variable {m : Machine} {w : World} {device : UsbDevice} {interface : UInt8} {k : ℕ}

theorem length_capeBuffer (m : Machine) (w : World) (device : UsbDevice) (interface : UInt8)
    (k : ℕ) : (m.capeBuffer w device interface k).length = 62 := by
  induction k with
  | zero => rfl
  | succ k ih => rw [Machine.capeBuffer, length_overwritten, ih]

theorem Machine.Delivers.buffer (h : m.Delivers w device interface k bytes) :
    m.capeBuffer w device interface (k + 1) =
      overwritten (m.capeBuffer w device interface k) bytes := by
  rw [Machine.capeBuffer, h.read, Option.getD_some]

theorem Machine.Delivers.getD_buffer (h : m.Delivers w device interface k bytes)
    (hlength : 22 ≤ bytes.length) {j : ℕ} (hj : j < 22) :
    (m.capeBuffer w device interface (k + 1)).getD j 0 = bytes.getD j 0 := by
  rw [h.buffer]
  refine getD_overwritten (by omega) ?_
  rw [length_capeBuffer]
  omega

/-- After a long read the buffer has the id and the version of that read. -/
theorem Machine.Delivers.capeCommandId_buffer (h : m.Delivers w device interface k bytes)
    (hlength : 22 ≤ bytes.length) :
    capeCommandId (m.capeBuffer w device interface (k + 1)) = capeCommandId bytes := by
  rw [capeCommandId, capeCommandId, h.getD_buffer hlength (by decide),
    h.getD_buffer hlength (by decide)]

theorem Machine.Delivers.capeVersion_buffer (h : m.Delivers w device interface k bytes)
    (hlength : 22 ≤ bytes.length) :
    capeVersion (m.capeBuffer w device interface (k + 1)) = capeVersion bytes := by
  have hbyte : ∀ word < 3, capeDataByte (m.capeBuffer w device interface (k + 1)) word =
      capeDataByte bytes word := fun word hword => h.getD_buffer hlength (by omega)
  rw [capeVersion, capeVersion, hbyte 0 (by decide), hbyte 1 (by decide), hbyte 2 (by decide)]

theorem capeCommandId_eq_reply_iff {bytes : List UInt8} :
    capeCommandId bytes = capeGetVersionReply ↔
      bytes.getD 4 0 = 0x03 ∧ bytes.getD 5 0 = 0x81 := by
  have hlow := (bytes.getD 4 0).toNat_lt
  have hhigh := (bytes.getD 5 0).toNat_lt
  have hvalue : (capeCommandId bytes).toNat =
      (bytes.getD 4 0).toNat + 256 * (bytes.getD 5 0).toNat := by
    rw [capeCommandId, u16FromLeBytes_eq, UInt16.toNat_ofNat', leValue_cons, leValue_cons,
      leValue_nil]
    omega
  have hreply : capeGetVersionReply.toNat = 0x8103 := rfl
  rw [← UInt16.toNat_inj, ← UInt8.toNat_inj, ← UInt8.toNat_inj, hvalue, hreply]
  show _ ↔ (bytes.getD 4 0).toNat = 0x03 ∧ (bytes.getD 5 0).toNat = 0x81
  omega

theorem Machine.Delivers.ready_of_genuine (h : m.Delivers w device interface k bytes)
    (hgenuine : GenuineReply bytes) : m.CapeReady w device interface k :=
  (h.capeCommandId_buffer hgenuine.2).trans (capeCommandId_eq_reply_iff.mpr hgenuine.1)

theorem Machine.Delivers.genuine_of_ready (h : m.Delivers w device interface k bytes)
    (hready : m.CapeReady w device interface k) (hlength : 22 ≤ bytes.length) :
    GenuineReply bytes :=
  ⟨capeCommandId_eq_reply_iff.mp ((h.capeCommandId_buffer hlength).symm.trans hready), hlength⟩

/-- No poll follows the one after which the card is ready. -/
theorem Machine.Delivers.unique {k' : ℕ} {bytes' : List UInt8}
    (h : m.Delivers w device interface k bytes) (hready : m.CapeReady w device interface k)
    (h' : m.Delivers w device interface k' bytes')
    (hready' : m.CapeReady w device interface k') : k' = k ∧ bytes' = bytes := by
  have hk : k' = k := by
    rcases Nat.lt_trichotomy k' k with hlt | heq | hlt
    · exact absurd hready' (h.polls.waiting k' hlt)
    · exact heq
    · exact absurd hready (h'.polls.waiting k hlt)
  subst hk
  exact ⟨rfl, Option.some.inj (h'.read.symm.trans h.read)⟩

end Buffer

/-! ### A run of the polls -/

section Polls

variable {m : Machine} {w : World} {device : UsbDevice} {interface : UInt8}

/-- The requests of at most `polls` polls. -/
structure PollRequests (device : UsbDevice) (interface : UInt8) (polls : ℕ)
    (requests : List HostRequest) : Prop where
  control : ∀ request ∈ requests,
    request = capeWrite device interface ∨ request = capeRead device interface
  writes : requests.count (capeWrite device interface) ≤ polls
  reads : requests.count (capeRead device interface) ≤ polls

theorem pollRequests_nil (device : UsbDevice) (interface : UInt8) (polls : ℕ) :
    PollRequests device interface polls [] where
  control := by simp
  writes := Nat.zero_le _
  reads := Nat.zero_le _

theorem pollRequests_write (device : UsbDevice) (interface : UInt8) (polls : ℕ) :
    PollRequests device interface (polls + 1) [capeWrite device interface] where
  control := by simp
  writes := by rw [List.count_singleton_self]; omega
  reads := by
    rw [List.count_singleton, capeWrite, capeRead]
    exact Nat.zero_le _

theorem PollRequests.poll {polls : ℕ} {requests : List HostRequest}
    (h : PollRequests device interface polls requests) :
    PollRequests device interface (polls + 1)
      (capeWrite device interface :: capeRead device interface :: requests) where
  control := by
    intro request hrequest
    rcases List.mem_cons.mp hrequest with hwrite | hrest
    · exact .inl hwrite
    · rcases List.mem_cons.mp hrest with hread | hmore
      · exact .inr hread
      · exact h.control request hmore
  writes := by
    rw [List.count_cons_self, List.count_cons_of_ne (capeRead_ne_capeWrite device interface)]
    exact Nat.succ_le_succ h.writes
  reads := by
    rw [List.count_cons_of_ne (capeRead_ne_capeWrite device interface).symm,
      List.count_cons_self]
    exact Nat.succ_le_succ h.reads

/-- What a run of the polls returns: the buffer after the poll that makes the card
ready. -/
def PollsAnswer (m : Machine) (w : World) (device : UsbDevice) (interface : UInt8)
    (result : Option (List UInt8)) : Prop :=
  ∀ response, result = some response ↔ ∃ k bytes, m.Delivers w device interface k bytes ∧
    m.CapeReady w device interface k ∧ response = m.capeBuffer w device interface (k + 1)

theorem Machine.PollsTo.mono {k k' : ℕ} (h : m.PollsTo w device interface k') (hk : k ≤ k') :
    m.PollsTo w device interface k where
  wrote j hj := h.wrote j (by omega)
  delivered j hj := h.delivered j (by omega)
  waiting j hj := h.waiting j (by omega)

theorem Machine.PollsTo.succ {k : ℕ} {bytes : List UInt8}
    (h : m.PollsTo w device interface k) (hwrote : m.capeWrote w device interface k = true)
    (hread : m.capeDelivered w device interface k = some bytes)
    (hwaiting : ¬ m.CapeReady w device interface k) : m.PollsTo w device interface (k + 1) where
  wrote j hj := by
    rcases Nat.lt_succ_iff_lt_or_eq.mp hj with hlt | rfl
    · exact h.wrote j hlt
    · exact hwrote
  delivered j hj := by
    rcases Nat.lt_succ_iff_lt_or_eq.mp hj with hlt | rfl
    · exact h.delivered j hlt
    · rw [hread]
      rfl
  waiting j hj := by
    rcases Nat.lt_succ_iff_lt_or_eq.mp hj with hlt | rfl
    · exact h.waiting j hlt
    · exact hwaiting

theorem pollsAnswer_none {k : ℕ} (hpolls : m.PollsTo w device interface k)
    (hstop : ¬ m.PollsTo w device interface (k + 1) ∨ k = capeMaxPolls)
    (hwaiting : ∀ bytes, m.Delivers w device interface k bytes →
      ¬ m.CapeReady w device interface k) :
    PollsAnswer m w device interface none := by
  intro response
  refine iff_of_false (by simp) ?_
  rintro ⟨k', bytes, hdelivers, hready, -⟩
  rcases Nat.lt_trichotomy k' k with hlt | rfl | hlt
  · exact hpolls.waiting k' hlt hready
  · exact hwaiting bytes hdelivers hready
  · rcases hstop with hstop | rfl
    · exact hstop (hdelivers.polls.mono hlt)
    · exact Nat.lt_asymm hlt hdelivers.limit

theorem pollsAnswer_some {k : ℕ} {bytes : List UInt8}
    (hdelivers : m.Delivers w device interface k bytes)
    (hready : m.CapeReady w device interface k) :
    PollsAnswer m w device interface (some (m.capeBuffer w device interface (k + 1))) := by
  intro response
  constructor
  · intro hresponse
    exact ⟨k, bytes, hdelivers, hready, (Option.some.inj hresponse).symm⟩
  · rintro ⟨k', bytes', hdelivers', hready', rfl⟩
    rw [(hdelivers.unique hready hdelivers' hready').1]

theorem pollsAnswer_none_of_unwritten {k : ℕ} (hpolls : m.PollsTo w device interface k)
    (hwrote : m.capeWrote w device interface k = false) :
    PollsAnswer m w device interface none := by
  refine pollsAnswer_none hpolls (.inl fun h => ?_) fun bytes h => ?_
  · rw [h.wrote k (Nat.lt_succ_self k)] at hwrote
    cases hwrote
  · rw [h.wrote] at hwrote
    cases hwrote

theorem pollsAnswer_none_of_unread {k : ℕ} (hpolls : m.PollsTo w device interface k)
    (hread : m.capeDelivered w device interface k = none) :
    PollsAnswer m w device interface none := by
  refine pollsAnswer_none hpolls (.inl fun h => ?_) fun bytes h => ?_
  · have hsome := h.delivered k (Nat.lt_succ_self k)
    rw [hread] at hsome
    cases hsome
  · rw [h.read] at hread
    cases hread

/-- The world `u` has the counters that poll `k` from `w` starts with. -/
structure AtPoll (w u : World) (device : UsbDevice) (interface : UInt8) (k : ℕ) : Prop where
  writes : u.asked (capeWrite device interface) = w.asked (capeWrite device interface) + k
  reads : u.asked (capeRead device interface) = w.asked (capeRead device interface) + k

def World.polled (u : World) (device : UsbDevice) (interface : UInt8) : World :=
  (u.record (capeWrite device interface)).record (capeRead device interface)

section OnePoll

variable {u u' : World} {polls k : ℕ} {bytes : List UInt8} {result : Option (List UInt8)}

theorem AtPoll.polled (h : AtPoll w u device interface k) :
    AtPoll w (u.polled device interface) device interface (k + 1) where
  writes := by
    rw [World.polled, World.asked_record_of_ne _ (capeRead_ne_capeWrite device interface).symm,
      World.asked_record_self, h.writes, Nat.add_assoc]
  reads := by
    rw [World.polled, World.asked_record_self,
      World.asked_record_of_ne _ (capeRead_ne_capeWrite device interface), h.reads,
      Nat.add_assoc]

variable (hat : AtPoll w u device interface k)
include hat

theorem AtPoll.returns_write :
    Returns (ask (capeWrite device interface)) m u (m.capeWrote w device interface k)
      (u.record (capeWrite device interface)) := by
  apply returns_ask_of_eq
  rw [hat.writes]
  rfl

theorem AtPoll.returns_read :
    Returns (ask (capeRead device interface)) m (u.record (capeWrite device interface))
      (m.capeDelivered w device interface k) (u.polled device interface) := by
  apply returns_ask_of_eq
  rw [World.asked_record_of_ne u (capeRead_ne_capeWrite device interface), hat.reads]
  rfl

theorem returns_capePoll_of_unwritten (hwrote : m.capeWrote w device interface k = false) :
    Returns (capePoll device interface (polls + 1) (m.capeBuffer w device interface k)) m u none
      (u.record (capeWrite device interface)) := by
  have hwrite : Returns (ask (capeWrite device interface)) m u _ _ := hat.returns_write
  rw [hwrote] at hwrite
  exact returns_bind.mpr ⟨false, _, hwrite, returns_pure_self⟩

variable (hwrote : m.capeWrote w device interface k = true)
include hwrote

theorem returns_capePoll_of_unread (hread : m.capeDelivered w device interface k = none) :
    Returns (capePoll device interface (polls + 1) (m.capeBuffer w device interface k)) m u none
      (u.polled device interface) := by
  have hwrite : Returns (ask (capeWrite device interface)) m u _ _ := hat.returns_write
  have hdelivered : Returns (ask (capeRead device interface)) m _ _ _ := hat.returns_read
  rw [hwrote] at hwrite
  rw [hread] at hdelivered
  refine returns_bind.mpr ⟨true, _, hwrite, ?_⟩
  exact returns_bind.mpr ⟨none, _, hdelivered, returns_pure_self⟩

theorem returns_capePoll_of_read (hread : m.capeDelivered w device interface k = some bytes)
    (hrest : Returns
      (if capeCommandId (m.capeBuffer w device interface (k + 1)) = capeGetVersionReply then
        pure (some (m.capeBuffer w device interface (k + 1)))
      else capePoll device interface polls (m.capeBuffer w device interface (k + 1))) m
      (u.polled device interface) result u') :
    Returns (capePoll device interface (polls + 1) (m.capeBuffer w device interface k)) m u
      result u' := by
  have hwrite : Returns (ask (capeWrite device interface)) m u _ _ := hat.returns_write
  have hdelivered : Returns (ask (capeRead device interface)) m _ _ _ := hat.returns_read
  have hbuffer : m.capeBuffer w device interface (k + 1) =
      overwritten (m.capeBuffer w device interface k) bytes := by
    rw [Machine.capeBuffer, hread, Option.getD_some]
  rw [hwrote] at hwrite
  rw [hread] at hdelivered
  rw [hbuffer] at hrest
  refine returns_bind.mpr ⟨true, _, hwrite, ?_⟩
  exact returns_bind.mpr ⟨some bytes, _, hdelivered, hrest⟩

end OnePoll

theorem returns_capePoll {polls k : ℕ} (hk : k + polls = capeMaxPolls)
    (hpolls : m.PollsTo w device interface k) {u : World}
    (hat : AtPoll w u device interface k) :
    ∃ result requests,
      Returns (capePoll device interface polls (m.capeBuffer w device interface k)) m u result
        (u.recordAll requests) ∧
      PollRequests device interface polls requests ∧ PollsAnswer m w device interface result := by
  induction polls generalizing k u with
  | zero =>
      refine ⟨none, [], returns_pure_self, pollRequests_nil device interface 0, ?_⟩
      refine pollsAnswer_none hpolls (.inr hk) fun bytes hdelivers => ?_
      have hlimit := hdelivers.limit
      omega
  | succ polls ih =>
      cases hwrote : m.capeWrote w device interface k with
      | false =>
          exact ⟨none, [capeWrite device interface], returns_capePoll_of_unwritten hat hwrote,
            pollRequests_write device interface polls,
            pollsAnswer_none_of_unwritten hpolls hwrote⟩
      | true =>
          cases hread : m.capeDelivered w device interface k with
          | none =>
              exact ⟨none, _, returns_capePoll_of_unread hat hwrote hread,
                (pollRequests_nil device interface polls).poll,
                pollsAnswer_none_of_unread hpolls hread⟩
          | some bytes =>
              have hdelivers : m.Delivers w device interface k bytes :=
                ⟨by omega, hpolls, hwrote, hread⟩
              by_cases hready : m.CapeReady w device interface k
              · refine ⟨_, _, returns_capePoll_of_read hat hwrote hread ?_,
                  (pollRequests_nil device interface polls).poll,
                  pollsAnswer_some hdelivers hready⟩
                have hid : capeCommandId (m.capeBuffer w device interface (k + 1)) =
                    capeGetVersionReply := hready
                rw [if_pos hid]
                exact returns_pure_self
              · obtain ⟨result, requests, hrest, hrequests, hanswer⟩ :=
                  ih (by omega) (hpolls.succ hwrote hread hready) hat.polled
                refine ⟨result, _, returns_capePoll_of_read hat hwrote hread ?_, hrequests.poll,
                  hanswer⟩
                have hid : ¬ capeCommandId (m.capeBuffer w device interface (k + 1)) =
                    capeGetVersionReply := hready
                rw [if_neg hid]
                exact hrest

end Polls

end FrameworkFfi
