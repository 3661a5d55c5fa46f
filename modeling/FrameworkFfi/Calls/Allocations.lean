import FrameworkFfi.Calls.Steps
import Mathlib.Data.List.Pairwise
import Mathlib.Data.List.Perm.Subperm

/-!
# The buffers of a process

A caller gives back what it owns: buffers that are live, each of them once. In
every run of such calls the ledger holds exactly what was handed out and not given
back, together with the serial numbers that were lost on the way. So the caller can
give back all it has left, in any order.
-/

namespace FrameworkFfi

open Effect

/-! ### Live buffers -/

/-- The buffers in the ledger do not overlap and have sizes that belong together. -/
structure World.Sound (w : World) : Prop where
  apart : w.outstanding.Pairwise FrameworkByteBuffer.Apart
  live : ∀ buffer ∈ w.outstanding, 1 < buffer.ptr ∧ 0 < buffer.capacity ∧
    0 ≤ buffer.length ∧ buffer.length ≤ buffer.capacity

theorem sound_fresh : World.fresh.Sound where
  apart := .nil
  live := fun _ hbuffer => (List.not_mem_nil hbuffer).elim

namespace World.Sound

variable {w w' : World}

/-- A buffer that is handed out owns an allocation that fits, or none. -/
theorem owned_ofVec {bytes : ByteVec} (hlt : bytes.capacity < 2 ^ 31) {address : ℕ}
    (haddress : 1 < address) {buffer : FrameworkByteBuffer}
    (hbuffer : buffer ∈ (FrameworkByteBuffer.ofVec bytes address).owned) :
    1 < buffer.ptr ∧ 0 < buffer.capacity ∧ 0 ≤ buffer.length ∧
      buffer.length ≤ buffer.capacity := by
  by_cases hzero : (FrameworkByteBuffer.ofVec bytes address).capacity = 0
  · rw [FrameworkByteBuffer.owned_of_capacity_eq_zero hzero] at hbuffer
    exact (List.not_mem_nil hbuffer).elim
  · rw [FrameworkByteBuffer.owned_of_capacity_ne_zero hzero] at hbuffer
    obtain rfl := List.mem_singleton.mp hbuffer
    have hlength : bytes.length < 2 ^ 31 := Nat.lt_of_le_of_lt bytes.length_le hlt
    have hpos : bytes.capacity ≠ 0 := by
      intro heq
      refine hzero ?_
      show Int32.ofNat bytes.capacity = 0
      rw [heq]
      rfl
    refine ⟨?_, ?_, nonneg_ofNat hlength, ?_⟩
    · show 1 < if bytes.capacity = 0 then 1 else address
      rwa [if_neg hpos]
    · show 0 < Int32.ofNat bytes.capacity
      rw [Int32.lt_iff_toInt_lt, Int32.toInt_ofNat_of_lt hlt, Int32.toInt_zero]
      omega
    · show Int32.ofNat bytes.length ≤ Int32.ofNat bytes.capacity
      rw [Int32.le_iff_toInt_le, Int32.toInt_ofNat_of_lt hlt, Int32.toInt_ofNat_of_lt hlength]
      exact Int.ofNat_le.mpr bytes.length_le

/-- Handing out adds an allocation apart from all that are live. -/
theorem handOut (h : w.Sound) {bytes : ByteVec} (hlt : bytes.capacity < 2 ^ 31) (m : Machine) :
    (w.step m (.handedOut bytes)).Sound := by
  have hadded := allocates_handOut (m := m) (w := w) hlt rfl
  constructor
  · refine List.pairwise_append.mpr ⟨h.apart, hadded.apart, fun buffer hbuffer other hother => ?_⟩
    exact (hadded.fresh other hother buffer hbuffer).symm
  · intro buffer hbuffer
    rcases List.mem_append.mp hbuffer with hbuffer | hbuffer
    · exact h.live buffer hbuffer
    · exact owned_ofVec hlt (m.one_lt_place _ _) hbuffer

theorem takeBack (h : w.Sound) (buffer : FrameworkByteBuffer) : (w.takeBack buffer).Sound where
  apart := h.apart.sublist (List.diff_sublist _ _)
  live := fun other hother => h.live other ((List.diff_sublist _ _).subset hother)

theorem step (h : w.Sound) (m : Machine) {event : Event}
    (hfits : ∀ bytes, event = .handedOut bytes → bytes.capacity < 2 ^ 31) :
    (w.step m event).Sound := by
  cases event with
  | asked request => exact ⟨h.apart, h.live⟩
  | stored message => exact ⟨h.apart, h.live⟩
  | handedOut bytes => exact h.handOut (hfits bytes rfl) m
  | takenBack buffer => exact h.takeBack buffer

theorem call (h : w.Sound) {operation : Operation} {m : Machine} {o : Outcome}
    (hr : Returns operation.run m w o w') : w'.Sound := by
  refine (performs_operation operation).preserves (fun s event hevent hs => hs.step m ?_) hr h
  rintro bytes rfl
  exact hevent.2

theorem notMem_of_ptr_eq_zero (h : w.Sound) {buffer : FrameworkByteBuffer}
    (hptr : buffer.ptr = 0) : buffer ∉ w.outstanding := by
  intro hmem
  have hlive := (h.live buffer hmem).1
  omega

/-- A live buffer owns an allocation and has sizes that can be given back. -/
theorem owned_and_sized (h : w.Sound) {buffer : FrameworkByteBuffer}
    (hbuffer : buffer ∈ w.outstanding) : buffer.owned = [buffer] ∧ buffer.Sized := by
  obtain ⟨hptr, hcapacity, hlength, hle⟩ := h.live buffer hbuffer
  refine ⟨FrameworkByteBuffer.owned_of_capacity_ne_zero ?_, .inr ⟨by omega, hlength, ?_⟩⟩
  · intro hzero
    rw [hzero] at hcapacity
    exact absurd hcapacity (by decide)
  · exact Int32.le_trans hlength hle

end World.Sound

/-! ### Giving back -/

/-- The caller gives back live buffers only, each of them once. -/
def Owned (operation : Operation) (w : World) : Prop :=
  (ownedBy operation.given).Subperm w.outstanding

section Ledger

variable {m : Machine} {w w' : World}

theorem perm_of_destroyAll {buffers : List FrameworkByteBuffer} (hw : w.Sound)
    (howned : (ownedBy buffers).Subperm w.outstanding)
    (hr : Returns (destroyAll buffers) m w () w') :
    (w'.outstanding ++ ownedBy buffers).Perm w.outstanding := by
  induction buffers generalizing w with
  | nil =>
      obtain ⟨-, rfl⟩ := returns_pure.mp hr
      rw [ownedBy_nil, List.append_nil]
  | cons buffer buffers ih =>
      rw [destroyAll_cons] at hr
      obtain ⟨_, w₁, hdestroy, hrest⟩ := returns_bind.mp hr
      have hstep : w₁.Sound ∧ (w₁.outstanding ++ buffer.owned).Perm w.outstanding := by
        rcases FrameworkByteBuffer.returns_destroy.mp hdestroy with
          ⟨hptr, rfl⟩ | ⟨-, -, -, hlive, rfl⟩
        · -- a null buffer is not in the ledger, so it owns nothing
          have hzero := (live_of_subperm howned).resolve_right (hw.notMem_of_ptr_eq_zero hptr)
          rw [FrameworkByteBuffer.owned_of_capacity_eq_zero hzero, List.append_nil]
          exact ⟨hw, .refl _⟩
        · exact ⟨hw.takeBack buffer, World.perm_takeBack hlive⟩
      have hperms := ih hstep.1 (subperm_of_perm howned hstep.2) hrest
      rw [ownedBy_cons]
      refine (List.perm_append_comm.append_left _).trans ?_
      rw [← List.append_assoc]
      exact (hperms.append_right _).trans hstep.2

theorem outcome_release {operation : ReleaseOperation} {o : Outcome}
    (hr : Returns operation.run m w o w') :
    o.buffers = [] ∧ Returns (destroyAll operation.given) m w () w' := by
  obtain ⟨α, left, hrun⟩ := exists_run_release_eq operation
  rw [hrun] at hr
  obtain ⟨a, w₁, hdestroy, hpure⟩ := returns_bind.mp hr
  obtain ⟨rfl, rfl⟩ := returns_pure.mp hpure
  obtain ⟨_, w₂, hdestroy, hleft⟩ := returns_bind.mp hdestroy
  obtain ⟨-, rfl⟩ := returns_pure.mp hleft
  exact ⟨rfl, hdestroy⟩

theorem ledger_call {operation : Operation} {o : Outcome} (hw : w.Sound)
    (howned : Owned operation w) (hr : Returns operation.run m w o w') :
    ∃ lost, (lost = [] ↔ ¬ operation.LosesSerial m w) ∧
      (w'.outstanding ++ ownedBy operation.given).Perm
        (w.outstanding ++ ownedBy o.buffers ++ lost) := by
  by_cases hreleases : operation.Releases
  · cases operation with
    | release operation =>
        obtain ⟨hbuffers, hdestroy⟩ := outcome_release hr
        refine ⟨[], iff_of_true rfl id, ?_⟩
        rw [hbuffers, ownedBy_nil, List.append_nil, List.append_nil]
        exact perm_of_destroyAll hw howned hdestroy
    | system _ | thermal _ | controls _ | inventory _ | diagnostics _ | versions _ =>
        exact hreleases.elim
  · obtain ⟨lost, hlost, hledger⟩ := ledger_operation hreleases hr
    have hgiven : operation.given = [] := by
      cases operation with
      | release operation => exact (hreleases trivial).elim
      | system _ | thermal _ | controls _ | inventory _ | diagnostics _ | versions _ => rfl
    refine ⟨lost, hlost, ?_⟩
    rw [hgiven, ownedBy_nil, List.append_nil, hledger.outstanding, List.append_assoc]
    exact List.perm_append_comm.append_left _

end Ledger

/-! ### Runs -/

def handedOut (calls : List (Operation × Outcome)) : List FrameworkByteBuffer :=
  calls.flatMap fun call => ownedBy call.2.buffers

def givenBack (calls : List (Operation × Outcome)) : List FrameworkByteBuffer :=
  calls.flatMap fun call => ownedBy call.1.given

section Runs

variable {m : Machine} {w w' : World} {calls : List (Operation × Outcome)}

theorem ledger_calls (hw : w.Sound) (h : Sequence Operation.run Owned m w calls w') :
    ∃ lost, (lost = [] ↔
        Sequence Operation.run (fun operation w => Owned operation w ∧
          ¬ operation.LosesSerial m w) m w calls w') ∧
      (w'.outstanding ++ givenBack calls).Perm (w.outstanding ++ handedOut calls ++ lost) := by
  induction h with
  | nil w => exact ⟨[], iff_of_true rfl (.nil w), by simp [handedOut, givenBack]⟩
  | @cons w w₁ w' operation o calls howned hr hrest ih =>
      obtain ⟨lost, hlost, hperm⟩ := ledger_call hw howned hr
      obtain ⟨more, hmore, hperms⟩ := ih (hw.call hr)
      refine ⟨lost ++ more, ?_, ?_⟩
      · rw [List.append_eq_nil_iff, hlost, hmore]
        constructor
        · rintro ⟨hclean, hrest⟩
          exact .cons ⟨howned, hclean⟩ hr hrest
        · intro hrun
          cases hrun with
          | cons hclean hr' hrest' =>
              obtain ⟨-, rfl⟩ := hr.unique hr'
              exact ⟨hclean.2, hrest'⟩
      · have hhanded : handedOut ((operation, o) :: calls) =
            ownedBy o.buffers ++ handedOut calls := List.flatMap_cons
        have hgiven : givenBack ((operation, o) :: calls) =
            ownedBy operation.given ++ givenBack calls := List.flatMap_cons
        rw [hhanded, hgiven]
        refine List.perm_iff_count.mpr fun buffer => ?_
        have hcount := hperm.count_eq buffer
        have hcounts := hperms.count_eq buffer
        simp only [List.count_append] at hcount hcounts ⊢
        omega

theorem sound_run (h : Sequence Operation.run Owned m .fresh calls w') : w'.Sound :=
  h.preserves (I := World.Sound) (fun _ _ _ _ _ hr hw => hw.call hr) sound_fresh

/-- The ledger after a run: what was handed out and has not been given back, and the
serial numbers that were lost, which are none exactly if no call dropped one. -/
theorem ledger_run (h : Sequence Operation.run Owned m .fresh calls w') :
    ∃ lost, (lost = [] ↔
        Sequence Operation.run (fun operation w => Owned operation w ∧
          ¬ operation.LosesSerial m w) m .fresh calls w') ∧
      (w'.outstanding ++ givenBack calls).Perm (handedOut calls ++ lost) :=
  ledger_calls sound_fresh h

/-- The calls that free some buffers one by one. -/
def freeing (buffers : List FrameworkByteBuffer) : List (Operation × Outcome) :=
  buffers.map fun buffer => (.release (.byteBufferFree buffer), ⟨none, []⟩)

/-- Live buffers can be freed one by one, and the rest of the ledger stays. -/
theorem exists_freeing {kept lost : List FrameworkByteBuffer} (hw : w.Sound)
    (hperm : w.outstanding.Perm (kept ++ lost)) :
    ∃ w', Sequence Operation.run Owned m w (freeing kept) w' ∧ w'.outstanding.Perm lost := by
  induction kept generalizing w with
  | nil => exact ⟨w, .nil w, hperm⟩
  | cons buffer kept ih =>
      have hmem : buffer ∈ w.outstanding := hperm.symm.subset List.mem_cons_self
      obtain ⟨howned, hsized⟩ := hw.owned_and_sized hmem
      obtain ⟨w₁, hdestroy, hleft⟩ := hsized.returns_destroy (.inr hmem) m
      have hr : Returns (Operation.release (.byteBufferFree buffer)).run m w ⟨none, []⟩ w₁ :=
        hdestroy.bind_iff.mpr returns_pure_self
      have hrest : w₁.outstanding.Perm (kept ++ lost) := by
        rw [howned] at hleft
        exact (List.perm_cons buffer).mp
          (List.perm_append_comm.trans (hleft.trans hperm) : (buffer :: w₁.outstanding).Perm _)
      obtain ⟨w', hrun, hlost⟩ := ih (hw.call hr) hrest
      refine ⟨w', .cons ?_ hr hrun, hlost⟩
      show (ownedBy [buffer]).Subperm w.outstanding
      rw [ownedBy_singleton, howned]
      exact List.singleton_subperm_iff.mpr hmem

/-- After a run in which the caller has given back live buffers only, it can free all
that it was handed and has not given back, in any order, and none of these calls
frees what is not allocated. What stays is nothing, exactly if no call has lost a
serial number. -/
theorem handedOut_drains (h : Sequence Operation.run Owned m .fresh calls w')
    {kept : List FrameworkByteBuffer} (hkept : (kept ++ givenBack calls).Perm (handedOut calls)) :
    ∃ w'', Sequence Operation.run Owned m w' (freeing kept) w'' ∧
      (w''.outstanding = [] ↔
        Sequence Operation.run (fun operation w => Owned operation w ∧
          ¬ operation.LosesSerial m w) m .fresh calls w') := by
  obtain ⟨lost, hlost, hperm⟩ := ledger_calls sound_fresh h
  have hleft : w'.outstanding.Perm (kept ++ lost) := by
    refine List.perm_iff_count.mpr fun buffer => ?_
    have hcount := hperm.count_eq buffer
    have hcounts := hkept.count_eq buffer
    have hfresh : World.fresh.outstanding.count buffer = 0 := rfl
    simp only [List.count_append] at hcount hcounts ⊢
    omega
  obtain ⟨w'', hrun, hrest⟩ := exists_freeing (sound_run h) hleft
  refine ⟨w'', hrun, ?_⟩
  rw [← hlost]
  constructor
  · intro hnil
    rw [hnil] at hrest
    exact hrest.symm.eq_nil
  · rintro rfl
    exact hrest.eq_nil

end Runs

def productMachine : Machine := Machine.silent.answering .getProductName (some (.exact "A"))

def askProduct : Operation := .system .getProductName

def firstProduct : FrameworkByteBuffer := ⟨2, 1, 1⟩

/-- The name is asked for twice, and the first answer is given back. -/
def productCalls : List (Operation × Outcome) :=
  [(askProduct, ⟨some .success, [firstProduct]⟩), (askProduct, ⟨some .success, [⟨3, 1, 1⟩]⟩),
    (.release (.byteBufferFree firstProduct), ⟨none, []⟩)]

theorem exists_productRun :
    ∃ w', Sequence Operation.run (fun operation w => Owned operation w ∧
        ¬ operation.LosesSerial productMachine w) productMachine .fresh productCalls w' :=
  ⟨_, .cons ⟨List.nil_subperm, id⟩ rfl <| .cons ⟨List.nil_subperm, id⟩ rfl <|
    .cons ⟨List.singleton_subperm_iff.mpr List.mem_cons_self, id⟩ rfl (.nil _)⟩

theorem ledger_run_product :
    ∃ w', Sequence Operation.run Owned productMachine .fresh productCalls w' ∧
      (w'.outstanding ++ givenBack productCalls).Perm (handedOut productCalls) := by
  obtain ⟨w', hrun⟩ := exists_productRun
  have howned := hrun.mono fun _ _ h => h.1
  obtain ⟨lost, hlost, hperm⟩ := ledger_run howned
  obtain rfl := hlost.mpr hrun
  rw [List.append_nil] at hperm
  exact ⟨w', howned, hperm⟩

/-- The second answer can still be given back, and then nothing is left. -/
theorem handedOut_drains_product :
    ∃ w', Sequence Operation.run Owned productMachine .fresh productCalls w' ∧
      ∃ w'', Sequence Operation.run Owned productMachine w' (freeing [⟨3, 1, 1⟩]) w'' ∧
        w''.outstanding = [] := by
  obtain ⟨w', hrun⟩ := exists_productRun
  have howned := hrun.mono fun _ _ h => h.1
  have hkept : (([⟨3, 1, 1⟩] : List FrameworkByteBuffer) ++ givenBack productCalls).Perm
      (handedOut productCalls) := .swap _ _ _
  obtain ⟨w'', hfreed, hnothing⟩ := handedOut_drains howned hkept
  exact ⟨w', howned, w'', hfreed, hnothing.mpr hrun⟩

end FrameworkFfi
