import FrameworkFfi.Accounting.HandedOver
import Mathlib.Data.List.Perm.Subperm

/-!
# Giving a record back

The records of the peripherals and of the smart battery own one buffer for each
peripheral and for each text or blob. Their free functions destroy every buffer
once and leave a record of null buffers, so any number of calls destroys what one
call does. A buffer of capacity zero owns no allocation and has the address all
of these have; the others lie apart.
-/

namespace FrameworkFfi

open Effect

variable {α β ι : Type}

/-! ### Fresh allocations -/

/-- The ledger has grown by allocations that lie apart from each other and from
everything that was allocated before. -/
structure World.Allocates (w w' : World) (added : List FrameworkByteBuffer) : Prop where
  outstanding : w'.outstanding = w.outstanding ++ added
  apart : added.Pairwise FrameworkByteBuffer.Apart
  fresh : ∀ buffer ∈ added, ∀ other ∈ w.outstanding, buffer.Apart other

def AllocatesFresh (p : Ffi α) : Prop :=
  ∀ m w a w', Returns p m w a w' → ∃ added, w.Allocates w' added

theorem World.Allocates.refl (w : World) : w.Allocates w [] where
  outstanding := (List.append_nil _).symm
  apart := List.Pairwise.nil
  fresh := fun _ h => (List.not_mem_nil h).elim

theorem World.Allocates.trans {w w₁ w' : World} {added more : List FrameworkByteBuffer}
    (h : w.Allocates w₁ added) (h' : w₁.Allocates w' more) : w.Allocates w' (added ++ more) where
  outstanding := by rw [h'.outstanding, h.outstanding, List.append_assoc]
  apart := by
    refine List.pairwise_append.mpr ⟨h.apart, h'.apart, fun buffer hbuffer other hother => ?_⟩
    refine (h'.fresh other hother buffer ?_).symm
    rw [h.outstanding]
    exact List.mem_append_right _ hbuffer
  fresh := by
    intro buffer hbuffer other hother
    rcases List.mem_append.mp hbuffer with hadded | hmore
    · exact h.fresh buffer hadded other hother
    · refine h'.fresh buffer hmore other ?_
      rw [h.outstanding]
      exact List.mem_append_left _ hother

theorem allocatesFresh_pure (a : α) : AllocatesFresh (pure a) := by
  intro m w b w' h
  obtain ⟨-, rfl⟩ := returns_pure.mp h
  exact ⟨[], .refl w'⟩

theorem AllocatesFresh.bind {p : Ffi α} {k : α → Ffi β} (hp : AllocatesFresh p)
    (hk : ∀ a, AllocatesFresh (k a)) : AllocatesFresh (p >>= k) := by
  intro m w b w' h
  obtain ⟨a, w₁, h₁, h₂⟩ := returns_bind.mp h
  obtain ⟨added, hadded⟩ := hp m w a w₁ h₁
  obtain ⟨more, hmore⟩ := hk a m w₁ b w' h₂
  exact ⟨added ++ more, hadded.trans hmore⟩

theorem AllocatesFresh.foldlM {g : β → ι → Ffi β} (h : ∀ b i, AllocatesFresh (g b i))
    (xs : List ι) (b : β) : AllocatesFresh (xs.foldlM g b) := by
  induction xs generalizing b with
  | nil => exact allocatesFresh_pure b
  | cons x xs ih =>
      rw [List.foldlM_cons]
      exact (h b x).bind fun b' => ih b'

theorem allocates_handOut {m : Machine} {w : World} {bytes : ByteVec}
    (hlt : bytes.capacity < 2 ^ 31) {buffer : FrameworkByteBuffer}
    (hbuffer : buffer = .ofVec bytes (m.place w.outstanding bytes.capacity)) :
    w.Allocates (w.handOut buffer) buffer.owned := by
  refine ⟨rfl, ?_, ?_⟩
  · by_cases hzero : buffer.capacity = 0
    · rw [FrameworkByteBuffer.owned_of_capacity_eq_zero hzero]
      exact List.Pairwise.nil
    · rw [FrameworkByteBuffer.owned_of_capacity_ne_zero hzero]
      exact List.pairwise_singleton _ _
  · intro made hmade other hother
    by_cases hzero : buffer.capacity = 0
    · rw [FrameworkByteBuffer.owned_of_capacity_eq_zero hzero] at hmade
      exact (List.not_mem_nil hmade).elim
    · rw [FrameworkByteBuffer.owned_of_capacity_ne_zero hzero] at hmade
      obtain rfl := List.mem_singleton.mp hmade
      have hcapacity : bytes.capacity ≠ 0 := by
        intro heq
        refine hzero ?_
        rw [hbuffer]
        show Int32.ofNat bytes.capacity = 0
        rw [heq]
        rfl
      have hptr : made.ptr = m.place w.outstanding bytes.capacity := by
        rw [hbuffer]
        exact if_neg hcapacity
      have hsize : made.capacity.toInt.toNat = bytes.capacity := by
        rw [hbuffer]
        show (Int32.ofNat bytes.capacity).toInt.toNat = bytes.capacity
        rw [Int32.toInt_ofNat_of_lt hlt, Int.toNat_natCast]
      unfold FrameworkByteBuffer.Apart
      rw [hptr, hsize]
      exact m.place_apart w.outstanding bytes.capacity other hother

theorem allocatesFresh_fromVec (bytes : ByteVec) :
    AllocatesFresh (FrameworkByteBuffer.fromVec bytes) := by
  intro m w buffer w' h
  obtain ⟨hlt, hbuffer, rfl⟩ := FrameworkByteBuffer.returns_fromVec.mp h
  exact ⟨buffer.owned, allocates_handOut hlt hbuffer⟩

/-- What a record handed over: the ledger has its allocations, in the order of its
fields, and they lie apart. -/
structure HandedOut (w w' : World) (buffers : List FrameworkByteBuffer) : Prop where
  ledger : w'.outstanding = w.outstanding ++ ownedBy buffers
  apart : (ownedBy buffers).Pairwise FrameworkByteBuffer.Apart
  fresh : ∀ buffer ∈ ownedBy buffers, ∀ other ∈ w.outstanding, buffer.Apart other

theorem HandsOver.handedOut {p : Ffi α} {made : α → List FrameworkByteBuffer}
    (hmade : HandsOver [] p made) (hfresh : AllocatesFresh p) {m : Machine} {w w' : World}
    {a : α} (h : Returns p m w a w') : HandedOut w w' (made a) := by
  have hledger : w'.outstanding = w.outstanding ++ ownedBy (made a) := hmade.ledger.appends h
  obtain ⟨added, hadded⟩ := hfresh m w a w' h
  obtain rfl : added = ownedBy (made a) :=
    List.append_cancel_left (hadded.outstanding.symm.trans hledger)
  exact ⟨hledger, hadded.apart, hadded.fresh⟩

/-! ### Destroying buffers -/

def destroyAll (buffers : List FrameworkByteBuffer) : Ffi Unit :=
  buffers.foldlM (fun () buffer => buffer.destroy) ()

theorem destroyAll_cons (buffer : FrameworkByteBuffer) (buffers : List FrameworkByteBuffer) :
    destroyAll (buffer :: buffers) = buffer.destroy >>= fun () => destroyAll buffers := by
  rw [destroyAll, List.foldlM_cons]
  rfl

theorem destroy_default : FrameworkByteBuffer.default.destroy = pure () := rfl

theorem destroyAll_default {buffers : List FrameworkByteBuffer}
    (h : ∀ buffer ∈ buffers, buffer = .default) : destroyAll buffers = pure () := by
  induction buffers with
  | nil => rfl
  | cons buffer buffers ih =>
      rw [destroyAll_cons, h buffer List.mem_cons_self, destroy_default, pure_bind]
      exact ih fun other hother => h other (List.mem_cons_of_mem buffer hother)

/-- A loop over fields that takes each buffer out of a record and destroys it. -/
theorem foldlM_destroy {get : α → ι → FrameworkByteBuffer} {left : α → ι → α}
    (hkept : ∀ a i j, j ≠ i → get (left a i) j = get a j) {fields : List ι}
    (hnodup : fields.Nodup) (a : α) :
    fields.foldlM (fun a i => (get a i).destroy >>= fun () => (pure (left a i) : Ffi α)) a =
      destroyAll (fields.map (get a)) >>= fun () => pure (fields.foldl left a) := by
  induction fields generalizing a with
  | nil => rfl
  | cons i fields ih =>
      obtain ⟨hnotin, hrest⟩ := List.nodup_cons.mp hnodup
      have hget : fields.map (get (left a i)) = fields.map (get a) :=
        List.map_congr_left fun j hj => hkept a i j (ne_of_mem_of_not_mem hj hnotin)
      rw [List.foldlM_cons, List.map_cons, destroyAll_cons, List.foldl_cons, bind_assoc,
        bind_assoc]
      simp only [pure_bind]
      rw [ih hrest (left a i), hget]

/-- The buffer that `from_vec` makes of this vector: its sizes, and an address of its
own unless it allocates nothing. -/
def MadeFrom (bytes : ByteVec) (buffer : FrameworkByteBuffer) : Prop :=
  ∃ address, bytes.capacity < 2 ^ 31 ∧ 0 < address ∧
    buffer = ⟨if bytes.capacity = 0 then 1 else address, Int32.ofNat bytes.length,
      Int32.ofNat bytes.capacity⟩

theorem madeFrom_of_returns {bytes : ByteVec} {buffer : FrameworkByteBuffer} {m : Machine}
    {w w' : World} (h : Returns (FrameworkByteBuffer.fromVec bytes) m w buffer w') :
    MadeFrom bytes buffer := by
  obtain ⟨hlt, rfl, -⟩ := FrameworkByteBuffer.returns_fromVec.mp h
  exact ⟨_, hlt, Nat.zero_lt_of_lt (m.one_lt_place w.outstanding bytes.capacity), rfl⟩

/-- A buffer as this crate makes it: null or that of a vector. -/
def FrameworkByteBuffer.Made (buffer : FrameworkByteBuffer) : Prop :=
  buffer = .default ∨ ∃ bytes, MadeFrom bytes buffer

theorem made_of_forall₂ {vecs : List ByteVec} {buffers : List FrameworkByteBuffer}
    (h : List.Forall₂ MadeFrom vecs buffers) : ∀ buffer ∈ buffers, buffer.Made := by
  induction h with
  | nil => simp
  | cons hmade _ ih =>
      rw [List.forall_mem_cons]
      exact ⟨.inr ⟨_, hmade⟩, ih⟩

theorem nonneg_ofNat {n : ℕ} (h : n < 2 ^ 31) : (0 : Int32) ≤ Int32.ofNat n := by
  rw [Int32.le_iff_toInt_le, Int32.toInt_ofNat_of_lt h]
  exact Int.natCast_nonneg n

/-- A null buffer, or one whose sizes are not negative. -/
def FrameworkByteBuffer.Sized (buffer : FrameworkByteBuffer) : Prop :=
  (buffer.ptr = 0 ∧ buffer.capacity = 0) ∨
    (buffer.ptr ≠ 0 ∧ 0 ≤ buffer.length ∧ 0 ≤ buffer.capacity)

theorem FrameworkByteBuffer.Made.sized {buffer : FrameworkByteBuffer} (h : buffer.Made) :
    buffer.Sized := by
  rcases h with rfl | ⟨bytes, address, hlt, hpos, rfl⟩
  · exact .inl ⟨rfl, rfl⟩
  · have hlength : bytes.length < 2 ^ 31 := Nat.lt_of_le_of_lt bytes.length_le hlt
    refine .inr ⟨?_, nonneg_ofNat hlength, nonneg_ofNat hlt⟩
    show (if bytes.capacity = 0 then 1 else address) ≠ 0
    split_ifs <;> omega

theorem World.perm_takeBack {w : World} {buffer : FrameworkByteBuffer} (h : buffer.Live w) :
    ((w.takeBack buffer).outstanding ++ buffer.owned).Perm w.outstanding := by
  have houtstanding : (w.takeBack buffer).outstanding = w.outstanding.diff buffer.owned := rfl
  rw [houtstanding]
  by_cases hzero : buffer.capacity = 0
  · rw [FrameworkByteBuffer.owned_of_capacity_eq_zero hzero, List.diff_nil, List.append_nil]
  · rw [FrameworkByteBuffer.owned_of_capacity_ne_zero hzero, List.diff_cons, List.diff_nil]
    have hmem := h.resolve_left hzero
    exact List.perm_append_comm.trans (List.perm_cons_erase hmem).symm

/-- A live buffer can be destroyed. -/
theorem FrameworkByteBuffer.Sized.returns_destroy {buffer : FrameworkByteBuffer}
    (h : buffer.Sized) {w : World} (hlive : buffer.Live w) (m : Machine) :
    ∃ w', Returns buffer.destroy m w () w' ∧
      (w'.outstanding ++ buffer.owned).Perm w.outstanding := by
  rcases h with ⟨hptr, hzero⟩ | ⟨hptr, hlength, hcapacity⟩
  · refine ⟨w, FrameworkByteBuffer.returns_destroy.mpr (.inl ⟨hptr, rfl⟩), ?_⟩
    rw [owned_of_capacity_eq_zero hzero, List.append_nil]
  · exact ⟨_, FrameworkByteBuffer.returns_destroy.mpr
      (.inr ⟨hptr, hlength, hcapacity, hlive, rfl⟩), World.perm_takeBack hlive⟩

theorem ownedBy_cons (buffer : FrameworkByteBuffer) (buffers : List FrameworkByteBuffer) :
    ownedBy (buffer :: buffers) = buffer.owned ++ ownedBy buffers := List.flatMap_cons

theorem live_of_subperm {buffer : FrameworkByteBuffer} {buffers : List FrameworkByteBuffer}
    {w : World} (howned : (ownedBy (buffer :: buffers)).Subperm w.outstanding) :
    buffer.Live w := by
  rw [ownedBy_cons] at howned
  by_cases hzero : buffer.capacity = 0
  · exact .inl hzero
  · rw [FrameworkByteBuffer.owned_of_capacity_ne_zero hzero] at howned
    exact .inr (howned.subset (List.mem_append_left _ (List.mem_singleton_self _)))

/-- Without the first of some buffers that are live the others stay live. -/
theorem subperm_of_perm {buffer : FrameworkByteBuffer} {buffers : List FrameworkByteBuffer}
    {w w' : World} (howned : (ownedBy (buffer :: buffers)).Subperm w.outstanding)
    (hperm : (w'.outstanding ++ buffer.owned).Perm w.outstanding) :
    (ownedBy buffers).Subperm w'.outstanding := by
  rw [ownedBy_cons] at howned
  have hrest := howned.trans (hperm.symm.trans List.perm_append_comm).subperm
  exact (List.subperm_append_left _).mp hrest

theorem returns_destroyAll {buffers : List FrameworkByteBuffer}
    (hsized : ∀ buffer ∈ buffers, buffer.Sized) (m : Machine) {w : World}
    (howned : (ownedBy buffers).Subperm w.outstanding) :
    ∃ w', Returns (destroyAll buffers) m w () w' ∧
      (w'.outstanding ++ ownedBy buffers).Perm w.outstanding := by
  induction buffers generalizing w with
  | nil => exact ⟨w, rfl, by rw [ownedBy_nil, List.append_nil]⟩
  | cons buffer buffers ih =>
      rw [List.forall_mem_cons] at hsized
      obtain ⟨w₁, hdestroy, hperm⟩ := hsized.1.returns_destroy (live_of_subperm howned) m
      obtain ⟨w', hrest, hperms⟩ := ih hsized.2 (subperm_of_perm howned hperm)
      refine ⟨w', ?_, ?_⟩
      · rw [destroyAll_cons]
        exact hdestroy.bind_iff.mpr hrest
      · rw [ownedBy_cons]
        refine (List.perm_append_comm.append_left _).trans ?_
        rw [← List.append_assoc]
        exact (hperms.append_right _).trans hperm

/-! ### Calls of a free function -/

/-- Calls of a free function on one record, each on what the one before left. -/
def freeTimes (free : Option α → Ffi (Option α)) (record : Option α) : ℕ → Ffi (Option α)
  | 0 => pure record
  | k + 1 => freeTimes free record k >>= free

/-- What a free function does to a record that was handed out between `w` and
`w'`. However often it is called, it destroys each buffer once and leaves
`cleared`. -/
structure ReleasedOnce (free : Option α → Ffi (Option α))
    (buffers : α → List FrameworkByteBuffer) (record cleared : α) (m : Machine) (w w' : World) :
    Prop where
  calls : ∀ k, freeTimes free (some record) (k + 1) =
    destroyAll (buffers record) >>= fun () => pure (some cleared)
  again : free (some cleared) = pure (some cleared)
  null : ∀ buffer ∈ buffers cleared, buffer = .default
  /-- The first call returns and leaves the allocations there were before the record. -/
  balanced : ∃ w'', Returns (free (some record)) m w' (some cleared) w'' ∧
    w''.outstanding.Perm w.outstanding

/-- A function that destroys the buffers of a record and leaves null buffers. -/
theorem releasedOnce_of_destroyAll {free : Option α → Ffi (Option α)}
    {buffers : α → List FrameworkByteBuffer} {cleared : α → α}
    (hfree : ∀ record, free (some record) =
      destroyAll (buffers record) >>= fun () => pure (some (cleared record)))
    (hnull : ∀ record, ∀ buffer ∈ buffers (cleared record), buffer = .default)
    (hcleared : ∀ record, cleared (cleared record) = cleared record)
    {record : α} (hmade : ∀ buffer ∈ buffers record, buffer.Made) {m : Machine} {w w' : World}
    (hledger : w'.outstanding = w.outstanding ++ ownedBy (buffers record)) :
    ReleasedOnce free buffers record (cleared record) m w w' := by
  have hagain : free (some (cleared record)) = pure (some (cleared record)) := by
    rw [hfree, destroyAll_default (hnull record), pure_bind, hcleared]
  refine ⟨fun k => ?_, hagain, hnull record, ?_⟩
  · induction k with
    | zero => rw [freeTimes, freeTimes, pure_bind, hfree]
    | succ k ih =>
        rw [freeTimes, ih, bind_assoc]
        simp only [pure_bind, hagain]
  · have howned : (ownedBy (buffers record)).Subperm w'.outstanding := by
      rw [hledger]
      exact (List.sublist_append_right _ _).subperm
    obtain ⟨w'', hdestroy, hperm⟩ :=
      returns_destroyAll (fun buffer hbuffer => (hmade buffer hbuffer).sized) m howned
    refine ⟨w'', ?_, ?_⟩
    · rw [hfree]
      exact hdestroy.bind_iff.mpr (returns_pure_self)
    · rw [hledger] at hperm
      exact (List.perm_append_right_iff _).mp hperm

end FrameworkFfi
