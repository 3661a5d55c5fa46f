import FrameworkFfi.Host.Machine

/-!
# Handing a vector over and taking it back

`fromVec` gives an allocation away: it enters the ledger `World.outstanding`
and nothing on this side can free it any more. `destroy` takes it back, and stops
when the ledger does not have it. The ledger lists the buffers that own an
allocation in the order in which they were handed out. Address `0` is null, and
`1` is the address of every empty vector.
-/

namespace FrameworkFfi

open Effect

namespace World

/-- The allocation of a buffer leaves for the caller. -/
def handOut (w : World) (buffer : FrameworkByteBuffer) : World :=
  { w with outstanding := w.outstanding ++ buffer.owned }

/-- The allocation of a buffer comes back and is freed. -/
def takeBack (w : World) (buffer : FrameworkByteBuffer) : World :=
  { w with outstanding := w.outstanding.diff buffer.owned }

@[simp] theorem outstanding_handOut (w : World) (buffer : FrameworkByteBuffer) :
    (w.handOut buffer).outstanding = w.outstanding ++ buffer.owned := rfl

end World

/-- `i32::try_from` on a size. -/
def int32OfSize (size : ℕ) : Option Int32 :=
  if size < 2 ^ 31 then some (Int32.ofNat size) else none

theorem int32OfSize_of_lt {size : ℕ} (h : size < 2 ^ 31) :
    int32OfSize size = some (Int32.ofNat size) := if_pos h

theorem int32OfSize_eq_some_iff {size : ℕ} {number : Int32} :
    int32OfSize size = some number ↔ size < 2 ^ 31 ∧ Int32.ofNat size = number := by
  unfold int32OfSize
  by_cases h : size < 2 ^ 31
  · rw [if_pos h, Option.some_inj, and_iff_right h]
  · rw [if_neg h]
    constructor
    · intro hnone
      cases hnone
    · rintro ⟨hlt, -⟩
      exact absurd hlt h

/-- `Option::expect`. -/
def expect {α : Type} (value : Option α) (message : String) : Ffi α :=
  match value with
  | some a => pure a
  | none => abort (.expect message)

@[simp] theorem returns_expect {α : Type} {value : Option α} {message : String} {a : α}
    {m : Machine} {w w' : World} :
    Returns (expect value message) m w a w' ↔ value = some a ∧ w' = w := by
  cases value with
  | none => simp [expect]
  | some b => simp [expect, eq_comm]

namespace FrameworkByteBuffer

/-- The buffer that stands for a vector whose length and capacity fit `i32`. -/
def ofVec (bytes : ByteVec) (address : ℕ) : FrameworkByteBuffer :=
  ⟨if bytes.capacity = 0 then 1 else address, Int32.ofNat bytes.length,
    Int32.ofNat bytes.capacity⟩

/-- `from_vec`. -/
def fromVec (bytes : ByteVec) : Ffi FrameworkByteBuffer := do
  let length ← expect (int32OfSize bytes.length) "buffer length overflowed i32"
  let capacity ← expect (int32OfSize bytes.capacity) "buffer capacity overflowed i32"
  act fun m w =>
    let address := m.place w.outstanding bytes.capacity
    let buffer := ⟨if bytes.capacity = 0 then 1 else address, length, capacity⟩
    (buffer, w.handOut buffer)

/-- The buffer may be freed: it owns no allocation or one that was handed out. -/
def Live (buffer : FrameworkByteBuffer) (w : World) : Prop :=
  buffer.capacity = 0 ∨ buffer ∈ w.outstanding

instance (buffer : FrameworkByteBuffer) (w : World) : Decidable (buffer.Live w) :=
  inferInstanceAs (Decidable (buffer.capacity = 0 ∨ buffer ∈ w.outstanding))

/-- `drop(Vec::from_raw_parts(..))`. -/
def dropVec (buffer : FrameworkByteBuffer) : Ffi Unit := do
  let live ← act fun _ w => (decide (buffer.Live w), w)
  if live then act fun _ w => ((), w.takeBack buffer) else abort .invalidFree

/-- `destroy`. -/
def destroy (buffer : FrameworkByteBuffer) : Ffi Unit := do
  if buffer.ptr = 0 then pure () else
    let _ ← expect (if 0 ≤ buffer.length then some buffer.length else none)
      "negative buffer length"
    let _ ← expect (if 0 ≤ buffer.capacity then some buffer.capacity else none)
      "negative buffer capacity"
    buffer.dropVec

/-- A vector is handed over exactly when its capacity fits `i32`. -/
theorem returns_fromVec {bytes : ByteVec} {m : Machine} {w w' : World}
    {buffer : FrameworkByteBuffer} :
    Returns (fromVec bytes) m w buffer w' ↔
      bytes.capacity < 2 ^ 31 ∧
        buffer = ofVec bytes (m.place w.outstanding bytes.capacity) ∧
        w' = w.handOut buffer := by
  unfold fromVec
  constructor
  · intro h
    obtain ⟨length, w₁, h₁, hrest⟩ := returns_bind.mp h
    obtain ⟨hlength, rfl⟩ := returns_expect.mp h₁
    obtain ⟨capacity, w₂, h₂, hact⟩ := returns_bind.mp hrest
    obtain ⟨hcapacity, rfl⟩ := returns_expect.mp h₂
    obtain ⟨-, rfl⟩ := int32OfSize_eq_some_iff.mp hlength
    obtain ⟨hlt, rfl⟩ := int32OfSize_eq_some_iff.mp hcapacity
    obtain ⟨rfl, rfl⟩ := returns_act.mp hact
    exact ⟨hlt, rfl, rfl⟩
  · rintro ⟨hlt, rfl, rfl⟩
    have hlength : bytes.length < 2 ^ 31 := Nat.lt_of_le_of_lt bytes.length_le hlt
    rw [int32OfSize_of_lt hlength, int32OfSize_of_lt hlt]
    exact returns_act.mpr ⟨rfl, rfl⟩

theorem returns_dropVec {buffer : FrameworkByteBuffer} {m : Machine} {w w' : World} :
    Returns buffer.dropVec m w () w' ↔ buffer.Live w ∧ w' = w.takeBack buffer := by
  unfold dropVec
  rw [(returns_act.mpr ⟨rfl, rfl⟩ : Returns (act fun _ w => (decide (buffer.Live w), w)) m w
    (decide (buffer.Live w)) w).bind_iff]
  by_cases hlive : buffer.Live w
  · simp [hlive]
  · simp [hlive]

theorem returns_destroy {buffer : FrameworkByteBuffer} {m : Machine} {w w' : World} :
    Returns buffer.destroy m w () w' ↔ (buffer.ptr = 0 ∧ w' = w) ∨
      (buffer.ptr ≠ 0 ∧ 0 ≤ buffer.length ∧ 0 ≤ buffer.capacity ∧ buffer.Live w ∧
        w' = w.takeBack buffer) := by
  unfold destroy
  by_cases hnull : buffer.ptr = 0
  · rw [if_pos hnull, returns_pure]
    simp [hnull]
  · rw [if_neg hnull]
    constructor
    · intro h
      obtain ⟨_, w₁, hlength, hrest⟩ := returns_bind.mp h
      obtain ⟨hlength, rfl⟩ := returns_expect.mp hlength
      obtain ⟨_, w₂, hcapacity, hdrop⟩ := returns_bind.mp hrest
      obtain ⟨hcapacity, rfl⟩ := returns_expect.mp hcapacity
      refine .inr ⟨hnull, ?_, ?_, returns_dropVec.mp hdrop⟩
      · by_contra hneg
        rw [if_neg hneg] at hlength
        cases hlength
      · by_contra hneg
        rw [if_neg hneg] at hcapacity
        cases hcapacity
    · rintro (⟨hptr, -⟩ | ⟨-, hlength, hcapacity, hdrop⟩)
      · exact (hnull hptr).elim
      · refine (returns_expect.mpr ⟨if_pos hlength, rfl⟩).bind_iff.mpr ?_
        refine (returns_expect.mpr ⟨if_pos hcapacity, rfl⟩).bind_iff.mpr ?_
        exact returns_dropVec.mpr hdrop

theorem completes_fromVec {bytes : ByteVec} {m : Machine} {w : World} :
    Completes (fromVec bytes) m w ↔ bytes.capacity < 2 ^ 31 := by
  constructor
  · rintro ⟨buffer, w', h⟩
    exact (returns_fromVec.mp h).1
  · intro hlt
    exact ⟨_, _, returns_fromVec.mpr ⟨hlt, rfl, rfl⟩⟩

end FrameworkByteBuffer

end FrameworkFfi
