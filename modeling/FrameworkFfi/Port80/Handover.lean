import FrameworkFfi.Exports.Diagnostics
import FrameworkFfi.Host.Silent
import FrameworkFfi.Port80

/-!
# Handing the POST code history over

The history is collected in a vector that is allocated once, for two bytes for
each entry, and its buffer record keeps the sizes as `i32`. The size of the
history is a word of the controller, so nothing keeps the allocation below the
range of the record. The entry point panics exactly on a history that is read in
full and whose allocation is too large.
-/

namespace FrameworkFfi

open Effect Chunks

section Handover

variable {m : Machine} {w : World} {info : EcResponsePort80Info}

theorem capacity_foldl_extendFromSlice (parts : List (List UInt8)) (codes : ByteVec)
    (h : codes.length + parts.flatten.length ≤ codes.capacity) :
    (parts.foldl m.extendFromSlice codes).capacity = codes.capacity := by
  induction parts generalizing codes with
  | nil => rfl
  | cons part parts ih =>
      rw [List.flatten_cons, List.length_append] at h
      have hbytes : codes.bytes.length = codes.length := rfl
      have hfits : (codes.bytes ++ part).length ≤ codes.capacity := by
        rw [List.length_append, hbytes]
        omega
      have hextended : (m.extendFromSlice codes part).capacity = codes.capacity := by
        rw [Machine.extendFromSlice, dif_pos hfits]
      have hlength : (m.extendFromSlice codes part).length = codes.length + part.length := by
        rw [ByteVec.length, Machine.bytes_extendFromSlice, List.length_append, ByteVec.length]
      rw [List.foldl_cons, ih _ (by rw [hextended, hlength]; omega), hextended]

theorem capacity_port80History {history : Port80History}
    (h : m.port80History w info = .ok history) :
    history.codes.capacity = m.allocate (info.historySize.toNat * 2) := by
  obtain ⟨parts, hparts, rfl⟩ := port80History_eq_ok_iff.mp h
  have hlength := length_flatten (fun c hc part => length_of_port80Part hc)
    (covers_port80History m info) hparts
  have hallocate := m.le_allocate (info.historySize.toNat * 2)
  refine capacity_foldl_extendFromSlice parts _ ?_
  rw [ByteVec.length, Machine.bytes_vecWithCapacity, List.length_nil]
  show 0 + parts.flatten.length ≤ m.allocate (info.historySize.toNat * 2)
  omega

theorem completes_port80Record (history : Port80History) :
    Completes (port80Record history) m w ↔ history.codes.capacity < 2 ^ 31 :=
  (completes_bind_iff_of_safe (fun _ => safe_pure _) m w).trans
    FrameworkByteBuffer.completes_fromVec

/-- The record of a history of known size is made exactly when the read fails or
the allocation fits. -/
theorem completes_port80Reply
    (hinfo : m.answer .port80GetInfo (w.asked .port80GetInfo) = .ok info) :
    Completes (ecReply port80Read port80Record) m w ↔
      ((∀ c ∈ m.port80Chunks 0 info.historySize, m.Answers w c) →
        m.allocate (info.historySize.toNat * 2) < 2 ^ 31) := by
  have hread := returns_port80Read hinfo
  rw [← (readsHistory m w info).ok_iff]
  cases hhistory : m.port80History w info with
  | error error =>
      rw [hhistory] at hread
      refine iff_of_true (completes_ecReply_of_error hread) ?_
      rintro ⟨history, h⟩
      cases h
  | ok history =>
      rw [hhistory] at hread
      rw [completes_ecReply_of_ok hread, completes_port80Record,
        capacity_port80History hhistory]
      constructor
      · intro hlt _
        exact hlt
      · intro h
        exact h ⟨history, rfl⟩

theorem completes_port80Entry (handle : HandlePtr) :
    Completes (frameworkEcGetPort80History handle) m w ↔
      (handle.isSome → ∀ info, m.answer .port80GetInfo (w.asked .port80GetInfo) = .ok info →
        (∀ c ∈ m.port80Chunks 0 info.historySize, m.Answers w c) →
          m.allocate (info.historySize.toNat * 2) < 2 ^ 31) := by
  refine completes_exported_iff fun _ => ?_
  cases hreply : m.answer .port80GetInfo (w.asked .port80GetInfo) with
  | error error =>
      have hread : Returns port80Read m w (.error error) (w.record .port80GetInfo) := by
        refine returns_bind.mpr ⟨_, _, returns_ask_self, ?_⟩
        rw [hreply]
        exact returns_pure_self
      simp only [reduceCtorEq, false_imp_iff, implies_true, iff_true]
      exact completes_ecReply_of_error hread
  | ok info =>
      simp only [Except.ok.injEq, forall_eq']
      exact completes_port80Reply hreply

end Handover

/-- The entry point returns a record unless the whole history is read and the
allocation for its codes leaves the range of `i32`. With an allocator that gives
what is asked for, this is a history of `2 ^ 30` entries or more. -/
theorem port80History_returns_iff (m : Machine) (w : World) (handle : HandlePtr) :
    (Completes (frameworkEcGetPort80History handle) m w ↔
      (handle.isSome → ∀ info, m.answer .port80GetInfo (w.asked .port80GetInfo) = .ok info →
        (∀ c ∈ m.port80Chunks 0 info.historySize, m.Answers w c) →
          m.allocate (info.historySize.toNat * 2) < 2 ^ 31)) ∧
      ((∀ n, m.allocate n = n) →
        (Completes (frameworkEcGetPort80History handle) m w ↔
          (handle.isSome → ∀ info,
            m.answer .port80GetInfo (w.asked .port80GetInfo) = .ok info →
              (∀ c ∈ m.port80Chunks 0 info.historySize, m.Answers w c) →
                info.historySize.toNat < 2 ^ 30))) := by
  refine ⟨completes_port80Entry handle, fun hexact => ?_⟩
  have hsize : ∀ size : ℕ, m.allocate (size * 2) < 2 ^ 31 ↔ size < 2 ^ 30 := by
    intro size
    rw [hexact]
    omega
  rw [completes_port80Entry]
  simp only [hsize]

/-- A controller with a history of `2 ^ 30` entries that answers every request. -/
def longHistory : Machine :=
  { Machine.silent with
    answer := fun request _ =>
      match request with
      | .port80GetInfo => .ok ⟨0, 0x40000000⟩
      | .port80ReadBuffer _ _ => .ok (List.replicate 64 0)
      | other => other.silence }

/-- The same controller with a history of forty entries. -/
def shortHistory : Machine :=
  { longHistory with
    answer := fun request k =>
      match request with
      | .port80GetInfo => .ok ⟨40, 40⟩
      | other => longHistory.answer other k }

/-- The short history is read in two chunks, and the entry point returns. -/
theorem port80History_returns_iff_short :
    (∀ c ∈ shortHistory.port80Chunks 0 40, shortHistory.Answers .fresh c) ∧
      Completes (frameworkEcGetPort80History (some ⟨.crosEc⟩)) shortHistory .fresh := by
  constructor
  · intro c hc
    have hlength : c.length ≤ 32 := length_le_of_mem_chunks hc
    refine ⟨List.replicate 64 0, rfl, ?_⟩
    rw [List.length_replicate]
    omega
  · refine ((port80History_returns_iff shortHistory .fresh _).2 fun _ => rfl).mpr
      fun _ info hinfo _ => ?_
    obtain rfl : ⟨40, 40⟩ = info := Except.ok.inj hinfo
    decide

/-- A history of `2 ^ 30` entries that is read in full makes the entry point panic. -/
theorem longHistory_panics :
    (∀ c ∈ longHistory.port80Chunks 0 0x40000000, longHistory.Answers .fresh c) ∧
      ¬ Completes (frameworkEcGetPort80History (some ⟨.crosEc⟩)) longHistory .fresh := by
  have hanswers : ∀ c ∈ longHistory.port80Chunks 0 0x40000000,
      longHistory.Answers .fresh c := by
    intro c hc
    have hlength : c.length ≤ 32 := length_le_of_mem_chunks hc
    refine ⟨List.replicate 64 0, rfl, ?_⟩
    rw [List.length_replicate]
    omega
  refine ⟨hanswers, fun h => ?_⟩
  have hlt : 0x40000000 * 2 < 2 ^ 31 :=
    (completes_port80Entry (some ⟨.crosEc⟩)).mp h rfl ⟨0, 0x40000000⟩ rfl hanswers
  omega

end FrameworkFfi
