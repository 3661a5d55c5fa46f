import Mathlib.Data.List.Forall2
import Mathlib.Tactic.Common

/-!
# Reading an interval in chunks

A reader wants the positions from `start` up to `stop` and asks for them in
chunks of at most `size`, up to the first chunk that is refused. `chunks` are
the chunks it would ask for, `asked` the ones it does ask for, and
`chunks.mapM read` what it gets. A chunk of `n` positions is answered with
`width * n` items, so that an item can be found by its position.
-/

namespace Chunks

/-- The positions from `offset` up to `offset + length`. -/
structure Chunk where
  offset : ℕ
  length : ℕ
  deriving DecidableEq

/-- The chunks of the positions from `start` up to `stop`. -/
def chunks (size start stop : ℕ) : List Chunk :=
  if _ : start < stop ∧ 0 < size then
    ⟨start, min size (stop - start)⟩ :: chunks size (start + min size (stop - start)) stop
  else []
termination_by stop - start
decreasing_by omega

/-- The chunks cover the positions in order, without a gap and without overlap. -/
def Covers : ℕ → ℕ → List Chunk → Prop
  | start, stop, [] => start = stop
  | start, stop, c :: cs => c.offset = start ∧ 0 < c.length ∧ Covers (start + c.length) stop cs

section Interval

variable {size start stop : ℕ} {c : Chunk} {cs : List Chunk}

theorem chunks_of_lt (h : start < stop) (hsize : 0 < size) :
    chunks size start stop = ⟨start, min size (stop - start)⟩ ::
      chunks size (start + min size (stop - start)) stop := by
  rw [chunks, dif_pos ⟨h, hsize⟩]

theorem chunks_of_le (h : stop ≤ start) : chunks size start stop = [] := by
  rw [chunks, dif_neg fun h' => Nat.not_lt.mpr h h'.1]

theorem covers_chunks (hsize : 0 < size) (h : start ≤ stop) :
    Covers start stop (chunks size start stop) := by
  induction start using chunks.induct size stop with
  | case1 start hlt ih =>
      rw [chunks_of_lt hlt.1 hsize]
      exact ⟨rfl, by dsimp only; omega, ih (by omega)⟩
  | case2 start hge =>
      rw [chunks_of_le (by omega)]
      show start = stop
      omega

theorem length_le_of_mem_chunks (h : c ∈ chunks size start stop) : c.length ≤ size := by
  induction start using chunks.induct size stop with
  | case1 start hlt ih =>
      rw [chunks_of_lt hlt.1 hlt.2, List.mem_cons] at h
      rcases h with rfl | h
      · exact Nat.min_le_left _ _
      · exact ih h
  | case2 start hge =>
      rw [chunks, dif_neg hge] at h
      cases h

theorem Covers.le (h : Covers start stop cs) : start ≤ stop := by
  induction cs generalizing start with
  | nil => exact Nat.le_of_eq h
  | cons c cs ih => exact Nat.le_trans (Nat.le_add_right _ _) (ih h.2.2)

theorem Covers.bounds (h : Covers start stop cs) (hc : c ∈ cs) :
    start ≤ c.offset ∧ c.offset + c.length ≤ stop := by
  induction cs generalizing start with
  | nil => cases hc
  | cons first cs ih =>
      obtain ⟨hoffset, -, hrest⟩ := h
      rcases List.mem_cons.mp hc with rfl | hc
      · rw [hoffset]
        exact ⟨Nat.le_refl _, hrest.le⟩
      · have hbounds := ih hrest hc
        exact ⟨by omega, hbounds.2⟩

theorem Covers.exists_mem (h : Covers start stop cs) {k : ℕ} (hstart : start ≤ k)
    (hstop : k < stop) : ∃ c ∈ cs, c.offset ≤ k ∧ k < c.offset + c.length := by
  induction cs generalizing start with
  | nil =>
      have heq : start = stop := h
      omega
  | cons first cs ih =>
      obtain ⟨hoffset, -, hrest⟩ := h
      by_cases hk : k < start + first.length
      · exact ⟨first, List.mem_cons_self, by omega, by omega⟩
      · obtain ⟨c, hc, hbounds⟩ := ih hrest (by omega)
        exact ⟨c, List.mem_cons_of_mem _ hc, hbounds⟩

theorem Covers.offset_ne (h : Covers start stop (c :: cs)) {other : Chunk}
    (hother : other ∈ cs) : other.offset ≠ c.offset := by
  obtain ⟨hoffset, hpos, hrest⟩ := h
  have hbounds := hrest.bounds hother
  omega

end Interval

section Read

variable {ε β : Type} (read : Chunk → Except ε (List β))

/-- The chunks that are asked for: all up to the first one that is refused. -/
def asked : List Chunk → List Chunk
  | [] => []
  | c :: cs => c :: match read c with
    | .ok _ => asked cs
    | .error _ => []

variable {read} {cs : List Chunk} {parts : List (List β)} {e : ε}

theorem asked_cons_of_ok {c : Chunk} {part : List β} (h : read c = .ok part) :
    asked read (c :: cs) = c :: asked read cs := by
  rw [asked, h]

theorem asked_cons_of_error {c : Chunk} (h : read c = .error e) :
    asked read (c :: cs) = [c] := by
  rw [asked, h]

theorem mapM_cons_of_ok {c : Chunk} {part : List β} (h : read c = .ok part) :
    (c :: cs).mapM read = (cs.mapM read).map (part :: ·) := by
  rw [List.mapM_cons, h]
  cases cs.mapM read <;> rfl

theorem mapM_cons_of_error {c : Chunk} (h : read c = .error e) :
    (c :: cs).mapM read = .error e := by
  rw [List.mapM_cons, h]
  rfl

/-- The result depends on the answers for these chunks only. -/
theorem mapM_congr {read' : Chunk → Except ε (List β)} (h : ∀ c ∈ cs, read' c = read c) :
    cs.mapM read' = cs.mapM read := by
  induction cs with
  | nil => rfl
  | cons c cs ih =>
      rw [List.forall_mem_cons] at h
      rw [List.mapM_cons, List.mapM_cons, h.1, ih h.2]

/-- All chunks are answered, each with its part. -/
theorem mapM_eq_ok_iff :
    cs.mapM read = .ok parts ↔ List.Forall₂ (fun c part => read c = .ok part) cs parts := by
  induction cs generalizing parts with
  | nil =>
      rw [List.mapM_nil, List.forall₂_nil_left_iff]
      constructor
      · intro h
        exact (Except.ok.inj h).symm
      · rintro rfl
        rfl
  | cons c cs ih =>
      rw [List.forall₂_cons_left_iff]
      cases h : read c with
      | error e =>
          rw [mapM_cons_of_error h]
          simp
      | ok part =>
          rw [mapM_cons_of_ok h]
          cases hrest : cs.mapM read with
          | error e =>
              constructor
              · intro h'
                cases h'
              · rintro ⟨part', parts', -, hparts, -⟩
                rw [← ih, hrest] at hparts
                cases hparts
          | ok rest =>
              constructor
              · intro h'
                cases h'
                exact ⟨part, rest, rfl, ih.mp hrest, rfl⟩
              · rintro ⟨part', parts', hpart, hparts, rfl⟩
                rw [← ih, hrest] at hparts
                cases hpart
                cases hparts
                rfl

/-- The read succeeds exactly when no chunk is refused. -/
theorem exists_mapM_eq_ok_iff :
    (∃ parts, cs.mapM read = .ok parts) ↔ ∀ c ∈ cs, ∃ part, read c = .ok part := by
  simp only [mapM_eq_ok_iff]
  induction cs with
  | nil => simp
  | cons c cs ih =>
      simp only [List.forall₂_cons_left_iff, List.mem_cons, forall_eq_or_imp, ← ih]
      constructor
      · rintro ⟨_, part, parts, hpart, hparts, -⟩
        exact ⟨⟨part, hpart⟩, parts, hparts⟩
      · rintro ⟨⟨part, hpart⟩, parts, hparts⟩
        exact ⟨_, part, parts, hpart, hparts, rfl⟩

/-- A failed read fails with the first chunk that is refused, and asks for no
chunk after it. -/
theorem mapM_eq_error (h : cs.mapM read = .error e) :
    ∃ before c after, cs = before ++ c :: after ∧
      (∀ b ∈ before, ∃ part, read b = .ok part) ∧ read c = .error e ∧
        asked read cs = before ++ [c] := by
  induction cs with
  | nil => cases h
  | cons c cs ih =>
      cases hc : read c with
      | error e' =>
          rw [mapM_cons_of_error hc] at h
          cases h
          exact ⟨[], c, cs, rfl, by simp, hc, asked_cons_of_error hc⟩
      | ok part =>
          rw [mapM_cons_of_ok hc] at h
          cases hrest : cs.mapM read with
          | ok rest =>
              rw [hrest] at h
              cases h
          | error e' =>
              rw [hrest] at h
              cases h
              obtain ⟨before, c', after, rfl, hbefore, hc', hasked⟩ := ih hrest
              refine ⟨c :: before, c', after, rfl, ?_, hc', ?_⟩
              · rw [List.forall_mem_cons]
                exact ⟨⟨part, hc⟩, hbefore⟩
              · rw [asked_cons_of_ok hc, hasked]
                rfl

theorem asked_of_ok (h : cs.mapM read = .ok parts) : asked read cs = cs := by
  rw [mapM_eq_ok_iff] at h
  induction h with
  | nil => rfl
  | cons hc _ ih => rw [asked_cons_of_ok hc, ih]

section Width

variable {width start stop : ℕ}

theorem length_flatten
    (hread : ∀ c ∈ cs, ∀ part, read c = .ok part → part.length = width * c.length)
    (hcs : Covers start stop cs) (h : cs.mapM read = .ok parts) :
    width * start + parts.flatten.length = width * stop := by
  rw [mapM_eq_ok_iff] at h
  induction h generalizing start with
  | nil =>
      have heq : start = stop := hcs
      rw [heq]
      rfl
  | @cons c part cs parts hc _ ih =>
      rw [List.forall_mem_cons] at hread
      have hrest := ih hread.2 hcs.2.2
      rw [List.flatten_cons, List.length_append, hread.1 part hc]
      rw [Nat.mul_add] at hrest
      omega

theorem getElem?_flatten
    (hread : ∀ c ∈ cs, ∀ part, read c = .ok part → part.length = width * c.length)
    (hcs : Covers start stop cs) (h : cs.mapM read = .ok parts) {c : Chunk} (hc : c ∈ cs)
    {part : List β} (hpart : read c = .ok part) {j : ℕ} (hj : j < width * c.length) :
    parts.flatten[width * (c.offset - start) + j]? = part[j]? := by
  rw [mapM_eq_ok_iff] at h
  induction h generalizing start with
  | nil => cases hc
  | @cons first firstPart cs parts hfirst _ ih =>
      obtain ⟨hoffset, -, hrest⟩ := hcs
      rw [List.forall_mem_cons] at hread
      rw [List.flatten_cons]
      rcases List.mem_cons.mp hc with rfl | hc
      · rw [hpart] at hfirst
        cases hfirst
        rw [hoffset, Nat.sub_self, Nat.mul_zero, Nat.zero_add,
          List.getElem?_append_left (by rw [hread.1 part hpart]; exact hj)]
      · have hbounds := hrest.bounds hc
        have hindex : width * (c.offset - start) + j =
            firstPart.length + (width * (c.offset - (start + first.length)) + j) := by
          rw [hread.1 firstPart hfirst, ← Nat.add_assoc, ← Nat.mul_add]
          congr 2
          omega
        rw [hindex, List.getElem?_append_right (Nat.le_add_right _ _),
          Nat.add_sub_cancel_left]
        exact ih hread.2 hrest hc

end Width

end Read

end Chunks
