import FrameworkFfi.Diagnostics
import FrameworkFfi.Library.Chunks

/-!
# The POST code history

`port80_read` reads the history in chunks. Its loop is the chunked read of the
interval `[0, history_size)` whose answers are checked for their length and cut
to it, so its result follows from the rules of such a read.
-/

namespace FrameworkFfi

open Effect Chunks

def chunkRequest (c : Chunk) : HostRequest :=
  .port80ReadBuffer (UInt32.ofNat c.offset) (UInt32.ofNat c.length)

def Machine.port80Answer (m : Machine) (w : World) (c : Chunk) : EcResult (List UInt8) :=
  m.answer (chunkRequest c) (w.asked (chunkRequest c))

/-- What a round makes of that answer. -/
def Machine.port80Part (m : Machine) (w : World) (c : Chunk) : EcResult (List UInt8) :=
  (m.port80Answer w c).bind (port80Entries (UInt32.ofNat c.length))

/-- The chunks of the entries from `offset` on. -/
def Machine.port80Chunks (m : Machine) (offset historySize : UInt32) : List Chunk :=
  chunks m.upstream.ecPort80SizeMax.toNat offset.toNat historySize.toNat

/-! ### The loop -/

section Loop

variable {m : Machine} {historySize offset : UInt32}

theorem sizeMax_pos (m : Machine) : 0 < m.upstream.ecPort80SizeMax.toNat :=
  m.upstream.ecPort80SizeMax_pos

theorem returns_port80ReadEntries (c : Chunk) (w : World) :
    Returns (port80ReadEntries (UInt32.ofNat c.offset) (UInt32.ofNat c.length)) m w
      (m.port80Part w c) (w.record (chunkRequest c)) :=
  returns_bind.mpr ⟨_, _, returns_ask_self, returns_pure_self⟩

/-- The chunk of the round at `offset`. -/
def Machine.port80Chunk (m : Machine) (offset historySize : UInt32) : Chunk :=
  ⟨offset.toNat, min m.upstream.ecPort80SizeMax.toNat (historySize.toNat - offset.toNat)⟩

theorem port80Chunks_of_lt (h : offset < historySize) :
    m.port80Chunks offset historySize = m.port80Chunk offset historySize ::
      m.port80Chunks (offset + min m.upstream.ecPort80SizeMax (historySize - offset))
        historySize := by
  have hlt : offset.toNat < historySize.toNat := h
  rw [Machine.port80Chunks, chunks_of_lt hlt (sizeMax_pos m), Machine.port80Chunks,
    toNat_nextOffset _ h]
  rfl

theorem port80Chunks_of_le (h : ¬ offset < historySize) :
    m.port80Chunks offset historySize = [] := by
  have hle : historySize.toNat ≤ offset.toNat := Nat.not_lt.mp h
  rw [Machine.port80Chunks, chunks_of_le hle]

theorem covers_port80Chunks (h : offset.toNat ≤ historySize.toNat) :
    Covers offset.toNat historySize.toNat (m.port80Chunks offset historySize) :=
  covers_chunks (sizeMax_pos m) h

theorem returns_round (h : offset < historySize) (w : World) :
    Returns (port80ReadEntries offset
        (min m.upstream.ecPort80SizeMax (historySize - offset))) m w
      (m.port80Part w (m.port80Chunk offset historySize))
      (w.record (chunkRequest (m.port80Chunk offset historySize))) := by
  have hround := returns_port80ReadEntries (m := m) (m.port80Chunk offset historySize) w
  have hoffset : UInt32.ofNat (m.port80Chunk offset historySize).offset = offset :=
    UInt32.ofNat_toNat
  have hlength : UInt32.ofNat (m.port80Chunk offset historySize).length =
      min m.upstream.ecPort80SizeMax (historySize - offset) := by
    have hnat := toNat_numEntries m.upstream.ecPort80SizeMax h
    rw [Machine.port80Chunk, ← hnat, UInt32.ofNat_toNat]
  rw [hoffset, hlength] at hround
  exact hround

theorem chunkRequest_ne {c other : Chunk} (hne : c.offset ≠ other.offset)
    (hc : c.offset < 2 ^ 32) (hother : other.offset < 2 ^ 32) :
    chunkRequest c ≠ chunkRequest other := by
  intro h
  have hoffset := congrArg UInt32.toNat (HostRequest.port80ReadBuffer.inj h).1
  rw [UInt32.toNat_ofNat_of_lt' hc, UInt32.toNat_ofNat_of_lt' hother] at hoffset
  exact hne hoffset

theorem port80Part_record_of_ne {c other : Chunk} (h : chunkRequest c ≠ chunkRequest other)
    (w : World) : m.port80Part (w.record (chunkRequest other)) c = m.port80Part w c := by
  rw [Machine.port80Part, Machine.port80Answer, World.asked_record_of_ne w h]
  rfl

theorem map_cons_foldl {ε α β : Type} (f : β → α → β) (b : β) (a : α)
    (result : Except ε (List α)) :
    (result.map (a :: ·)).map (fun as => as.foldl f b) =
      result.map fun as => as.foldl f (f b a) := by
  cases result <;> rfl

/-- The loop from `offset` on is the read of the remaining chunks. The recursion
is on what is left, and the answers a round leaves for the next ones are those
that were there before it, because no request is made twice. -/
theorem returns_port80Loop (offset : UInt32) (codes : ByteVec) (w : World)
    (reply : Chunk → EcResult (List UInt8))
    (hreply : ∀ c ∈ m.port80Chunks offset historySize, m.port80Part w c = reply c) :
    Returns (port80Loop historySize offset codes) m w
      (((m.port80Chunks offset historySize).mapM reply).map
        fun parts => parts.foldl m.extendFromSlice codes)
      (w.recordAll ((asked reply (m.port80Chunks offset historySize)).map chunkRequest)) := by
  induction hleft : historySize.toNat - offset.toNat using Nat.strongRecOn
    generalizing offset codes w with
  | ind left ih =>
      rw [port80Loop]
      by_cases h : offset < historySize
      · rw [dif_pos h]
        have hlt : offset.toNat < historySize.toNat := h
        have hnext := toNat_nextOffset m.upstream.ecPort80SizeMax h
        have hpos := sizeMax_pos m
        have hmax := historySize.toNat_lt
        have hcovers := covers_port80Chunks (m := m) (Nat.le_of_lt hlt)
        rw [port80Chunks_of_lt h] at hreply hcovers ⊢
        refine returns_bind.mpr ⟨_, _, returns_view_self, ?_⟩
        refine returns_bind.mpr ⟨_, _, returns_round h w, ?_⟩
        rw [hreply _ List.mem_cons_self]
        cases hpart : reply (m.port80Chunk offset historySize) with
        | error error =>
            rw [mapM_cons_of_error hpart, asked_cons_of_error hpart]
            exact returns_pure_self
        | ok part =>
            rw [mapM_cons_of_ok hpart, asked_cons_of_ok hpart]
            refine returns_bind.mpr ⟨_, _, returns_view_self, ?_⟩
            refine returns_bind.mpr ⟨_, _, returns_checkArithmetic.mpr ⟨rfl, ?_⟩, ?_⟩
            · intro _
              rw [toNat_numEntries _ h]
              exact decide_eq_true (by omega)
            · have hless : historySize.toNat -
                  (offset + min m.upstream.ecPort80SizeMax (historySize - offset)).toNat <
                    left := by omega
              have hrest := ih _ hless _ (m.extendFromSlice codes part)
                (w.record (chunkRequest (m.port80Chunk offset historySize))) ?_ rfl
              · rw [map_cons_foldl]
                exact hrest
              · intro c hc
                have hbounds := hcovers.bounds (List.mem_cons_of_mem _ hc)
                have hne := chunkRequest_ne (hcovers.offset_ne hc) (by omega)
                  (Nat.lt_trans hlt hmax)
                rw [port80Part_record_of_ne hne]
                exact hreply c (List.mem_cons_of_mem _ hc)
      · rw [dif_neg h, port80Chunks_of_le h]
        exact returns_pure_self

end Loop

/-! ### One chunk -/

/-- The controller answers a chunk with all of its entries. -/
def Machine.Answers (m : Machine) (w : World) (c : Chunk) : Prop :=
  ∃ data, m.port80Answer w c = .ok data ∧ 2 * c.length ≤ data.length

section Part

variable {m : Machine} {w : World} {c : Chunk}

theorem port80Entries_eq (hc : c.length < 2 ^ 32) (data : List UInt8) :
    port80Entries (UInt32.ofNat c.length) data =
      if data.length < 2 * c.length then
        .error (port80ShortResponse (UInt32.ofNat c.length) data.length)
      else .ok (data.take (2 * c.length)) := by
  rw [port80Entries, UInt32.toNat_ofNat_of_lt' hc]

/-- A chunk has a part exactly when it is answered in full. -/
theorem port80Part_eq_ok_iff (hc : c.length < 2 ^ 32) {part : List UInt8} :
    m.port80Part w c = .ok part ↔ ∃ data, m.port80Answer w c = .ok data ∧
      2 * c.length ≤ data.length ∧ part = data.take (2 * c.length) := by
  rw [Machine.port80Part]
  cases m.port80Answer w c with
  | error error =>
      constructor
      · intro h
        cases h
      · rintro ⟨data, hdata, -⟩
        cases hdata
  | ok data =>
      show port80Entries _ data = _ ↔ _
      rw [port80Entries_eq hc]
      by_cases h : data.length < 2 * c.length
      · rw [if_pos h]
        constructor
        · intro h'
          cases h'
        · rintro ⟨data', hdata, hle, -⟩
          cases hdata
          omega
      · rw [if_neg h]
        constructor
        · intro h'
          cases h'
          exact ⟨data, rfl, Nat.not_lt.mp h, rfl⟩
        · rintro ⟨data', hdata, -, rfl⟩
          cases hdata
          rfl

theorem exists_port80Part_iff (hc : c.length < 2 ^ 32) :
    (∃ part, m.port80Part w c = .ok part) ↔ m.Answers w c := by
  simp only [port80Part_eq_ok_iff hc, Machine.Answers]
  constructor
  · rintro ⟨part, data, hdata, hle, -⟩
    exact ⟨data, hdata, hle⟩
  · rintro ⟨data, hdata, hle⟩
    exact ⟨_, data, hdata, hle, rfl⟩

/-- A chunk is refused by the controller or because its answer is short. -/
theorem port80Part_eq_error (hc : c.length < 2 ^ 32) {error : EcError}
    (h : m.port80Part w c = .error error) :
    m.port80Answer w c = .error error ∨ ∃ data, m.port80Answer w c = .ok data ∧
      data.length < 2 * c.length ∧
        error = port80ShortResponse (UInt32.ofNat c.length) data.length := by
  rw [Machine.port80Part] at h
  cases hanswer : m.port80Answer w c with
  | error e =>
      rw [hanswer] at h
      exact .inl h
  | ok data =>
      rw [hanswer] at h
      have hentries : port80Entries (UInt32.ofNat c.length) data = .error error := h
      rw [port80Entries_eq hc] at hentries
      split_ifs at hentries with hshort
      cases hentries
      exact .inr ⟨data, rfl, hshort, rfl⟩

theorem port80Entries_congr (hc : c.length < 2 ^ 32) {data data' : List UInt8}
    (h : data'.take (2 * c.length) = data.take (2 * c.length)) :
    port80Entries (UInt32.ofNat c.length) data' =
      port80Entries (UInt32.ofNat c.length) data := by
  have hlength := congrArg List.length h
  rw [List.length_take, List.length_take] at hlength
  rw [port80Entries_eq hc, port80Entries_eq hc, h]
  by_cases hshort : data.length < 2 * c.length
  · have heq : data'.length = data.length := by omega
    rw [heq]
  · rw [if_neg hshort, if_neg (by omega)]

end Part

/-! ### The whole history -/

/-- What `port80_read` returns once it knows the size of the history. -/
def Machine.port80History (m : Machine) (w : World) (info : EcResponsePort80Info) :
    EcResult Port80History :=
  ((m.port80Chunks 0 info.historySize).mapM (m.port80Part w)).map fun parts =>
    { writes := info.writes
      historySize := info.historySize
      codes := parts.foldl m.extendFromSlice (m.vecWithCapacity (info.historySize.toNat * 2)) }

def Machine.port80Asked (m : Machine) (w : World) (info : EcResponsePort80Info) :
    List Chunk :=
  asked (m.port80Part w) (m.port80Chunks 0 info.historySize)

section Read

variable {m : Machine} {w : World} {info : EcResponsePort80Info}

theorem returns_port80Read
    (hinfo : m.answer .port80GetInfo (w.asked .port80GetInfo) = .ok info) :
    Returns port80Read m w (m.port80History w info)
      (w.recordAll (.port80GetInfo :: (m.port80Asked w info).map chunkRequest)) := by
  have hreply : ∀ c ∈ m.port80Chunks 0 info.historySize,
      m.port80Part (w.record .port80GetInfo) c = m.port80Part w c := by
    intro c _
    rw [Machine.port80Part, Machine.port80Answer,
      World.asked_record_of_ne w (by simp [chunkRequest])]
    rfl
  have hloop := returns_port80Loop 0 (m.vecWithCapacity (info.historySize.toNat * 2))
    (w.record .port80GetInfo) (m.port80Part w) hreply
  refine returns_bind.mpr ⟨_, _, returns_ask_self, ?_⟩
  rw [hinfo]
  refine returns_bind.mpr ⟨_, _, returns_view_self, ?_⟩
  refine returns_bind.mpr ⟨_, _, hloop, ?_⟩
  rw [Machine.port80History]
  cases (m.port80Chunks 0 info.historySize).mapM (m.port80Part w) with
  | error error => exact returns_pure_self
  | ok parts => exact returns_pure_self

theorem bytes_foldl_extendFromSlice (parts : List (List UInt8)) (codes : ByteVec) :
    (parts.foldl m.extendFromSlice codes).bytes = codes.bytes ++ parts.flatten := by
  induction parts generalizing codes with
  | nil => simp
  | cons part parts ih =>
      rw [List.foldl_cons, ih, Machine.bytes_extendFromSlice, List.flatten_cons,
        List.append_assoc]

theorem covers_port80History (m : Machine) (info : EcResponsePort80Info) :
    Covers 0 info.historySize.toNat (m.port80Chunks 0 info.historySize) :=
  covers_chunks (sizeMax_pos m) (Nat.zero_le _)

/-- A chunk of the history and its end are `u32`s, and no chunk is too long. -/
theorem bounds_of_mem_port80Chunks {c : Chunk} (hc : c ∈ m.port80Chunks 0 info.historySize) :
    c.length ≤ m.upstream.ecPort80SizeMax.toNat ∧ c.offset + c.length < 2 ^ 32 := by
  have hbounds := (covers_port80History m info).bounds hc
  have hmax := info.historySize.toNat_lt
  exact ⟨length_le_of_mem_chunks hc, by omega⟩

theorem length_lt_of_mem_port80Chunks {c : Chunk}
    (hc : c ∈ m.port80Chunks 0 info.historySize) : c.length < 2 ^ 32 := by
  have hbounds := (bounds_of_mem_port80Chunks hc).2
  omega

theorem length_of_port80Part {c : Chunk} (hc : c ∈ m.port80Chunks 0 info.historySize)
    {part : List UInt8} (h : m.port80Part w c = .ok part) : part.length = 2 * c.length := by
  obtain ⟨data, -, hle, rfl⟩ :=
    (port80Part_eq_ok_iff (length_lt_of_mem_port80Chunks hc)).mp h
  rw [List.length_take, Nat.min_eq_left hle]

theorem port80History_eq_ok_iff {history : Port80History} :
    m.port80History w info = .ok history ↔ ∃ parts,
      (m.port80Chunks 0 info.historySize).mapM (m.port80Part w) = .ok parts ∧
        history =
          { writes := info.writes
            historySize := info.historySize
            codes := parts.foldl m.extendFromSlice
              (m.vecWithCapacity (info.historySize.toNat * 2)) } := by
  rw [Machine.port80History]
  cases (m.port80Chunks 0 info.historySize).mapM (m.port80Part w) with
  | error error =>
      constructor
      · intro h
        cases h
      · rintro ⟨parts, h, -⟩
        cases h
  | ok parts =>
      constructor
      · intro h
        cases h
        exact ⟨parts, rfl, rfl⟩
      · rintro ⟨parts', h, rfl⟩
        cases h
        rfl

theorem mapM_of_port80History_error {error : EcError}
    (h : m.port80History w info = .error error) :
    (m.port80Chunks 0 info.historySize).mapM (m.port80Part w) = .error error := by
  rw [Machine.port80History] at h
  cases hparts : (m.port80Chunks 0 info.historySize).mapM (m.port80Part w) with
  | error error' =>
      rw [hparts] at h
      cases h
      rfl
  | ok parts =>
      rw [hparts] at h
      cases h

end Read

/-! ### Correctness -/

/-- The result of a read of a history whose size is known, and the chunks that
were asked for. -/
structure ReadsHistory (m : Machine) (w : World) (info : EcResponsePort80Info)
    (requests : List Chunk) (result : EcResult Port80History) : Prop where
  ok_iff : (∃ history, result = .ok history) ↔
    ∀ c ∈ m.port80Chunks 0 info.historySize, m.Answers w c
  complete : ∀ history, result = .ok history →
    requests = m.port80Chunks 0 info.historySize
  fields : ∀ history, result = .ok history →
    history.writes = info.writes ∧ history.historySize = info.historySize ∧
      history.codes.length = 2 * info.historySize.toNat
  /-- Entry `k` is the two bytes that were answered for position `k`. -/
  entries : ∀ history, result = .ok history → ∀ k < info.historySize.toNat,
    ∃ c ∈ m.port80Chunks 0 info.historySize, c.offset ≤ k ∧ k < c.offset + c.length ∧
      ∃ data, m.port80Answer w c = .ok data ∧ ∀ b < 2,
        history.codes.bytes[2 * k + b]? = data[2 * (k - c.offset) + b]?
  /-- A failed read stops at the first chunk that is not answered in full. -/
  failed : ∀ error, result = .error error → ∃ before c after,
    m.port80Chunks 0 info.historySize = before ++ c :: after ∧ requests = before ++ [c] ∧
      (∀ b ∈ before, m.Answers w b) ∧
        (m.port80Answer w c = .error error ∨ ∃ data, m.port80Answer w c = .ok data ∧
          data.length < 2 * c.length ∧
            error = port80ShortResponse (UInt32.ofNat c.length) data.length)

/-- Two runs whose answers differ only in bytes beyond the entries asked for. -/
structure SameEntries (m : Machine) (w : World) (m' : Machine) (w' : World)
    (info : EcResponsePort80Info) : Prop where
  getInfo : m'.answer .port80GetInfo (w'.asked .port80GetInfo) = .ok info
  sizeMax : m'.upstream.ecPort80SizeMax = m.upstream.ecPort80SizeMax
  allocate : m'.allocate = m.allocate
  answers : ∀ c ∈ m.port80Chunks 0 info.historySize,
    (m'.port80Answer w' c).map (List.take (2 * c.length)) =
      (m.port80Answer w c).map (List.take (2 * c.length))

section Correct

variable {m : Machine} {w : World} {info : EcResponsePort80Info}

theorem entries_of_parts {parts : List (List UInt8)}
    (hparts : (m.port80Chunks 0 info.historySize).mapM (m.port80Part w) = .ok parts) {k : ℕ}
    (hk : k < info.historySize.toNat) :
    ∃ c ∈ m.port80Chunks 0 info.historySize, c.offset ≤ k ∧ k < c.offset + c.length ∧
      ∃ data, m.port80Answer w c = .ok data ∧ ∀ b < 2,
        parts.flatten[2 * k + b]? = data[2 * (k - c.offset) + b]? := by
  have hcovers := covers_port80History m info
  obtain ⟨c, hc, hle, hlt⟩ := hcovers.exists_mem (Nat.zero_le k) hk
  obtain ⟨part, hpart⟩ := exists_mapM_eq_ok_iff.mp ⟨parts, hparts⟩ c hc
  obtain ⟨data, hdata, hlong, rfl⟩ :=
    (port80Part_eq_ok_iff (length_lt_of_mem_port80Chunks hc)).mp hpart
  refine ⟨c, hc, hle, hlt, data, hdata, fun b hb => ?_⟩
  have hindex : 2 * k + b = 2 * (c.offset - 0) + (2 * (k - c.offset) + b) := by omega
  have hget := getElem?_flatten (fun c hc part => length_of_port80Part hc) hcovers hparts hc
    hpart (j := 2 * (k - c.offset) + b) (by omega)
  rw [hindex, hget, List.getElem?_take_of_lt (by omega)]

theorem readsHistory (m : Machine) (w : World) (info : EcResponsePort80Info) :
    ReadsHistory m w info (m.port80Asked w info) (m.port80History w info) where
  ok_iff := by
    simp only [port80History_eq_ok_iff]
    constructor
    · rintro ⟨history, parts, hparts, -⟩ c hc
      rw [← exists_port80Part_iff (length_lt_of_mem_port80Chunks hc)]
      exact exists_mapM_eq_ok_iff.mp ⟨parts, hparts⟩ c hc
    · intro h
      obtain ⟨parts, hparts⟩ := exists_mapM_eq_ok_iff.mpr fun c hc =>
        (exists_port80Part_iff (length_lt_of_mem_port80Chunks hc)).mpr (h c hc)
      exact ⟨_, parts, hparts, rfl⟩
  complete := by
    intro history h
    obtain ⟨parts, hparts, -⟩ := port80History_eq_ok_iff.mp h
    exact asked_of_ok hparts
  fields := by
    intro history h
    obtain ⟨parts, hparts, rfl⟩ := port80History_eq_ok_iff.mp h
    refine ⟨rfl, rfl, ?_⟩
    have hlength := length_flatten (fun c hc part => length_of_port80Part hc)
      (covers_port80History m info) hparts
    rw [ByteVec.length, bytes_foldl_extendFromSlice, Machine.bytes_vecWithCapacity,
      List.nil_append]
    omega
  entries := by
    intro history h k hk
    obtain ⟨parts, hparts, rfl⟩ := port80History_eq_ok_iff.mp h
    rw [bytes_foldl_extendFromSlice, Machine.bytes_vecWithCapacity, List.nil_append]
    exact entries_of_parts hparts hk
  failed := by
    intro error h
    obtain ⟨before, c, after, hsplit, hbefore, hc, hasked⟩ :=
      mapM_eq_error (mapM_of_port80History_error h)
    have hmem : ∀ b ∈ before ++ [c], b ∈ m.port80Chunks 0 info.historySize := by
      intro b hb
      rw [hsplit, List.append_cons]
      exact List.mem_append_left _ hb
    refine ⟨before, c, after, hsplit, hasked, fun b hb => ?_, ?_⟩
    · rw [← exists_port80Part_iff
        (length_lt_of_mem_port80Chunks (hmem b (List.mem_append_left _ hb)))]
      exact hbefore b hb
    · exact port80Part_eq_error (length_lt_of_mem_port80Chunks (hmem c (by simp))) hc

theorem port80Part_congr {m' : Machine} {w' : World} {c : Chunk} (hc : c.length < 2 ^ 32)
    (h : (m'.port80Answer w' c).map (List.take (2 * c.length)) =
      (m.port80Answer w c).map (List.take (2 * c.length))) :
    m'.port80Part w' c = m.port80Part w c := by
  rw [Machine.port80Part, Machine.port80Part]
  cases hanswer : m.port80Answer w c with
  | error error =>
      cases hanswer' : m'.port80Answer w' c with
      | error error' =>
          rw [hanswer, hanswer'] at h
          cases h
          rfl
      | ok data' =>
          rw [hanswer, hanswer'] at h
          cases h
  | ok data =>
      cases hanswer' : m'.port80Answer w' c with
      | error error' =>
          rw [hanswer, hanswer'] at h
          cases h
      | ok data' =>
          rw [hanswer, hanswer'] at h
          exact port80Entries_congr hc (Except.ok.inj h)

theorem extendFromSlice_congr {m' : Machine} (h : m'.allocate = m.allocate) :
    m'.extendFromSlice = m.extendFromSlice := by
  funext vec slice
  simp only [Machine.extendFromSlice, h]

/-- The result depends on the entries of the answers only. -/
theorem port80History_congr {m' : Machine} {w' : World} (h : SameEntries m w m' w' info) :
    m'.port80History w' info = m.port80History w info := by
  have hchunks : m'.port80Chunks 0 info.historySize = m.port80Chunks 0 info.historySize := by
    rw [Machine.port80Chunks, Machine.port80Chunks, h.sizeMax]
  have hparts : (m.port80Chunks 0 info.historySize).mapM (m'.port80Part w') =
      (m.port80Chunks 0 info.historySize).mapM (m.port80Part w) :=
    mapM_congr fun c hc => port80Part_congr (length_lt_of_mem_port80Chunks hc) (h.answers c hc)
  have hempty : ∀ n, m'.vecWithCapacity n = m.vecWithCapacity n := by
    intro n
    simp only [Machine.vecWithCapacity, h.allocate]
  rw [Machine.port80History, Machine.port80History, hchunks, hparts,
    extendFromSlice_congr h.allocate, hempty]

end Correct

/-- The reader terminates on every machine without an overflow, asks for the
entries in order and without a gap up to the first answer that fails or is
short, and returns exactly the bytes of the entries when there is none. -/
theorem port80Read_correct (m : Machine) (w : World) :
    (∀ error, m.answer .port80GetInfo (w.asked .port80GetInfo) = .error error →
      Returns port80Read m w (.error error) (w.record .port80GetInfo)) ∧
    ∀ info, m.answer .port80GetInfo (w.asked .port80GetInfo) = .ok info →
      Covers 0 info.historySize.toNat (m.port80Chunks 0 info.historySize) ∧
      (∀ c ∈ m.port80Chunks 0 info.historySize,
        c.length ≤ m.upstream.ecPort80SizeMax.toNat ∧ c.offset + c.length < 2 ^ 32) ∧
      ∃ requests result,
        Returns port80Read m w result
          (w.recordAll (.port80GetInfo :: requests.map chunkRequest)) ∧
        ReadsHistory m w info requests result ∧
        ∀ m' w', SameEntries m w m' w' info → ∃ w'', Returns port80Read m' w' result w'' := by
  constructor
  · intro error h
    refine returns_bind.mpr ⟨_, _, returns_ask_self, ?_⟩
    rw [h]
    exact returns_pure_self
  · intro info hinfo
    refine ⟨covers_port80History m info, fun c hc => bounds_of_mem_port80Chunks hc,
      m.port80Asked w info, m.port80History w info, returns_port80Read hinfo,
      readsHistory m w info, fun m' w' h => ?_⟩
    rw [← port80History_congr h]
    exact ⟨_, returns_port80Read h.getInfo⟩

end FrameworkFfi
