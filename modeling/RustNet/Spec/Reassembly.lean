import RustNet.Spec.ReassemblerInvariant

/-!
# Reassembling a stream from its chunks, in any order

A ClientHello split over several Initial packets reaches `add_fragment` as CRYPTO frames: the
stream cut into chunks at consecutive offsets. Packets are reordered and retransmitted, so the
chunks arrive in any order, some of them more than once. `addFragments_reassembles` says that
none of this matters: once every chunk of a stream of at most 64 KiB has arrived, in whatever
order, with whatever repetitions and clock readings, `get_contiguous_data` returns the stream.

`getContiguousData_extends` says that reassembled bytes are final: after any further calls with
nonempty fragments, `get_contiguous_data` returns what it returned before, followed by possibly
more bytes.

`clearFragments_resets` says that `clear_fragments` is a full reset for every later call: it keeps
`contiguous_offset`, but a cleared reassembler answers, stores and reassembles as a new one.

The run is followed with `Collecting`: every stored fragment is a chunk, and
`current_buffer_size` counts the stored bytes exactly, so the size check never turns away a
chunk that is still missing (`Collecting.addFragment`), and a repeated chunk is dropped by the
overlap scan or by the size check, with nothing changed.
-/

namespace RustNet.Network.CryptoFrameReassembler

open RustNet.Spec

/-- The fragments of a stream cut into `pieces`, the first piece at stream offset `offset`. -/
def chunks (offset : Nat) : List (List UInt8) → List Fragment
  | [] => []
  | piece :: pieces => (offset, piece) :: chunks (offset + piece.length) pieces

/-- A sequence of `add_fragment` calls, each with its clock reading; the results are dropped. -/
def addFragments (r : CryptoFrameReassembler) : List (Nat × Fragment) → CryptoFrameReassembler
  | [] => r
  | (now, offset, data) :: calls => addFragments (r.addFragment now offset data).2 calls

/-! ## The chunks of a stream -/

section Chunks

variable {offset : Nat} {pieces : List (List UInt8)}

theorem mem_chunks {fr : Fragment} (h : fr ∈ chunks offset pieces) :
    fr.2 ∈ pieces ∧ offset ≤ fr.1 ∧ fr.1 + fr.2.length ≤ offset + pieces.flatten.length := by
  induction pieces generalizing offset with
  | nil => simp [chunks] at h
  | cons piece pieces ih =>
    rw [List.flatten_cons, List.length_append]
    rcases List.mem_cons.mp h with rfl | h
    · exact ⟨List.mem_cons_self _ _, Nat.le_refl _, by dsimp only; omega⟩
    · obtain ⟨hmem, hlo, hhi⟩ := ih h
      exact ⟨List.mem_cons_of_mem _ hmem, by omega, by omega⟩

/-- Each chunk ends at or before the start of every later one. -/
theorem chunks_pairwise (offset : Nat) (pieces : List (List UInt8)) :
    (chunks offset pieces).Pairwise fun a b => a.1 + a.2.length ≤ b.1 := by
  induction pieces generalizing offset with
  | nil => exact .nil
  | cons piece pieces ih => exact .cons (fun _ hfr => (mem_chunks hfr).2.1) (ih _)

theorem intervalsDisjoint_chunks (offset : Nat) (pieces : List (List UInt8)) :
    IntervalsDisjoint (chunks offset pieces) :=
  (chunks_pairwise offset pieces).imp fun h => by omega

/-- Every stream position is held by a chunk, which stores the stream's byte there. -/
theorem chunks_cover {p : Nat} (hp : p < pieces.flatten.length) :
    ∃ fr ∈ chunks offset pieces, Covers fr (offset + p) ∧
      fr.2[offset + p - fr.1]? = pieces.flatten[p]? := by
  induction pieces generalizing offset p with
  | nil => simp at hp
  | cons piece pieces ih =>
    rw [List.flatten_cons, List.length_append] at hp
    rw [List.flatten_cons]
    by_cases hlt : p < piece.length
    · refine ⟨(offset, piece), List.mem_cons_self _ _, ⟨Nat.le_add_right _ _, by dsimp only; omega⟩, ?_⟩
      rw [List.getElem?_append_left hlt, Nat.add_sub_cancel_left]
    · obtain ⟨fr, hfr, hcov, hb⟩ := @ih (offset + piece.length) (p - piece.length) (by omega)
      have hpos : offset + piece.length + (p - piece.length) = offset + p := by omega
      rw [hpos] at hcov hb
      exact ⟨fr, List.mem_cons_of_mem _ hfr, hcov,
        hb.trans (List.getElem?_append_right (Nat.le_of_not_lt hlt)).symm⟩

theorem storedBytes_chunks (offset : Nat) (pieces : List (List UInt8)) :
    storedBytes (chunks offset pieces) = pieces.flatten.length := by
  induction pieces generalizing offset with
  | nil => rfl
  | cons piece pieces ih =>
    simp only [storedBytes, chunks, List.map_cons, List.sum_cons, List.flatten_cons,
      List.length_append] at ih ⊢
    rw [ih]

/-- The chunks from offset 0 cover exactly the stream. -/
theorem coveredPrefix_chunks (pieces : List (List UInt8)) :
    coveredPrefix (chunks 0 pieces) = pieces.flatten.length := by
  refine coveredPrefix_eq_iff.mpr ⟨fun p hp => ?_, fun ⟨fr, hfr, hcov⟩ => ?_⟩
  · obtain ⟨fr, hfr, hcov, -⟩ := @chunks_cover 0 pieces _ hp
    exact ⟨fr, hfr, by simpa using hcov⟩
  · have := (mem_chunks hfr).2.2
    have := hcov.2
    omega

end Chunks

/-! ## A run that collects chunks -/

/-- Total stored bytes are invariant under reordering the fragments. -/
theorem storedBytes_perm {l₁ l₂ : List Fragment} (h : l₁.Perm l₂) : storedBytes l₁ = storedBytes l₂ :=
  (h.map _).sum_eq

theorem storedBytes_le_of_subperm {l₁ l₂ : List Fragment} (h : l₁.Subperm l₂) :
    storedBytes l₁ ≤ storedBytes l₂ := by
  obtain ⟨l, hp, hs⟩ := h
  rw [← storedBytes_perm hp]
  exact (hs.map _).sum_le_sum fun _ _ => Nat.zero_le _

/-- A nonempty fragment that the overlap scan stops at shares a position with a stored one. -/
theorem exists_covers_of_overlapsStored {o : Nat} {d : List UInt8} (hd : d ≠ [])
    {fragments : List Fragment} (hne : ∀ fr ∈ fragments, fr.2 ≠ [])
    (h : overlapsStored o (o + d.length) fragments = true) :
    ∃ fr ∈ fragments, Covers fr (max o fr.1) ∧ Covers (o, d) (max o fr.1) := by
  obtain ⟨fr, hfr, hov⟩ := List.any_eq_true.mp h
  have := List.length_pos.mpr hd
  have := List.length_pos.mpr (hne fr hfr)
  simp only [Bool.or_eq_true, Bool.and_eq_true, beq_iff_eq, decide_eq_true_eq] at hov
  exact ⟨fr, hfr, by unfold Covers; omega, by unfold Covers; dsimp only; omega⟩

/-- A state of a run whose calls were all chunks of `F`: it is reached from `new` by nonempty
fragments, it stores only chunks, and its buffered size is exactly the stored bytes. -/
structure Collecting (F : List Fragment) (r : CryptoFrameReassembler) : Prop where
  accumulated : Accumulated r
  stored_chunk : ∀ fr ∈ r.fragments.toList, fr ∈ F
  buffer_eq : r.currentBufferSize = storedBytes r.fragments.toList

section Collecting

variable {F : List Fragment} (hne : ∀ fr ∈ F, fr.2 ≠ []) (hdis : IntervalsDisjoint F)
  (hsize : storedBytes F ≤ 64 * 1024) (hend : ∀ fr ∈ F, fr.1 + fr.2.length < 2 ^ 64)
include hne hdis hsize hend

/-- One call with a chunk keeps `Collecting`, stores the chunk, and keeps every stored one. -/
theorem Collecting.addFragment {r : CryptoFrameReassembler} (h : Collecting F r) (now : Nat)
    {c : Fragment} (hc : c ∈ F) :
    Collecting F (r.addFragment now c.1 c.2).2 ∧ c ∈ (r.addFragment now c.1 c.2).2.fragments.toList ∧
      ∀ fr ∈ r.fragments.toList, fr ∈ (r.addFragment now c.1 c.2).2.fragments.toList := by
  have hacc := h.accumulated.addFragment now c.1 c.2 (hend c hc) (hne c hc)
  have hmax := (reachable_inv h.accumulated.reachable).max_eq
  have hstored_ne : ∀ fr ∈ r.fragments.toList, fr.2 ≠ [] := fun fr hfr => hne fr (h.stored_chunk fr hfr)
  rcases addFragment_cases r now c.1 c.2 with ⟨hover, he⟩ | ⟨-, hov, he⟩ | ⟨-, hov, he⟩ <;>
    rw [he] at hacc ⊢
  · -- turned away for size: the chunk is stored already, since all missing ones fit
    refine ⟨h, by_contra fun hcs => ?_, fun _ => id⟩
    have hsub := storedBytes_le_of_subperm (List.Nodup.subperm
      (List.nodup_cons.mpr ⟨hcs, r.fragments.nodup⟩)
      (List.cons_subset.mpr ⟨hc, h.stored_chunk⟩))
    simp only [storedBytes, List.map_cons, List.sum_cons] at hsub hsize
    rw [h.buffer_eq, hmax] at hover
    unfold storedBytes at hover
    omega
  · -- stopped by the overlap scan: the chunk it overlaps is the chunk itself
    obtain ⟨fr, hfr, hcov, hcov'⟩ := exists_covers_of_overlapsStored (hne c hc) hstored_ne hov
    have : fr = c := hdis.eq_of_covers (h.stored_chunk fr hfr) hc hcov hcov'
    exact ⟨⟨hacc, h.stored_chunk, h.buffer_eq⟩, this ▸ hfr, fun _ => id⟩
  · -- stored: no stored fragment starts where the chunk does
    have hfresh : ∀ fr ∈ r.fragments.toList, fr.1 ≠ c.1 := fun fr hfr hfo => by
      have := (overlapsStored_eq_false.mp hov fr hfr).2
      have := List.length_pos.mpr (hne c hc)
      have := List.length_pos.mpr (hstored_ne fr hfr)
      omega
    refine ⟨⟨hacc, fun fr hfr => ?_, ?_⟩, BTreeMap.mem_insert.mpr (.inl rfl),
      fun _ => mem_insert_of_nonempty hstored_ne (hne c hc) hov⟩
    · rcases BTreeMap.mem_insert.mp hfr with rfl | ⟨hfr, -⟩
      · exact hc
      · exact h.stored_chunk fr hfr
    · show r.currentBufferSize + c.2.length = storedBytes (r.fragments.insert c.1 c.2).toList
      rw [storedBytes_perm (BTreeMap.insert_perm hfresh), h.buffer_eq]
      simp only [storedBytes, List.map_cons, List.sum_cons]
      omega

/-- A run of calls with chunks keeps `Collecting`, and ends with every chunk it sent stored. -/
theorem Collecting.addFragments {r : CryptoFrameReassembler} (h : Collecting F r)
    {calls : List (Nat × Fragment)} (hcalls : ∀ call ∈ calls, call.2 ∈ F) :
    Collecting F (r.addFragments calls) ∧
      ∀ fr, (fr ∈ r.fragments.toList ∨ ∃ call ∈ calls, call.2 = fr) →
        fr ∈ (r.addFragments calls).fragments.toList := by
  induction calls generalizing r with
  | nil => exact ⟨h, fun fr hfr => hfr.resolve_right (by simp)⟩
  | cons call calls ih =>
    obtain ⟨now, c⟩ := call
    obtain ⟨h', hc, hkeep⟩ := h.addFragment hne hdis hsize hend now (hcalls _ (List.mem_cons_self _ _))
    obtain ⟨hrun, hstored⟩ := ih h' fun call hcall => hcalls call (List.mem_cons_of_mem _ hcall)
    refine ⟨hrun, fun fr hfr => hstored fr ?_⟩
    rcases hfr with hfr | ⟨call, hcall, rfl⟩
    · exact .inl (hkeep fr hfr)
    · rcases List.mem_cons.mp hcall with rfl | hcall
      · exact .inl hc
      · exact .inr ⟨call, hcall, rfl⟩

end Collecting

theorem collecting_new (F : List Fragment) (now : Nat) : Collecting F (new now) :=
  ⟨.new now, fun _ h => by simp [new] at h, rfl⟩

/-! ## Reassembly -/

/-- A stream of at most 64 KiB, cut into nonempty pieces, is read back by `get_contiguous_data`
after any sequence of calls that sends only its chunks and sends each of them at least once:
in any order, with repetitions, and with any clock readings. -/
theorem addFragments_reassembles (pieces : List (List UInt8)) (hpieces : ∀ p ∈ pieces, p ≠ [])
    (hs : pieces ≠ []) (hlen : pieces.flatten.length ≤ 64 * 1024) (start : Nat)
    (calls : List (Nat × Fragment)) (hsent : ∀ call ∈ calls, call.2 ∈ chunks 0 pieces)
    (hall : ∀ c ∈ chunks 0 pieces, ∃ call ∈ calls, call.2 = c) :
    ((new start).addFragments calls).getContiguousData = some pieces.flatten := by
  set F := chunks 0 pieces
  have hne : ∀ fr ∈ F, fr.2 ≠ [] := fun fr hfr => hpieces _ (mem_chunks hfr).1
  have hend : ∀ fr ∈ F, fr.1 + fr.2.length < 2 ^ 64 := fun fr hfr => by
    have := (mem_chunks hfr).2.2
    omega
  obtain ⟨hcol, hstored⟩ := (collecting_new F start).addFragments hne (intervalsDisjoint_chunks 0 pieces)
    (by rw [storedBytes_chunks]; exact hlen) hend hsent
  generalize (new start).addFragments calls = r at hcol hstored ⊢
  -- the stored fragments are exactly the chunks
  have hsame : ∀ fr, fr ∈ r.fragments.toList ↔ fr ∈ F := fun fr =>
    ⟨hcol.stored_chunk fr, fun hfr => hstored fr (.inr (hall fr hfr))⟩
  have hcp : coveredPrefix r.fragments.toList = pieces.flatten.length := by
    rw [← coveredPrefix_chunks pieces]
    exact Nat.le_antisymm (coveredPrefix_mono fun fr => (hsame fr).mp)
      (coveredPrefix_mono fun fr => (hsame fr).mpr)
  have hflat : pieces.flatten ≠ [] := fun h =>
    hpieces _ (List.head_mem hs) (List.flatten_eq_nil_iff.mp h _ (List.head_mem hs))
  have hinv := reachable_inv hcol.accumulated.reachable
  obtain ⟨hnone, hsome⟩ := getContiguousData_eq hinv
  obtain ⟨bs, hbs⟩ := Option.ne_none_iff_exists'.mp fun h =>
    hflat (List.length_eq_zero.mp (hcp ▸ hnone.mp h))
  obtain ⟨hbslen, hpre⟩ := hsome bs hbs
  rw [hbs, Option.some_inj]
  refine List.ext_getElem? fun i => ?_
  by_cases hi : i < bs.length
  · obtain ⟨fr, hfr, hcov, hb⟩ := @chunks_cover 0 pieces _ (hbslen.trans hcp ▸ hi)
    rw [Nat.zero_add] at hcov hb
    rw [hpre i hi, ← hb]
    exact byteAt_eq (intervalsDisjoint_of_separated r.fragments.sorted hinv.separated)
      ((hsame fr).mpr hfr) hcov
  · rw [List.getElem?_eq_none (Nat.le_of_not_lt hi),
      List.getElem?_eq_none (show pieces.flatten.length ≤ i by omega)]

/-- The stream `[1, 2, 3]` cut as `[1, 2]` and `[3]`, with the second chunk arriving first and
again after the first. -/
theorem addFragments_reassembles_reordered :
    ((new 0).addFragments [(5, 2, [3]), (6, 0, [1, 2]), (7, 2, [3])]).getContiguousData =
      some [1, 2, 3] :=
  addFragments_reassembles [[1, 2], [3]] (by decide) (by decide) (by decide) 0 _ (by decide)
    (by decide)

/-! ## Later reads extend earlier ones -/

/-- Calls with nonempty fragments keep the state reachable, and every covered position covered,
with its byte. -/
theorem Reachable.addFragments {r : CryptoFrameReassembler} (hr : Reachable r)
    {calls : List (Nat × Fragment)}
    (hcalls : ∀ call ∈ calls, call.2.2 ≠ [] ∧ call.2.1 + call.2.2.length < 2 ^ 64) :
    Reachable (r.addFragments calls) ∧ ∀ p, Covered r.fragments.toList p →
      Covered (r.addFragments calls).fragments.toList p ∧
        byteAt (r.addFragments calls).fragments.toList p = byteAt r.fragments.toList p := by
  induction calls generalizing r with
  | nil => exact ⟨hr, fun _ hp => ⟨hp, rfl⟩⟩
  | cons call calls ih =>
    obtain ⟨now, o, d⟩ := call
    obtain ⟨hd, hlt⟩ := hcalls _ (List.mem_cons_self _ _)
    obtain ⟨hr', hkeep⟩ := ih (Reachable.addFragment now o d hr hlt)
      fun c hc => hcalls c (List.mem_cons_of_mem _ hc)
    refine ⟨hr', fun p hp => ?_⟩
    obtain ⟨hp₁, hb₁⟩ := addFragment_keeps_bytes (reachable_inv hr) now o (.inl hd) hp
    obtain ⟨hp₂, hb₂⟩ := hkeep p hp₁
    exact ⟨hp₂, hb₂.trans hb₁⟩

/-- After any calls with nonempty fragments, `get_contiguous_data` returns what it returned
before, followed by possibly more bytes: reassembled bytes are never taken back or rewritten. -/
theorem getContiguousData_extends {r : CryptoFrameReassembler} (hr : Reachable r)
    {calls : List (Nat × Fragment)}
    (hcalls : ∀ call ∈ calls, call.2.2 ≠ [] ∧ call.2.1 + call.2.2.length < 2 ^ 64)
    {bs : List UInt8} (h : r.getContiguousData = some bs) :
    ∃ bs', (r.addFragments calls).getContiguousData = some bs' ∧ bs <+: bs' := by
  obtain ⟨hr', hkeep⟩ := hr.addFragments hcalls
  obtain ⟨hnone, hsome⟩ := getContiguousData_eq (reachable_inv hr)
  obtain ⟨hnone', hsome'⟩ := getContiguousData_eq (reachable_inv hr')
  obtain ⟨hlen, hpre⟩ := hsome bs h
  have hle : coveredPrefix r.fragments.toList ≤
      coveredPrefix (r.addFragments calls).fragments.toList :=
    le_coveredPrefix fun p hp => (hkeep p (covered_of_lt_coveredPrefix hp)).1
  have hpos : coveredPrefix r.fragments.toList ≠ 0 := fun h0 => by
    rw [hnone.mpr h0] at h
    cases h
  obtain ⟨bs', hbs'⟩ := Option.ne_none_iff_exists'.mp fun h' => hpos (by
    have := hnone'.mp h'
    omega)
  obtain ⟨hlen', hpre'⟩ := hsome' bs' hbs'
  refine ⟨bs', hbs', List.isPrefix_iff.mpr fun i hi => ?_⟩
  rw [hpre' i (by omega), (hkeep i (covered_of_lt_coveredPrefix (hlen ▸ hi))).2, ← hpre i hi,
    List.getElem?_eq_getElem hi]

/-- Reading `[1]` at offset 0, then adding `[2]` at offset 1: the next read extends the first. -/
theorem getContiguousData_extends_one_byte :
    ∃ bs', (((new 0).addFragment 0 0 [1]).2.addFragments [(1, 1, [2])]).getContiguousData =
      some bs' ∧ [1] <+: bs' :=
  getContiguousData_extends (.addFragment 0 0 _ (.new 0) (by decide)) (by decide) (by decide)

/-! ## Clearing resets the store -/

/-- The results of a sequence of `add_fragment` calls. -/
def addFragmentsResults (r : CryptoFrameReassembler) :
    List (Nat × Fragment) → List (Except String Unit)
  | [] => []
  | (now, offset, data) :: calls =>
    (r.addFragment now offset data).1 :: addFragmentsResults (r.addFragment now offset data).2 calls

/-- What `add_fragment` reads and writes besides the clock and `contiguous_offset`: the stored
fragments and the two buffer sizes. -/
def store (r : CryptoFrameReassembler) : BTreeMap (List UInt8) × Nat × Nat :=
  (r.fragments, r.currentBufferSize, r.maxBufferSize)

/-- `add_fragment` answers and stores by the store alone. -/
theorem addFragment_store {r s : CryptoFrameReassembler} (h : r.store = s.store)
    (now now' offset : Nat) (data : List UInt8) :
    (r.addFragment now offset data).1 = (s.addFragment now' offset data).1 ∧
      (r.addFragment now offset data).2.store = (s.addFragment now' offset data).2.store := by
  simp only [store, Prod.mk.injEq] at h ⊢
  obtain ⟨hf, hb, hm⟩ := h
  simp only [addFragment, hf, hb, hm]
  split_ifs <;> first | exact ⟨rfl, hf, hb, hm⟩ | exact ⟨rfl, rfl, rfl, rfl⟩

/-- Two states with one store answer every sequence of calls alike and keep one store. -/
theorem addFragments_store {r s : CryptoFrameReassembler} (h : r.store = s.store)
    (calls : List (Nat × Fragment)) :
    r.addFragmentsResults calls = s.addFragmentsResults calls ∧
      (r.addFragments calls).store = (s.addFragments calls).store := by
  induction calls generalizing r s with
  | nil => exact ⟨rfl, h⟩
  | cons call calls ih =>
    obtain ⟨now, offset, data⟩ := call
    obtain ⟨h₁, h₂⟩ := addFragment_store h now now offset data
    obtain ⟨ih₁, ih₂⟩ := ih h₂
    exact ⟨by simp only [addFragmentsResults, h₁, ih₁], ih₂⟩

/-- Calls that keep `offset + data.len()` below `2^64` keep the state reachable. -/
theorem Reachable.run {r : CryptoFrameReassembler} (hr : Reachable r)
    {calls : List (Nat × Fragment)} (hcalls : ∀ call ∈ calls, call.2.1 + call.2.2.length < 2 ^ 64) :
    Reachable (r.addFragments calls) := by
  induction calls generalizing r with
  | nil => exact hr
  | cons call calls ih =>
    exact ih (.addFragment _ _ _ hr (hcalls call (List.mem_cons_self _ _)))
      fun c hc => hcalls c (List.mem_cons_of_mem _ hc)

/-- Under the invariant `get_contiguous_data` depends on the stored fragments only, not on
`contiguous_offset`. -/
theorem getContiguousData_congr {r s : CryptoFrameReassembler} (hr : Inv r) (hs : Inv s)
    (hf : r.fragments = s.fragments) : r.getContiguousData = s.getContiguousData := by
  obtain ⟨hnone, hsome⟩ := getContiguousData_eq hr
  obtain ⟨hnone', hsome'⟩ := getContiguousData_eq hs
  rw [hf] at hnone hsome
  cases h : r.getContiguousData with
  | none => exact (hnone'.mpr (hnone.mp h)).symm
  | some bs =>
    cases h' : s.getContiguousData with
    | none => cases h.symm.trans (hnone.mpr (hnone'.mp h'))
    | some bs' =>
      obtain ⟨hl, hp⟩ := hsome bs h
      obtain ⟨hl', hp'⟩ := hsome' bs' h'
      refine congrArg some (List.ext_getElem? fun i => ?_)
      by_cases hi : i < bs.length
      · rw [hp i hi, hp' i (by omega)]
      · rw [List.getElem?_eq_none (by omega), List.getElem?_eq_none (by omega)]

/-- `clear_fragments` keeps `contiguous_offset`, and that never shows: from every reachable
state, a cleared reassembler answers every later sequence of `add_fragment` calls as a new one
does, and ends with the same fragments, the same buffered size and the same
`get_contiguous_data`. -/
theorem clearFragments_resets {r : CryptoFrameReassembler} (hr : Reachable r) (start : Nat)
    {calls : List (Nat × Fragment)}
    (hcalls : ∀ call ∈ calls, call.2.1 + call.2.2.length < 2 ^ 64) :
    r.clearFragments.addFragmentsResults calls = (new start).addFragmentsResults calls ∧
      (r.clearFragments.addFragments calls).store = ((new start).addFragments calls).store ∧
      (r.clearFragments.addFragments calls).getContiguousData =
        ((new start).addFragments calls).getContiguousData := by
  have hstore : r.clearFragments.store = (new start).store := by
    simp only [store, Prod.mk.injEq]
    exact ⟨rfl, rfl, (reachable_inv hr).max_eq⟩
  obtain ⟨hres, hst⟩ := addFragments_store hstore calls
  exact ⟨hres, hst, getContiguousData_congr (reachable_inv (hr.clearFragments.run hcalls))
    (reachable_inv ((Reachable.new start).run hcalls)) (congrArg Prod.fst hst)⟩

/-- Two bytes reassembled, a clear, then a fragment at offset 1: `contiguous_offset` is still 2,
yet `get_contiguous_data` answers as a new reassembler fed the fragment does. -/
theorem clearFragments_resets_stale :
    (((new 0).addFragment 0 0 [1, 2]).2.clearFragments.addFragments [(1, 1, [2])]).contiguousOffset
        = 2 ∧
      (((new 0).addFragment 0 0 [1, 2]).2.clearFragments.addFragments
        [(1, 1, [2])]).getContiguousData = ((new 0).addFragments [(1, 1, [2])]).getContiguousData :=
  ⟨by decide, (clearFragments_resets (.addFragment 0 0 _ (.new 0) (by decide)) 0 (by decide)).2.2⟩

end RustNet.Network.CryptoFrameReassembler
