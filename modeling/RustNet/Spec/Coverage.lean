import Mathlib
import RustNet.Network.Reassembler

/-!
# Covered stream positions

What a set of stored CRYPTO fragments means, independently of the loops that read it: the
stream positions it covers, the byte it stores at a position, and `coveredPrefix`, the largest
`L` such that every position below `L` is covered (equivalently, the first uncovered position).

Against this meaning we read the two loops of `CryptoFrameReassembler`:

* `go_not_covered`, `go_covered`: the sweep of `update_contiguous_offset` stops at an uncovered
  position, crossing only covered ones; hence `go_eq_coveredPrefix`, and
  `updateContiguousOffset_eq_coveredPrefix`: from any start inside the covered prefix the sweep
  ends at its end.
* `walk_spec`: over fragments whose intervals are pairwise disjoint (`IntervalsDisjoint`, which
  key-sorted separated fragments satisfy), the walk of `get_contiguous_data` copies out exactly
  the stored bytes of the positions it crosses, and stops at an uncovered position or at
  `contiguous_offset`; hence `walk_eq_coveredPrefix` and `getContiguousData_eq_coveredPrefix`.
-/

namespace RustNet.Spec

open RustNet.Network

/-- Fragment `fr` holds stream position `p`. -/
def Covers (fr : Fragment) (p : Nat) : Prop := fr.1 ≤ p ∧ p < fr.1 + fr.2.length

instance (fr : Fragment) (p : Nat) : Decidable (Covers fr p) :=
  inferInstanceAs (Decidable (_ ∧ _))

/-- Some stored fragment holds stream position `p`. -/
def Covered (fragments : List Fragment) (p : Nat) : Prop := ∃ fr ∈ fragments, Covers fr p

instance (fragments : List Fragment) : DecidablePred (Covered fragments) :=
  fun _ => inferInstanceAs (Decidable (∃ _ ∈ _, _))

/-- The byte stored at stream position `p`, read from the first fragment that holds it. -/
def byteAt (fragments : List Fragment) (p : Nat) : Option UInt8 :=
  fragments.findSome? fun fr => if fr.1 ≤ p then fr.2[p - fr.1]? else none

/-- Each fragment ends at or before the start of every fragment with a larger key. -/
def Separated (fragments : List Fragment) : Prop :=
  ∀ a ∈ fragments, ∀ b ∈ fragments, a.1 < b.1 → a.1 + a.2.length ≤ b.1

/-- The intervals `[offset, offset + len)` of the fragments are pairwise disjoint: the later of
two starts is at or past the earlier of their ends. An empty fragment is disjoint from all. -/
def IntervalsDisjoint (fragments : List Fragment) : Prop :=
  fragments.Pairwise fun a b => min (a.1 + a.2.length) (b.1 + b.2.length) ≤ max a.1 b.1

instance : DecidablePred IntervalsDisjoint :=
  fun _ => inferInstanceAs (Decidable (List.Pairwise _ _))

private theorem end_le_sum {fragments : List Fragment} {fr : Fragment} (h : fr ∈ fragments) :
    fr.1 + fr.2.length ≤ (fragments.map fun fr => fr.1 + fr.2.length).sum := by
  induction fragments with
  | nil => simp at h
  | cons x xs ih =>
    simp only [List.map_cons, List.sum_cons]
    rcases List.mem_cons.mp h with rfl | h
    · omega
    · have := ih h; omega

theorem exists_not_covered (fragments : List Fragment) : ∃ p, ¬Covered fragments p :=
  ⟨(fragments.map fun fr => fr.1 + fr.2.length).sum, fun ⟨_, hfr, hcov⟩ =>
    absurd hcov.2 (by have := end_le_sum hfr; omega)⟩

/-- The largest `L` such that every stream position below `L` is covered. -/
def coveredPrefix (fragments : List Fragment) : Nat := Nat.find (exists_not_covered fragments)

variable {fragments : List Fragment}

theorem covered_of_lt_coveredPrefix {p : Nat} (h : p < coveredPrefix fragments) :
    Covered fragments p :=
  not_not.mp (Nat.find_min (exists_not_covered fragments) h)

theorem not_covered_coveredPrefix : ¬Covered fragments (coveredPrefix fragments) :=
  Nat.find_spec (exists_not_covered fragments)

theorem coveredPrefix_le_of_not_covered {s : Nat} (h : ¬Covered fragments s) :
    coveredPrefix fragments ≤ s :=
  Nat.find_min' _ h

theorem le_coveredPrefix {L : Nat} (h : ∀ p < L, Covered fragments p) :
    L ≤ coveredPrefix fragments :=
  Nat.le_of_not_lt fun hlt => not_covered_coveredPrefix (h _ hlt)

/-- `coveredPrefix` is the `L` whose prefix `[0, L)` is covered and which is itself uncovered. -/
theorem coveredPrefix_eq_iff {L : Nat} :
    coveredPrefix fragments = L ↔ (∀ p < L, Covered fragments p) ∧ ¬Covered fragments L := by
  constructor
  · rintro rfl
    exact ⟨fun _ => covered_of_lt_coveredPrefix, not_covered_coveredPrefix⟩
  · rintro ⟨hlt, hL⟩
    exact Nat.le_antisymm (coveredPrefix_le_of_not_covered hL) (le_coveredPrefix hlt)

@[simp] theorem coveredPrefix_nil : coveredPrefix [] = 0 :=
  coveredPrefix_eq_iff.mpr ⟨fun _ h => absurd h (Nat.not_lt_zero _), fun ⟨_, h, _⟩ => by simp at h⟩

/-- More fragments cover a longer prefix. -/
theorem coveredPrefix_mono {fragments' : List Fragment} (h : ∀ fr ∈ fragments, fr ∈ fragments') :
    coveredPrefix fragments ≤ coveredPrefix fragments' :=
  le_coveredPrefix fun _ hp =>
    let ⟨fr, hfr, hcov⟩ := covered_of_lt_coveredPrefix hp
    ⟨fr, h fr hfr, hcov⟩

theorem covered_of_byteAt_eq_some {p : Nat} {b : UInt8} (h : byteAt fragments p = some b) :
    Covered fragments p := by
  obtain ⟨fr, hfr, hb⟩ := List.exists_of_findSome?_eq_some h
  split at hb
  · obtain ⟨hlt, -⟩ := List.getElem?_eq_some_iff.mp hb
    exact ⟨fr, hfr, by omega, by omega⟩
  · cases hb

/-- In fragments with disjoint intervals at most one fragment holds a position. -/
theorem IntervalsDisjoint.eq_of_covers (hd : IntervalsDisjoint fragments) {a b : Fragment}
    (ha : a ∈ fragments) (hb : b ∈ fragments) {p : Nat} (hap : Covers a p) (hbp : Covers b p) :
    a = b := by
  induction fragments with
  | nil => simp at ha
  | cons c rest ih =>
    rw [IntervalsDisjoint, List.pairwise_cons] at hd
    unfold Covers at hap hbp
    rcases List.mem_cons.mp ha with rfl | ha' <;> rcases List.mem_cons.mp hb with rfl | hb'
    · rfl
    · have := hd.1 b hb'; omega
    · have := hd.1 a ha'; omega
    · exact ih hd.2 ha' hb'

/-- Key-sorted, separated fragments have disjoint intervals. -/
theorem intervalsDisjoint_of_separated (hs : fragments.Pairwise (fun a b => a.1 < b.1))
    (hsep : Separated fragments) : IntervalsDisjoint fragments :=
  hs.imp_of_mem fun ha hb hlt => by have := hsep _ ha _ hb hlt; omega

/-- In fragments with disjoint intervals the byte at a position is the one its fragment holds. -/
theorem byteAt_eq (hd : IntervalsDisjoint fragments) {o : Nat} {d : List UInt8} (hmem : (o, d) ∈ fragments) {p : Nat} (hp : Covers (o, d) p) :
    byteAt fragments p = d[p - o]? := by
  have hlt : p - o < d.length := by have : o ≤ p ∧ p < o + d.length := hp; omega
  rw [List.getElem?_eq_getElem hlt]
  cases h : byteAt fragments p with
  | none =>
    rw [byteAt, List.findSome?_eq_none_iff] at h
    have := h _ hmem
    simp only [hp.1, if_true, List.getElem?_eq_getElem hlt] at this
    cases this
  | some b =>
    obtain ⟨fr, hfr, hb⟩ := List.exists_of_findSome?_eq_some h
    split at hb
    · obtain ⟨hlt', -⟩ := List.getElem?_eq_some_iff.mp hb
      rw [hd.eq_of_covers hfr hmem ⟨by omega, by omega⟩ hp, List.getElem?_eq_getElem hlt] at hb
      exact hb.symm
    · cases hb

/-- `result` holds the stored byte of every position below its length. -/
def StreamPrefix (fragments : List Fragment) (result : List UInt8) : Prop :=
  ∀ i < result.length, result[i]? = byteAt fragments i

/-- A stream prefix is followed by the rest of the fragment that holds its end. -/
theorem streamPrefix_append (hdis : IntervalsDisjoint fragments) {result : List UInt8}
    (hpre : StreamPrefix fragments result) {o : Nat} {d : List UInt8} (hmem : (o, d) ∈ fragments)
    (ho : o ≤ result.length) (hd : result.length - o < d.length) :
    StreamPrefix fragments (result ++ d.drop (result.length - o)) := by
  intro i hi
  simp only [List.length_append, List.length_drop] at hi
  by_cases hlt : i < result.length
  · rw [List.getElem?_append_left hlt, hpre i hlt]
  · rw [List.getElem?_append_right (by omega), List.getElem?_drop,
      byteAt_eq hdis hmem ⟨by simp; omega, by simp; omega⟩]
    congr 1
    omega

end RustNet.Spec

namespace RustNet.Network.CryptoFrameReassembler

open RustNet.Spec

/-! ## The sweep of `update_contiguous_offset` -/

/-- The sweep never moves `current` backwards. -/
theorem le_go (c : Nat) (fragments : List Fragment) : c ≤ updateContiguousOffset.go c fragments := by
  induction fragments generalizing c with
  | nil => exact Nat.le_refl c
  | cons fr rest ih =>
    simp only [updateContiguousOffset.go]
    split
    · exact Nat.le_trans (by split <;> omega) (ih _)
    · exact Nat.le_refl c

/-- Every position the sweep crosses is covered. -/
theorem go_covered {c p : Nat} {fragments : List Fragment} (hcp : c ≤ p)
    (hp : p < updateContiguousOffset.go c fragments) : Covered fragments p := by
  induction fragments generalizing c with
  | nil => exact absurd hp (by simp [updateContiguousOffset.go]; omega)
  | cons fr rest ih =>
    obtain ⟨o, d⟩ := fr
    simp only [updateContiguousOffset.go] at hp
    split at hp
    · by_cases hlt : p < (if o + d.length > c then o + d.length else c)
      · exact ⟨(o, d), .head _, by omega, by split at hlt <;> simp <;> omega⟩
      · obtain ⟨fr, hfr, hcov⟩ := ih (Nat.le_of_not_lt hlt) hp
        exact ⟨fr, .tail _ hfr, hcov⟩
    · omega

/-- Over key-sorted fragments the sweep stops at an uncovered position. -/
theorem go_not_covered {fragments : List Fragment} (hs : fragments.Pairwise (fun a b => a.1 < b.1))
    (c : Nat) : ¬Covered fragments (updateContiguousOffset.go c fragments) := by
  induction fragments generalizing c with
  | nil => rintro ⟨_, h, _⟩; simp at h
  | cons fr rest ih =>
    obtain ⟨o, d⟩ := fr
    rw [List.pairwise_cons] at hs
    rintro ⟨fr, hfr, hcov⟩
    simp only [updateContiguousOffset.go] at hcov
    split at hcov
    · rcases List.mem_cons.mp hfr with rfl | hfr
      · have hc' : o + d.length ≤ if o + d.length > c then o + d.length else c := by
          split <;> omega
        have := le_go (if o + d.length > c then o + d.length else c) rest
        have hlt : _ < o + d.length := hcov.2
        omega
      · exact ih hs.2 _ ⟨fr, hfr, hcov⟩
    · rcases List.mem_cons.mp hfr with rfl | hfr
      · exact absurd hcov.1 (by simp; omega)
      · exact absurd hcov.1 (by have : o < fr.1 := hs.1 fr hfr; omega)

/-- The sweep ends at or beyond the covered prefix, from any starting point. -/
theorem coveredPrefix_le_go {fragments : List Fragment}
    (hs : fragments.Pairwise (fun a b => a.1 < b.1)) (c : Nat) :
    coveredPrefix fragments ≤ updateContiguousOffset.go c fragments :=
  coveredPrefix_le_of_not_covered (go_not_covered hs c)

/-- Started inside the covered prefix, the sweep ends exactly at its end. -/
theorem go_eq_coveredPrefix {fragments : List Fragment}
    (hs : fragments.Pairwise (fun a b => a.1 < b.1)) {c : Nat} (hc : c ≤ coveredPrefix fragments) :
    updateContiguousOffset.go c fragments = coveredPrefix fragments := by
  refine Nat.le_antisymm (le_coveredPrefix fun p hp => ?_) (coveredPrefix_le_go hs c)
  by_cases hpc : p < c
  · exact covered_of_lt_coveredPrefix (Nat.lt_of_lt_of_le hpc hc)
  · exact go_covered (Nat.le_of_not_lt hpc) hp

/-- From any `contiguous_offset` inside the covered prefix, `update_contiguous_offset` moves it to
the end of the covered prefix. -/
theorem updateContiguousOffset_eq_coveredPrefix (r : CryptoFrameReassembler)
    (hc : r.contiguousOffset ≤ coveredPrefix r.fragments.toList) :
    r.updateContiguousOffset.contiguousOffset = coveredPrefix r.fragments.toList :=
  go_eq_coveredPrefix r.fragments.sorted hc

/-- Over `0 ↦ [1, 2]`, `2 ↦ [3]` and `5 ↦ [4]`, the sweep from 1 stops at the gap at 3. -/
theorem updateContiguousOffset_stops_at_gap :
    let r : CryptoFrameReassembler := { new 0 with
      fragments := ⟨[(0, [1, 2]), (2, [3]), (5, [4])], by decide⟩
      contiguousOffset := 1 }
    (r.contiguousOffset ≤ coveredPrefix r.fragments.toList ∧
      r.updateContiguousOffset.contiguousOffset = coveredPrefix r.fragments.toList) ∧
      coveredPrefix r.fragments.toList = 3 :=
  have h3 : coveredPrefix ([(0, [1, 2]), (2, [3]), (5, [4])] : List Fragment) = 3 :=
    coveredPrefix_eq_iff.mpr ⟨by decide, by decide⟩
  have hc : 1 ≤ coveredPrefix ([(0, [1, 2]), (2, [3]), (5, [4])] : List Fragment) := by omega
  ⟨⟨hc, updateContiguousOffset_eq_coveredPrefix _ hc⟩, h3⟩

/-! ## The walk of `get_contiguous_data` -/

/-- One iteration of the walk, with `currentOffset` read off as the length of `result`. -/
private theorem walk_cons (C : Nat) (result : List UInt8) (o : Nat) (d : List UInt8)
    (rest : List Fragment) :
    getContiguousData.go C result.length result ((o, d) :: rest) =
      let next := if o ≤ result.length ∧ result.length - o < d.length
        then result ++ d.drop (result.length - o) else result
      if next.length ≥ C then next else getContiguousData.go C next.length next rest := by
  simp only [getContiguousData.go]
  by_cases h1 : o ≤ result.length <;> by_cases h2 : result.length - o < d.length <;>
    simp only [h1, h2, and_self, and_false, false_and, if_true, if_false, List.length_append,
      List.length_drop]
  rw [show o + d.length = result.length + (d.length - (result.length - o)) by omega]

/-- The walk over a key-sorted tail of the fragments, started from a stream prefix, ends with a
longer stream prefix, at `contiguousOffset` or at a position the tail does not cover; if the
tail starts beyond the prefix, nothing is copied. -/
theorem walk_spec {fragments : List Fragment} (hd : IntervalsDisjoint fragments) (C : Nat)
    {rest : List Fragment}
    (hrest : rest.Pairwise (fun a b => a.1 < b.1)) (hsub : ∀ fr ∈ rest, fr ∈ fragments)
    {result : List UInt8} (hpre : StreamPrefix fragments result) :
    result.length ≤ (getContiguousData.go C result.length result rest).length ∧
      StreamPrefix fragments (getContiguousData.go C result.length result rest) ∧
      (C ≤ (getContiguousData.go C result.length result rest).length ∨
        ¬Covered rest (getContiguousData.go C result.length result rest).length) ∧
      ((∀ fr ∈ rest, result.length < fr.1) →
        getContiguousData.go C result.length result rest = result) := by
  induction rest generalizing result with
  | nil => exact ⟨Nat.le_refl _, hpre, .inr fun ⟨_, h, _⟩ => by simp at h, fun _ => rfl⟩
  | cons fr rest ih =>
    obtain ⟨o, d⟩ := fr
    rw [List.pairwise_cons] at hrest
    have hmem : (o, d) ∈ fragments := hsub _ (.head _)
    have hsub' : ∀ fr ∈ rest, fr ∈ fragments := fun fr hfr => hsub fr (.tail _ hfr)
    rw [walk_cons]
    by_cases hA : o ≤ result.length ∧ result.length - o < d.length
    · simp only [hA, and_self, if_true]
      have hpre1 := streamPrefix_append hd hpre hmem hA.1 hA.2
      have hlen : (result ++ d.drop (result.length - o)).length = o + d.length := by
        simp only [List.length_append, List.length_drop]; omega
      generalize result ++ d.drop (result.length - o) = r1 at hpre1 hlen ⊢
      have hE : ¬∀ fr ∈ (o, d) :: rest, result.length < fr.1 :=
        fun h => absurd (h _ (.head _)) (by simp; omega)
      split
      · exact ⟨by omega, hpre1, .inl ‹_›, fun h => absurd h hE⟩
      · obtain ⟨h1, h2, h3, -⟩ := ih hrest.2 hsub' hpre1
        refine ⟨by omega, h2, h3.imp_right fun hnc ⟨fr, hfr, hcov⟩ => ?_, fun h => absurd h hE⟩
        rcases List.mem_cons.mp hfr with rfl | hfr
        · exact absurd hcov.2 (by simp; omega)
        · exact hnc ⟨fr, hfr, hcov⟩
    · simp only [hA, if_false]
      split
      · exact ⟨Nat.le_refl _, hpre, .inl ‹_›, fun _ => rfl⟩
      · obtain ⟨h1, h2, h3, h4⟩ := ih hrest.2 hsub' hpre
        refine ⟨h1, h2, h3.imp_right fun hnc ⟨fr, hfr, hcov⟩ => ?_,
          fun h => h4 fun fr hfr => h fr (.tail _ hfr)⟩
        rcases List.mem_cons.mp hfr with rfl | hfr
        · by_cases ho : o ≤ result.length
          · exact absurd hcov.2 (by simp; omega)
          · rw [h4 fun fr hfr => Nat.lt_trans (by omega) (hrest.1 fr hfr)] at hcov
            exact ho hcov.1
        · exact hnc ⟨fr, hfr, hcov⟩

/-- Over key-sorted fragments with disjoint intervals, the walk from offset 0 with a bound at or
beyond the covered prefix copies out exactly the stored bytes of the covered prefix. -/
theorem walk_eq_coveredPrefix {fragments : List Fragment}
    (hs : fragments.Pairwise (fun a b => a.1 < b.1)) (hd : IntervalsDisjoint fragments) {C : Nat}
    (hC : coveredPrefix fragments ≤ C) :
    (getContiguousData.go C 0 [] fragments).length = coveredPrefix fragments ∧
      StreamPrefix fragments (getContiguousData.go C 0 [] fragments) := by
  obtain ⟨-, hpre, hend, -⟩ := walk_spec hd C hs (fun _ h => h)
    (show StreamPrefix _ [] from fun _ h => by simp at h)
  refine ⟨Nat.le_antisymm (le_coveredPrefix fun i hi => ?_) ?_, hpre⟩
  · exact covered_of_byteAt_eq_some ((hpre i hi).symm.trans (List.getElem?_eq_getElem hi))
  · rcases hend with hCle | hnc
    · exact Nat.le_trans hC hCle
    · exact coveredPrefix_le_of_not_covered hnc

/-- For fragments with disjoint intervals and `contiguous_offset` at the end of a nonempty
covered prefix, `get_contiguous_data` returns the stored bytes of the whole prefix. -/
theorem getContiguousData_eq_coveredPrefix (r : CryptoFrameReassembler)
    (hd : IntervalsDisjoint r.fragments.toList)
    (hc : r.contiguousOffset = coveredPrefix r.fragments.toList) (hpos : 0 < r.contiguousOffset) :
    ∃ bs, r.getContiguousData = some bs ∧ bs.length = coveredPrefix r.fragments.toList ∧
      ∀ i < coveredPrefix r.fragments.toList, bs[i]? = byteAt r.fragments.toList i := by
  obtain ⟨hlen, hpre⟩ := walk_eq_coveredPrefix (C := r.contiguousOffset) r.fragments.sorted hd
    (Nat.le_of_eq hc.symm)
  have hne : getContiguousData.go r.contiguousOffset 0 [] r.fragments.toList ≠ [] :=
    List.ne_nil_of_length_pos (by omega)
  refine ⟨_, ?_, hlen, fun i hi => hpre i (by omega)⟩
  rw [getContiguousData, if_neg (by omega)]
  simp only [List.isEmpty_iff, hne, ↓reduceIte]

/-- Over `0 ↦ [1, 2]`, an empty fragment at 1, `2 ↦ [3]` and `5 ↦ [4]` (disjoint, but not
separated), with `contiguous_offset` at 3, the walk returns the three covered bytes. -/
theorem getContiguousData_empty_fragment :
    let r : CryptoFrameReassembler := { new 0 with
      fragments := ⟨[(0, [1, 2]), (1, []), (2, [3]), (5, [4])], by decide⟩
      contiguousOffset := 3 }
    (IntervalsDisjoint r.fragments.toList ∧ r.contiguousOffset = coveredPrefix r.fragments.toList ∧
      0 < r.contiguousOffset) ∧ r.getContiguousData = some [1, 2, 3] ∧
      ∃ bs, r.getContiguousData = some bs ∧ bs.length = coveredPrefix r.fragments.toList ∧
        ∀ i < coveredPrefix r.fragments.toList, bs[i]? = byteAt r.fragments.toList i :=
  have h3 : coveredPrefix ([(0, [1, 2]), (1, []), (2, [3]), (5, [4])] : List Fragment) = 3 :=
    coveredPrefix_eq_iff.mpr ⟨by decide, by decide⟩
  have hpre : IntervalsDisjoint _ ∧ _ ∧ _ := ⟨by decide, h3.symm, by decide⟩
  ⟨hpre, by decide, getContiguousData_eq_coveredPrefix _ hpre.1 hpre.2.1 hpre.2.2⟩

end RustNet.Network.CryptoFrameReassembler
