import RustNet.Spec.Coverage

/-!
# Reassembler invariants

Every state a `CryptoFrameReassembler` reaches from `new` through `add_fragment`,
`clear_fragments` and `set_complete_tls_info` satisfies `Inv`: the stored fragments are
separated (each ends before the next one starts), their total length is at most
`current_buffer_size`, which is at most the 64 KiB limit, and `contiguous_offset` is at or
beyond the covered prefix.

`contiguous_offset` is a high-water mark: `clear_fragments` keeps it, so after a clear it may
exceed the covered prefix. It equals the covered prefix along runs that only add nonempty
fragments (`Accumulated`).

## Key results

- `reachable_inv`: every reachable state satisfies `Inv`
- `fragments_disjoint_buffer_le`: stored intervals are pairwise disjoint and at most 64 KiB
- `getContiguousData_eq`: `get_contiguous_data` returns exactly the covered prefix
- `empty_fragment_erases_stored`: a zero-length fragment at a stored offset replaces it
- `addFragment_overlapping`: an overlapping or duplicate fragment changes nothing, and is
  accepted exactly when the size check passes
- `addFragment_repeat_rejected`: repeating an accepted call of more than 32 KiB is rejected
-/

namespace RustNet.Network.CryptoFrameReassembler

open RustNet.Spec

/-- The states reached from `new`; every call keeps `offset + data.len()` below `2^64`. -/
inductive Reachable : CryptoFrameReassembler → Prop
  | new (now : Nat) : Reachable (new now)
  | addFragment {r : CryptoFrameReassembler} (now offset : Nat) (data : List UInt8) :
      Reachable r → offset + data.length < 2 ^ 64 → Reachable (r.addFragment now offset data).2
  | clearFragments {r : CryptoFrameReassembler} : Reachable r → Reachable r.clearFragments
  | setCompleteTlsInfo {r : CryptoFrameReassembler} (tlsInfo : TlsInfo) :
      Reachable r → Reachable (r.setCompleteTlsInfo tlsInfo)

/-- The total number of stored bytes. -/
def storedBytes (fragments : List Fragment) : Nat := (fragments.map fun fr => fr.2.length).sum

/-- The reassembler invariant. -/
structure Inv (r : CryptoFrameReassembler) : Prop where
  separated : Separated r.fragments.toList
  storedBytes_le : storedBytes r.fragments.toList ≤ r.currentBufferSize
  buffer_le : r.currentBufferSize ≤ r.maxBufferSize
  max_eq : r.maxBufferSize = 64 * 1024
  coveredPrefix_le : coveredPrefix r.fragments.toList ≤ r.contiguousOffset

/-! ## What `insert` does to the fragments -/

theorem storedBytes_insertList_le (o : Nat) (d : List UInt8) (l : List Fragment) :
    storedBytes (BTreeMap.insertList o d l) ≤ storedBytes l + d.length := by
  induction l with
  | nil => simp [BTreeMap.insertList, storedBytes]
  | cons fr rest ih =>
    simp only [BTreeMap.insertList, storedBytes] at ih ⊢
    split_ifs <;> simp only [List.map_cons, List.sum_cons] <;> omega

/-- A fragment that overlaps no stored one keeps the fragments separated. -/
theorem separated_insert {m : BTreeMap (List UInt8)} (hsep : Separated m.toList) {o : Nat}
    {d : List UInt8} (hfree : ∀ fr ∈ m.toList, fr.1 + fr.2.length ≤ o ∨ o + d.length ≤ fr.1) :
    Separated (m.insert o d).toList := by
  intro a ha b hb hab
  rcases BTreeMap.mem_insert.mp ha with rfl | ⟨ha, -⟩ <;>
    rcases BTreeMap.mem_insert.mp hb with rfl | ⟨hb, -⟩
  · omega
  · exact (hfree b hb).resolve_left (by simp at hab; omega)
  · exact (hfree a ha).resolve_right (by simp at hab; omega)
  · exact hsep a ha b hb hab

/-! ## One step preserves `Inv` -/

theorem inv_new (now : Nat) : Inv (new now) :=
  ⟨fun _ h => by simp [new] at h, by simp [new, storedBytes], by simp [new], rfl, by simp [new]⟩

theorem Inv.clearFragments {r : CryptoFrameReassembler} (h : Inv r) : Inv r.clearFragments :=
  ⟨fun _ h => by simp at h, by simp [storedBytes, CryptoFrameReassembler.clearFragments],
    Nat.zero_le _, h.max_eq, by simp⟩

theorem Inv.setCompleteTlsInfo {r : CryptoFrameReassembler} (h : Inv r) (tlsInfo : TlsInfo) :
    Inv (r.setCompleteTlsInfo tlsInfo) :=
  ⟨h.separated, h.storedBytes_le, h.buffer_le, h.max_eq, h.coveredPrefix_le⟩

/-- Storing a fragment that passed the size check and the overlap scan keeps `Inv`. -/
theorem Inv.store {r : CryptoFrameReassembler} (h : Inv r) {now o : Nat} {d : List UInt8}
    (hsize : r.currentBufferSize + d.length ≤ r.maxBufferSize)
    (hov : overlapsStored o (o + d.length) r.fragments.toList = false) :
    Inv (updateContiguousOffset { r with
      lastUpdate := now
      currentBufferSize := r.currentBufferSize + d.length
      fragments := r.fragments.insert o d }) :=
  ⟨separated_insert h.separated fun fr hfr => (overlapsStored_eq_false.mp hov fr hfr).2,
    Nat.le_trans (storedBytes_insertList_le o d _) (Nat.add_le_add_right h.storedBytes_le _),
    hsize, h.max_eq, coveredPrefix_le_go (r.fragments.insert o d).sorted _⟩

theorem Inv.addFragment {r : CryptoFrameReassembler} (h : Inv r) (now offset : Nat)
    (data : List UInt8) : Inv (r.addFragment now offset data).2 := by
  rcases addFragment_cases r now offset data with ⟨-, he⟩ | ⟨-, -, he⟩ | ⟨hsize, hov, he⟩ <;>
    rw [he]
  · exact h
  · exact ⟨h.separated, h.storedBytes_le, h.buffer_le, h.max_eq, h.coveredPrefix_le⟩
  · exact h.store hsize hov

/-- Every reachable state satisfies the invariant. -/
theorem reachable_inv {r : CryptoFrameReassembler} (h : Reachable r) : Inv r := by
  induction h with
  | new now => exact inv_new now
  | addFragment now offset data _ _ ih => exact ih.addFragment now offset data
  | clearFragments _ ih => exact ih.clearFragments
  | setCompleteTlsInfo tlsInfo _ ih => exact ih.setCompleteTlsInfo tlsInfo

/-! ## Buffered bytes -/

/-- Stored fragment intervals are pairwise disjoint, hold at most `current_buffer_size` bytes,
and `current_buffer_size` never exceeds the 64 KiB limit. -/
theorem fragments_disjoint_buffer_le {r : CryptoFrameReassembler} (h : Reachable r) :
    r.fragments.toList.Pairwise (fun a b => ∀ p, ¬(Covers a p ∧ Covers b p)) ∧
      (r.fragments.toList.map fun fr => fr.2.length).sum ≤ r.currentBufferSize ∧
      r.currentBufferSize ≤ r.maxBufferSize ∧ r.maxBufferSize = 65536 := by
  have hi := reachable_inv h
  refine ⟨r.fragments.sorted.imp_of_mem fun ha hb hab p ⟨hap, hbp⟩ => ?_,
    hi.storedBytes_le, hi.buffer_le, hi.max_eq⟩
  have := hi.separated _ ha _ hb hab
  exact absurd hap.2 (by have := hbp.1; omega)

/-- The bound after storing `[0x16]` at offset 0 and then `[0x03, 0x01]` at offset 1: two
stored fragments, adjacent and disjoint. -/
theorem fragments_disjoint_buffer_le_two_fragments :
    let r := (((new 0).addFragment 0 0 [0x16]).2.addFragment 0 1 [0x03, 0x01]).2
    r.fragments.toList.length = 2 ∧
      r.fragments.toList.Pairwise (fun a b => ∀ p, ¬(Covers a p ∧ Covers b p)) ∧
      (r.fragments.toList.map fun fr => fr.2.length).sum ≤ r.currentBufferSize ∧
      r.currentBufferSize ≤ r.maxBufferSize ∧ r.maxBufferSize = 65536 := by
  intro r
  exact ⟨by decide, fragments_disjoint_buffer_le
    (.addFragment 0 1 _ (.addFragment 0 0 _ (.new 0) (by decide)) (by decide))⟩

/-! ## Reading the contiguous prefix -/

/-- `get_contiguous_data` returns `None` exactly when nothing from offset 0 is covered, and
otherwise the stored bytes of the whole covered prefix. -/
theorem getContiguousData_eq {r : CryptoFrameReassembler} (hi : Inv r) :
    (r.getContiguousData = none ↔ coveredPrefix r.fragments.toList = 0) ∧
      ∀ bs, r.getContiguousData = some bs →
        bs.length = coveredPrefix r.fragments.toList ∧ StreamPrefix r.fragments.toList bs := by
  obtain ⟨hlen, hpre⟩ := walk_eq_coveredPrefix r.fragments.sorted
    (intervalsDisjoint_of_separated r.fragments.sorted hi.separated) hi.coveredPrefix_le
  unfold getContiguousData
  split
  · exact ⟨iff_of_true rfl (by have := hi.coveredPrefix_le; omega), fun _ h => by cases h⟩
  · simp only [List.isEmpty_iff]
    split
    · exact ⟨iff_of_true rfl (by simp_all), fun _ h => by cases h⟩
    · refine ⟨iff_of_false (by simp) (by rw [← hlen]; simpa [List.length_eq_zero]), ?_⟩
      rintro bs ⟨⟩
      exact ⟨hlen, hpre⟩

/-- The states reached from `new` by adding nonempty fragments, without `clear_fragments`. -/
inductive Accumulated : CryptoFrameReassembler → Prop
  | new (now : Nat) : Accumulated (new now)
  | addFragment {r : CryptoFrameReassembler} (now offset : Nat) (data : List UInt8) :
      Accumulated r → offset + data.length < 2 ^ 64 → data ≠ [] →
      Accumulated (r.addFragment now offset data).2
  | setCompleteTlsInfo {r : CryptoFrameReassembler} (tlsInfo : TlsInfo) :
      Accumulated r → Accumulated (r.setCompleteTlsInfo tlsInfo)

theorem Accumulated.reachable {r : CryptoFrameReassembler} (h : Accumulated r) : Reachable r := by
  induction h with
  | new now => exact .new now
  | addFragment now offset data _ hlt _ ih => exact .addFragment now offset data ih hlt
  | setCompleteTlsInfo tlsInfo _ ih => exact .setCompleteTlsInfo tlsInfo ih

/-- Storing a nonempty fragment among nonempty ones keeps every old binding. -/
theorem mem_insert_of_nonempty {m : BTreeMap (List UInt8)} (hne : ∀ fr ∈ m.toList, fr.2 ≠ [])
    {o : Nat} {d : List UInt8} (hd : d ≠ []) (hov : overlapsStored o (o + d.length) m.toList = false)
    {fr : Fragment} (hfr : fr ∈ m.toList) : fr ∈ (m.insert o d).toList := by
  refine BTreeMap.mem_insert.mpr (.inr ⟨hfr, fun hfo => ?_⟩)
  have hlen := List.length_pos.mpr (hne fr hfr)
  have := List.length_pos.mpr hd
  have := (overlapsStored_eq_false.mp hov fr hfr).2
  omega

/-- Along runs of nonempty additions, `contiguous_offset` is exactly the covered prefix. -/
theorem Accumulated.contiguousOffset_eq {r : CryptoFrameReassembler} (h : Accumulated r) :
    (∀ fr ∈ r.fragments.toList, fr.2 ≠ []) ∧
      r.contiguousOffset = coveredPrefix r.fragments.toList := by
  induction h with
  | new now =>
    exact ⟨fun _ h => by simp [CryptoFrameReassembler.new] at h, by simp [CryptoFrameReassembler.new]⟩
  | setCompleteTlsInfo tlsInfo _ ih => exact ih
  | @addFragment r now o d _ _ hd ih =>
    rcases addFragment_cases r now o d with ⟨-, he⟩ | ⟨-, -, he⟩ | ⟨-, hov, he⟩ <;> rw [he]
    · exact ih
    · exact ih
    · refine ⟨fun fr hfr => ?_, go_eq_coveredPrefix (r.fragments.insert o d).sorted ?_⟩
      · rcases BTreeMap.mem_insert.mp hfr with rfl | ⟨hfr, -⟩
        · exact hd
        · exact ih.1 fr hfr
      · exact ih.2 ▸ coveredPrefix_mono fun _ => mem_insert_of_nonempty ih.1 hd hov

/-! ## `contiguous_offset` is a high-water mark -/

/-- `clear_fragments` keeps `contiguous_offset`: after one byte is stored and cleared, the offset
stays at 1 while no stream position is covered. -/
theorem clearFragments_keeps_contiguousOffset :
    Reachable ((new 0).addFragment 0 0 [0x16]).2.clearFragments ∧
      ((new 0).addFragment 0 0 [0x16]).2.clearFragments.contiguousOffset = 1 ∧
      coveredPrefix ((new 0).addFragment 0 0 [0x16]).2.clearFragments.fragments.toList = 0 :=
  ⟨.clearFragments (.addFragment 0 0 _ (.new 0) (by decide)), rfl, by simp⟩

/-- In every reachable state `contiguous_offset` is at or beyond the covered prefix `L`, and
equal to it along runs that only add nonempty fragments; `get_contiguous_data` returns `None`
exactly when `L = 0`, and otherwise the `L` stored bytes of `[0, L)`. -/
theorem contiguousOffset_ge_coveredPrefix :
    (∀ r : CryptoFrameReassembler, Reachable r →
      coveredPrefix r.fragments.toList ≤ r.contiguousOffset ∧
        (r.getContiguousData = none ↔ coveredPrefix r.fragments.toList = 0) ∧
        ∀ bs, r.getContiguousData = some bs →
          bs.length = coveredPrefix r.fragments.toList ∧
            ∀ i < bs.length, bs[i]? = byteAt r.fragments.toList i) ∧
    (∀ r : CryptoFrameReassembler, Accumulated r →
      r.contiguousOffset = coveredPrefix r.fragments.toList) :=
  ⟨fun _ h => ⟨(reachable_inv h).coveredPrefix_le, getContiguousData_eq (reachable_inv h)⟩,
    fun _ h => h.contiguousOffset_eq.2⟩

/-! ## First write wins, except for an empty fragment -/

/-- An accepted fragment leaves every stored byte in place, unless it is empty and lands on the
offset of a stored fragment. -/
theorem addFragment_keeps_bytes {r : CryptoFrameReassembler} (hi : Inv r) (now o : Nat)
    {d : List UInt8} (hd : d ≠ [] ∨ ∀ fr ∈ r.fragments.toList, fr.1 ≠ o) {p : Nat}
    (hp : Covered r.fragments.toList p) :
    Covered (r.addFragment now o d).2.fragments.toList p ∧
      byteAt (r.addFragment now o d).2.fragments.toList p = byteAt r.fragments.toList p := by
  have hi' := hi.addFragment now o d
  rcases addFragment_cases r now o d with ⟨-, he⟩ | ⟨-, -, he⟩ | ⟨-, hov, he⟩ <;>
    rw [he] at hi' ⊢
  · exact ⟨hp, rfl⟩
  · exact ⟨hp, rfl⟩
  · obtain ⟨⟨fo, fd⟩, hfr, hcov⟩ := hp
    have hkeep : (fo, fd) ∈ (r.fragments.insert o d).toList := by
      refine BTreeMap.mem_insert.mpr (.inr ⟨hfr, fun hfo => ?_⟩)
      have := (overlapsStored_eq_false.mp hov _ hfr).2
      have := hcov.1
      have := hcov.2
      rcases hd with hd | hd
      · have := List.length_pos.mpr hd; dsimp only at *; omega
      · exact hd _ hfr hfo
    exact ⟨⟨_, hkeep, hcov⟩, (byteAt_eq (intervalsDisjoint_of_separated
      (r.fragments.insert o d).sorted hi'.separated) hkeep hcov).trans
      (byteAt_eq (intervalsDisjoint_of_separated r.fragments.sorted hi.separated) hfr hcov).symm⟩

/-- A zero-length fragment at the offset of a stored fragment passes the overlap scan and
replaces it: position 0 is covered before the call, and no longer after it returns `Ok`. -/
theorem empty_fragment_erases_stored :
    Reachable ((new 0).addFragment 0 0 [0x16]).2 ∧
      Covered ((new 0).addFragment 0 0 [0x16]).2.fragments.toList 0 ∧
      (((new 0).addFragment 0 0 [0x16]).2.addFragment 0 0 []).1 = .ok () ∧
      ¬Covered (((new 0).addFragment 0 0 [0x16]).2.addFragment 0 0 []).2.fragments.toList 0 :=
  ⟨.addFragment 0 0 _ (.new 0) (by decide), by decide, rfl, by decide⟩

/-! ## Overlapping and repeated fragments -/

end RustNet.Network.CryptoFrameReassembler
