import Mathlib.Data.List.Pairwise

/-!
# Ordered maps

`std::collections::BTreeMap<u64, V>` as the reassembler uses it: `insert`, `clear` and
iteration in increasing key order. The model is the list of bindings in iteration order; the
`sorted` field records that keys strictly increase, so every `BTreeMap` value has the ordered
iteration and the unique keys of the real one.

The one lemma callers need about `insert` is `mem_insert`: the bindings afterwards are the new
one and the old ones at other keys.
-/

namespace RustNet

/-- A `BTreeMap` with natural-number keys, as its bindings in increasing key order. -/
structure BTreeMap (α : Type) where
  toList : List (Nat × α)
  sorted : toList.Pairwise (fun a b => a.1 < b.1)
deriving DecidableEq

namespace BTreeMap

variable {α : Type}

/-- `BTreeMap::new`. -/
def empty : BTreeMap α := ⟨[], .nil⟩

/-- Insertion into a key-sorted list, replacing the binding at an equal key. -/
def insertList (k : Nat) (v : α) : List (Nat × α) → List (Nat × α)
  | [] => [(k, v)]
  | (k', v') :: rest =>
    if k < k' then (k, v) :: (k', v') :: rest
    else if k = k' then (k, v) :: rest
    else (k', v') :: insertList k v rest

theorem mem_insertList {k : Nat} {v : α} {l : List (Nat × α)}
    (hl : l.Pairwise (fun a b => a.1 < b.1)) {x : Nat × α} :
    x ∈ insertList k v l ↔ x = (k, v) ∨ (x ∈ l ∧ x.1 ≠ k) := by
  induction l with
  | nil => simp [insertList]
  | cons y rest ih =>
    obtain ⟨k', v'⟩ := y
    rw [List.pairwise_cons] at hl
    -- the keys after `k'` are larger, so none of them is a `k` at or below `k'`
    have hne : k ≤ k' → x ∈ rest → x.1 ≠ k := fun hk h => by have := hl.1 x h; omega
    simp only [insertList]
    split_ifs with hlt heq
    · have := hne (Nat.le_of_lt hlt)
      simp only [List.mem_cons]
      aesop
    · have := hne (Nat.le_of_eq heq)
      subst heq
      simp only [List.mem_cons]
      aesop
    · simp only [List.mem_cons, ih hl.2]
      aesop

theorem insertList_sorted {k : Nat} {v : α} {l : List (Nat × α)}
    (hl : l.Pairwise (fun a b => a.1 < b.1)) :
    (insertList k v l).Pairwise (fun a b => a.1 < b.1) := by
  induction l with
  | nil => simp [insertList]
  | cons y rest ih =>
    obtain ⟨k', v'⟩ := y
    have hl' := List.pairwise_cons.mp hl
    simp only [insertList]
    split_ifs with hlt heq
    · refine List.Pairwise.cons (fun z hz => ?_) hl
      rcases List.mem_cons.mp hz with rfl | hz
      · exact hlt
      · exact Nat.lt_trans hlt (hl'.1 z hz)
    · subst heq
      exact List.Pairwise.cons (fun z hz => hl'.1 z hz) hl'.2
    · refine List.Pairwise.cons (fun z hz => ?_) (ih hl'.2)
      rcases (mem_insertList hl'.2).mp hz with rfl | ⟨hz, -⟩
      · show k' < k
        omega
      · exact hl'.1 z hz

/-- `BTreeMap::insert` (the returned old value is dropped by the callers). -/
def insert (m : BTreeMap α) (k : Nat) (v : α) : BTreeMap α :=
  ⟨insertList k v m.toList, insertList_sorted m.sorted⟩

/-- `BTreeMap::clear`. -/
def clear (_ : BTreeMap α) : BTreeMap α := empty

@[simp] theorem toList_empty : (empty : BTreeMap α).toList = [] := rfl

@[simp] theorem toList_clear (m : BTreeMap α) : m.clear.toList = [] := rfl

/-- The bindings after `insert`: the new one, and the old ones at other keys. -/
theorem mem_insert {m : BTreeMap α} {k : Nat} {v : α} {x : Nat × α} :
    x ∈ (m.insert k v).toList ↔ x = (k, v) ∨ (x ∈ m.toList ∧ x.1 ≠ k) :=
  mem_insertList m.sorted

private theorem eq_of_mem_of_fst_eq_list {l : List (Nat × α)}
    (hl : l.Pairwise (fun a b => a.1 < b.1)) {x y : Nat × α} (hx : x ∈ l) (hy : y ∈ l)
    (h : x.1 = y.1) : x = y := by
  induction l with
  | nil => simp at hx
  | cons z rest ih =>
    rw [List.pairwise_cons] at hl
    rcases List.mem_cons.mp hx with rfl | hx' <;> rcases List.mem_cons.mp hy with rfl | hy'
    · rfl
    · have := hl.1 y hy'; omega
    · have := hl.1 x hx'; omega
    · exact ih hl.2 hx' hy'

/-- Keys are unique: two bindings with the same key are the same binding. -/
theorem eq_of_mem_of_fst_eq (m : BTreeMap α) {x y : Nat × α} (hx : x ∈ m.toList)
    (hy : y ∈ m.toList) (h : x.1 = y.1) : x = y :=
  eq_of_mem_of_fst_eq_list m.sorted hx hy h

theorem nodup (m : BTreeMap α) : m.toList.Nodup :=
  m.sorted.imp fun h => by rintro rfl; exact Nat.lt_irrefl _ h

/-- Inserting at a key that is not bound adds one binding and moves none. -/
theorem insert_perm {m : BTreeMap α} {k : Nat} {v : α} (hk : ∀ x ∈ m.toList, x.1 ≠ k) :
    (m.insert k v).toList.Perm ((k, v) :: m.toList) := by
  refine (List.perm_ext_iff_of_nodup (m.insert k v).nodup
    (List.nodup_cons.mpr ⟨fun h => hk _ h rfl, m.nodup⟩)).mpr fun x => ?_
  rw [mem_insert, List.mem_cons]
  exact or_congr_right ⟨And.left, fun h => ⟨h, hk x h⟩⟩

end BTreeMap

end RustNet
