import Mathlib.Data.List.Nodup

/-!
# Hash maps

`std::collections::HashMap` as the connection tracker uses it: `get`, `get_mut` followed by an
update, `insert`, and iteration. A map is its entries in one iteration order, with distinct
keys. The source never relies on the order, and every statement about maps here holds for
every order, so a map value stands for any of the real maps with these entries.

The lookup lemmas `get?_insert` and `get?_modify` are all that callers need.
-/

namespace RustNet

/-- A `HashMap`, as its entries in iteration order. -/
structure HashMap (κ α : Type) where
  toList : List (κ × α)
  nodup : (toList.map Prod.fst).Nodup

namespace HashMap

variable {κ α : Type} [DecidableEq κ]

/-- `HashMap::new`. -/
def empty : HashMap κ α := ⟨[], List.nodup_nil⟩

/-- `HashMap::get`. -/
def get? (m : HashMap κ α) (k : κ) : Option α := (m.toList.find? (·.1 == k)).map Prod.snd

/-- Update the value at `k` in place. -/
def modifyList (k : κ) (f : α → α) : List (κ × α) → List (κ × α)
  | [] => []
  | (k', v) :: rest => if k' = k then (k', f v) :: rest else (k', v) :: modifyList k f rest

theorem map_fst_modifyList (k : κ) (f : α → α) (l : List (κ × α)) :
    (modifyList k f l).map Prod.fst = l.map Prod.fst := by
  induction l with
  | nil => rfl
  | cons e rest ih =>
    simp only [modifyList]
    split <;> simp [ih]

/-- `get_mut(&k)` followed by an in-place update; nothing happens without an entry at `k`. -/
def modify (m : HashMap κ α) (k : κ) (f : α → α) : HashMap κ α :=
  ⟨modifyList k f m.toList, by rw [map_fst_modifyList]; exact m.nodup⟩

/-- `HashMap::insert`: replaces the value of an existing key in place, else adds an entry. -/
def insert (m : HashMap κ α) (k : κ) (v : α) : HashMap κ α :=
  if h : k ∈ m.toList.map Prod.fst then
    ⟨modifyList k (fun _ => v) m.toList, by rw [map_fst_modifyList]; exact m.nodup⟩
  else
    ⟨m.toList ++ [(k, v)], by
      rw [List.map_append, List.nodup_append]
      exact ⟨m.nodup, List.nodup_singleton _, fun a ha hb => by
        simp only [List.map_cons, List.map_nil, List.mem_singleton] at hb
        exact h (hb ▸ ha)⟩⟩

@[simp] theorem get?_empty (k : κ) : (empty : HashMap κ α).get? k = none := rfl

theorem get?_modifyList (k k' : κ) (f : α → α) (l : List (κ × α)) :
    ((modifyList k f l).find? (·.1 == k')).map Prod.snd =
      if k' = k then ((l.find? (·.1 == k)).map Prod.snd).map f
      else (l.find? (·.1 == k')).map Prod.snd := by
  induction l with
  | nil => simp [modifyList]
  | cons e rest ih =>
    obtain ⟨k₀, v⟩ := e
    simp only [modifyList]
    by_cases h₀ : k₀ = k
    · subst h₀
      by_cases h' : k' = k₀
      · subst h'; simp [List.find?_cons]
      · simp [List.find?_cons, h', Ne.symm h']
    · by_cases h' : k' = k₀
      · subst h'; simp [List.find?_cons, h₀]
      · simp [List.find?_cons, h₀, Ne.symm h', ih]

@[simp] theorem get?_modify (m : HashMap κ α) (k k' : κ) (f : α → α) :
    (m.modify k f).get? k' = if k' = k then (m.get? k).map f else m.get? k' :=
  get?_modifyList k k' f m.toList

@[simp] theorem get?_insert (m : HashMap κ α) (k k' : κ) (v : α) :
    (m.insert k v).get? k' = if k' = k then some v else m.get? k' := by
  unfold insert
  split
  · rename_i h
    rw [get?, get?_modifyList]
    split
    · obtain ⟨e, he, hek⟩ := List.mem_map.mp h
      cases hf : m.toList.find? (·.1 == k) with
      | none => exact absurd (List.find?_eq_none.mp hf e he) (by simpa using hek)
      | some _ => rfl
    · rfl
  · rename_i h
    simp only [get?, List.find?_append]
    by_cases hk : k' = k
    · subst hk
      have : m.toList.find? (·.1 == k') = none :=
        List.find?_eq_none.mpr fun e he heq => h (List.mem_map.mpr ⟨e, he, by simpa using heq⟩)
      simp [this]
    · cases m.toList.find? (·.1 == k') <;> simp [hk, Ne.symm hk]

/-- An in-place update keeps the keys that have an entry. -/
theorem isSome_get?_modify (m : HashMap κ α) (k k' : κ) (f : α → α) :
    ((m.modify k f).get? k').isSome = (m.get? k').isSome := by
  rw [get?_modify]
  split
  · subst k'; exact Option.isSome_map
  · rfl

/-- An insertion keeps every key that has an entry. -/
theorem isSome_get?_insert {m : HashMap κ α} {k' : κ} (h : (m.get? k').isSome) (k : κ) (v : α) :
    ((m.insert k v).get? k').isSome := by
  rw [get?_insert]
  split
  · rfl
  · exact h

end HashMap

end RustNet
