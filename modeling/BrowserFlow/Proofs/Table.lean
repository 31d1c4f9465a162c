import BrowserFlow.Table
import Mathlib.Data.List.Nodup

/-!
# Entries of tables

Which entries a table has after a value is entered or another table is entered over
it, and how a table is looked up that was made from its keys.
-/

namespace BrowserFlow

theorem nodup_append_singleton_iff {α : Type*} {l : List α} {a : α} :
    (l ++ [a]).Nodup ↔ a ∉ l ∧ l.Nodup := by
  rw [← List.concat_eq_append, List.nodup_concat]

namespace Table

variable {α : Type*}

theorem mem_of_get? {t : Table α} {key : String} {v : α} (h : get? t key = some v) :
    (key, v) ∈ t := by
  induction t with
  | nil => simp at h
  | cons entry t ih =>
      obtain ⟨k, w⟩ := entry
      rw [get?] at h
      split at h
      · rename_i hk
        rw [hk, Option.some.inj h]
        exact List.mem_cons_self
      · exact List.mem_cons_of_mem _ (ih h)

/-- In a table that has each key once, every entry is found. -/
theorem get?_eq_some_iff {t : Table α} (h : (keys t).Nodup) {key : String} {v : α} :
    get? t key = some v ↔ (key, v) ∈ t := by
  constructor
  · exact mem_of_get?
  · intro hmem
    induction t with
    | nil => exact absurd hmem List.not_mem_nil
    | cons entry t ih =>
        obtain ⟨k, w⟩ := entry
        obtain ⟨hnew, hrest⟩ := List.nodup_cons.mp h
        rw [get?]
        rcases List.mem_cons.mp hmem with heq | hmem
        · obtain ⟨rfl, rfl⟩ := Prod.mk.inj heq
          rw [if_pos rfl]
        · have hkey : key ∈ keys t := List.mem_map_of_mem hmem
          rw [if_neg (ne_of_mem_of_not_mem hkey hnew).symm]
          exact ih hrest hmem

theorem mem_keys_iff {t : Table α} {key : String} : key ∈ keys t ↔ ∃ v, get? t key = some v := by
  rw [← get?_isSome_iff, Option.isSome_iff_exists]

theorem mem_set {t : Table α} {key : String} {v : α} {entry : String × α}
    (h : entry ∈ set t key v) : entry = (key, v) ∨ entry ∈ t := by
  induction t with
  | nil => exact Or.inl (List.mem_singleton.mp h)
  | cons first t ih =>
      obtain ⟨k, w⟩ := first
      rw [set] at h
      split at h
      · rcases List.mem_cons.mp h with rfl | h
        · exact Or.inl rfl
        · exact Or.inr (List.mem_cons_of_mem _ h)
      · rcases List.mem_cons.mp h with rfl | h
        · exact Or.inr List.mem_cons_self
        · exact (ih h).imp id (List.mem_cons_of_mem _)

theorem mem_merge {t changes : Table α} {entry : String × α}
    (h : entry ∈ merge t changes) : entry ∈ t ∨ entry ∈ changes := by
  induction changes generalizing t with
  | nil => exact Or.inl h
  | cons change changes ih =>
      rcases ih (t := set t change.1 change.2) h with h | h
      · rcases mem_set h with rfl | h
        · exact Or.inr List.mem_cons_self
        · exact Or.inl h
      · exact Or.inr (List.mem_cons_of_mem _ h)

theorem mem_of_mem_ofPairs {pairs : List (String × α)} {entry : String × α}
    (h : entry ∈ ofPairs pairs) : entry ∈ pairs :=
  (mem_merge h).resolve_left List.not_mem_nil

theorem set_of_notMem {t : Table α} {key : String} (v : α) (h : key ∉ keys t) :
    set t key v = t ++ [(key, v)] := by
  induction t with
  | nil => rfl
  | cons entry t ih =>
      obtain ⟨hne, hrest⟩ := not_or.mp (mt List.mem_cons.mpr h)
      rw [set, if_neg (Ne.symm hne), ih hrest]
      rfl

theorem set_of_get? {t : Table α} {key : String} {v : α} (h : get? t key = some v) :
    set t key v = t := by
  induction t with
  | nil => simp at h
  | cons entry t ih =>
      obtain ⟨k, w⟩ := entry
      rw [get?] at h
      rw [set]
      split at h
      · rename_i hk
        rw [if_pos hk, hk, Option.some.inj h]
      · rename_i hk
        rw [if_neg hk, ih h]

theorem merge_of_nodup {t changes : Table α} (h : (keys (t ++ changes)).Nodup) :
    merge t changes = t ++ changes := by
  induction changes generalizing t with
  | nil => exact (List.append_nil t).symm
  | cons change changes ih =>
      have hsplit : keys (t ++ change :: changes) = keys t ++ change.1 :: keys changes := by
        simp [keys]
      have hnew : change.1 ∉ keys t := by
        rw [hsplit] at h
        exact fun hmem => List.disjoint_of_nodup_append h hmem List.mem_cons_self
      have hset : merge t (change :: changes) = merge (t ++ [change]) changes := by
        rw [← set_of_notMem change.2 hnew]
        rfl
      rw [hset, ih (by rwa [← List.append_cons]), ← List.append_cons]

theorem ofPairs_of_nodup {pairs : List (String × α)} (h : (keys pairs).Nodup) :
    ofPairs pairs = pairs := merge_of_nodup h

theorem nodup_keys_set {t : Table α} (h : (keys t).Nodup) (key : String) (v : α) :
    (keys (set t key v)).Nodup := by
  rw [keys_set]
  split
  · exact h
  · exact nodup_append_singleton_iff.mpr ⟨‹_›, h⟩

theorem length_set_le (t : Table α) (key : String) (v : α) :
    (set t key v).length ≤ t.length + 1 := by
  induction t with
  | nil => exact Nat.le_refl 1
  | cons entry t ih =>
      rw [set]
      split
      · exact Nat.le_succ _
      · exact Nat.succ_le_succ ih

/-- A table that is made from its keys is looked up by making the value again. -/
theorem get?_map (keys : List String) (f : String → α) (key : String) :
    get? (keys.map fun k => (k, f k)) key = if key ∈ keys then some (f key) else none := by
  induction keys with
  | nil => rfl
  | cons k keys ih =>
      rw [List.map_cons, get?, ih]
      by_cases hk : k = key
      · simp [hk]
      · simp [hk, Ne.symm hk]

end Table

end BrowserFlow
