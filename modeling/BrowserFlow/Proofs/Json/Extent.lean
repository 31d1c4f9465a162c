import BrowserFlow.Json.Limits
import BrowserFlow.Proofs.Table

/-!
# Bounds on the extent of values

A value stays within a bound just when each of its parts stays within what is left of
it, so that the extent of a value whose shape is known is bounded part by part.
-/

namespace BrowserFlow.Json

theorem Limits.allows_of_le {limit : Option Nat} {m n : Nat} (hle : m ≤ n)
    (h : allows limit n = true) : allows limit m = true := by
  cases limit with
  | none => rfl
  | some limit =>
      rw [allows_some, decide_eq_true_iff] at h ⊢
      exact Nat.le_trans hle h

theorem Limits.allows_add_max {limit : Option Nat} {m n k : Nat}
    (h : allows limit (k + max m n) = true) :
    allows limit (k + m) = true ∧ allows limit (k + n) = true :=
  ⟨allows_of_le (Nat.add_le_add_left (Nat.le_max_left m n) k) h,
    allows_of_le (Nat.add_le_add_left (Nat.le_max_right m n) k) h⟩

variable {leaf least step bound : Nat}

theorem itemsExtent_le_iff {items : List Json} :
    itemsExtent leaf least step items ≤ bound ↔
      least ≤ bound ∧ ∀ v ∈ items, v.extent leaf least step ≤ bound := by
  induction items with
  | nil => simp [itemsExtent]
  | cons v items ih =>
      rw [itemsExtent, Nat.max_le, ih, List.forall_mem_cons]
      exact and_left_comm

theorem fieldsExtent_le_iff {fields : List (String × Json)} :
    fieldsExtent leaf least step fields ≤ bound ↔
      least ≤ bound ∧ ∀ entry ∈ fields, entry.2.extent leaf least step ≤ bound := by
  induction fields with
  | nil => simp [fieldsExtent]
  | cons entry fields ih =>
      rw [fieldsExtent, Nat.max_le, ih, List.forall_mem_cons]
      exact and_left_comm

theorem extent_le_fieldsExtent {fields : List (String × Json)} {entry : String × Json}
    (h : entry ∈ fields) : entry.2.extent leaf least step ≤ fieldsExtent leaf least step fields :=
  (fieldsExtent_le_iff.mp (Nat.le_refl _)).2 entry h

theorem fieldsExtent_le_of_subset {some all : List (String × Json)} (h : some ⊆ all) :
    fieldsExtent leaf least step some ≤ fieldsExtent leaf least step all := by
  rw [fieldsExtent_le_iff]
  exact ⟨(fieldsExtent_le_iff.mp (Nat.le_refl _)).1,
    fun _ hentry => extent_le_fieldsExtent (h hentry)⟩

theorem fieldsExtent_set_le (fields : Table Json) (key : String) (v : Json) :
    fieldsExtent leaf least step (Table.set fields key v) ≤
      max (fieldsExtent leaf least step fields) (v.extent leaf least step) := by
  rw [fieldsExtent_le_iff]
  constructor
  · exact Nat.le_trans (fieldsExtent_le_iff.mp (Nat.le_refl _)).1 (Nat.le_max_left _ _)
  · intro entry hentry
    rcases Table.mem_set hentry with rfl | hentry
    · exact Nat.le_max_right _ _
    · exact Nat.le_trans (extent_le_fieldsExtent hentry) (Nat.le_max_left _ _)

end BrowserFlow.Json
