import BrowserFlow.FirstFree
import Mathlib.Data.List.Basic
import Mathlib.Data.Nat.Digits.Defs

/-!
# Numbered names

Numbers that are written differently are different (`repr_injective`), and among one
more of them than there are items in a list one does not name an item
(`exists_notMem_of_injective`). So a search for a free number needs to try no more
(`le_add_length_of_mem`), and one that may try more finds the same number
(`firstFrom_eq_of_least`).
-/

namespace BrowserFlow

theorem repr_injective {m n : Nat} (h : Nat.repr m = Nat.repr n) : m = n := by
  have hdigits : Nat.toDigits 10 m = Nat.toDigits 10 n := by
    rw [← Nat.toList_repr, ← Nat.toList_repr, h]
  rw [← Nat.ofDigitChars_ten_toDigits (n := m), hdigits, Nat.ofDigitChars_ten_toDigits]

theorem exists_notMem_of_injective {α : Type} (f : Nat → α) (first : Nat)
    (hf : ∀ m n, first ≤ m → first ≤ n → f m = f n → m = n) (items : List α) :
    ∃ n, first ≤ n ∧ n ≤ first + items.length ∧ f n ∉ items := by
  by_contra hnone
  have htaken : ∀ n, first ≤ n → n ≤ first + items.length → f n ∈ items := by
    intro n hge hle
    by_contra hnot
    exact hnone ⟨n, hge, hle, hnot⟩
  let named := (List.range (items.length + 1)).map fun i => f (first + i)
  have hnodup : named.Nodup := by
    apply List.Pairwise.map _ _ List.nodup_range
    intro i j hne heq
    exact hne (Nat.add_left_cancel (hf _ _ (Nat.le_add_right _ _) (Nat.le_add_right _ _) heq))
  have hsubset : named ⊆ items := by
    intro item hitem
    obtain ⟨i, hi, rfl⟩ := List.mem_map.mp hitem
    have hlt := List.mem_range.mp hi
    exact htaken (first + i) (Nat.le_add_right _ _) (by omega)
  have hlength := hnodup.length_le_of_subset hsubset
  simp only [named, List.length_map, List.length_range] at hlength
  omega

theorem le_add_length_of_mem {α : Type} {f : Nat → α} {first : Nat}
    (hf : ∀ m n, first ≤ m → first ≤ n → f m = f n → m = n) {items : List α} {k : Nat}
    (h : ∀ m, first ≤ m → m < k → f m ∈ items) : k ≤ first + items.length := by
  obtain ⟨n, hge, hle, hnot⟩ := exists_notMem_of_injective f first hf items
  by_contra hk
  exact hnot (h n hge (by omega))

/-- A search that gets as far as the least free number finds it, however far it may go. -/
theorem firstFrom_eq_of_least {free : Nat → Bool} {fuel n k : Nat} (hn : n ≤ k)
    (hk : k < n + fuel) (hfree : free k = true)
    (htaken : ∀ m, n ≤ m → m < k → free m = false) : firstFrom free fuel n = k := by
  rcases Nat.lt_trichotomy (firstFrom free fuel n) k with hbelow | heq | habove
  · have hstop := free_firstFrom (Nat.lt_trans hbelow hk)
    rw [htaken _ (le_firstFrom free fuel n) hbelow] at hstop
    exact absurd hstop Bool.false_ne_true
  · exact heq
  · rw [not_free_of_lt_firstFrom hn habove] at hfree
    exact absurd hfree Bool.false_ne_true

end BrowserFlow
