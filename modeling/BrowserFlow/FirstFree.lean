/-!
# The first number that is free

Names are made unique by a number. `firstFrom` tries numbers one after the other
and gives up after `fuel` of them; where at most `fuel` numbers can be taken, the
number that it gives is the least free one.
-/

namespace BrowserFlow

/-- The first number from `n` on that is `free`, looking at no more than `fuel`. -/
def firstFrom (free : Nat → Bool) : (fuel n : Nat) → Nat
  | 0, n => n
  | fuel + 1, n => if free n then n else firstFrom free fuel (n + 1)

theorem le_firstFrom (free : Nat → Bool) (fuel n : Nat) : n ≤ firstFrom free fuel n := by
  induction fuel generalizing n with
  | zero => exact Nat.le_refl n
  | succ fuel ih =>
    rw [firstFrom]
    split
    · exact Nat.le_refl n
    · exact Nat.le_of_succ_le (ih (n + 1))

theorem firstFrom_le (free : Nat → Bool) (fuel n : Nat) : firstFrom free fuel n ≤ n + fuel := by
  induction fuel generalizing n with
  | zero => exact Nat.le_refl n
  | succ fuel ih =>
    rw [firstFrom]
    split
    · omega
    · have := ih (n + 1)
      omega

theorem not_free_of_lt_firstFrom {free : Nat → Bool} {fuel n k : Nat} (hn : n ≤ k)
    (hk : k < firstFrom free fuel n) : free k = false := by
  induction fuel generalizing n with
  | zero => exact absurd hk (by rw [firstFrom]; omega)
  | succ fuel ih =>
    rw [firstFrom] at hk
    split at hk
    · omega
    · rename_i hfree
      by_cases h : n = k
      · subst h
        simpa using hfree
      · exact ih (by omega) hk

theorem free_firstFrom {free : Nat → Bool} {fuel n : Nat} (h : firstFrom free fuel n < n + fuel) :
    free (firstFrom free fuel n) = true := by
  induction fuel generalizing n with
  | zero => exact absurd h (by rw [firstFrom]; omega)
  | succ fuel ih =>
    rw [firstFrom] at h ⊢
    split
    · assumption
    · rename_i hfree
      rw [if_neg hfree] at h
      exact ih (by omega)

end BrowserFlow
