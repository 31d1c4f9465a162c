/-!
# Tables in insertion order

A `Table` pairs keys with values and keeps the order in which the keys were
first entered: a new value for a known key takes the place of the old one. Look-up
finds the first entry of a key, so the operations also make sense on a list that
repeats a key.
-/

namespace BrowserFlow

universe u

/-- Keys with their values, in the order of entry. -/
abbrev Table (α : Type u) := List (String × α)

namespace Table

variable {α : Type u}

def get? : Table α → String → Option α
  | [], _ => none
  | (k, v) :: t, key => if k = key then some v else get? t key

/-- Enters a value: in the place of the old one, or at the end for a new key. -/
def set : Table α → String → α → Table α
  | [], key, v => [(key, v)]
  | (k, w) :: t, key, v => if k = key then (key, v) :: t else (k, w) :: set t key v

def erase (t : Table α) (key : String) : Table α := t.filter fun entry => entry.1 ≠ key

def keys (t : Table α) : List String := t.map Prod.fst

def has (t : Table α) (key : String) : Bool := (get? t key).isSome

/-- Enters the pairs of `changes` one after the other. -/
def merge (t changes : Table α) : Table α := changes.foldl (fun t entry => set t entry.1 entry.2) t

/-- The table that a list of pairs gives when a repeated key overwrites. -/
def ofPairs (pairs : List (String × α)) : Table α := merge [] pairs

@[simp] theorem get?_nil (key : String) : get? ([] : Table α) key = none := rfl

theorem get?_set (t : Table α) (key other : String) (v : α) :
    get? (set t key v) other = if key = other then some v else get? t other := by
  induction t with
  | nil => simp [set, get?]
  | cons entry t ih =>
    obtain ⟨k, w⟩ := entry
    by_cases hk : k = key
    · subst hk
      by_cases ho : k = other <;> simp [set, get?, ho]
    · by_cases ho : k = other
      · subst ho
        simp [set, get?, hk, Ne.symm hk]
      · simp [set, get?, hk, ho, ih]

theorem get?_erase (t : Table α) (key other : String) :
    get? (erase t key) other = if key = other then none else get? t other := by
  induction t with
  | nil => simp [erase]
  | cons entry t ih =>
    obtain ⟨k, w⟩ := entry
    have ih' : get? (List.filter (fun entry => decide (entry.1 ≠ key)) t) other
        = if key = other then none else get? t other := ih
    by_cases hk : k = key
    · subst hk
      by_cases ho : k = other <;> simp_all [erase, get?]
    · by_cases ho : k = other
      · subst ho
        simp [erase, get?, hk, Ne.symm hk]
      · simp_all [erase, get?]

theorem get?_isSome_iff {t : Table α} {key : String} :
    (get? t key).isSome = true ↔ key ∈ keys t := by
  induction t with
  | nil => simp [keys]
  | cons entry t ih =>
    obtain ⟨k, w⟩ := entry
    by_cases hk : k = key
    · simp [get?, keys, hk]
    · have hne : ¬ key = k := fun h => hk h.symm
      simpa [get?, keys, hk, hne] using ih

theorem keys_set (t : Table α) (key : String) (v : α) :
    keys (set t key v) = if key ∈ keys t then keys t else keys t ++ [key] := by
  induction t with
  | nil => simp [set, keys]
  | cons entry t ih =>
    obtain ⟨k, w⟩ := entry
    by_cases hk : k = key
    · simp [set, keys, hk]
    · have hne : ¬ key = k := fun h => hk h.symm
      by_cases hm : key ∈ keys t
      · rw [if_pos hm] at ih
        have : key ∈ keys ((k, w) :: t) := by simp [keys] at hm ⊢; exact Or.inr hm
        rw [if_pos this, set, if_neg hk]
        simp only [keys, List.map_cons] at ih ⊢
        rw [ih]
      · rw [if_neg hm] at ih
        have : key ∉ keys ((k, w) :: t) := by
          simp only [keys, List.map_cons, List.mem_cons, not_or]
          exact ⟨hne, hm⟩
        rw [if_neg this, set, if_neg hk]
        simp only [keys, List.map_cons, List.cons_append] at ih ⊢
        rw [ih]

end Table

end BrowserFlow
