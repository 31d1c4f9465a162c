import BrowserFlow.Json.Printer
import BrowserFlow.Proofs.Json.Numeral

/-!
# The text of a floating-point number

Each floating-point number is written in such a way that it is read as one, be it by a word or
by digits (`readScalar_floatText`). Whether it is read as itself is not said here. The digits
before the point are a lone zero or do not begin with one (`WholeDigits`), since only a number
that is zero has no other digits (`Binary64.digits_shortest_ne_zero`).
-/

namespace BrowserFlow

namespace Binary64

variable {r : RoundingInterval} {digits : Nat} {exponent : Int}

theorem digits_ne_zero_of_contains (hlow : 0 < r.low) (h : r.contains digits exponent = true) :
    digits ≠ 0 := by
  rintro rfl
  have hpos : 0 < r.low * Nat.pow 10 (-exponent).toNat :=
    Nat.mul_pos hlow (Nat.pow_pos (by decide))
  unfold RoundingInterval.contains at h
  split at h
  · simp only [Nat.zero_mul, decide_eq_true_eq] at h
    omega
  · simp only [Nat.zero_mul, decide_eq_true_eq] at h
    omega

theorem contains_of_onGrid? (h : r.onGrid? exponent = some digits) :
    r.contains digits exponent = true := by
  unfold RoundingInterval.onGrid? at h
  generalize r.value * Nat.pow 10 (-exponent).toNat = scaled at h
  generalize r.den * Nat.pow 10 exponent.toNat = unit at h
  cases hfloor : r.contains (scaled / unit) exponent <;>
    cases hnext : r.contains (scaled / unit + 1) exponent <;>
    simp only [hfloor, hnext] at h
  case false.false => cases h
  case false.true => rwa [← Option.some.inj h]
  case true.false => rwa [← Option.some.inj h]
  case true.true =>
    -- both points lie in the interval, and the rest only says which one is taken
    split_ifs at h <;> rwa [← Option.some.inj h]

theorem roundingInterval_low_pos {x : Binary64} (h : x.mantissa ≠ 0) :
    0 < x.roundingInterval.low := by
  have hbelow : ∀ p : Prop, [Decidable p] → (if p then 1 else 2) ≤ 2 := by
    intro p _
    split <;> decide
  apply Nat.mul_pos _ (Nat.pow_pos (by decide))
  have := hbelow (x.mantissa = Nat.pow 2 fractionWidth ∧ minScale < x.scale)
  omega

theorem digits_trim_ne_zero {d : Decimal} (h : d.digits ≠ 0) (fuel : Nat) :
    (d.trim fuel).digits ≠ 0 := by
  induction fuel generalizing d with
  | zero => exact h
  | succ fuel ih =>
      rw [Decimal.trim]
      split
      · apply ih
        simp only
        omega
      · exact h

/-- Only zero is written without digits other than zero. -/
theorem digits_shortest_ne_zero {x : Binary64} (h : x.mantissa ≠ 0) : x.shortest.digits ≠ 0 := by
  rw [shortest, if_neg h]
  apply digits_trim_ne_zero
  cases hfound : (List.range digitLimit).findSome? fun n =>
      (x.roundingInterval.onGrid? (x.roundingInterval.pointPlace - (n + 1 : Nat))).map fun digits =>
        Decimal.mk digits (x.roundingInterval.pointPlace - (n + 1 : Nat)) with
  | none => exact h
  | some d =>
      obtain ⟨n, -, hn⟩ := List.exists_of_findSome?_eq_some hfound
      obtain ⟨digits, hgrid, rfl⟩ := Option.map_eq_some_iff.mp hn
      exact digits_ne_zero_of_contains (roundingInterval_low_pos h) (contains_of_onGrid? hgrid)

theorem exponent_shortest (x : Binary64) (h : x.shortest.digits = 0) : x.shortest.exponent = 0 := by
  by_cases hzero : x.mantissa = 0
  · rw [shortest, if_pos hzero]
  · exact absurd h (digits_shortest_ne_zero hzero)

end Binary64

namespace Json

def Digits (cs : List Char) : Prop := ∀ c ∈ cs, c.isDigit = true

theorem digits_toDigits (n : Nat) : Digits (Nat.toDigits 10 n) :=
  fun _ hc => Nat.isDigit_of_mem_toDigits (by decide) (by decide) hc

theorem digits_zeros (count : Nat) : Digits (List.replicate count '0') := by
  intro c hc
  rw [List.eq_of_mem_replicate hc]
  rfl

theorem Digits.append {cs ds : List Char} (hcs : Digits cs) (hds : Digits ds) :
    Digits (cs ++ ds) := List.forall_mem_append.mpr ⟨hcs, hds⟩

/-- Digits as they stand before a point: a lone zero, or digits that begin with another. -/
def WholeDigits (ds : List Char) : Prop :=
  ds = ['0'] ∨ (∃ d rest, ds = d :: rest ∧ d ≠ '0') ∧ Digits ds

theorem exists_toDigits_cons {n : Nat} (h : n ≠ 0) :
    ∃ d rest, Nat.toDigits 10 n = d :: rest ∧ d ≠ '0' := by
  obtain ⟨d, rest, heq⟩ := List.exists_cons_of_ne_nil (Nat.toDigits_ne_nil (b := 10) (n := n))
  have hhead := head?_toDigits (Nat.pos_of_ne_zero h)
  rw [heq] at hhead
  exact ⟨d, rest, heq, by simpa using hhead⟩

section Parts

variable {ds part tail : List Char} (htail : ∀ c ∈ tail.head?, c.isDigit = false)
include htail

theorem spanDigits_append_of_head? (hds : Digits ds) : spanDigits (ds ++ tail) = (ds, tail) := by
  rw [spanDigits, List.takeWhile_append_of_pos hds, List.dropWhile_append_of_pos hds]
  cases tail with
  | nil => simp
  | cons c tail => simp [htail c rfl]

theorem wholeDigits?_append_of_head? (hds : WholeDigits ds) :
    wholeDigits? (ds ++ tail) = some (ds, tail) := by
  rcases hds with rfl | ⟨⟨d, rest, rfl, hzero⟩, hdigits⟩
  · rfl
  · have hspan := spanDigits_append_of_head? htail hdigits
    rw [List.cons_append] at hspan ⊢
    rw [wholeDigits?, if_neg hzero, if_pos (hdigits d List.mem_cons_self), hspan]

theorem fraction_point_append (hne : part ≠ []) (hpart : Digits part) :
    fraction ('.' :: (part ++ tail)) = (part, tail) := by
  simp [fraction, spanDigits_append_of_head? htail hpart, hne]

end Parts

/-- The number is a floating-point number, and ends with the text. -/
def ReadsFloat (negative : Bool) (cs : List Char) : Prop :=
  ∃ y, readMagnitude? {} negative cs = some (.ok (.float y), [])

section Number

variable {whole part rest : List Char} (negative : Bool)

theorem readsFloat_of_parts {cs after : List Char} (hwhole : wholeDigits? cs = some (whole, rest))
    (hfraction : fraction rest = (part, after))
    (hend : part ≠ [] ∧ after = [] ∨ ∃ e, exponent? after = some (e, [])) :
    ReadsFloat negative cs := by
  simp only [ReadsFloat, readMagnitude?, hwhole, hfraction, Option.bind_eq_bind, Option.bind_some]
  rcases hend with ⟨hne, rfl⟩ | ⟨e, hexponent⟩
  · simp [exponent?, hne]
  · simp [hexponent]

theorem readsFloat_point (hwhole : WholeDigits whole) (hne : part ≠ []) (hpart : Digits part) :
    ReadsFloat negative (whole ++ '.' :: part) := by
  have hfraction : fraction ('.' :: (part ++ [])) = (part, []) :=
    fraction_point_append (by simp) hne hpart
  rw [List.append_nil] at hfraction
  exact readsFloat_of_parts negative (wholeDigits?_append_of_head? (by simp) hwhole) hfraction
    (Or.inl ⟨hne, rfl⟩)

theorem readsFloat_exponent (hwhole : WholeDigits whole) {e : Int}
    (hexponent : exponent? ('e' :: rest) = some (e, [])) :
    ReadsFloat negative (whole ++ 'e' :: rest) :=
  readsFloat_of_parts negative (wholeDigits?_append_of_head? (by simp) hwhole) rfl
    (Or.inr ⟨e, hexponent⟩)

theorem readsFloat_point_exponent (hwhole : WholeDigits whole) (hne : part ≠ [])
    (hpart : Digits part) {e : Int} (hexponent : exponent? ('e' :: rest) = some (e, [])) :
    ReadsFloat negative (whole ++ '.' :: (part ++ 'e' :: rest)) :=
  readsFloat_of_parts negative (wholeDigits?_append_of_head? (by simp) hwhole)
    (fraction_point_append (by simp) hne hpart) (Or.inr ⟨e, hexponent⟩)

theorem readsFloat_positionalText {n : Nat} {place : Int} (hzero : n = 0 → place = 1) :
    ReadsFloat negative (DecimalLayout.positionalText (Nat.toDigits 10 n) place) := by
  have hdigits := digits_toDigits n
  have hne : Nat.toDigits 10 n ≠ [] := Nat.toDigits_ne_nil
  unfold DecimalLayout.positionalText
  split_ifs with hplace hlong
  · exact readsFloat_point negative (Or.inl rfl) (by simp [hne])
      ((digits_zeros _).append hdigits)
  · refine readsFloat_point negative ?_ (List.cons_ne_nil '0' []) (digits_zeros 1)
    by_cases hn : n = 0
    · left
      simp [hn, hzero hn, Nat.toDigits_zero]
    · right
      obtain ⟨d, rest, heq, hd⟩ := exists_toDigits_cons hn
      exact ⟨⟨d, _, by rw [heq, List.cons_append], hd⟩, hdigits.append (digits_zeros _)⟩
  · -- zero has one digit, so it is not cut
    have hn : n ≠ 0 := by
      intro hn
      have hone := hzero hn
      rw [hn, Nat.toDigits_zero, List.length_singleton] at hlong
      omega
    obtain ⟨d, rest, heq, hd⟩ := exists_toDigits_cons hn
    rw [heq] at hdigits hlong ⊢
    rw [List.length_cons] at hlong
    obtain ⟨k, hk⟩ : ∃ k, place.toNat = k + 1 := ⟨place.toNat - 1, by omega⟩
    rw [hk, List.take_succ_cons, List.drop_succ_cons]
    rw [Digits, List.forall_mem_cons] at hdigits
    refine readsFloat_point negative (Or.inr ⟨⟨d, _, rfl, hd⟩, ?_⟩) ?_ ?_
    · exact List.forall_mem_cons.mpr
        ⟨hdigits.1, fun c hc => hdigits.2 c (List.mem_of_mem_take hc)⟩
    · rw [Ne, List.drop_eq_nil_iff]
      omega
    · exact fun c hc => hdigits.2 c (List.mem_of_mem_drop hc)

/-- The exponent ends with the text. -/
theorem exists_exponent?_exponentText (layout : DecimalLayout) (exponent : Int) :
    ∃ e, exponent? (layout.exponentText exponent) = some (e, []) := by
  simp only [DecimalLayout.exponentText]
  generalize layout.exponentWidth - (Nat.toDigits 10 exponent.natAbs).length = missing
  have hspan : spanDigits (List.replicate missing '0' ++ Nat.toDigits 10 exponent.natAbs ++ []) =
      (List.replicate missing '0' ++ Nat.toDigits 10 exponent.natAbs, []) :=
    spanDigits_append_of_head? (by simp) ((digits_zeros missing).append (digits_toDigits _))
  rw [List.append_nil] at hspan
  split <;> simp [exponent?, hspan, Nat.toDigits_ne_nil]

theorem readsFloat_scientificText (layout : DecimalLayout) (n : Nat) (exponent : Int) :
    ReadsFloat negative (layout.scientificText (Nat.toDigits 10 n) exponent) := by
  obtain ⟨e, hexponent⟩ := exists_exponent?_exponentText layout exponent
  have hdigits := digits_toDigits n
  obtain ⟨d, rest, heq⟩ := List.exists_cons_of_ne_nil (Nat.toDigits_ne_nil (b := 10) (n := n))
  rw [heq, Digits, List.forall_mem_cons] at hdigits
  have hwhole : WholeDigits [d] := by
    by_cases hd : d = '0'
    · exact Or.inl (by rw [hd])
    · exact Or.inr ⟨⟨d, [], rfl, hd⟩, by simpa [Digits] using hdigits.1⟩
  rw [heq]
  cases rest with
  | nil => exact readsFloat_exponent negative hwhole hexponent
  | cons c rest =>
      exact readsFloat_point_exponent negative hwhole (List.cons_ne_nil c rest) hdigits.2 hexponent

theorem readsFloat_decimalText (layout : DecimalLayout) {d : Binary64.Decimal}
    (h : d.digits = 0 → d.exponent = 0) : ReadsFloat negative (layout.decimalText d) := by
  have hzero : d.digits = 0 →
      ((Nat.toDigits 10 d.digits).length : Int) + d.exponent = 1 := by
    intro hzero
    rw [hzero, h hzero, Nat.toDigits_zero]
    rfl
  simp only [DecimalLayout.decimalText]
  generalize (if d.digits = 0 then 0 else
    ((Nat.toDigits 10 d.digits).length : Int) + d.exponent - 1) = exponent
  split
  · exact readsFloat_positionalText negative hzero
  · exact readsFloat_scientificText negative layout d.digits exponent

end Number

/-- A floating-point number is read as one from its text: by a word if it is not finite, and by
its digits otherwise. -/
theorem exists_readScalar_floatText (x : Binary64) :
    ∃ y, readScalar {} (Number.text numberLayout (.float x)) = .ok (.number (.float y), []) := by
  have hword (word : String) (y : Binary64) (hmem : (word, .number (.float y)) ∈ words) :
      readScalar {} word.toList = .ok (.number (.float y), []) := by
    have hread := readScalar_word {} hmem []
    rwa [List.append_nil] at hread
  rw [Number.text, DecimalLayout.text]
  split_ifs with hnan hfinite hnegative hnegative
  · exact ⟨_, hword "NaN" .nan (by simp [words])⟩
  · obtain ⟨y, hread⟩ := readsFloat_decimalText true numberLayout x.exponent_shortest
    rw [String.toList_ofList]
    exact ⟨y, readScalar_minus hread⟩
  · obtain ⟨y, hread⟩ := readsFloat_decimalText false numberLayout x.exponent_shortest
    rw [String.toList_ofList]
    exact ⟨y, readScalar_of_readMagnitude? hread⟩
  · rw [String.toList_ofList]
    exact ⟨_, hword "-Infinity" (.infinity true) (by simp [words])⟩
  · rw [String.toList_ofList]
    exact ⟨_, hword "Infinity" (.infinity false) (by simp [words])⟩

end Json

end BrowserFlow
