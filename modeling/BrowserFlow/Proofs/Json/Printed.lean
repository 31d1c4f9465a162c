import BrowserFlow.Json.Printer
import BrowserFlow.Text.Lines
import BrowserFlow.Text.Utf8
import Mathlib.Data.Nat.Digits.Defs

/-!
# The characters of written values

A value is written in printable ASCII characters and newlines (`printed_render`),
whatever characters its texts have, since all others are escaped. So what was written
can always be stored as bytes, and is read from them as it was written
(`foldLineEnds_of_printed`, `isWhole_of_printed`).
-/

namespace BrowserFlow

namespace Text

/-- Only printable ASCII characters and newlines. -/
def Printed (cs : List Char) : Prop :=
  ∀ c ∈ cs, c = '\n' ∨ 0x20 ≤ c.toNat ∧ c.toNat ≤ 0x7e

theorem printed_nil : Printed [] := by simp [Printed]

@[simp] theorem printed_cons {c : Char} {cs : List Char} :
    Printed (c :: cs) ↔ (c = '\n' ∨ 0x20 ≤ c.toNat ∧ c.toNat ≤ 0x7e) ∧ Printed cs :=
  List.forall_mem_cons

@[simp] theorem printed_append {cs ds : List Char} :
    Printed (cs ++ ds) ↔ Printed cs ∧ Printed ds := List.forall_mem_append

theorem Printed.replicate {c : Char} (h : 0x20 ≤ c.toNat ∧ c.toNat ≤ 0x7e) (n : Nat) :
    Printed (List.replicate n c) := by
  intro d hd
  rw [List.eq_of_mem_replicate hd]
  exact Or.inr h

theorem Printed.subset {cs ds : List Char} (h : Printed ds) (hsub : cs ⊆ ds) : Printed cs :=
  fun c hc => h c (hsub hc)

theorem Printed.flatMap {α : Type} {items : List α} {f : α → List Char}
    (h : ∀ item ∈ items, Printed (f item)) : Printed (items.flatMap f) := by
  intro c hc
  obtain ⟨item, hitem, hmem⟩ := List.mem_flatMap.mp hc
  exact h item hitem c hmem

theorem printed_toDigits {base : Nat} (h : 1 < base) (h' : base ≤ 16) (n : Nat) :
    Printed (Nat.toDigits base n) := by
  have hdigit : ∀ d < 16, 0x20 ≤ (Nat.digitChar d).toNat ∧ (Nat.digitChar d).toNat ≤ 0x7e := by
    decide
  induction n using Nat.strongRecOn with
  | ind n ih =>
      rw [Nat.toDigits_eq_if h]
      split
      · rw [printed_cons]
        exact ⟨Or.inr (hdigit n (by omega)), printed_nil⟩
      · rename_i hle
        have hmod := Nat.mod_lt n (Nat.lt_of_succ_lt h)
        rw [printed_append, printed_cons]
        exact ⟨ih _ (Nat.div_lt_self (by omega) h), Or.inr (hdigit _ (by omega)), printed_nil⟩

theorem printed_hexDigits (width n : Nat) : Printed (hexDigits width n) := by
  rw [hexDigits, printed_append]
  exact ⟨.replicate (by decide) _, printed_toDigits (by decide) (by decide) n⟩

theorem Printed.toNat_lt {cs : List Char} (h : Printed cs) : ∀ c ∈ cs, c.toNat < 0x80 := by
  intro c hc
  rcases h c hc with rfl | ⟨-, hle⟩
  · decide
  · omega

theorem foldLineEnds_of_printed {cs : List Char} (h : Printed cs) : foldLineEnds cs = cs := by
  induction cs using foldLineEnds.induct with
  | case1 => rfl
  | case2 cs ih => exact absurd (h '\r' List.mem_cons_self) (by decide)
  | case3 c cs hpair ih =>
      rw [printed_cons] at h
      have hc : c ≠ '\r' := by
        rintro rfl
        exact absurd h.1 (by decide)
      rw [foldLineEnds, if_neg hc, ih h.2]
      exact hpair

theorem isWhole_of_printed {cs : List Char} (h : Printed cs) : isWhole cs = true := by
  rw [isWhole, List.all_eq_true]
  intro c hc
  have hlt := h.toNat_lt c hc
  rw [half?_eq_none_of_lt (by omega)]
  rfl

end Text

open Text

namespace DecimalLayout

theorem printed_exponentText (layout : DecimalLayout) (exponent : Int) :
    Printed (layout.exponentText exponent) := by
  unfold exponentText
  split <;> simp [printed_toDigits, Printed.replicate]

theorem printed_positionalText {digits : List Char} (h : Printed digits) (place : Int) :
    Printed (positionalText digits place) := by
  unfold positionalText
  split
  · simp [h, Printed.replicate]
  · split
    · simp [h, Printed.replicate, printed_nil]
    · simp [h.subset (List.take_subset _ _), h.subset (List.drop_subset _ _)]

theorem printed_scientificText (layout : DecimalLayout) {digits : List Char} (h : Printed digits)
    (exponent : Int) : Printed (layout.scientificText digits exponent) := by
  unfold scientificText
  split
  · exact printed_exponentText layout exponent
  · simp_all [printed_exponentText]
  · simp_all [printed_exponentText]

theorem printed_decimalText (layout : DecimalLayout) (d : Binary64.Decimal) :
    Printed (layout.decimalText d) := by
  have hdigits : Printed (Nat.toDigits 10 d.digits) := printed_toDigits (by decide) (by decide) _
  unfold decimalText
  dsimp only
  generalize (if d.digits = 0 then (0 : Int) else _) = exponent
  split
  · exact printed_positionalText hdigits _
  · exact printed_scientificText layout hdigits _

theorem printed_text {layout : DecimalLayout} (hundefined : Printed layout.undefinedName.toList)
    (hinfinity : Printed layout.infinityName.toList) (x : Binary64) :
    Printed (layout.text x).toList := by
  have hbody : Printed
      (if x.isFinite then layout.decimalText x.shortest else layout.infinityName.toList) := by
    split
    · exact printed_decimalText layout _
    · exact hinfinity
  unfold text
  split
  · exact hundefined
  · rw [String.toList_ofList]
    split
    · simpa using hbody
    · exact hbody

end DecimalLayout

theorem printed_intText (n : Int) : Printed (intText n) := by
  unfold intText
  split <;> simp [printed_toDigits]

namespace Json

theorem printed_unitEscape (unit : Nat) : Printed (unitEscape unit) := by
  simp [unitEscape, printed_hexDigits]

theorem printed_escapeChar (c : Char) : Printed (escapeChar c) := by
  unfold escapeChar
  repeat' split
  all_goals simp_all [printed_unitEscape, printed_nil]

theorem printed_renderText (cs : List Char) : Printed (renderText cs) := by
  simp [renderText, Printed.flatMap, printed_escapeChar, printed_nil]

theorem printed_numberText (x : Number) : Printed (x.text numberLayout) := by
  cases x with
  | int n => exact printed_intText n
  | float x =>
      apply DecimalLayout.printed_text
      · simp [numberLayout, printed_nil]
      · simp [numberLayout, printed_nil]

section Render

variable {indent : Indent} (h : ∀ unit ∈ indent, Printed unit)
include h

theorem printed_lineBreak (level : Nat) : Printed (lineBreak indent level) := by
  cases indent with
  | none => exact printed_nil
  | some unit =>
      have hunit := h unit rfl
      rw [lineBreak, printed_cons]
      refine ⟨Or.inl rfl, ?_⟩
      intro c hc
      obtain ⟨line, hline, hmem⟩ := List.mem_flatten.mp hc
      rw [List.eq_of_mem_replicate hline] at hmem
      exact hunit c hmem

theorem printed_separator (level : Nat) : Printed (separator indent level) := by
  have hbreak := printed_lineBreak h level
  unfold separator
  split
  · simp [printed_nil]
  · simpa using hbreak

mutual

theorem printed_renderAt (level : Nat) : ∀ v : Json, Printed (renderAt indent level v)
  | .null | .bool true | .bool false | .list [] | .object [] => by
    simp [renderAt, printed_nil]
  | .number x => printed_numberText x
  | .text s => printed_renderText s.toList
  | .list (x :: xs) => by
    simp [renderAt, printed_nil, printed_lineBreak h, printed_renderAt (level + 1) x,
      printed_renderItems (level + 1) xs]
  | .object ((k, v) :: fields) => by
    simp [renderAt, printed_nil, printed_lineBreak h, printed_renderText,
      printed_renderAt (level + 1) v, printed_renderFields (level + 1) fields]

theorem printed_renderItems (level : Nat) : ∀ items, Printed (renderItems indent level items)
  | [] => printed_nil
  | x :: xs => by
    simp [renderItems, printed_separator h, printed_renderAt level x, printed_renderItems level xs]

theorem printed_renderFields (level : Nat) : ∀ fields, Printed (renderFields indent level fields)
  | [] => printed_nil
  | (k, v) :: fields => by
    simp [renderFields, printed_separator h, printed_renderText, printed_renderAt level v,
      printed_renderFields level fields]

end

/-- Whatever a value is, it is written in printable ASCII characters and newlines. -/
theorem printed_render (v : Json) : Printed (v.render indent).toList := by
  rw [render, String.toList_ofList]
  exact printed_renderAt h 0 v

end Render

end Json

end BrowserFlow
