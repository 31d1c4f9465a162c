import BrowserFlow.Json.Printer
import BrowserFlow.Json.Reader
import Mathlib.Data.List.TakeWhile

/-!
# Reading back written numbers

A number ends where no character follows that it could go on with (`Ends`). A whole
number is read back if its digits are not too many, and is refused for them if they are
(`readScalar_intText`). Whether the text of a floating-point number denotes the number
again is a matter of the text alone; if it does, the number is also read back with
something behind it (`readScalar_append`), and the limits have no say in it.
-/

namespace BrowserFlow.Json

/-- What may stand behind a number: nothing that the number could go on with. -/
def Ends (tail : List Char) : Prop :=
  ∀ c ∈ tail.head?, c.isDigit = false ∧ c ∉ ['.', 'e', 'E', '+', '-']

theorem ends_nil : Ends [] := by simp [Ends]

theorem ends_cons {c : Char} {tail : List Char} :
    Ends (c :: tail) ↔ c.isDigit = false ∧ c ∉ ['.', 'e', 'E', '+', '-'] := by
  simp [Ends]

section Ends

variable {tail : List Char} (h : Ends tail)
include h

theorem spanDigits_append (cs : List Char) :
    spanDigits (cs ++ tail) = ((spanDigits cs).1, (spanDigits cs).2 ++ tail) := by
  induction cs with
  | nil =>
      cases tail with
      | nil => rfl
      | cons c tail => simp [spanDigits, (ends_cons.mp h).1]
  | cons c cs ih =>
      simp only [spanDigits, Prod.mk.injEq] at ih
      cases hc : c.isDigit with
      | true => simp [spanDigits, hc, ih]
      | false => simp [spanDigits, hc]

theorem fraction_append (cs : List Char) :
    fraction (cs ++ tail) = ((fraction cs).1, (fraction cs).2 ++ tail) := by
  cases cs with
  | nil =>
      cases tail with
      | nil => rfl
      | cons c tail =>
          have hpoint : c ≠ '.' := by
            rintro rfl
            simp [Ends] at h
          simp [fraction, hpoint]
  | cons c cs =>
      by_cases hpoint : c = '.'
      · subst hpoint
        simp only [fraction, List.cons_append, spanDigits_append h]
        split <;> rfl
      · simp [fraction, hpoint]

theorem exponent?_mark_append (mark : Char) (cs : List Char) :
    exponent? (mark :: (cs ++ tail)) =
      (exponent? (mark :: cs)).map fun r => (r.1, r.2 ++ tail) := by
  by_cases hmark : mark = 'e' ∨ mark = 'E'
  · -- the character after the mark may be a sign, and may belong to `tail`
    cases cs with
    | nil =>
        cases tail with
        | nil => simp [exponent?, spanDigits]
        | cons c tail =>
            obtain ⟨hdigit, hother⟩ := ends_cons.mp h
            have hminus : c ≠ '-' := by
              rintro rfl
              simp at hother
            have hplus : c ≠ '+' := by
              rintro rfl
              simp at hother
            simp [exponent?, spanDigits, hminus, hplus, hdigit]
    | cons c cs =>
        by_cases hminus : c = '-'
        · subst hminus
          simp only [exponent?, if_pos hmark, List.cons_append, spanDigits_append h]
          split <;> rfl
        · by_cases hplus : c = '+'
          · subst hplus
            simp only [exponent?, if_pos hmark, List.cons_append, spanDigits_append h]
            split <;> rfl
          · have hunsigned : ∀ ds, exponent? (mark :: c :: ds) =
                if (spanDigits (c :: ds)).1.isEmpty then none
                else
                  some ((ofDigits (spanDigits (c :: ds)).1 : Int), (spanDigits (c :: ds)).2) := by
              intro ds
              simp [exponent?, hmark, hminus, hplus]
            have hspan := spanDigits_append h (c :: cs)
            rw [List.cons_append] at hspan
            rw [List.cons_append, hunsigned, hunsigned, hspan]
            split <;> rfl
  · simp [exponent?, hmark]

theorem exponent?_append (cs : List Char) :
    exponent? (cs ++ tail) = (exponent? cs).map fun r => (r.1, r.2 ++ tail) := by
  cases cs with
  | nil =>
      cases tail with
      | nil => rfl
      | cons c tail =>
          have hmark : ¬ (c = 'e' ∨ c = 'E') := by
            rintro (rfl | rfl) <;> simp [Ends] at h
          simp [exponent?, hmark]
  | cons mark cs => exact exponent?_mark_append h mark cs

theorem wholeDigits?_append {cs : List Char} (hcs : cs ≠ []) :
    wholeDigits? (cs ++ tail) = (wholeDigits? cs).map fun r => (r.1, r.2 ++ tail) := by
  obtain ⟨c, cs, rfl⟩ := List.exists_cons_of_ne_nil hcs
  have hspan := spanDigits_append h (c :: cs)
  rw [List.cons_append] at hspan
  rw [List.cons_append, wholeDigits?, wholeDigits?, hspan]
  split
  · rfl
  · split <;> rfl

/-- The longest number at the front of a text stays the longest if the text is continued
with something that no number goes on with. -/
theorem readMagnitude?_append (limits : Limits) (negative : Bool) {cs : List Char}
    (hcs : cs ≠ []) :
    readMagnitude? limits negative (cs ++ tail) =
      (readMagnitude? limits negative cs).map fun r => (r.1, r.2 ++ tail) := by
  simp only [readMagnitude?, wholeDigits?_append h hcs]
  cases wholeDigits? cs with
  | none => rfl
  | some r =>
      simp only [Option.map_some, Option.bind_eq_bind, Option.bind_some, fraction_append h,
        exponent?_append h]
      cases exponent? (fraction r.2).2 with
      | some e => rfl
      | none =>
          simp only [Option.map_none]
          split <;> rfl

end Ends

theorem isDigit_of_readMagnitude? {limits : Limits} {negative : Bool} {cs : List Char}
    {r : Except Excess Number × List Char} (h : readMagnitude? limits negative cs = some r) :
    ∃ c rest, cs = c :: rest ∧ c.isDigit = true := by
  cases cs with
  | nil => simp [readMagnitude?, wholeDigits?] at h
  | cons c rest =>
      refine ⟨c, rest, rfl, ?_⟩
      cases hdigit : c.isDigit with
      | true => rfl
      | false =>
          have hzero : c ≠ '0' := by
            rintro rfl
            cases hdigit
          simp [readMagnitude?, wholeDigits?, hzero, hdigit] at h

/-- What the reading of a number without its sign comes to. -/
def scalarOf (r : Except Excess Number × List Char) : Reading Json :=
  (r.1.mapError .beyond).map fun x => (.number x, r.2)

theorem readScalar_of_readMagnitude? {limits : Limits} {cs : List Char}
    {r : Except Excess Number × List Char} (h : readMagnitude? limits false cs = some r) :
    readScalar limits cs = scalarOf r := by
  obtain ⟨c, rest, rfl, hdigit⟩ := isDigit_of_readMagnitude? h
  -- no word begins with a digit
  have hword : ∀ d, d.isDigit = false → d ≠ c := by
    rintro d hd rfl
    simp [hd] at hdigit
  have hwords : (words.findSome? fun word =>
      (after? word.1 (c :: rest)).map fun rest => (word.2, rest)) = none := by
    simp [words, after?, hword]
  rw [readScalar, hwords]
  · simp only [h]
    obtain ⟨number, after⟩ := r
    cases number <;> rfl
  · intro more heq
    exact hword '-' rfl (List.cons.inj heq).1.symm

theorem readScalar_minus {limits : Limits} {cs : List Char}
    {r : Except Excess Number × List Char} (h : readMagnitude? limits true cs = some r) :
    readScalar limits ('-' :: cs) = scalarOf r := by
  obtain ⟨c, rest, rfl, hdigit⟩ := isDigit_of_readMagnitude? h
  have hword : 'I' ≠ c := by
    rintro rfl
    cases hdigit
  have hwords : (words.findSome? fun word =>
      (after? word.1 ('-' :: c :: rest)).map fun rest => (word.2, rest)) = none := by
    simp [words, after?, hword]
  rw [readScalar, hwords]
  simp only [h]
  obtain ⟨number, after⟩ := r
  cases number <;> rfl

theorem after?_append (word : String) (tail : List Char) :
    after? word (word.toList ++ tail) = some tail := by
  simp [after?]

theorem after?_eq_some_iff {word : String} {cs rest : List Char} :
    after? word cs = some rest ↔ cs = word.toList ++ rest := by
  constructor
  · intro h
    simp only [after?, Option.ite_none_right_eq_some, Option.some.injEq] at h
    obtain ⟨hfront, rfl⟩ := h
    exact (List.prefix_iff_eq_append.mp (List.isPrefixOf_iff_prefix.mp hfront)).symm
  · rintro rfl
    exact after?_append word rest

theorem readScalar_word (limits : Limits) {word : String × Json} (h : word ∈ words)
    (tail : List Char) : readScalar limits (word.1.toList ++ tail) = .ok (word.2, tail) := by
  simp only [words, List.mem_cons, List.not_mem_nil, or_false] at h
  have hwords : (words.findSome? fun w =>
      (after? w.1 (word.1.toList ++ tail)).map fun rest => (w.2, rest)) =
        some (word.2, tail) := by
    rcases h with rfl | rfl | rfl | rfl | rfl | rfl <;>
      simp only [words, List.findSome?_cons, after?_append, Option.map_some] <;> simp [after?]
  rw [readScalar.eq_def, hwords]

theorem readScalar_cases {limits : Limits} {cs : List Char} {x : Number}
    (h : readScalar limits cs = .ok (.number x, [])) :
    (∃ word ∈ words, word.1.toList = cs ∧ word.2 = .number x) ∨
      readMagnitude? limits false cs = some (.ok x, []) ∨
      ∃ magnitude, cs = '-' :: magnitude ∧
        readMagnitude? limits true magnitude = some (.ok x, []) := by
  rw [readScalar.eq_def] at h
  split at h
  · rename_i r hword
    obtain ⟨word, hmem, hword⟩ := List.exists_of_findSome?_eq_some hword
    obtain ⟨rest, hafter, rfl⟩ := Option.map_eq_some_iff.mp hword
    obtain ⟨hvalue, rfl⟩ : word.2 = .number x ∧ rest = [] := by simpa using h
    rw [after?_eq_some_iff, List.append_nil] at hafter
    exact Or.inl ⟨word, hmem, hafter.symm, hvalue⟩
  · right
    split at h
    · rename_i magnitude _
      refine Or.inr ⟨magnitude, rfl, ?_⟩
      rcases hnumber : readMagnitude? limits true magnitude with _ | ⟨_ | y, after⟩ <;>
        simp_all
    · refine Or.inl ?_
      rcases hnumber : readMagnitude? limits false cs with _ | ⟨_ | y, after⟩ <;>
        simp_all

/-- A number that a whole text denotes is also read with something behind it. -/
theorem readScalar_append {limits : Limits} {cs tail : List Char} {x : Number}
    (hends : Ends tail) (h : readScalar limits cs = .ok (.number x, [])) :
    readScalar limits (cs ++ tail) = .ok (.number x, tail) := by
  rcases readScalar_cases h with ⟨word, hmem, rfl, hvalue⟩ | hnumber | ⟨magnitude, rfl, hnumber⟩
  · rw [readScalar_word limits hmem, hvalue]
  · obtain ⟨c, rest, rfl, -⟩ := isDigit_of_readMagnitude? hnumber
    have hlonger := readMagnitude?_append hends limits false (List.cons_ne_nil c rest)
    rw [hnumber] at hlonger
    rw [readScalar_of_readMagnitude? hlonger]
    rfl
  · obtain ⟨c, rest, rfl, -⟩ := isDigit_of_readMagnitude? hnumber
    have hlonger := readMagnitude?_append hends limits true (List.cons_ne_nil c rest)
    rw [hnumber] at hlonger
    rw [List.cons_append, readScalar_minus hlonger]
    rfl

theorem readMagnitude?_float {negative : Bool} {cs rest : List Char} {x : Binary64}
    (h : readMagnitude? {} negative cs = some (.ok (.float x), rest)) (limits : Limits) :
    readMagnitude? limits negative cs = some (.ok (.float x), rest) := by
  unfold readMagnitude? at h ⊢
  cases hwhole : wholeDigits? cs with
  | none => simp [hwhole] at h
  | some r =>
      simp only [hwhole, Option.bind_eq_bind, Option.bind_some] at h ⊢
      cases hexponent : exponent? (fraction r.2).2 with
      | some e => simpa only [hexponent] using h
      | none =>
          simp only [hexponent] at h ⊢
          split at h
          · simp [Limits.checkDigits, Except.map] at h
          · rwa [if_neg ‹_›]

/-- The limits concern no floating-point number. -/
theorem readScalar_float {cs : List Char} {x : Binary64}
    (h : readScalar {} cs = .ok (.number (.float x), [])) (limits : Limits) :
    readScalar limits cs = .ok (.number (.float x), []) := by
  rcases readScalar_cases h with ⟨word, hmem, rfl, hvalue⟩ | hnumber | ⟨magnitude, rfl, hnumber⟩
  · rw [← List.append_nil word.1.toList, readScalar_word limits hmem, hvalue]
  · exact readScalar_of_readMagnitude? (readMagnitude?_float hnumber limits)
  · exact readScalar_minus (readMagnitude?_float hnumber limits)

/-! ## Whole numbers -/

theorem ofDigits_toDigits (n : Nat) : ofDigits (Nat.toDigits 10 n) = n :=
  Nat.ofDigitChars_toDigits (by decide) (by decide)

theorem spanDigits_toDigits (n : Nat) :
    spanDigits (Nat.toDigits 10 n) = (Nat.toDigits 10 n, []) := by
  have hall : ∀ c ∈ Nat.toDigits 10 n, c.isDigit :=
    fun c hc => Nat.isDigit_of_mem_toDigits (by decide) (by decide) hc
  rw [spanDigits, List.takeWhile_eq_self_iff.mpr hall, List.dropWhile_eq_nil_iff.mpr hall]

theorem head?_toDigits {n : Nat} (h : 0 < n) : (Nat.toDigits 10 n).head? ≠ some '0' := by
  have hdigit : ∀ d < 10, 0 < d → d.digitChar ≠ '0' := by decide
  induction n using Nat.strongRecOn with
  | ind n ih =>
      rw [Nat.toDigits_eq_if (by decide)]
      split
      · rename_i hlt
        simpa using hdigit n hlt h
      · rename_i hge
        have ih := ih (n / 10) (by omega) (by omega)
        obtain ⟨c, rest, heq⟩ :=
          List.exists_cons_of_ne_nil (Nat.toDigits_ne_nil (b := 10) (n := n / 10))
        simpa [heq] using ih

theorem wholeDigits?_toDigits (n : Nat) :
    wholeDigits? (Nat.toDigits 10 n) = some (Nat.toDigits 10 n, []) := by
  rcases Nat.eq_zero_or_pos n with rfl | hpos
  · rfl
  · have hspan := spanDigits_toDigits n
    have hhead := head?_toDigits hpos
    have hdigits : ∀ c ∈ Nat.toDigits 10 n, c.isDigit :=
      fun c hc => Nat.isDigit_of_mem_toDigits (by decide) (by decide) hc
    obtain ⟨c, rest, heq⟩ := List.exists_cons_of_ne_nil (Nat.toDigits_ne_nil (b := 10) (n := n))
    rw [heq] at hspan hhead hdigits ⊢
    have hzero : c ≠ '0' := by simpa using hhead
    rw [wholeDigits?, if_neg hzero, if_pos (hdigits c List.mem_cons_self), hspan]

theorem readMagnitude?_toDigits (limits : Limits) (negative : Bool) (n : Nat) :
    readMagnitude? limits negative (Nat.toDigits 10 n) =
      some ((limits.checkDigits (Nat.toDigits 10 n).length).map fun _ =>
        .int (if negative then -(n : Int) else n), []) := by
  simp [readMagnitude?, wholeDigits?_toDigits, fraction, exponent?, ofDigits_toDigits]

/-- A whole number is read back, or refused if it has too many digits. -/
theorem readScalar_intText {tail : List Char} (hends : Ends tail) (limits : Limits) (n : Int) :
    readScalar limits (intText n ++ tail) =
      ((limits.checkDigits (Nat.toDigits 10 n.natAbs).length).mapError .beyond).map fun _ =>
        (.int n, tail) := by
  have hmagnitude : ∀ negative, readMagnitude? limits negative (Nat.toDigits 10 n.natAbs ++ tail) =
      some ((limits.checkDigits (Nat.toDigits 10 n.natAbs).length).map fun _ =>
        .int (if negative then -(n.natAbs : Int) else n.natAbs), tail) := by
    intro negative
    rw [readMagnitude?_append hends _ _ Nat.toDigits_ne_nil, readMagnitude?_toDigits]
    rfl
  unfold intText
  split
  · have hn : -(n.natAbs : Int) = n := by omega
    rw [List.cons_append, readScalar_minus (hmagnitude true), if_pos rfl, hn]
    cases limits.checkDigits _ <;> rfl
  · have hn : (n.natAbs : Int) = n := by omega
    rw [readScalar_of_readMagnitude? (hmagnitude false), if_neg Bool.false_ne_true, hn]
    cases limits.checkDigits _ <;> rfl

end BrowserFlow.Json
