import BrowserFlow.Json.Printer
import BrowserFlow.Json.Reader
import Mathlib.Data.List.Chain

/-!
# Reading back escaped text

A text is written character by character and read as units: a character beyond the
basic plane is written as two of them. The units that are read are those of the
characters (`readUnits_flatMap_escapeChar`). They are joined into the text again unless
the first half of a pair stands right before a second half: the two are taken for the
pair, and what is read is another text (`joined_eq_self_iff`). A text without halves is
never like that.
-/

namespace BrowserFlow

namespace Text

def Meets (c d : Char) : Prop :=
  ∃ high low, half? c = some high ∧ half? d = some low ∧ Utf16.isHigh high = true ∧
    Utf16.isLow low = true

/-- No two halves that would make a pair stand side by side. -/
def Unpaired (cs : List Char) : Prop := cs.IsChain fun c d => ¬ Meets c d

theorem unpaired_of_isWhole {cs : List Char} (h : isWhole cs = true) : Unpaired cs := by
  rw [isWhole, List.all_eq_true] at h
  apply List.Pairwise.isChain
  apply List.pairwise_of_forall_mem_list
  rintro c hc - - ⟨high, -, hhigh, -⟩
  have hnone := h c hc
  simp [hhigh] at hnone

theorem half?_eq_some_iff {c : Char} {unit : Nat} :
    half? c = some unit ↔ 0x10d800 ≤ c.toNat ∧ c.toNat ≤ 0x10dfff ∧ unit = c.toNat - 0x100000 := by
  unfold half?
  split
  · rename_i h
    simp [h.1, h.2, eq_comm]
  · rename_i h
    simp only [reduceCtorEq, false_iff]
    rintro ⟨hlow, hhigh, -⟩
    exact h ⟨hlow, hhigh⟩

theorem toNat_lt_or_of_char (c : Char) :
    c.toNat < 0xd800 ∨ 0xdfff < c.toNat ∧ c.toNat < 0x110000 := by
  rcases c.valid with h | h
  · exact Or.inl h
  · exact Or.inr h

namespace Utf16

def charUnits (c : Char) : List Nat :=
  if c.toNat < 0x10000 then [c.toNat]
  else
    match half? c with
    | some unit => [unit]
    | none => [0xd800 + (c.toNat - 0x10000) / 0x400, 0xdc00 + (c.toNat - 0x10000) % 0x400]

theorem isHigh_iff {n : Nat} : isHigh n = true ↔ 0xd800 ≤ n ∧ n < 0xdc00 := by
  rw [isHigh, decide_eq_true_iff]

theorem isLow_iff {n : Nat} : isLow n = true ↔ 0xdc00 ≤ n ∧ n < 0xe000 := by
  rw [isLow, decide_eq_true_iff]

/-- A character is written as one unit that stands for it, or as a pair. -/
theorem charUnits_cases (c : Char) :
    (∃ n, charUnits c = [n] ∧ alone n = c ∧ (isHigh n = true ∨ isLow n = true → half? c = some n)) ∨
      ∃ high low, charUnits c = [high, low] ∧ isHigh high = true ∧ isLow low = true ∧
        paired high low = c := by
  have hvalid := toNat_lt_or_of_char c
  unfold charUnits
  split
  · -- no character has a number between those of the halves
    rename_i hbasic
    have hhigh : ¬ isHigh c.toNat = true := by
      rw [isHigh_iff]
      omega
    have hlow : ¬ isLow c.toNat = true := by
      rw [isLow_iff]
      omega
    refine Or.inl ⟨c.toNat, rfl, ?_, fun h => absurd h (not_or.mpr ⟨hhigh, hlow⟩)⟩
    simp [alone, hhigh, hlow]
  · cases hhalf : half? c with
    | some unit =>
        obtain ⟨hge, hle, hunit⟩ := half?_eq_some_iff.mp hhalf
        have hnumber : 0x100000 + unit = c.toNat := by omega
        have hside : (isHigh unit || isLow unit) = true := by
          rw [Bool.or_eq_true, isHigh_iff, isLow_iff]
          omega
        refine Or.inl ⟨unit, rfl, ?_, fun _ => rfl⟩
        rw [alone, if_pos hside, ofHalf, hnumber, Char.ofNat_toNat]
    | none =>
        refine Or.inr ⟨_, _, rfl, ?_, ?_, ?_⟩
        · rw [isHigh_iff]
          omega
        · rw [isLow_iff]
          omega
        · have hsum : 0x10000 + (0xd800 + (c.toNat - 0x10000) / 0x400 - 0xd800) * 0x400 +
              (0xdc00 + (c.toNat - 0x10000) % 0x400 - 0xdc00) = c.toNat := by omega
          rw [paired, hsum, Char.ofNat_toNat]

/-- The units of a text that begins with a second half begin with it. -/
theorem half?_of_isLow_head? {cs : List Char} {n : Nat} {rest : List Nat}
    (h : cs.flatMap charUnits = n :: rest) (hlow : isLow n = true) :
    ∃ d ∈ cs.head?, half? d = some n := by
  cases cs with
  | nil => simp at h
  | cons d cs =>
      refine ⟨d, rfl, ?_⟩
      rw [List.flatMap_cons] at h
      rcases charUnits_cases d with ⟨m, hm, -, hhalf⟩ | ⟨high, low, hpair, hhigh, -, -⟩
      · rw [hm, List.singleton_append] at h
        obtain ⟨rfl, -⟩ := List.cons.inj h
        exact hhalf (Or.inr hlow)
      · rw [hpair, List.cons_append] at h
        obtain ⟨rfl, -⟩ := List.cons.inj h
        rw [isHigh_iff] at hhigh
        rw [isLow_iff] at hlow
        omega

end Utf16

open Utf16

/-- What a text is read back as: two halves that meet are joined into a character. -/
def joined (cs : List Char) : List Char := ofUnits (cs.flatMap charUnits)

@[simp] theorem joined_nil : joined [] = [] := rfl

theorem charUnits_ne_nil (c : Char) : charUnits c ≠ [] := by
  rcases charUnits_cases c with ⟨n, hn, -⟩ | ⟨high, low, hpair, -⟩
  · simp [hn]
  · simp [hpair]

theorem charUnits_of_half? {c : Char} {unit : Nat} (h : half? c = some unit) :
    charUnits c = [unit] := by
  obtain ⟨hge, -, -⟩ := half?_eq_some_iff.mp h
  rw [charUnits, if_neg (by omega), h]

/-- A character is read back as it is, unless it meets the next one. -/
theorem joined_cons_cases (c : Char) (cs : List Char) :
    ((∀ d ∈ cs.head?, ¬ Meets c d) ∧ joined (c :: cs) = c :: joined cs) ∨
      ∃ d rest pair, cs = d :: rest ∧ Meets c d ∧ joined (c :: cs) = pair :: joined rest := by
  rw [joined, List.flatMap_cons]
  rcases charUnits_cases c with ⟨n, hn, halone, hhalf⟩ | ⟨high, low, hpair, hhigh, hlow, hchar⟩
  · rw [hn, List.singleton_append]
    cases hunits : cs.flatMap charUnits with
    | nil =>
        have hcs : cs = [] := by
          rw [List.flatMap_eq_nil_iff] at hunits
          exact List.eq_nil_iff_forall_not_mem.mpr fun d hd => charUnits_ne_nil d (hunits d hd)
        refine Or.inl ⟨by simp [hcs], ?_⟩
        rw [ofUnits, halone, hcs, joined_nil]
    | cons m rest =>
        by_cases hmeet : (isHigh n && isLow m) = true
        · -- the next unit is a second half only if the next character is that half itself
          obtain ⟨hhigh, hlow⟩ := Bool.and_eq_true_iff.mp hmeet
          obtain ⟨d, hd, hhalf'⟩ := half?_of_isLow_head? hunits hlow
          obtain ⟨others, rfl⟩ := List.head?_eq_some_iff.mp hd
          rw [List.flatMap_cons, charUnits_of_half? hhalf', List.singleton_append] at hunits
          refine Or.inr ⟨d, others, paired n m, rfl, ?_, ?_⟩
          · exact ⟨n, m, hhalf (Or.inl hhigh), hhalf', hhigh, hlow⟩
          · rw [ofUnits, if_pos hmeet, joined, (List.cons.inj hunits).2]
        · refine Or.inl ⟨?_, ?_⟩
          · rintro d hd ⟨high, low, hc, hd', hhigh, hlow⟩
            obtain ⟨others, rfl⟩ := List.head?_eq_some_iff.mp hd
            rw [charUnits_of_half? hc] at hn
            rw [List.flatMap_cons, charUnits_of_half? hd', List.singleton_append] at hunits
            rw [← (List.cons.inj hn).1, ← (List.cons.inj hunits).1, hhigh, hlow] at hmeet
            exact hmeet rfl
          · rw [ofUnits, if_neg hmeet, halone, joined, hunits]
  · refine Or.inl ⟨?_, ?_⟩
    · rintro d - ⟨unit, -, hunit, -⟩
      simp [charUnits_of_half? hunit] at hpair
    · rw [hpair, List.cons_append, List.singleton_append, ofUnits, hhigh, hlow, Bool.and_self,
        if_pos rfl, hchar, joined]

theorem length_joined_le (cs : List Char) : (joined cs).length ≤ cs.length := by
  induction hlength : cs.length using Nat.strongRecOn generalizing cs with
  | ind length ih =>
      cases cs with
      | nil => exact Nat.zero_le _
      | cons c cs =>
          subst hlength
          rcases joined_cons_cases c cs with ⟨-, h⟩ | ⟨d, rest, pair, rfl, -, h⟩
          · have hrest := ih cs.length (Nat.lt_succ_self _) cs rfl
            simpa [h] using hrest
          · have hrest := ih rest.length (by simp only [List.length_cons]; omega) rest rfl
            simp only [h, List.length_cons]
            omega

/-- A text is read back as it is just if no two halves of it meet. -/
theorem joined_eq_self_iff {cs : List Char} : joined cs = cs ↔ Unpaired cs := by
  induction cs with
  | nil => exact iff_of_true rfl List.isChain_nil
  | cons c cs ih =>
      rw [Unpaired, List.isChain_cons, ← Unpaired, ← ih]
      rcases joined_cons_cases c cs with ⟨hnext, h⟩ | ⟨d, rest, pair, rfl, hmeets, h⟩
      · rw [h]
        constructor
        · exact fun heq => ⟨hnext, (List.cons.inj heq).2⟩
        · exact fun hrest => congrArg (c :: ·) hrest.2
      · constructor
        · -- what two characters are joined into is too short
          intro heq
          have hlength := congrArg List.length heq
          have hle := length_joined_le rest
          rw [h] at hlength
          simp only [List.length_cons] at hlength
          omega
        · exact fun hrest => absurd hmeets (hrest.1 d rfl)

theorem hexDigits_four {n : Nat} (h : n < 0x10000) :
    hexDigits 4 n = [(n / 4096).digitChar, (n / 256 % 16).digitChar, (n / 16 % 16).digitChar,
      (n % 16).digitChar] := by
  have hstep : ∀ m, 16 ≤ m →
      Nat.toDigits 16 m = Nat.toDigits 16 (m / 16) ++ [(m % 16).digitChar] := by
    intro m hm
    rw [Nat.toDigits_eq_if (by decide), if_neg (by omega)]
  have hlast : ∀ m < 16, Nat.toDigits 16 m = [m.digitChar] :=
    fun m hm => Nat.toDigits_of_lt_base hm
  unfold hexDigits
  -- by the number of digits without the zeros in front
  rcases Nat.lt_or_ge n 16 with h1 | h1
  · have hzeros : n / 4096 = 0 ∧ n / 256 % 16 = 0 ∧ n / 16 % 16 = 0 ∧ n % 16 = n := by omega
    simp [hlast n h1, hzeros, List.replicate]
  · rcases Nat.lt_or_ge n 256 with h2 | h2
    · have hzeros : n / 4096 = 0 ∧ n / 256 % 16 = 0 ∧ n / 16 % 16 = n / 16 := by omega
      simp [hstep n h1, hlast (n / 16) (by omega), hzeros, List.replicate]
    · rcases Nat.lt_or_ge n 4096 with h3 | h3
      · have hzeros : n / 4096 = 0 ∧ n / 256 % 16 = n / 16 / 16 := by omega
        simp [hstep n h1, hstep (n / 16) (by omega), hlast (n / 16 / 16) (by omega), hzeros]
      · have hquotients : n / 16 / 16 = n / 256 ∧ n / 256 / 16 = n / 4096 := by omega
        simp [hstep n h1, hstep (n / 16) (by omega), hstep (n / 256) (by omega),
          hlast (n / 4096) (by omega), hquotients]

end Text

namespace Json

open Text Text.Utf16

theorem hexUnit?_digitChar {a b c d : Nat} (ha : a < 16) (hb : b < 16) (hc : c < 16)
    (hd : d < 16) :
    hexUnit? a.digitChar b.digitChar c.digitChar d.digitChar =
      some (a * 4096 + b * 256 + c * 16 + d) := by
  have hvalue : ∀ n < 16, hexValue? n.digitChar = some n := by decide
  simp [hexUnit?, hvalue a ha, hvalue b hb, hvalue c hc, hvalue d hd]

theorem readUnits_unitEscape (opening : List Char) {rest : List Char} (hrest : rest ≠ [])
    {n : Nat} (h : n < 0x10000) :
    readUnits opening (unitEscape n ++ rest) =
      (readUnits opening rest).map fun r => (n :: r.1, r.2) := by
  obtain ⟨next, more, rfl⟩ := List.exists_cons_of_ne_nil hrest
  have hsum : n / 4096 * 4096 + n / 256 % 16 * 256 + n / 16 % 16 * 16 + n % 16 = n := by omega
  have hunit := hexUnit?_digitChar (a := n / 4096) (b := n / 256 % 16) (c := n / 16 % 16)
    (d := n % 16) (by omega) (by omega) (by omega) (by omega)
  rw [hsum] at hunit
  rw [unitEscape, hexDigits_four h]
  simp only [List.cons_append, List.nil_append]
  rw [readUnits]
  simp only [hunit]
  simp

theorem readUnits_letter (opening rest : List Char) {letter c : Char} (hu : letter ≠ 'u')
    (h : escaped? letter = some c) :
    readUnits opening ('\\' :: letter :: rest) =
      (readUnits opening rest).map fun r => (c.toNat :: r.1, r.2) := by
  rw [readUnits, if_neg (by decide), if_pos rfl]
  · simp only [h]
  · rintro - - - - - - rfl
    exact absurd rfl hu
  · rintro rfl
    exact absurd rfl hu

theorem readUnits_plain (opening rest : List Char) {c : Char} (hquote : c ≠ '\x22')
    (hescape : c ≠ '\\') (h : 0x20 ≤ c.toNat) :
    readUnits opening (c :: rest) =
      (readUnits opening rest).map fun r => (c.toNat :: r.1, r.2) := by
  rw [readUnits.eq_def]
  simp only [if_neg hquote, if_neg hescape, if_neg (Nat.not_lt.mpr h)]

/-- What a character is written as is read as its units, if anything comes after it. -/
theorem readUnits_escapeChar (opening : List Char) {rest : List Char} (hrest : rest ≠ [])
    (c : Char) :
    readUnits opening (escapeChar c ++ rest) =
      (readUnits opening rest).map fun r => (charUnits c ++ r.1, r.2) := by
  by_cases hletter : c ∈ ['\x22', '\\', '\n', '\r', '\t', '\x0c', '\x08']
  · simp only [List.mem_cons, List.not_mem_nil, or_false] at hletter
    rcases hletter with rfl | rfl | rfl | rfl | rfl | rfl | rfl <;>
      exact readUnits_letter opening rest (by decide) rfl
  · simp only [List.mem_cons, List.not_mem_nil, or_false, not_or] at hletter
    obtain ⟨hquote, hescape, hn, hr, ht, hf, hb⟩ := hletter
    have hvalid := toNat_lt_or_of_char c
    simp only [escapeChar, hquote, hescape, hn, hr, ht, hf, hb, if_false]
    -- what is not escaped by a letter stands for itself, or is escaped as one unit or as two
    split_ifs with hprinted hbasic
    · rw [charUnits, if_pos (by omega)]
      exact readUnits_plain opening rest hquote hescape hprinted.1
    · rw [charUnits, if_pos hbasic]
      exact readUnits_unitEscape opening hrest hbasic
    · rw [charUnits, if_neg hbasic]
      cases hhalf : half? c with
      | some unit =>
          obtain ⟨-, hle, hunit⟩ := half?_eq_some_iff.mp hhalf
          exact readUnits_unitEscape opening hrest (by omega)
      | none =>
          have hsecond : ∀ n, unitEscape n ++ rest ≠ [] := fun n => List.cons_ne_nil _ _
          rw [List.append_assoc, readUnits_unitEscape opening (hsecond _) (by omega),
            readUnits_unitEscape opening hrest (by omega)]
          cases readUnits opening rest <;> rfl

/-- What a text is written as is read as its units, up to the closing quote. -/
theorem readUnits_flatMap_escapeChar (opening rest cs : List Char) :
    readUnits opening (cs.flatMap escapeChar ++ '\x22' :: rest) =
      .ok (cs.flatMap charUnits, rest) := by
  induction cs with
  | nil =>
      rw [List.flatMap_nil, List.nil_append, readUnits.eq_def]
      rfl
  | cons c cs ih =>
      rw [List.flatMap_cons, List.append_assoc, readUnits_escapeChar opening (by simp), ih,
        List.flatMap_cons]
      rfl

/-- A written text is read back, but for halves that meet. -/
theorem readText_renderText (opening rest cs : List Char) :
    readText opening (cs.flatMap escapeChar ++ '\x22' :: rest) =
      .ok (String.ofList (joined cs), rest) := by
  rw [readText, readUnits_flatMap_escapeChar]
  rfl

end Json

end BrowserFlow
