import BrowserFlow.Proofs.Json.Printed
import BrowserFlow.Proofs.Json.ReadBack
import BrowserFlow.Service.Reply

/-!
# Written values and the standard grammar

`Derives symbol cs` is the grammar of the standard, RFC 8259, with a production for each way in
which a value, a field or a series of either can be written, and `IsStandardText` is the whole
text: a value with space around it. It knows no names but `null`, `true` and `false`, whereas the
reader and the printer also have names for the undefined number and for infinity.

A value is written as a standard text just if all its numbers are finite
(`isStandardText_render_iff`). One direction goes along the writing. For the other, `bareFrom`
leaves out all that stands between quotes: what is left of a standard text has no capital letter
in it, and what is left of a number that is not finite has one.
-/

namespace BrowserFlow.Json

/-! ## The grammar -/

def IsHex (c : Char) : Prop :=
  '0' ≤ c ∧ c ≤ '9' ∨ 'a' ≤ c ∧ c ≤ 'f' ∨ 'A' ≤ c ∧ c ≤ 'F'

/-- What may stand between the quotes of a text. -/
inductive IsTextBody : List Char → Prop
  | nil : IsTextBody []
  | unescaped {c : Char} {cs : List Char} (printed : 0x20 ≤ c.toNat) (quote : c ≠ '\x22')
      (escape : c ≠ '\\') (rest : IsTextBody cs) : IsTextBody (c :: cs)
  | letter {c : Char} {cs : List Char} (letter : c ∈ ['\x22', '\\', '/', 'b', 'f', 'n', 'r', 't'])
      (rest : IsTextBody cs) : IsTextBody ('\\' :: c :: cs)
  | unit {a b c d : Char} {cs : List Char} (digits : ∀ digit ∈ [a, b, c, d], IsHex digit)
      (rest : IsTextBody cs) : IsTextBody ('\\' :: 'u' :: a :: b :: c :: d :: cs)

def IsText (cs : List Char) : Prop := ∃ body, IsTextBody body ∧ cs = '\x22' :: (body ++ ['\x22'])

def IsFraction (cs : List Char) : Prop := cs = [] ∨ ∃ ds, ds ≠ [] ∧ Digits ds ∧ cs = '.' :: ds

/-- A mark, a sign or none, and digits; or nothing. -/
def IsExponent (cs : List Char) : Prop :=
  cs = [] ∨ ∃ mark sign ds, mark ∈ ['e', 'E'] ∧ sign ∈ [[], ['-'], ['+']] ∧ ds ≠ [] ∧ Digits ds ∧
    cs = mark :: (sign ++ ds)

def IsMagnitude (cs : List Char) : Prop :=
  ∃ whole part exponent, WholeDigits whole ∧ IsFraction part ∧ IsExponent exponent ∧
    cs = whole ++ part ++ exponent

def IsNumeral (cs : List Char) : Prop := ∃ sign magnitude, sign ∈ [[], ['-']] ∧
  IsMagnitude magnitude ∧ cs = sign ++ magnitude

/-- What the grammar tells apart. A series has commas between its items. -/
inductive Symbol where
  | value
  | field
  | series (item : Symbol)

/-- The productions of the grammar. -/
inductive Derives : Symbol → List Char → Prop
  | word {cs : List Char} (word : cs ∈ ["null", "true", "false"].map String.toList) :
      Derives .value cs
  | numeral {cs : List Char} (numeral : IsNumeral cs) : Derives .value cs
  | text {cs : List Char} (text : IsText cs) : Derives .value cs
  | emptyList {gap : List Char} (blank : Blank gap) : Derives .value ('[' :: (gap ++ [']']))
  | list {items : List Char} (items_derived : Derives (.series .value) items) :
      Derives .value ('[' :: (items ++ [']']))
  | emptyObject {gap : List Char} (blank : Blank gap) :
      Derives .value ('\x7b' :: (gap ++ ['\x7d']))
  | object {fields : List Char} (fields_derived : Derives (.series .field) fields) :
      Derives .value ('\x7b' :: (fields ++ ['\x7d']))
  | field {name before after cs : List Char} (name_text : IsText name) (before_blank : Blank before)
      (after_blank : Blank after) (value : Derives .value cs) :
      Derives .field (name ++ before ++ ':' :: (after ++ cs))
  | last {item : Symbol} {before cs after : List Char} (before_blank : Blank before)
      (first : Derives item cs) (after_blank : Blank after) :
      Derives (.series item) (before ++ cs ++ after)
  | more {item : Symbol} {before cs after others : List Char} (before_blank : Blank before)
      (first : Derives item cs) (after_blank : Blank after)
      (rest : Derives (.series item) others) :
      Derives (.series item) (before ++ cs ++ after ++ ',' :: others)

/-- A text of the standard: one value, with space before and after it. -/
def IsStandardText (cs : List Char) : Prop :=
  ∃ before v after, Blank before ∧ Derives .value v ∧ Blank after ∧ cs = before ++ v ++ after

/-! ## Texts and numbers are written as the grammar has them -/

theorem isHex_digitChar {n : Nat} (h : n < 16) : IsHex n.digitChar := by
  have hall : ∀ n < 16, '0' ≤ n.digitChar ∧ n.digitChar ≤ '9' ∨
      'a' ≤ n.digitChar ∧ n.digitChar ≤ 'f' ∨ 'A' ≤ n.digitChar ∧ n.digitChar ≤ 'F' := by
    decide
  exact hall n h

theorem IsTextBody.unitEscape_append {n : Nat} (h : n < 0x10000) {cs : List Char}
    (hcs : IsTextBody cs) : IsTextBody (unitEscape n ++ cs) := by
  rw [unitEscape, Text.hexDigits_four h]
  refine .unit ?_ hcs
  simp only [List.forall_mem_cons]
  exact ⟨isHex_digitChar (by omega), isHex_digitChar (by omega), isHex_digitChar (by omega),
    isHex_digitChar (by omega), fun _ h => absurd h List.not_mem_nil⟩

/-- What a character is written as may stand before more of a text. -/
theorem IsTextBody.escapeChar_append (c : Char) {cs : List Char} (hcs : IsTextBody cs) :
    IsTextBody (escapeChar c ++ cs) := by
  by_cases hletter : c ∈ ['\x22', '\\', '\n', '\r', '\t', '\x0c', '\x08']
  · simp only [List.mem_cons, List.not_mem_nil, or_false] at hletter
    rcases hletter with rfl | rfl | rfl | rfl | rfl | rfl | rfl <;> exact .letter (by decide) hcs
  · simp only [List.mem_cons, List.not_mem_nil, or_false, not_or] at hletter
    obtain ⟨hquote, hescape, hn, hr, ht, hf, hb⟩ := hletter
    have hvalid := Text.toNat_lt_or_of_char c
    simp only [escapeChar, hquote, hescape, hn, hr, ht, hf, hb, if_false]
    -- what is not escaped by a letter stands for itself, or is escaped as one unit or as two
    split_ifs with hprinted hbasic
    · exact .unescaped hprinted.1 hquote hescape hcs
    · exact hcs.unitEscape_append hbasic
    · cases hhalf : Text.half? c with
      | some unit =>
          obtain ⟨-, -, hunit⟩ := Text.half?_eq_some_iff.mp hhalf
          exact hcs.unitEscape_append (by omega)
      | none =>
          rw [List.append_assoc]
          exact (hcs.unitEscape_append (by omega)).unitEscape_append (by omega)

theorem isText_renderText (cs : List Char) : IsText (renderText cs) := by
  refine ⟨cs.flatMap escapeChar, ?_, rfl⟩
  induction cs with
  | nil => exact .nil
  | cons c cs ih =>
      rw [List.flatMap_cons]
      exact ih.escapeChar_append c

theorem exists_digits_of_spanDigits {cs ds rest : List Char} (h : spanDigits cs = (ds, rest)) :
    Digits ds ∧ cs = ds ++ rest := by
  obtain ⟨rfl, rfl⟩ := Prod.mk.inj h
  exact ⟨fun _ hc => List.mem_takeWhile_imp hc, (List.takeWhile_append_dropWhile).symm⟩

theorem wholeDigits_of_wholeDigits? {cs ds rest : List Char}
    (h : wholeDigits? cs = some (ds, rest)) : WholeDigits ds ∧ cs = ds ++ rest := by
  cases cs with
  | nil => cases h
  | cons c cs =>
      rw [wholeDigits?] at h
      split_ifs at h with hzero hdigit
      · obtain ⟨rfl, rfl⟩ := Prod.mk.inj (Option.some.inj h)
        exact ⟨Or.inl rfl, by rw [hzero]; rfl⟩
      · obtain ⟨hdigits, happend⟩ := exists_digits_of_spanDigits (Option.some.inj h)
        refine ⟨Or.inr ⟨?_, hdigits⟩, happend⟩
        have hspan := congrArg Prod.fst (Option.some.inj h)
        simp only [spanDigits, List.takeWhile_cons, hdigit, if_true] at hspan
        exact ⟨c, _, hspan.symm, hzero⟩

theorem isFraction_of_fraction {cs ds rest : List Char} (h : fraction cs = (ds, rest)) :
    ∃ part, IsFraction part ∧ cs = part ++ rest := by
  unfold fraction at h
  split at h
  · rename_i digits
    split_ifs at h with hempty
    · obtain ⟨-, rfl⟩ := Prod.mk.inj h
      exact ⟨[], Or.inl rfl, rfl⟩
    · obtain ⟨hdigits, rfl⟩ := exists_digits_of_spanDigits h
      refine ⟨'.' :: ds, Or.inr ⟨ds, ?_, hdigits, rfl⟩, rfl⟩
      rintro rfl
      rw [h] at hempty
      exact hempty rfl
  · obtain ⟨-, rfl⟩ := Prod.mk.inj h
    exact ⟨[], Or.inl rfl, rfl⟩

theorem isExponent_of_exponent? {cs rest : List Char} {e : Int}
    (h : exponent? cs = some (e, rest)) :
    ∃ exponent, IsExponent exponent ∧ cs = exponent ++ rest := by
  unfold exponent? at h
  split at h
  · rename_i mark after
    split_ifs at h with hmark
    split at h
    rename_i negative digits hsign
    have hafter : ∃ sign ∈ [[], ['-'], ['+']], after = sign ++ digits := by
      split at hsign
      · exact ⟨['-'], by simp, by rw [(Prod.mk.inj hsign).2]; rfl⟩
      · exact ⟨['+'], by simp, by rw [(Prod.mk.inj hsign).2]; rfl⟩
      · exact ⟨[], by simp, (Prod.mk.inj hsign).2⟩
    obtain ⟨sign, hmem, rfl⟩ := hafter
    dsimp only at h
    split at h
    · cases h
    · rename_i hne
      obtain ⟨hdigits, happend⟩ : Digits (spanDigits digits).1 ∧
          digits = (spanDigits digits).1 ++ rest :=
        exists_digits_of_spanDigits (Prod.ext rfl (Prod.mk.inj (Option.some.inj h)).2)
      refine ⟨mark :: (sign ++ (spanDigits digits).1), Or.inr ⟨mark, sign, _, by simpa using hmark,
        hmem, mt List.isEmpty_iff.mpr hne, hdigits, rfl⟩, ?_⟩
      rw [List.cons_append, List.append_assoc, ← happend]
  · cases h

theorem isMagnitude_of_readMagnitude? {limits : Limits} {negative : Bool} {cs rest : List Char}
    {r : Except Excess Number} (h : readMagnitude? limits negative cs = some (r, rest)) :
    ∃ magnitude, IsMagnitude magnitude ∧ cs = magnitude ++ rest := by
  rw [readMagnitude?] at h
  cases hwhole : wholeDigits? cs with
  | none => simp [hwhole] at h
  | some pair =>
      obtain ⟨whole, afterWhole⟩ := pair
      obtain ⟨hdigits, rfl⟩ := wholeDigits_of_wholeDigits? hwhole
      simp only [hwhole, Option.bind_eq_bind, Option.bind_some] at h
      cases hfraction : fraction afterWhole with
      | mk part afterPart =>
          obtain ⟨point, hpoint, rfl⟩ := isFraction_of_fraction hfraction
          rw [hfraction] at h
          dsimp only at h
          have hplain : rest = afterPart →
              ∃ magnitude, IsMagnitude magnitude ∧
                whole ++ (point ++ afterPart) = magnitude ++ rest := by
            rintro rfl
            exact ⟨whole ++ point ++ [], ⟨whole, point, [], hdigits, hpoint, Or.inl rfl, rfl⟩,
              by simp⟩
          split at h
          · rename_i e after hexponent
            obtain ⟨exponent, hmark, rfl⟩ := isExponent_of_exponent? hexponent
            obtain ⟨-, rfl⟩ := Prod.mk.inj (Option.some.inj h)
            exact ⟨whole ++ point ++ exponent,
              ⟨whole, point, exponent, hdigits, hpoint, hmark, rfl⟩, by simp⟩
          · split at h
            · exact hplain (Prod.mk.inj (Option.some.inj h)).2.symm
            · exact hplain (Prod.mk.inj (Option.some.inj h)).2.symm

theorem isNumeral_of_readMagnitude? {limits : Limits} {negative : Bool} {cs : List Char}
    {r : Except Excess Number} (h : readMagnitude? limits negative cs = some (r, [])) :
    IsNumeral cs ∧ IsNumeral ('-' :: cs) := by
  obtain ⟨magnitude, hmagnitude, heq⟩ := isMagnitude_of_readMagnitude? h
  rw [List.append_nil] at heq
  obtain rfl := heq
  exact ⟨⟨[], _, by simp, hmagnitude, rfl⟩, ⟨['-'], _, by simp, hmagnitude, rfl⟩⟩

theorem isNumeral_intText (n : Int) : IsNumeral (intText n) := by
  have hread := isNumeral_of_readMagnitude? (readMagnitude?_toDigits {} false n.natAbs)
  unfold intText
  split
  · exact hread.2
  · exact hread.1

theorem isNumeral_text {x : Number} (h : (Json.number x).isStandard = true) :
    IsNumeral (x.text numberLayout) := by
  cases x with
  | int n => exact isNumeral_intText n
  | float x =>
      rw [isStandard] at h
      have hnan : x.isNaN = false := by
        rw [Binary64.isFinite, decide_eq_true_eq] at h
        rw [Binary64.isNaN, decide_eq_false_iff_not]
        omega
      obtain ⟨y, hread⟩ := readsFloat_decimalText false numberLayout x.exponent_shortest
      obtain ⟨hpositive, hnegative⟩ := isNumeral_of_readMagnitude? hread
      rw [Number.text, DecimalLayout.text, if_neg (by simp [hnan]), String.toList_ofList, h]
      split
      · exact hnegative
      · exact hpositive

/-! ## Values are written as the grammar has them -/

theorem blank_append {front back : List Char} (hfront : Blank front) (hback : Blank back) :
    Blank (front ++ back) := List.forall_mem_append.mpr ⟨hfront, hback⟩

theorem blank_nil : Blank [] := fun _ h => absurd h List.not_mem_nil

/-- Space before a series and behind it belongs to its first and its last item. -/
theorem Derives.series_blank {item : Symbol} {front cs back : List Char} (hfront : Blank front)
    (hback : Blank back) (h : Derives (.series item) cs) :
    Derives (.series item) (front ++ cs ++ back) := by
  generalize hsymbol : Symbol.series item = symbol at h
  induction h generalizing front with
  | last hbefore hfirst hafter =>
      obtain rfl := Symbol.series.inj hsymbol
      simpa using Derives.last (blank_append hfront hbefore) hfirst (blank_append hafter hback)
  | more hbefore hfirst hafter hrest _ ih =>
      obtain rfl := Symbol.series.inj hsymbol
      have hothers := ih blank_nil rfl
      simpa using Derives.more (blank_append hfront hbefore) hfirst hafter hothers
  | _ => cases hsymbol

theorem Derives.singleton {item : Symbol} {cs : List Char} (h : Derives item cs) :
    Derives (.series item) cs := by
  simpa using Derives.last blank_nil h blank_nil

theorem Derives.cons {item : Symbol} {cs gap others : List Char} (h : Derives item cs)
    (hgap : Blank gap) (hrest : Derives (.series item) others) :
    Derives (.series item) (cs ++ ',' :: (gap ++ others)) := by
  have hothers := hrest.series_blank hgap blank_nil
  rw [List.append_nil] at hothers
  simpa using Derives.more blank_nil h blank_nil hothers

theorem Derives.field_space {name cs : List Char} (hname : IsText name) (h : Derives .value cs) :
    Derives .field (name ++ ':' :: ' ' :: cs) := by
  have hspace : Blank [' '] := by simp [Blank, isSpace]
  simpa using Derives.field hname blank_nil hspace h

section Render

variable {indent : Indent} (hindent : ∀ unit ∈ indent, Blank unit)
include hindent

mutual

theorem derives_renderAt (level : Nat) : ∀ v : Json, v.isStandard = true →
    Derives .value (renderAt indent level v)
  | .null, _ => .word (by simp [renderAt])
  | .bool true, _ => .word (by simp [renderAt])
  | .bool false, _ => .word (by simp [renderAt])
  | .number x, h => .numeral (isNumeral_text h)
  | .text s, _ => .text (isText_renderText s.toList)
  | .list [], _ => .emptyList blank_nil
  | .object [], _ => .emptyObject blank_nil
  | .list (x :: xs), h => by
    rw [isStandard] at h
    have hitems := derives_itemsText (level + 1) (x :: xs) (List.cons_ne_nil x xs) h
    have hseries := hitems.series_blank (blank_lineBreak hindent (level + 1))
      (blank_lineBreak hindent level)
    rw [renderAt_list indent level (List.cons_ne_nil x xs)]
    exact .list hseries
  | .object ((k, v) :: fields), h => by
    rw [isStandard] at h
    have hfields := derives_fieldsText (level + 1) ((k, v) :: fields) (List.cons_ne_nil _ _) h
    have hseries := hfields.series_blank (blank_lineBreak hindent (level + 1))
      (blank_lineBreak hindent level)
    rw [renderAt_object indent level (List.cons_ne_nil (k, v) fields)]
    exact .object hseries

theorem derives_itemsText (level : Nat) : ∀ items : List Json, items ≠ [] →
    areStandard items = true → Derives (.series .value) (itemsText indent level items)
  | [], hne, _ => absurd rfl hne
  | [x], _, h => by
    rw [areStandard, Bool.and_eq_true] at h
    simpa [itemsText, renderItems] using (derives_renderAt level x h.1).singleton
  | x :: y :: ys, _, h => by
    rw [areStandard, Bool.and_eq_true] at h
    obtain ⟨gap, hgap, htext⟩ := exists_itemsText_cons_cons hindent level x y ys
    rw [htext]
    exact (derives_renderAt level x h.1).cons hgap
      (derives_itemsText level (y :: ys) (List.cons_ne_nil y ys) h.2)

theorem derives_fieldsText (level : Nat) : ∀ fields : List (String × Json), fields ≠ [] →
    haveStandardValues fields = true →
      Derives (.series .field) (fieldsText indent level fields)
  | [], hne, _ => absurd rfl hne
  | [(k, v)], _, h => by
    rw [haveStandardValues, Bool.and_eq_true] at h
    have hfield := (derives_renderAt level v h.1).field_space (isText_renderText k.toList)
    simpa [fieldsText, renderFields] using hfield.singleton
  | (k, v) :: field :: fields, _, h => by
    rw [haveStandardValues, Bool.and_eq_true] at h
    obtain ⟨gap, hgap, htext⟩ := exists_fieldsText_cons_cons hindent level k v field fields
    have hfield := (derives_renderAt level v h.1).field_space (isText_renderText k.toList)
    rw [htext]
    simpa using hfield.cons hgap
      (derives_fieldsText level (field :: fields) (List.cons_ne_nil field fields) h.2)

end

end Render

/-! ## What stands outside of quotes -/

/-- Where a character stands: outside of quotes, inside, or behind a backslash there. -/
inductive Place where
  | outside
  | inside
  | escaped

/-- What stands outside of quotes, from a place on. -/
def bareFrom : Place → List Char → List Char
  | _, [] => []
  | .outside, c :: cs => if c = '\x22' then bareFrom .inside cs else c :: bareFrom .outside cs
  | .inside, c :: cs =>
    bareFrom (if c = '\x22' then .outside else if c = '\\' then .escaped else .inside) cs
  | .escaped, _ :: cs => bareFrom .inside cs

/-- The text begins and ends outside of quotes, and has `bare` there. -/
def Leaves (cs bare : List Char) : Prop :=
  ∀ rest, bareFrom .outside (cs ++ rest) = bare ++ bareFrom .outside rest

theorem Leaves.append {cs ds bare more : List Char} (hcs : Leaves cs bare) (hds : Leaves ds more) :
    Leaves (cs ++ ds) (bare ++ more) := by
  intro rest
  rw [List.append_assoc, hcs, hds, List.append_assoc]

theorem leaves_of_notMem {cs : List Char} (h : '\x22' ∉ cs) : Leaves cs cs := by
  intro rest
  induction cs with
  | nil => rfl
  | cons c cs ih =>
      rw [List.mem_cons, not_or] at h
      rw [List.cons_append, bareFrom, if_neg (Ne.symm h.1), ih h.2]
      rfl

theorem bareFrom_inside_of_isTextBody {body : List Char} (h : IsTextBody body) (rest : List Char) :
    bareFrom .inside (body ++ '\x22' :: rest) = bareFrom .outside rest := by
  induction h with
  | nil => rfl
  | unescaped printed hquote hescape _ ih =>
      rw [List.cons_append, bareFrom, if_neg hquote, if_neg hescape, ih]
  | letter hletter _ ih => exact ih
  | @unit a b c d cs hdigits _ ih =>
      have hplain : ∀ digit ∈ [a, b, c, d], digit ≠ '\x22' ∧ digit ≠ '\\' := by
        intro digit hdigit
        have hhex := hdigits digit hdigit
        constructor <;>
        · rintro rfl
          exact absurd hhex (by unfold IsHex; decide)
      simp only [List.forall_mem_cons] at hplain
      obtain ⟨ha, hb, hc, hd, -⟩ := hplain
      simpa [bareFrom, ha, hb, hc, hd] using ih

theorem leaves_of_isText {cs : List Char} (h : IsText cs) : Leaves cs [] := by
  obtain ⟨body, hbody, rfl⟩ := h
  intro rest
  rw [List.cons_append, bareFrom, if_pos rfl, List.append_assoc, List.singleton_append,
    bareFrom_inside_of_isTextBody hbody]
  rfl

/-- The letters that are in the names of numbers that are not finite, and in no name of the
grammar. -/
def capitals : List Char := ['N', 'I']

/-- The text begins and ends outside of quotes, and has none of these letters there just if it is
`standard`. -/
def Shows (cs : List Char) (standard : Bool) : Prop :=
  ∃ bare, Leaves cs bare ∧ (standard = true ↔ ∀ c ∈ bare, c ∉ capitals)

theorem Shows.append {cs ds : List Char} {a b : Bool} (hcs : Shows cs a) (hds : Shows ds b) :
    Shows (cs ++ ds) (a && b) := by
  obtain ⟨bare, hbare, hiff⟩ := hcs
  obtain ⟨more, hmore, hiff'⟩ := hds
  refine ⟨bare ++ more, hbare.append hmore, ?_⟩
  rw [List.forall_mem_append, Bool.and_eq_true, hiff, hiff']

/-- A text shows one thing only. -/
theorem Shows.eq {cs : List Char} {a b : Bool} (h : Shows cs a) (h' : Shows cs b) : a = b := by
  obtain ⟨bare, hbare, hiff⟩ := h
  obtain ⟨bare', hbare', hiff'⟩ := h'
  have heq : bare = bare' := by
    have hboth := (hbare []).symm.trans (hbare' [])
    simpa [bareFrom] using hboth
  rw [Bool.eq_iff_iff, hiff, hiff', heq]

theorem shows_of_forall {cs : List Char} (h : ∀ c ∈ cs, c ∉ '\x22' :: capitals) : Shows cs true :=
  ⟨cs, leaves_of_notMem fun hmem => h _ hmem List.mem_cons_self,
    iff_of_true rfl fun c hc hcapital => h c hc (List.mem_cons_of_mem _ hcapital)⟩

theorem shows_of_plain {cs : List Char} (h : cs.any ('\x22' :: capitals).contains = false) :
    Shows cs true :=
  shows_of_forall fun c hc hmem =>
    List.any_eq_false.mp h c hc (List.contains_iff_mem.mpr hmem)

theorem Shows.cons {c : Char} {cs : List Char} {standard : Bool} (hcs : Shows cs standard)
    (hc : c ∉ '\x22' :: capitals) : Shows (c :: cs) standard := by
  have hsingle : Shows [c] true := shows_of_forall (List.forall_mem_singleton.mpr hc)
  exact hsingle.append hcs

theorem Shows.around {cs front back : List Char} {standard : Bool} (hcs : Shows cs standard)
    (hfront : Shows front true) (hback : Shows back true) :
    Shows (front ++ cs ++ back) standard := by
  have hboth := (hfront.append hcs).append hback
  rwa [Bool.true_and, Bool.and_true] at hboth

/-- A text whose characters all have a property that the quote and these letters do not have. -/
theorem shows_of_all {cs : List Char} {p : Char → Bool} (h : ∀ c ∈ cs, p c = true)
    (hp : ('\x22' :: capitals).any p = false) : Shows cs true :=
  shows_of_forall fun c hc hmem => List.any_eq_false.mp hp c hmem (h c hc)

theorem shows_of_blank {gap : List Char} (h : Blank gap) : Shows gap true :=
  shows_of_all h (by decide)

theorem shows_of_isText {cs : List Char} (h : IsText cs) : Shows cs true :=
  ⟨[], leaves_of_isText h, iff_of_true rfl fun _ hc => absurd hc List.not_mem_nil⟩

def isNumeralChar (c : Char) : Bool := c.isDigit || ['-', '+', '.', 'e', 'E'].contains c

theorem isNumeralChar_of_digits {cs : List Char} (h : Digits cs) :
    ∀ c ∈ cs, isNumeralChar c = true := by
  intro c hc
  rw [isNumeralChar, h c hc, Bool.true_or]

theorem isNumeralChar_of_isNumeral {cs : List Char} (h : IsNumeral cs) :
    ∀ c ∈ cs, isNumeralChar c = true := by
  obtain ⟨sign, magnitude, hsign, ⟨whole, part, exponent, hwhole, hpart, hexponent, rfl⟩, rfl⟩ := h
  have hsigns : ∀ sign ∈ [[], ['-'], ['+']], ∀ c ∈ sign, isNumeralChar c = true := by
    simp [isNumeralChar]
  have hmarks : ∀ mark ∈ ['e', 'E'], isNumeralChar mark = true := by simp [isNumeralChar]
  simp only [List.forall_mem_append]
  refine ⟨hsigns sign (List.subset_append_left [[], ['-']] [['+']] hsign), ⟨?_, ?_⟩, ?_⟩
  · rcases hwhole with rfl | ⟨-, hdigits⟩
    · exact List.forall_mem_singleton.mpr rfl
    · exact isNumeralChar_of_digits hdigits
  · rcases hpart with rfl | ⟨ds, -, hdigits, rfl⟩
    · exact List.forall_mem_nil _
    · exact List.forall_mem_cons.mpr ⟨by decide, isNumeralChar_of_digits hdigits⟩
  · rcases hexponent with rfl | ⟨mark, sign, ds, hmark, hsign, -, hdigits, rfl⟩
    · exact List.forall_mem_nil _
    · exact List.forall_mem_cons.mpr ⟨hmarks mark hmark,
        List.forall_mem_append.mpr ⟨hsigns sign hsign, isNumeralChar_of_digits hdigits⟩⟩

theorem shows_of_isNumeral {cs : List Char} (h : IsNumeral cs) : Shows cs true :=
  shows_of_all (isNumeralChar_of_isNumeral h) (by decide)

/-- The grammar has none of these letters outside of quotes. -/
theorem Derives.shows {symbol : Symbol} {cs : List Char} (h : Derives symbol cs) :
    Shows cs true := by
  have hbracket : Shows [']'] true := shows_of_plain (by decide)
  have hbrace : Shows ['\x7d'] true := shows_of_plain (by decide)
  induction h with
  | @word cs hword =>
      have hwords : ∀ word ∈ ["null", "true", "false"].map String.toList,
          word.any ('\x22' :: capitals).contains = false := by decide
      exact shows_of_plain (hwords cs hword)
  | numeral hnumeral => exact shows_of_isNumeral hnumeral
  | text htext => exact shows_of_isText htext
  | emptyList hblank => exact ((shows_of_blank hblank).append hbracket).cons (by decide)
  | list _ ih => exact (ih.append hbracket).cons (by decide)
  | emptyObject hblank => exact ((shows_of_blank hblank).append hbrace).cons (by decide)
  | object _ ih => exact (ih.append hbrace).cons (by decide)
  | field hname hbefore hafter _ ih =>
      have hcolon : Shows [':'] true := shows_of_plain (by decide)
      exact ((shows_of_isText hname).append (shows_of_blank hbefore)).append
        (hcolon.append ((shows_of_blank hafter).append ih))
  | last hbefore _ hafter ih => exact ih.around (shows_of_blank hbefore) (shows_of_blank hafter)
  | more hbefore _ hafter _ ih ihrest =>
      exact (ih.around (shows_of_blank hbefore) (shows_of_blank hafter)).append
        (ihrest.cons (by decide))

/-- A number is written with these letters just if it is not finite. -/
theorem shows_text (x : Number) : Shows (x.text numberLayout) (Json.number x).isStandard := by
  cases hstandard : (Json.number x).isStandard with
  | true => exact shows_of_isNumeral (isNumeral_text hstandard)
  | false =>
      cases x with
      | int n => cases hstandard
      | float x =>
          have hnames : ∀ name ∈ ["NaN", "Infinity", "-Infinity"], Shows name.toList false := by
            have hnone : ∀ name ∈ ["NaN", "Infinity", "-Infinity"], '\x22' ∉ name.toList ∧
                name.toList.any capitals.contains = true := by decide
            intro name hname
            obtain ⟨hquote, hany⟩ := hnone name hname
            obtain ⟨c, hc, hcapital⟩ := List.any_eq_true.mp hany
            exact ⟨name.toList, leaves_of_notMem hquote, iff_of_false Bool.false_ne_true fun hall =>
              hall c hc (List.contains_iff_mem.mp hcapital)⟩
          rw [isStandard] at hstandard
          rw [Number.text, DecimalLayout.text]
          split_ifs with hnan hfinite hnegative hnegative
          · exact hnames "NaN" (by simp)
          · rw [hstandard] at hfinite
            cases hfinite
          · rw [hstandard] at hfinite
            cases hfinite
          · exact hnames "-Infinity" (by simp)
          · exact hnames "Infinity" (by simp)

theorem shows_field {k : String} {cs : List Char} {standard : Bool} (h : Shows cs standard) :
    Shows (renderText k.toList ++ ':' :: ' ' :: cs) standard := by
  have hname := shows_of_isText (isText_renderText k.toList)
  have hcolon : Shows [':', ' '] true := shows_of_plain (by decide)
  exact hname.append (hcolon.append h)

section Render

variable {indent : Indent} (hindent : ∀ unit ∈ indent, Blank unit)
include hindent

theorem shows_lineBreak (level : Nat) : Shows (lineBreak indent level) true :=
  shows_of_blank (blank_lineBreak hindent level)

theorem shows_separator (level : Nat) : Shows (separator indent level) true := by
  obtain ⟨gap, hseparator, hgap⟩ := exists_separator hindent level
  rw [hseparator]
  exact (shows_of_blank hgap).cons (by decide)

mutual

theorem shows_renderAt (level : Nat) : ∀ v : Json, Shows (renderAt indent level v) v.isStandard
  | .null | .bool true | .bool false | .list [] | .object [] =>
    (derives_renderAt hindent level _ rfl).shows
  | .number x => shows_text x
  | .text s => shows_of_isText (isText_renderText s.toList)
  | .list (x :: xs) => by
    have hitems := (shows_renderAt (level + 1) x).append (shows_renderItems (level + 1) xs)
    have hclosed : Shows (lineBreak indent level ++ [']']) true :=
      (shows_lineBreak hindent level).append (shows_of_plain (by decide))
    have hall := (hitems.around (shows_lineBreak hindent (level + 1)) hclosed).cons
      (show '[' ∉ _ by decide)
    simpa [renderAt, isStandard, areStandard] using hall
  | .object ((k, v) :: fields) => by
    have hfields := (shows_field (k := k) (shows_renderAt (level + 1) v)).append
      (shows_renderFields (level + 1) fields)
    have hclosed : Shows (lineBreak indent level ++ ['\x7d']) true :=
      (shows_lineBreak hindent level).append (shows_of_plain (by decide))
    have hall := (hfields.around (shows_lineBreak hindent (level + 1)) hclosed).cons
      (show '\x7b' ∉ _ by decide)
    simpa [renderAt, isStandard, haveStandardValues] using hall

theorem shows_renderItems (level : Nat) : ∀ items : List Json,
    Shows (renderItems indent level items) (areStandard items)
  | [] => shows_of_blank blank_nil
  | x :: xs => by
    have hitem := (shows_separator hindent level).append (shows_renderAt level x)
    simpa [renderItems, areStandard] using hitem.append (shows_renderItems level xs)

theorem shows_renderFields (level : Nat) : ∀ fields : List (String × Json),
    Shows (renderFields indent level fields) (haveStandardValues fields)
  | [] => shows_of_blank blank_nil
  | (k, v) :: fields => by
    have hfield := (shows_separator hindent level).append
      (shows_field (k := k) (shows_renderAt level v))
    simpa [renderFields, haveStandardValues] using hfield.append (shows_renderFields level fields)

end

/-- A value is written as a text of the grammar just if all its numbers are finite. -/
theorem isStandardText_render_iff {v : Json} :
    IsStandardText (v.render indent).toList ↔ v.isStandard = true := by
  rw [render, String.toList_ofList]
  constructor
  · rintro ⟨before, cs, after, hbefore, hcs, hafter, heq⟩
    have hstandard := hcs.shows.around (shows_of_blank hbefore) (shows_of_blank hafter)
    rw [← heq] at hstandard
    exact (shows_renderAt hindent 0 v).eq hstandard
  · exact fun h => ⟨[], _, [], blank_nil, derives_renderAt hindent 0 v h, blank_nil, by simp⟩

end Render

end BrowserFlow.Json
