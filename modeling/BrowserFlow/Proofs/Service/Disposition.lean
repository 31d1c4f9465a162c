import BrowserFlow.Editor.Session
import BrowserFlow.Proofs.Store.Place
import BrowserFlow.Proofs.Text.Small
import BrowserFlow.Service.Reply

/-!
# The header of a download

`readHeader` reads a header as RFC 6266 and RFC 9110 have it: a word, and parameters with words or
texts in quotes, inside of which a backslash makes the next character stand for itself. The header
of a download is read as one parameter with the whole name of the file just if the name consists of
characters that stand for themselves in quotes (`readHeader_disposition_iff`).

The name of the file is the name of the script in small letters and with hyphens for blanks, which
takes away control characters only where they are blank, and neither quotes nor backslashes
(`mem_exportFilename_iff`).
-/

namespace BrowserFlow

/-- A character other than the mark is in the squeezed text if it stood for itself. -/
theorem Text.mem_squeezeFrom_iff {p : Char → Bool} {mark c : Char} (hc : c ≠ mark) {inside : Bool}
    {cs : List Char} : c ∈ squeezeFrom p mark inside cs ↔ c ∈ cs ∧ p c = false := by
  induction cs generalizing inside with
  | nil => simp [squeezeFrom]
  | cons d cs ih =>
      have hother : p d = true → (c ∈ d :: cs ∧ p c = false ↔ c ∈ cs ∧ p c = false) := by
        intro hd
        refine and_congr_left fun hp => ⟨fun hmem => ?_, List.mem_cons_of_mem d⟩
        rcases List.mem_cons.mp hmem with rfl | hmem
        · rw [hd] at hp
          cases hp
        · exact hmem
      rw [squeezeFrom]
      split_ifs with hd hinside
      · rw [ih, hother hd]
      · rw [List.mem_cons, or_iff_right hc, ih, hother hd]
      · rw [List.mem_cons, List.mem_cons, ih]
        constructor
        · rintro (rfl | ⟨hmem, hp⟩)
          · exact ⟨Or.inl rfl, Bool.eq_false_iff.mpr hd⟩
          · exact ⟨Or.inr hmem, hp⟩
        · rintro ⟨hmem, hp⟩
          exact hmem.imp_right fun hmem => ⟨hmem, hp⟩

namespace Service

/-! ## Headers -/

def isTokenChar (c : Char) : Bool :=
  c.isAlphanum ||
    ['!', '#', '$', '%', '&', '\x27', '*', '+', '-', '.', '^', '_', '\x60', '|', '~'].contains c

def isQuotable (c : Char) : Bool :=
  c == '\t' || decide (0x20 ≤ c.toNat) && c.toNat != 0x7f && decide (c.toNat < 256)

def isPlain (c : Char) : Bool := isQuotable c && c != '\x22' && c != '\\'

/-- Reads what is left of a text in quotes: what it stands for, and what comes after it. -/
def readQuoted : List Char → Option (List Char × List Char)
  | [] => none
  | '\x22' :: rest => some ([], rest)
  | '\\' :: c :: rest =>
    if isQuotable c then (readQuoted rest).map fun r => (c :: r.1, r.2) else none
  | c :: rest => if isPlain c then (readQuoted rest).map fun r => (c :: r.1, r.2) else none

/-- A parameter of a header, and whether its value stands in quotes. -/
structure Parameter where
  name : String
  value : String
  quoted : Bool
deriving DecidableEq

def readParameter (cs : List Char) : Option (Parameter × List Char) :=
  match cs.takeWhile isTokenChar, cs.dropWhile isTokenChar with
  | [], _ => none
  | name, '=' :: '\x22' :: rest =>
    (readQuoted rest).map fun r => (⟨String.ofList name, String.ofList r.1, true⟩, r.2)
  | name, '=' :: rest =>
    match rest.takeWhile isTokenChar with
    | [] => none
    | value =>
      some (⟨String.ofList name, String.ofList value, false⟩, rest.dropWhile isTokenChar)
  | _, _ => none

def skipGap (cs : List Char) : List Char := cs.dropWhile fun c => c == ' ' || c == '\t'

/-- Reads parameters, each behind a semicolon. One unit of fuel a parameter is enough. -/
def readParameters : (fuel : Nat) → List Char → Option (List Parameter)
  | 0, _ => none
  | fuel + 1, cs =>
    match skipGap cs with
    | [] => some []
    | ';' :: rest =>
      (readParameter (skipGap rest)).bind fun first =>
        (readParameters fuel first.2).map fun others => first.1 :: others
    | _ => none

structure Header where
  kind : String
  parameters : List Parameter
deriving DecidableEq

def readHeader (cs : List Char) : Option Header :=
  let kind := cs.takeWhile isTokenChar
  if kind.isEmpty then none
  else
    (readParameters (cs.length + 1) (cs.dropWhile isTokenChar)).map fun parameters =>
      ⟨String.ofList kind, parameters⟩

def Header.attachment (filename : String) : Header :=
  ⟨"attachment", [⟨"filename", filename, true⟩]⟩

/-! ## Texts in quotes -/

theorem readQuoted_of_plain {cs : List Char} (h : ∀ c ∈ cs, isPlain c = true) (rest : List Char) :
    readQuoted (cs ++ '\x22' :: rest) = some (cs, rest) := by
  induction cs with
  | nil => rfl
  | cons c cs ih =>
      rw [List.forall_mem_cons] at h
      obtain ⟨hc, hcs⟩ := h
      have hother : c ≠ '\x22' ∧ c ≠ '\\' := by
        simp only [isPlain, Bool.and_eq_true, bne_iff_ne] at hc
        exact ⟨hc.1.2, hc.2⟩
      rw [List.cons_append, readQuoted.eq_4 _ _ hother.1 fun _ _ h => absurd h hother.2, if_pos hc,
        ih hcs]
      rfl

/-- A text in quotes is longer than what it stands for, and still longer if it has a backslash. -/
theorem length_le_of_readQuoted {cs value rest : List Char}
    (h : readQuoted cs = some (value, rest)) :
    value.length + rest.length + 1 ≤ cs.length ∧
      (value.length + rest.length + 1 = cs.length → ∀ c ∈ value, isPlain c = true) := by
  fun_induction readQuoted cs generalizing value rest with
  | case1 => cases h
  | case2 tail =>
      obtain ⟨rfl, rfl⟩ := Prod.mk.inj (Option.some.inj h)
      exact ⟨by simp, by simp⟩
  | case3 c tail hc ih =>
      obtain ⟨⟨inner, after⟩, hinner, heq⟩ := Option.map_eq_some_iff.mp h
      obtain ⟨rfl, rfl⟩ := Prod.mk.inj heq
      have hlength := (ih hinner).1
      simp only [List.length_cons]
      exact ⟨by omega, fun _ => by omega⟩
  | case4 => cases h
  | case5 c tail hquote hescape hplain ih =>
      obtain ⟨⟨inner, after⟩, hinner, heq⟩ := Option.map_eq_some_iff.mp h
      obtain ⟨rfl, rfl⟩ := Prod.mk.inj heq
      obtain ⟨hlength, hall⟩ := ih hinner
      simp only [List.length_cons]
      exact ⟨by omega, fun _ => List.forall_mem_cons.mpr ⟨hplain, hall (by omega)⟩⟩
  | case6 => cases h

/-- A header with a text in quotes is read as that text and the parameters after it. -/
theorem readHeader_filename (cs : List Char) :
    readHeader ("attachment; filename=".toList ++ '\x22' :: cs) =
      (readQuoted cs).bind fun r => (readParameters (cs.length + 22) r.2).map fun others =>
        ⟨"attachment", ⟨"filename", String.ofList r.1, true⟩ :: others⟩ := by
  have hkind : ("attachment; filename=".toList ++ '\x22' :: cs).takeWhile isTokenChar =
      "attachment".toList := rfl
  have hrest : ("attachment; filename=".toList ++ '\x22' :: cs).dropWhile isTokenChar =
      "; filename=".toList ++ '\x22' :: cs := rfl
  have hparameter : readParameter ("filename=".toList ++ '\x22' :: cs) =
      (readQuoted cs).map fun r => (⟨"filename", String.ofList r.1, true⟩, r.2) := rfl
  have hskip : skipGap (" filename=".toList ++ '\x22' :: cs) =
      "filename=".toList ++ '\x22' :: cs := rfl
  have hfuel : ("attachment; filename=".toList ++ '\x22' :: cs).length + 1 =
      (cs.length + 22) + 1 := by
    simp
  have hparameters : readParameters ((cs.length + 22) + 1) ("; filename=".toList ++ '\x22' :: cs) =
      (readQuoted cs).bind fun r => (readParameters (cs.length + 22) r.2).map fun others =>
        ⟨"filename", String.ofList r.1, true⟩ :: others := by
    change (readParameter (skipGap (" filename=".toList ++ '\x22' :: cs))).bind _ = _
    rw [hskip, hparameter]
    cases readQuoted cs <;> rfl
  rw [readHeader, hkind, hrest, hfuel, hparameters, if_neg (by decide), String.ofList_toList]
  simp only [Option.map_bind, Option.map_map, Function.comp_def]

/-- The header of a download is read as the name of the file as a whole just if the name
consists of plain characters. -/
theorem readHeader_disposition_iff {name : String} :
    readHeader (Reply.disposition name).toList = some (.attachment name) ↔
      ∀ c ∈ name.toList, isPlain c = true := by
  have htext : (Reply.disposition name).toList =
      "attachment; filename=".toList ++ '\x22' :: (name.toList ++ ['\x22']) := by
    change ("attachment; filename=\"" ++ name ++ "\"").toList = _
    simp [String.toList_append]
  rw [htext, readHeader_filename]
  constructor
  · intro h
    obtain ⟨⟨value, rest⟩, hquoted, hparameters⟩ := Option.bind_eq_some_iff.mp h
    obtain ⟨others, -, hheader⟩ := Option.map_eq_some_iff.mp hparameters
    obtain ⟨-, hfirst⟩ := Header.mk.inj hheader
    obtain ⟨-, hvalue, -⟩ := Parameter.mk.inj (List.cons.inj hfirst).1
    dsimp only at hvalue
    obtain ⟨hlength, hplain⟩ := length_le_of_readQuoted hquoted
    rw [← hvalue, String.toList_ofList] at hlength hplain ⊢
    rw [List.length_append, List.length_singleton] at hlength hplain
    exact hplain (by omega)
  · intro hplain
    rw [readQuoted_of_plain hplain, Option.bind_some, String.ofList_toList]
    rfl

/-! ## Names of files -/

/-- The characters that cannot stand between quotes, or not for themselves: the quote, the
backslash and control characters other than the tab. -/
def isSpecial (c : Char) : Bool :=
  c == '\x22' || c == '\\' || c.toNat == 0x7f || decide (c.toNat < 0x20) && c != '\t'

theorem isPlain_iff {c : Char} : isPlain c = true ↔ isSpecial c = false ∧ c.toNat < 256 := by
  have htab : c = '\t' → c.toNat = 9 := fun h => by rw [h]; rfl
  simp only [isPlain, isQuotable, isSpecial, Bool.and_eq_true, Bool.or_eq_true,
    Bool.or_eq_false_iff, Bool.and_eq_false_iff, beq_iff_eq, bne_iff_ne, beq_eq_false_iff_ne,
    bne_eq_false_iff_eq, decide_eq_true_eq, decide_eq_false_iff_not]
  constructor
  · rintro ⟨⟨htab' | ⟨⟨hprinted, hdelete⟩, hlatin⟩, hquote⟩, hescape⟩
    · have := htab htab'
      exact ⟨⟨⟨⟨hquote, hescape⟩, by omega⟩, Or.inr htab'⟩, by omega⟩
    · exact ⟨⟨⟨⟨hquote, hescape⟩, hdelete⟩, Or.inl (by omega)⟩, hlatin⟩
  · rintro ⟨⟨⟨⟨hquote, hescape⟩, hdelete⟩, hcontrol⟩, hlatin⟩
    refine ⟨⟨?_, hquote⟩, hescape⟩
    rcases hcontrol with hprinted | htab'
    · exact Or.inr ⟨⟨by omega, hdelete⟩, hlatin⟩
    · exact Or.inl htab'

/-- Lower-casing neither loses nor makes special characters. -/
theorem isLone_of_isSpecial {c : Char} (h : isSpecial c = true) : Text.isLone c = true := by
  have hall : ∀ n < 128, isSpecial (Char.ofNat n) = true → Text.isLone (Char.ofNat n) = true := by
    decide +kernel
  have hlow : c.toNat < 128 := by
    simp only [isSpecial, Bool.or_eq_true, Bool.and_eq_true, beq_iff_eq, decide_eq_true_eq] at h
    rcases h with ((rfl | rfl) | h) | h
    · decide
    · decide
    · omega
    · omega
  have hchar := hall c.toNat hlow
  rw [Char.ofNat_toNat] at hchar
  exact hchar h

/-- A special character is in the name of the file if it is in that of the script and not blank. -/
theorem mem_exportFilename_iff {c : Char} (h : isSpecial c = true) {name : String} :
    c ∈ (Editor.exportFilename name).toList ↔ c ∈ name.toList ∧ Text.isBlank c = false := by
  have hhyphen : c ≠ '-' := by
    rintro rfl
    cases h
  have hending : c ∉ ".json".toList := by
    intro hmem
    have hnone : ".json".toList.any isSpecial = false := by decide
    exact List.any_eq_false.mp hnone c hmem h
  rw [Editor.exportFilename, String.toList_append, String.toList_ofList, List.mem_append,
    or_iff_left hending, Text.mem_lower_iff (isLone_of_isSpecial h)]
  exact Text.mem_squeezeFrom_iff hhyphen

theorem fitsHeader_disposition_iff {name : String} :
    Reply.fitsHeader (Reply.disposition name) = true ↔ ∀ c ∈ name.toList, c.toNat < 256 := by
  have hfront : ∀ c ∈ "attachment; filename=\"".toList, c.toNat < 256 := by simp
  have hback : ∀ c ∈ "\"".toList, c.toNat < 256 := by simp
  rw [Reply.fitsHeader, List.all_eq_true]
  change (∀ c ∈ ("attachment; filename=\"" ++ name ++ "\"").toList, _) ↔ _
  simp only [decide_eq_true_eq]
  rw [String.toList_append, String.toList_append, List.forall_mem_append, List.forall_mem_append]
  exact ⟨fun h => h.1.2, fun h => ⟨⟨hfront, h⟩, hback⟩⟩

/-- Where the name of the file has no character beyond the first 256, it is plain just if the name
of the script has no special characters but blank ones. -/
theorem isPlain_exportFilename_iff {name : String}
    (hlatin : ∀ c ∈ (Editor.exportFilename name).toList, c.toNat < 256) :
    (∀ c ∈ (Editor.exportFilename name).toList, isPlain c = true) ↔
      ∀ c ∈ name.toList, Text.isBlank c = true ∨ isSpecial c = false := by
  constructor
  · intro hplain c hc
    by_contra hnot
    rw [not_or, Bool.not_eq_true, Bool.not_eq_false] at hnot
    have hmem := (mem_exportFilename_iff hnot.2).mpr ⟨hc, hnot.1⟩
    have hspecial := (isPlain_iff.mp (hplain c hmem)).1
    rw [hnot.2] at hspecial
    cases hspecial
  · intro hname c hc
    refine isPlain_iff.mpr ⟨?_, hlatin c hc⟩
    by_contra hspecial
    rw [Bool.not_eq_false] at hspecial
    obtain ⟨hmem, hblank⟩ := (mem_exportFilename_iff hspecial).mp hc
    rcases hname c hmem with h | h
    · rw [hblank] at h
      cases h
    · rw [hspecial] at h
      cases h

end Service

end BrowserFlow
