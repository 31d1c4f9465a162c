import BrowserFlow.Proofs.Json.Escaped
import BrowserFlow.Proofs.Json.Extent
import BrowserFlow.Proofs.Json.Floating
import BrowserFlow.Proofs.Table
import Mathlib.Algebra.Group.Nat.Defs

/-!
# Reading back written values

A value is read back from what it is written as, at every indentation by space, if its
objects name each field once (`Named`): what is read is the value itself but for
floating-point numbers that are not read back (`reread`) and for halves that meet in its
texts (`joined`). So a value whose numbers are all read back (`Regular`) and whose texts have
no halves that meet is read as it is (`Legible`). Only whole numbers can still go beyond the
limits: the first one that does ends the reading (`read_render_of_named`,
`read_render_of_regular`, `read_render`).

The proof goes along the writing. What is read from the text of a value does not depend
on what comes after it, as long as no number could go on with it, so a list and an object
are read part by part; the separators and the line breaks between the parts are skipped.
-/

namespace BrowserFlow.Json

/-- A floating-point number that is read back from its text. -/
def ReadsBack (x : Binary64) : Prop :=
  readScalar {} (Number.text numberLayout (.float x)) = .ok (.number (.float x), [])

def joinedText (s : String) : String := String.ofList (Text.joined s.toList)

theorem joinedText_eq_self_iff {s : String} : joinedText s = s ↔ Text.Unpaired s.toList := by
  rw [← Text.joined_eq_self_iff, ← String.toList_inj, joinedText, String.toList_ofList]

mutual

def joined : Json → Json
  | .text s => .text (joinedText s)
  | .list items => .list (joinedItems items)
  | .object fields => .object (joinedFields fields)
  | .null => .null
  | .bool b => .bool b
  | .number x => .number x

def joinedItems : List Json → List Json
  | [] => []
  | v :: rest => joined v :: joinedItems rest

def joinedFields : List (String × Json) → List (String × Json)
  | [] => []
  | (key, v) :: rest => (key, joined v) :: joinedFields rest

end

theorem joinedItems_eq_map (items : List Json) : joinedItems items = items.map joined := by
  induction items with
  | nil => rfl
  | cons v items ih => rw [joinedItems, ih, List.map_cons]

theorem joinedFields_eq_map (fields : List (String × Json)) :
    joinedFields fields = fields.map fun entry => (entry.1, entry.2.joined) := by
  induction fields with
  | nil => rfl
  | cons entry fields ih => rw [joinedFields, ih, List.map_cons]

theorem keys_joinedFields (fields : List (String × Json)) :
    Table.keys (joinedFields fields) = Table.keys fields := by
  simp [Table.keys, joinedFields_eq_map, Function.comp_def]

def rereadFloat (x : Binary64) : Binary64 :=
  match readScalar {} (Number.text numberLayout (.float x)) with
  | .ok (.number (.float y), _) => y
  | _ => x

def rereadNumber : Number → Number
  | .int n => .int n
  | .float x => .float (rereadFloat x)

mutual

/-- A value with its floating-point numbers as they are read back. -/
def reread : Json → Json
  | .number x => .number (rereadNumber x)
  | .list items => .list (rereadItems items)
  | .object fields => .object (rereadFields fields)
  | .null => .null
  | .bool b => .bool b
  | .text s => .text s

def rereadItems : List Json → List Json
  | [] => []
  | v :: rest => reread v :: rereadItems rest

def rereadFields : List (String × Json) → List (String × Json)
  | [] => []
  | (key, v) :: rest => (key, reread v) :: rereadFields rest

end

theorem rereadItems_eq_map (items : List Json) : rereadItems items = items.map reread := by
  induction items with
  | nil => rfl
  | cons v items ih => rw [rereadItems, ih, List.map_cons]

theorem rereadFields_eq_map (fields : List (String × Json)) :
    rereadFields fields = fields.map fun entry => (entry.1, entry.2.reread) := by
  induction fields with
  | nil => rfl
  | cons entry fields ih => rw [rereadFields, ih, List.map_cons]

theorem keys_rereadFields (fields : List (String × Json)) :
    Table.keys (rereadFields fields) = Table.keys fields := by
  simp [Table.keys, rereadFields_eq_map, Function.comp_def]

theorem readScalar_floatText (x : Binary64) :
    readScalar {} (Number.text numberLayout (.float x)) =
      .ok (.number (.float (rereadFloat x)), []) := by
  obtain ⟨y, hread⟩ := exists_readScalar_floatText x
  unfold rereadFloat
  rw [hread]

theorem rereadFloat_of_readsBack {x : Binary64} (h : ReadsBack x) : rereadFloat x = x := by
  unfold rereadFloat
  rw [h]

/-- A value whose objects name each field once, by names that are read back, if its
floating-point numbers are such that `R` holds of them, and its texts such that `P` does. -/
inductive Spelled (R : Binary64 → Prop) (P : String → Prop) : Json → Prop
  | null : Spelled R P .null
  | bool (b : Bool) : Spelled R P (.bool b)
  | int (n : Int) : Spelled R P (.number (.int n))
  | float {x : Binary64} (h : R x) : Spelled R P (.number (.float x))
  | text {s : String} (h : P s) : Spelled R P (.text s)
  | list {items : List Json} (h : ∀ v ∈ items, Spelled R P v) : Spelled R P (.list items)
  | object {fields : List (String × Json)} (hkeys : (Table.keys fields).Nodup)
      (hnames : ∀ key ∈ Table.keys fields, Text.Unpaired key.toList)
      (h : ∀ entry ∈ fields, Spelled R P entry.2) : Spelled R P (.object fields)

/-- A value whose parts can be read back. -/
abbrev Named (v : Json) : Prop := v.Spelled (fun _ => True) fun _ => True

/-- A value that can be read back, up to halves that meet. -/
abbrev Regular (v : Json) : Prop := v.Spelled ReadsBack fun _ => True

/-- A value that is read back as it is. -/
abbrev Legible (v : Json) : Prop := v.Spelled ReadsBack fun s => Text.Unpaired s.toList

theorem Spelled.mono {R R' : Binary64 → Prop} {P P' : String → Prop} (hR : ∀ x, R x → R' x)
    (hP : ∀ s, P s → P' s) {v : Json} (h : v.Spelled R P) : v.Spelled R' P' := by
  induction h with
  | null => exact .null
  | bool b => exact .bool b
  | int n => exact .int n
  | float h => exact .float (hR _ h)
  | text h => exact .text (hP _ h)
  | list h ih => exact .list ih
  | object hkeys hnames h ih => exact .object hkeys hnames ih

theorem Spelled.named {R : Binary64 → Prop} {P : String → Prop} {v : Json} (h : v.Spelled R P) :
    v.Named := h.mono (fun _ _ => trivial) fun _ _ => trivial

theorem Spelled.regular {P : String → Prop} {v : Json} (h : v.Spelled ReadsBack P) : v.Regular :=
  h.mono (fun _ h => h) fun _ _ => trivial

theorem Spelled.reread_eq {P : String → Prop} {v : Json} (h : v.Spelled ReadsBack P) :
    v.reread = v := by
  induction h with
  | null | bool | int | text => rfl
  | float h => rw [reread, rereadNumber, rereadFloat_of_readsBack h]
  | list h ih => rw [reread, rereadItems_eq_map, List.map_congr_left ih, List.map_id']
  | object hkeys hnames h ih =>
      have hfields := List.map_congr_left fun entry hentry =>
        Prod.ext (x := (entry.1, entry.2.reread)) (y := entry) rfl (ih entry hentry)
      rw [reread, rereadFields_eq_map, hfields, List.map_id']

theorem Spelled.joined_eq {v : Json} (h : v.Legible) : v.joined = v := by
  induction h with
  | null | bool | int | float => rfl
  | text h => rw [joined, joinedText_eq_self_iff.mpr h]
  | list h ih => rw [joined, joinedItems_eq_map, List.map_congr_left ih, List.map_id']
  | object hkeys hnames h ih =>
      have hfields := List.map_congr_left fun entry hentry =>
        Prod.ext (x := (entry.1, entry.2.joined)) (y := entry) rfl (ih entry hentry)
      rw [joined, joinedFields_eq_map, hfields, List.map_id']

/-! ## The numbers of a value against the limits -/

/-- Refuses the first number that has too many digits. -/
def checkNumbers (limits : Limits) : List Int → Except Excess Unit
  | [] => .ok ()
  | n :: rest => do
    limits.checkDigits (Binary64.digitCount n.natAbs)
    checkNumbers limits rest

theorem digitCount_pow (zeros : Nat) : Binary64.digitCount (10 ^ zeros) = zeros + 1 := by
  apply Nat.le_antisymm
  · rw [Binary64.digitCount, Nat.length_toDigits_le_iff (by decide) (Nat.succ_pos zeros)]
    exact Nat.pow_lt_pow_right (by decide) (Nat.lt_succ_self zeros)
  · rw [Nat.succ_le_iff, ← Nat.not_le]
    rcases Nat.eq_zero_or_pos zeros with rfl | hpos
    · decide
    · rw [Binary64.digitCount, Nat.length_toDigits_le_iff (by decide) hpos]
      exact Nat.lt_irrefl _

/-- A power of ten is too long by one digit where its exponent is the limit. -/
theorem checkWritten_of_pow_mem {limits : Limits} {zeros : Nat} {v : Json}
    (hlimit : limits.digits = some zeros) (h : ((10 ^ zeros : Nat) : Int) ∈ v.wholeNumbers) :
    checkWritten limits v = .error (.written zeros) := by
  refine checkWritten_eq_error_iff.mpr ⟨zeros, hlimit, rfl, _, h, ?_⟩
  rw [Int.natAbs_natCast, digitCount_pow]
  exact Nat.lt_succ_self zeros

theorem checkDigits_cases (limits : Limits) (count : Nat) :
    (Limits.allows limits.digits count = true ∧ limits.checkDigits count = .ok ()) ∨
      ∃ limit, limits.digits = some limit ∧ limit < count ∧
        limits.checkDigits count = .error (.digits limit count) := by
  unfold Limits.checkDigits
  cases hdigits : limits.digits with
  | none => exact Or.inl ⟨rfl, rfl⟩
  | some limit =>
      rcases Nat.lt_or_ge limit count with hlt | hle
      · exact Or.inr ⟨limit, rfl, hlt, if_neg (Nat.not_le.mpr hlt)⟩
      · exact Or.inl ⟨decide_eq_true hle, if_pos hle⟩

theorem checkNumbers_append (limits : Limits) (ns ms : List Int) :
    checkNumbers limits (ns ++ ms) =
      (checkNumbers limits ns).bind fun _ => checkNumbers limits ms := by
  induction ns with
  | nil => rfl
  | cons n ns ih =>
      rw [List.cons_append, checkNumbers, checkNumbers, ih]
      cases limits.checkDigits (Binary64.digitCount n.natAbs) <;> rfl

theorem checkNumbers_singleton (limits : Limits) (n : Int) :
    checkNumbers limits [n] = limits.checkDigits (Binary64.digitCount n.natAbs) := by
  rw [checkNumbers, checkNumbers]
  cases limits.checkDigits (Binary64.digitCount n.natAbs) <;> rfl

theorem checkNumbers_cases (limits : Limits) (ns : List Int) :
    (checkNumbers limits ns = .ok () ∧
      ∀ n ∈ ns, Limits.allows limits.digits (Binary64.digitCount n.natAbs) = true) ∨
    ∃ limit count, limits.digits = some limit ∧ limit < count ∧
      checkNumbers limits ns = .error (.digits limit count) ∧
      ∃ n ∈ ns, Binary64.digitCount n.natAbs = count := by
  induction ns with
  | nil => exact Or.inl ⟨rfl, by simp⟩
  | cons n ns ih =>
      rw [checkNumbers]
      rcases checkDigits_cases limits (Binary64.digitCount n.natAbs) with
        ⟨hshort, hcheck⟩ | ⟨limit, hlimit, hlong, hcheck⟩
      · rw [hcheck]
        rcases ih with ⟨hrest, hall⟩ | ⟨limit, count, hlimit, hlong, hrest, m, hm, hcount⟩
        · exact Or.inl ⟨hrest, List.forall_mem_cons.mpr ⟨hshort, hall⟩⟩
        · exact Or.inr ⟨limit, count, hlimit, hlong, hrest, m, List.mem_cons_of_mem n hm, hcount⟩
      · rw [hcheck]
        exact Or.inr ⟨limit, _, hlimit, hlong, rfl, n, List.mem_cons_self, rfl⟩

/-- The outcome of reading something that has the numbers `ns`. -/
def readWith {α : Type} (limits : Limits) (ns : List Int) (read : α × List Char) : Reading α :=
  ((checkNumbers limits ns).mapError .beyond).map fun _ => read

/-! ## Space between the parts -/

def Blank (cs : List Char) : Prop := ∀ c ∈ cs, isSpace c = true

theorem skipSpace_append {gap : List Char} (h : Blank gap) (cs : List Char) :
    skipSpace (gap ++ cs) = skipSpace cs := List.dropWhile_append_of_pos h

theorem skipSpace_cons {c : Char} (h : isSpace c = false) (cs : List Char) :
    skipSpace (c :: cs) = c :: cs := by
  simp [skipSpace, h]

theorem skipSpace_gap {gap : List Char} (hgap : Blank gap) {c : Char} (hc : isSpace c = false)
    (cs : List Char) : skipSpace (gap ++ c :: cs) = c :: cs := by
  rw [skipSpace_append hgap, skipSpace_cons hc]

theorem ends_append_of_blank {gap cs : List Char} (h : Blank gap) (hcs : Ends cs) :
    Ends (gap ++ cs) := by
  cases gap with
  | nil => exact hcs
  | cons c gap =>
      have hspace := h c List.mem_cons_self
      rw [List.cons_append, ends_cons]
      simp only [isSpace, Bool.or_eq_true, beq_iff_eq] at hspace
      rcases hspace with ((rfl | rfl) | rfl) | rfl <;> decide

/-! ## Values without parts -/

/-- What a written value can begin with: neither space nor the end of a list, nor the mark
that a text is refused for. -/
def Begins (c : Char) : Prop := isSpace c = false ∧ c ≠ ']' ∧ c ≠ '\ufeff'

instance (c : Char) : Decidable (Begins c) := inferInstanceAs (Decidable (_ ∧ _))

/-- What a word or a number can begin with, and neither a text nor a list nor an object. -/
def Opens (c : Char) : Prop := Begins c ∧ c ∉ ['\x22', '[', '\x7b']

instance (c : Char) : Decidable (Opens c) := inferInstanceAs (Decidable (_ ∧ _))

theorem opens_of_isDigit {c : Char} (h : c.isDigit = true) : Opens c := by
  have hother : ∀ d, d.isDigit = false → c ≠ d := by
    intro d hd heq
    rw [heq, hd] at h
    cases h
  simp [Opens, Begins, isSpace, hother]

theorem exists_opens_of_mem_words {word : String × Json} (h : word ∈ words) :
    ∃ c rest, word.1.toList = c :: rest ∧ Opens c := by
  simp only [words, List.mem_cons, List.not_mem_nil, or_false] at h
  rcases h with rfl | rfl | rfl | rfl | rfl | rfl <;> exact ⟨_, _, rfl, by decide⟩

theorem exists_opens_of_readScalar {limits : Limits} {cs : List Char} {x : Number}
    (h : readScalar limits cs = .ok (.number x, [])) : ∃ c rest, cs = c :: rest ∧ Opens c := by
  rcases readScalar_cases h with ⟨word, hmem, rfl, -⟩ | hnumber | ⟨magnitude, rfl, -⟩
  · exact exists_opens_of_mem_words hmem
  · obtain ⟨c, rest, rfl, hdigit⟩ := isDigit_of_readMagnitude? hnumber
    exact ⟨c, rest, rfl, opens_of_isDigit hdigit⟩
  · exact ⟨'-', magnitude, rfl, by decide⟩

/-- What begins neither a text nor a list nor an object is read as a word or a number. -/
theorem readValue_of_opens (limits : Limits) (fuel depth : Nat) {c : Char} (hc : Opens c)
    (rest : List Char) :
    readValue limits (fuel + 1) depth (c :: rest) = readScalar limits (c :: rest) := by
  obtain ⟨-, hother⟩ := hc
  simp only [List.mem_cons, List.not_mem_nil, or_false, not_or] at hother
  rw [readValue]
  simp only [hother, if_false]

theorem readScalar_text_self (x : Number) :
    readScalar {} (x.text numberLayout) = .ok (.number (rereadNumber x), []) := by
  cases x with
  | int n =>
      have hread := readScalar_intText ends_nil {} n
      rwa [List.append_nil] at hread
  | float x => exact readScalar_floatText x

/-- A number is read back, whatever comes after it that it could not go on with. -/
theorem readScalar_text (limits : Limits) (x : Number) {rest : List Char} (hrest : Ends rest) :
    readScalar limits (x.text numberLayout ++ rest) =
      readWith limits (wholeNumbers (.number x)) (.number (rereadNumber x), rest) := by
  cases x with
  | int n =>
      have hread := readScalar_intText hrest limits n
      rw [wholeNumbers, readWith, checkNumbers_singleton]
      exact hread
  | float x => exact readScalar_append hrest (readScalar_float (readScalar_floatText x) limits)

theorem readValue_word (limits : Limits) (fuel depth : Nat) {word : String × Json}
    (h : word ∈ words) (rest : List Char) :
    readValue limits (fuel + 1) depth (word.1.toList ++ rest) = .ok (word.2, rest) := by
  obtain ⟨c, cs, hcons, hc⟩ := exists_opens_of_mem_words h
  rw [← readScalar_word limits h rest, hcons, List.cons_append,
    readValue_of_opens limits fuel depth hc]

/-! ## Lists and objects, one part at a time -/

section Step

variable {limits : Limits} {fuel depth : Nat} {cs body others gap rest : List Char} {v : Json}
  {key : String} {ns ms : List Int}

theorem readItems_last (hgap : Blank gap)
    (hv : readValue limits fuel depth cs = readWith limits ns (v, gap ++ ']' :: rest)) :
    readItems limits (fuel + 1) depth cs = readWith limits ns ([v], rest) := by
  rw [readItems, hv, readWith, readWith]
  cases checkNumbers limits ns with
  | error excess => rfl
  | ok _ =>
      have hclose : skipSpace (gap ++ ']' :: rest) = ']' :: rest := skipSpace_gap hgap rfl rest
      simp only [Except.mapError, Except.map, hclose]

/-- The items after the first are read once the comma and the space behind it are passed. -/
theorem readItems_cons {vs : List Json}
    (hv : readValue limits fuel depth cs = readWith limits ns (v, ',' :: (gap ++ others)))
    (hgap : Blank gap) (hothers : ∃ c more, others = c :: more ∧ Begins c)
    (hvs : readItems limits fuel depth others = readWith limits ms (vs, rest)) :
    readItems limits (fuel + 1) depth cs = readWith limits (ns ++ ms) (v :: vs, rest) := by
  obtain ⟨c, more, rfl, hspace, -⟩ := hothers
  rw [readItems, hv, readWith, readWith, checkNumbers_append]
  -- a number that is refused in the first item ends the reading before the others
  cases checkNumbers limits ns with
  | error excess => rfl
  | ok _ =>
      have hcomma : skipSpace (',' :: (gap ++ c :: more)) = ',' :: (gap ++ c :: more) :=
        skipSpace_cons rfl _
      simp only [Except.mapError, Except.map, Except.bind, hcomma, skipSpace_gap hgap hspace, hvs,
        readWith]
      cases checkNumbers limits ms <;> rfl

theorem readFields_last (hname : readName cs = .ok (key, body)) (hgap : Blank gap)
    (hv : readValue limits fuel depth body = readWith limits ns (v, gap ++ '\x7d' :: rest)) :
    readFields limits (fuel + 1) depth cs = readWith limits ns ([(key, v)], rest) := by
  rw [readFields, hname]
  simp only [hv, readWith]
  cases checkNumbers limits ns with
  | error excess => rfl
  | ok _ =>
      have hclose : skipSpace (gap ++ '\x7d' :: rest) = '\x7d' :: rest :=
        skipSpace_gap hgap rfl rest
      simp only [Except.mapError, Except.map, hclose]

theorem readFields_cons {fields : List (String × Json)} (hname : readName cs = .ok (key, body))
    (hv : readValue limits fuel depth body = readWith limits ns (v, ',' :: (gap ++ others)))
    (hgap : Blank gap) (hothers : ∃ c more, others = c :: more ∧ Begins c)
    (hfields : readFields limits fuel depth others = readWith limits ms (fields, rest)) :
    readFields limits (fuel + 1) depth cs =
      readWith limits (ns ++ ms) ((key, v) :: fields, rest) := by
  obtain ⟨c, more, rfl, hspace, -⟩ := hothers
  rw [readFields, hname]
  simp only [hv, readWith, checkNumbers_append]
  cases checkNumbers limits ns with
  | error excess => rfl
  | ok _ =>
      have hcomma : skipSpace (',' :: (gap ++ c :: more)) = ',' :: (gap ++ c :: more) :=
        skipSpace_cons rfl _
      simp only [Except.mapError, Except.map, Except.bind, hcomma, skipSpace_gap hgap hspace,
        hfields, readWith]
      cases checkNumbers limits ms <;> rfl

theorem readName_renderText (hkey : Text.Unpaired key.toList) (body : List Char) :
    readName (renderText key.toList ++ ':' :: ' ' :: body) = .ok (key, skipSpace body) := by
  simp only [renderText, List.cons_append, List.append_assoc, List.nil_append, readName,
    readText_renderText, Text.joined_eq_self_iff.mpr hkey, String.ofList_toList]
  rfl

theorem readValue_list {items : List Json} (hdepth : Limits.allows limits.depth (depth + 1) = true)
    (hgap : Blank gap) (hcs : ∃ c more, cs = c :: more ∧ Begins c)
    (hitems : readItems limits fuel (depth + 1) cs = readWith limits ns (items, rest)) :
    readValue limits (fuel + 1) depth ('[' :: (gap ++ cs)) =
      readWith limits ns (.list items, rest) := by
  obtain ⟨c, more, rfl, hspace, hbracket, -⟩ := hcs
  rw [readValue, if_neg (by decide), if_pos rfl, if_pos hdepth, skipSpace_gap hgap hspace]
  split
  · rename_i after heq
    exact absurd (List.cons.inj heq).1 hbracket
  · rw [hitems, readWith, readWith]
    cases checkNumbers limits ns <;> rfl

theorem readValue_object {fields : List (String × Json)}
    (hdepth : Limits.allows limits.depth (depth + 1) = true) (hgap : Blank gap)
    (hcs : ∃ more, cs = '\x22' :: more) (hkeys : (Table.keys fields).Nodup)
    (hfields : readFields limits fuel (depth + 1) cs = readWith limits ns (fields, rest)) :
    readValue limits (fuel + 1) depth ('\x7b' :: (gap ++ cs)) =
      readWith limits ns (.object fields, rest) := by
  obtain ⟨more, rfl⟩ := hcs
  have hskip : skipSpace (gap ++ '\x22' :: more) = '\x22' :: more := skipSpace_gap hgap rfl more
  rw [readValue, if_neg (by decide), if_neg (by decide), if_pos rfl, if_pos hdepth, hskip]
  change (readFields limits fuel (depth + 1) ('\x22' :: more)).map _ = _
  rw [hfields, readWith, readWith]
  cases checkNumbers limits ns with
  | error excess => rfl
  | ok _ => simp only [Except.mapError, Except.map, Table.ofPairs_of_nodup hkeys]

end Step

section Render

def itemsText (indent : Indent) (level : Nat) : List Json → List Char
  | [] => []
  | x :: xs => renderAt indent level x ++ renderItems indent level xs

def fieldsText (indent : Indent) (level : Nat) : List (String × Json) → List Char
  | [] => []
  | (k, v) :: fields =>
    renderText k.toList ++
      ':' :: ' ' :: (renderAt indent level v ++ renderFields indent level fields)

theorem renderAt_list (indent : Indent) (level : Nat) {items : List Json} (h : items ≠ []) :
    renderAt indent level (.list items) =
      '[' :: (lineBreak indent (level + 1) ++ itemsText indent (level + 1) items ++
        lineBreak indent level ++ [']']) := by
  obtain ⟨x, xs, rfl⟩ := List.exists_cons_of_ne_nil h
  simp [renderAt, itemsText]

theorem renderAt_object (indent : Indent) (level : Nat) {fields : List (String × Json)}
    (h : fields ≠ []) :
    renderAt indent level (.object fields) =
      '\x7b' :: (lineBreak indent (level + 1) ++ fieldsText indent (level + 1) fields ++
        lineBreak indent level ++ ['\x7d']) := by
  obtain ⟨⟨k, v⟩, fields, rfl⟩ := List.exists_cons_of_ne_nil h
  simp [renderAt, fieldsText]

theorem exists_renderAt_cons (indent : Indent) (level : Nat) (v : Json) :
    ∃ c rest, renderAt indent level v = c :: rest ∧ Begins c := by
  cases v with
  | null => exact ⟨_, _, rfl, by decide⟩
  | bool b => cases b <;> exact ⟨_, _, rfl, by decide⟩
  | number x =>
      obtain ⟨c, rest, hcons, hc⟩ := exists_opens_of_readScalar (readScalar_text_self x)
      exact ⟨c, rest, hcons, hc.1⟩
  | text s => exact ⟨_, _, rfl, by decide⟩
  | list items => cases items <;> exact ⟨_, _, rfl, by decide⟩
  | object fields => rcases fields with _ | ⟨⟨k, v⟩, fields⟩ <;> exact ⟨_, _, rfl, by decide⟩

theorem exists_fieldsText_cons (indent : Indent) (level : Nat) (k : String) (v : Json)
    (fields : List (String × Json)) (rest : List Char) :
    ∃ more, fieldsText indent level ((k, v) :: fields) ++ rest = '\x22' :: more := ⟨_, rfl⟩

theorem readName_field (indent : Indent) (level : Nat) {k : String} {v : Json}
    (hk : Text.Unpaired k.toList) (rest : List Char) :
    readName (renderText k.toList ++ ':' :: ' ' :: (renderAt indent level v ++ rest)) =
      .ok (k, renderAt indent level v ++ rest) := by
  obtain ⟨c, cs, hcons, hspace, -⟩ := exists_renderAt_cons indent level v
  rw [readName_renderText hk, hcons, List.cons_append, skipSpace_cons hspace]

theorem length_renderAt_pos (indent : Indent) (level : Nat) (v : Json) :
    0 < (renderAt indent level v).length := by
  obtain ⟨c, rest, hcons, -⟩ := exists_renderAt_cons indent level v
  rw [hcons]
  exact Nat.succ_pos _

theorem exists_itemsText_cons (indent : Indent) (level : Nat) (x : Json) (xs : List Json)
    (rest : List Char) :
    ∃ c more, itemsText indent level (x :: xs) ++ rest = c :: more ∧ Begins c := by
  obtain ⟨c, cs, hcons, hc⟩ := exists_renderAt_cons indent level x
  rw [itemsText, hcons]
  exact ⟨c, _, rfl, hc⟩

variable {indent : Indent} (h : ∀ unit ∈ indent, Blank unit)
include h

theorem blank_lineBreak (level : Nat) : Blank (lineBreak indent level) := by
  cases indent with
  | none => simp [Blank, lineBreak]
  | some unit =>
      have hunit := h unit rfl
      intro c hc
      rcases List.mem_cons.mp hc with rfl | hc
      · rfl
      · obtain ⟨line, hline, hmem⟩ := List.mem_flatten.mp hc
        rw [List.eq_of_mem_replicate hline] at hmem
        exact hunit c hmem

theorem exists_separator (level : Nat) :
    ∃ gap, separator indent level = ',' :: gap ∧ Blank gap := by
  cases indent with
  | none => exact ⟨[' '], rfl, by simp [Blank, isSpace]⟩
  | some unit => exact ⟨_, rfl, blank_lineBreak h level⟩

theorem exists_itemsText_cons_cons (level : Nat) (x y : Json) (ys : List Json) :
    ∃ gap, Blank gap ∧ itemsText indent level (x :: y :: ys) =
      renderAt indent level x ++ ',' :: (gap ++ itemsText indent level (y :: ys)) := by
  obtain ⟨gap, hseparator, hgap⟩ := exists_separator h level
  refine ⟨gap, hgap, ?_⟩
  simp [itemsText, renderItems, hseparator]

theorem exists_fieldsText_cons_cons (level : Nat) (k : String) (v : Json) (field : String × Json)
    (fields : List (String × Json)) :
    ∃ gap, Blank gap ∧ fieldsText indent level ((k, v) :: field :: fields) =
      renderText k.toList ++ ':' :: ' ' :: (renderAt indent level v ++
        ',' :: (gap ++ fieldsText indent level (field :: fields))) := by
  obtain ⟨gap, hseparator, hgap⟩ := exists_separator h level
  refine ⟨gap, hgap, ?_⟩
  simp [fieldsText, renderFields, hseparator]

-- The recursion is on the fuel. One step is spent on a value and one on taking it as a part, and
-- every part has a character of its own, so twice the length of the text is enough.
mutual

/-- A written value is read back, with anything behind it that no number goes on with. -/
theorem readValue_renderAt (limits : Limits) (level : Nat) : ∀ (v : Json), v.Named →
    ∀ {fuel depth : Nat} {rest : List Char}, 2 * (renderAt indent level v).length ≤ fuel + 1 →
      Limits.allows limits.depth (depth + v.depth) = true → Ends rest →
      readValue limits (fuel + 1) depth (renderAt indent level v ++ rest) =
        readWith limits v.wholeNumbers (v.reread.joined, rest)
  | .null, _, fuel, depth, rest, _, _, _ =>
    readValue_word limits fuel depth (show ("null", Json.null) ∈ words by simp [words]) rest
  | .bool true, _, fuel, depth, rest, _, _, _ =>
    readValue_word limits fuel depth (show ("true", Json.bool true) ∈ words by simp [words]) rest
  | .bool false, _, fuel, depth, rest, _, _, _ =>
    readValue_word limits fuel depth (show ("false", Json.bool false) ∈ words by simp [words]) rest
  | .number x, _, fuel, depth, rest, _, _, hrest => by
    -- the text of the number alone says with what it begins, since it is not empty
    obtain ⟨c, cs, hcons, hc⟩ := exists_opens_of_readScalar (readScalar_text_self x)
    have hread := readScalar_text limits x hrest
    rw [renderAt, reread, joined, ← hread, hcons, List.cons_append,
      readValue_of_opens limits fuel depth hc]
  | .text s, _, fuel, depth, rest, _, _, _ => by
    simp only [renderAt, renderText, List.cons_append, List.append_assoc, List.nil_append]
    rw [readValue, if_pos rfl, readText_renderText]
    rfl
  | .list [], _, fuel, depth, rest, _, hdepth, _ => by
    have hopen : Limits.allows limits.depth (depth + 1) = true := hdepth
    simp only [renderAt, List.cons_append, List.nil_append]
    rw [readValue, if_neg (by decide), if_pos rfl, if_pos hopen]
    rfl
  | .list (x :: xs), .list hitems, fuel, depth, rest, hfuel, hdepth, _ => by
    rw [renderAt_list indent level (List.cons_ne_nil x xs)] at hfuel ⊢
    simp only [List.length_cons, List.length_append, List.length_nil] at hfuel
    rw [Json.depth, extent, ← Nat.add_assoc] at hdepth
    obtain ⟨fuel, rfl⟩ : ∃ f, fuel = f + 1 := ⟨fuel - 1, by omega⟩
    have hread := @readItems_itemsText limits (level + 1) x xs hitems fuel (depth + 1)
      (lineBreak indent level) rest (blank_lineBreak h level) (by omega) hdepth
    have hfirst := exists_itemsText_cons indent (level + 1) x xs
      (lineBreak indent level ++ ']' :: rest)
    have hvalue := readValue_list (Limits.allows_of_le (by omega) hdepth)
      (blank_lineBreak h (level + 1)) hfirst hread
    rw [wholeNumbers, reread, joined]
    simpa only [List.cons_append, List.append_assoc, List.nil_append] using hvalue
  | .object [], _, fuel, depth, rest, _, hdepth, _ => by
    have hopen : Limits.allows limits.depth (depth + 1) = true := hdepth
    simp only [renderAt, List.cons_append, List.nil_append]
    rw [readValue, if_neg (by decide), if_neg (by decide), if_pos rfl, if_pos hopen]
    rfl
  | .object ((k, v) :: fields), .object hkeys hnames hvalues, fuel, depth, rest, hfuel, hdepth,
      _ => by
    rw [renderAt_object indent level (List.cons_ne_nil (k, v) fields)] at hfuel ⊢
    simp only [List.length_cons, List.length_append, List.length_nil] at hfuel
    rw [Json.depth, extent, ← Nat.add_assoc] at hdepth
    obtain ⟨fuel, rfl⟩ : ∃ f, fuel = f + 1 := ⟨fuel - 1, by omega⟩
    have hread := @readFields_fieldsText limits (level + 1) k v fields hnames hvalues fuel
      (depth + 1) (lineBreak indent level) rest (blank_lineBreak h level) (by omega) hdepth
    have hfirst := exists_fieldsText_cons indent (level + 1) k v fields
      (lineBreak indent level ++ '\x7d' :: rest)
    have hjoined : (Table.keys (joinedFields (rereadFields ((k, v) :: fields)))).Nodup := by
      rwa [keys_joinedFields, keys_rereadFields]
    have hvalue := readValue_object (Limits.allows_of_le (by omega) hdepth)
      (blank_lineBreak h (level + 1)) hfirst hjoined hread
    rw [wholeNumbers, reread, joined]
    simpa only [List.cons_append, List.append_assoc, List.nil_append] using hvalue
termination_by _ _ fuel => fuel

theorem readItems_itemsText (limits : Limits) (level : Nat) : ∀ (x : Json) (xs : List Json),
    (∀ v ∈ x :: xs, v.Named) →
    ∀ {fuel depth : Nat} {gap rest : List Char}, Blank gap →
      2 * (itemsText indent level (x :: xs)).length ≤ fuel →
      Limits.allows limits.depth (depth + itemsExtent 0 0 1 (x :: xs)) = true →
      readItems limits (fuel + 1) depth (itemsText indent level (x :: xs) ++ (gap ++ ']' :: rest)) =
        readWith limits (itemsWholeNumbers (x :: xs)) (joinedItems (rereadItems (x :: xs)), rest)
  | x, [], hitems, fuel, depth, gap, rest, hgap, hfuel, hdepth => by
    have hx := hitems x List.mem_cons_self
    have hpos := length_renderAt_pos indent level x
    have hends : Ends (gap ++ ']' :: rest) :=
      ends_append_of_blank hgap (ends_cons.mpr (by decide))
    simp only [itemsText, renderItems, List.append_nil] at hfuel ⊢
    simp only [itemsExtent, Nat.max_zero] at hdepth
    obtain ⟨fuel, rfl⟩ : ∃ f, fuel = f + 1 := ⟨fuel - 1, by omega⟩
    rw [itemsWholeNumbers, itemsWholeNumbers, rereadItems, rereadItems, joinedItems, joinedItems,
      List.append_nil]
    exact readItems_last hgap (readValue_renderAt limits level x hx hfuel hdepth hends)
  | x, y :: ys, hitems, fuel, depth, gap, rest, hgap, hfuel, hdepth => by
    have hx := hitems x List.mem_cons_self
    have hothers : ∀ v ∈ y :: ys, v.Named := fun v hv => hitems v (List.mem_cons_of_mem x hv)
    have hpos := length_renderAt_pos indent level x
    obtain ⟨blank, hblank, htext⟩ := exists_itemsText_cons_cons h level x y ys
    rw [htext] at hfuel ⊢
    simp only [List.length_cons, List.length_append] at hfuel
    obtain ⟨hfirst, hrest⟩ := Limits.allows_add_max hdepth
    obtain ⟨fuel, rfl⟩ : ∃ f, fuel = f + 1 := ⟨fuel - 1, by omega⟩
    have hvalue := @readValue_renderAt limits level x hx fuel depth
      (',' :: (blank ++ (itemsText indent level (y :: ys) ++ (gap ++ ']' :: rest)))) (by omega)
      hfirst (ends_cons.mpr (by decide))
    have hread := @readItems_itemsText limits level y ys hothers fuel depth gap rest hgap
      (by omega) hrest
    have hbegins := exists_itemsText_cons indent level y ys (gap ++ ']' :: rest)
    rw [itemsWholeNumbers, rereadItems, joinedItems]
    simpa only [List.cons_append, List.append_assoc] using
      readItems_cons hvalue hblank hbegins hread
termination_by _ _ _ fuel => fuel

theorem readFields_fieldsText (limits : Limits) (level : Nat) :
    ∀ (k : String) (v : Json) (fields : List (String × Json)),
    (∀ key ∈ Table.keys ((k, v) :: fields), Text.Unpaired key.toList) →
    (∀ entry ∈ (k, v) :: fields, entry.2.Named) →
    ∀ {fuel depth : Nat} {gap rest : List Char}, Blank gap →
      2 * (fieldsText indent level ((k, v) :: fields)).length ≤ fuel →
      Limits.allows limits.depth (depth + fieldsExtent 0 0 1 ((k, v) :: fields)) = true →
      readFields limits (fuel + 1) depth
          (fieldsText indent level ((k, v) :: fields) ++ (gap ++ '\x7d' :: rest)) =
        readWith limits (fieldsWholeNumbers ((k, v) :: fields))
          (joinedFields (rereadFields ((k, v) :: fields)), rest)
  | k, v, [], hnames, hvalues, fuel, depth, gap, rest, hgap, hfuel, hdepth => by
    have hv : v.Named := hvalues (k, v) List.mem_cons_self
    have hpos := length_renderAt_pos indent level v
    have hends : Ends (gap ++ '\x7d' :: rest) :=
      ends_append_of_blank hgap (ends_cons.mpr (by decide))
    simp only [fieldsText, renderFields, List.append_nil, List.length_append, List.length_cons]
      at hfuel ⊢
    simp only [fieldsExtent, Nat.max_zero] at hdepth
    obtain ⟨fuel, rfl⟩ : ∃ f, fuel = f + 1 := ⟨fuel - 1, by omega⟩
    have hname := readName_field indent level (v := v) (hnames k List.mem_cons_self)
      (gap ++ '\x7d' :: rest)
    have hvalue := @readValue_renderAt limits level v hv fuel depth (gap ++ '\x7d' :: rest)
      (by omega) hdepth hends
    rw [fieldsWholeNumbers, fieldsWholeNumbers, rereadFields, rereadFields, joinedFields,
      joinedFields, List.append_nil]
    simpa only [List.cons_append, List.append_assoc] using readFields_last hname hgap hvalue
  | k, v, (l, w) :: fields, hnames, hvalues, fuel, depth, gap, rest, hgap, hfuel, hdepth => by
    have hv : v.Named := hvalues (k, v) List.mem_cons_self
    have hpos := length_renderAt_pos indent level v
    obtain ⟨blank, hblank, htext⟩ := exists_fieldsText_cons_cons h level k v (l, w) fields
    rw [htext] at hfuel ⊢
    simp only [List.length_cons, List.length_append] at hfuel
    obtain ⟨hfirst, hrest⟩ := Limits.allows_add_max hdepth
    obtain ⟨fuel, rfl⟩ : ∃ f, fuel = f + 1 := ⟨fuel - 1, by omega⟩
    have hname := readName_field indent level (v := v) (hnames k List.mem_cons_self)
      (',' :: (blank ++ (fieldsText indent level ((l, w) :: fields) ++ (gap ++ '\x7d' :: rest))))
    have hvalue := @readValue_renderAt limits level v hv fuel depth
      (',' :: (blank ++ (fieldsText indent level ((l, w) :: fields) ++ (gap ++ '\x7d' :: rest))))
      (by omega) hfirst (ends_cons.mpr (by decide))
    have hread := @readFields_fieldsText limits level l w fields
      (fun key hkey => hnames key (List.mem_cons_of_mem k hkey))
      (fun entry hentry => hvalues entry (List.mem_cons_of_mem (k, v) hentry)) fuel depth gap rest
      hgap (by omega) hrest
    have hbegins : ∃ c more, fieldsText indent level ((l, w) :: fields) ++ (gap ++ '\x7d' :: rest) =
        c :: more ∧ Begins c := ⟨_, _, rfl, by decide⟩
    rw [fieldsWholeNumbers, rereadFields, joinedFields]
    simpa only [List.cons_append, List.append_assoc] using
      readFields_cons hname hvalue hblank hbegins hread
termination_by _ _ _ _ _ fuel => fuel

end

/-- A written value is read back up to floating-point numbers that are not, and up to halves
that meet, unless a number of it has too many digits: then the first such number ends the
reading. -/
theorem read_render_of_named (limits : Limits) {v : Json} (hv : v.Named)
    (hdepth : Limits.allows limits.depth v.depth = true) :
    read limits (v.render indent).toList =
      ((checkNumbers limits v.wholeNumbers).mapError .beyond).map fun _ => v.reread.joined := by
  obtain ⟨c, cs, hcons, hspace, -, hmark⟩ := exists_renderAt_cons indent 0 v
  have hstart : skipSpace (renderAt indent 0 v) = renderAt indent 0 v := by
    rw [hcons, skipSpace_cons hspace]
  have hread := @readValue_renderAt _ h limits 0 v hv
    (2 * (renderAt indent 0 v).length + 1) 0 [] (by omega) (by rwa [Nat.zero_add]) ends_nil
  rw [List.append_nil] at hread
  have hall : readAll limits (renderAt indent 0 v) =
      ((checkNumbers limits v.wholeNumbers).mapError .beyond).map fun _ => v.reread.joined := by
    rw [readAll, hstart, hread, readWith]
    cases checkNumbers limits v.wholeNumbers <;> rfl
  rw [render, String.toList_ofList, read, readDecoded, hall]
  · cases checkNumbers limits v.wholeNumbers <;> rfl
  · -- no written value begins with the mark that a text is refused for
    intro rest heq
    exact hmark (List.cons.inj (hcons.symm.trans heq)).1

/-- A regular value is read back up to halves that meet. -/
theorem read_render_of_regular (limits : Limits) {v : Json} (hv : v.Regular)
    (hdepth : Limits.allows limits.depth v.depth = true) :
    read limits (v.render indent).toList =
      ((checkNumbers limits v.wholeNumbers).mapError .beyond).map fun _ => v.joined := by
  rw [read_render_of_named h limits hv.named hdepth, hv.reread_eq]

/-- A legible value is read back as it is, unless a number of it has too many digits. -/
theorem read_render (limits : Limits) {v : Json} (hv : v.Legible)
    (hdepth : Limits.allows limits.depth v.depth = true) :
    read limits (v.render indent).toList =
      ((checkNumbers limits v.wholeNumbers).mapError .beyond).map fun _ => v := by
  rw [read_render_of_regular h limits hv.regular hdepth, hv.joined_eq]

end Render

end BrowserFlow.Json
