import BrowserFlow.Proofs.Store.Place
import BrowserFlow.Proofs.Text.Small
import Mathlib.Data.List.Chain
import Mathlib.Data.List.DropRight

/-!
# Slugs as stems of file names

A slug is a stem: it is not empty, has only characters of slugs, no two hyphens side by side, and
neither a hyphen nor a point at an end (`isStem_slugChars`). Each pass that makes a slug leaves a
stem as it is, so a slug is its own slug (`slugChars_of_isStem`).

A file whose name is a stem, perhaps with a number behind it, and an ending is an entry of its own
in whatever directory it is named in (`namesChild_candidate_append`).
-/

namespace BrowserFlow

namespace Text

variable {p : Char → Bool} {mark c : Char} {cs : List Char}

/-! ## Squeezed and trimmed texts -/

theorem squeezeFrom_of_forall (h : ∀ c ∈ cs, p c = false) (inside : Bool) :
    squeezeFrom p mark inside cs = cs := by
  induction cs generalizing inside with
  | nil => rfl
  | cons c cs ih =>
      rw [List.forall_mem_cons] at h
      rw [squeezeFrom, if_neg (by rw [h.1]; exact Bool.false_ne_true), ih h.2]

def Separate (mark : Char) (cs : List Char) : Prop :=
  cs.IsChain fun a b => ¬ (a = mark ∧ b = mark)

theorem separate_iff : Separate mark cs ↔ ∀ front back, cs ≠ front ++ mark :: mark :: back := by
  rw [Separate, List.isChain_iff_forall_rel_of_append_cons_cons]
  constructor
  · rintro h front back rfl
    exact h rfl ⟨rfl, rfl⟩
  · rintro h a b front back heq ⟨rfl, rfl⟩
    exact h front back heq

theorem notMem_head?_squeezeFrom : mark ∉ (squeezeFrom (· == mark) mark true cs).head? := by
  induction cs with
  | nil => exact Option.not_mem_none mark
  | cons c cs ih =>
      by_cases hc : (c == mark) = true
      · rwa [squeezeFrom, if_pos hc, if_pos rfl]
      · rw [squeezeFrom, if_neg hc]
        exact fun hmem => hc (beq_iff_eq.mpr (Option.mem_some_iff.mp hmem))

theorem separate_squeezeFrom (inside : Bool) :
    Separate mark (squeezeFrom (· == mark) mark inside cs) := by
  induction cs generalizing inside with
  | nil => exact List.isChain_nil
  | cons c cs ih =>
      rw [squeezeFrom]
      split_ifs with hc hinside
      · exact ih true
      · refine List.isChain_cons.mpr ⟨fun d hd hmarks => ?_, ih true⟩
        rw [hmarks.2] at hd
        exact notMem_head?_squeezeFrom hd
      · refine List.isChain_cons.mpr ⟨fun d _ hmarks => hc ?_, ih false⟩
        rw [hmarks.1]
        exact beq_self_eq_true mark

/-- A text in which marks are single stays when marks are squeezed. -/
theorem squeezeFrom_of_separate (h : Separate mark cs) {inside : Bool}
    (hinside : inside = true → mark ∉ cs.head?) :
    squeezeFrom (· == mark) mark inside cs = cs := by
  induction cs generalizing inside with
  | nil => rfl
  | cons c cs ih =>
      obtain ⟨hhead, hrest⟩ := List.isChain_cons.mp h
      rw [squeezeFrom]
      split_ifs with hc hin
      · exact absurd (Option.mem_some_iff.mpr (beq_iff_eq.mp hc)) (hinside hin)
      · obtain rfl := beq_iff_eq.mp hc
        rw [ih hrest fun _ hmem => hhead c hmem ⟨rfl, rfl⟩]
      · rw [ih hrest (absurd · (by decide))]

theorem dropWhile_of_head? (h : ∀ c ∈ cs.head?, p c = false) : cs.dropWhile p = cs := by
  cases cs with
  | nil => rfl
  | cons c cs =>
      have hc : p c = false := h c rfl
      rw [List.dropWhile_cons, hc, if_neg Bool.false_ne_true]

theorem trimBoth_of_ends (hhead : ∀ c ∈ cs.head?, p c = false)
    (hlast : ∀ c ∈ cs.getLast?, p c = false) : trimBoth p cs = cs := by
  rw [trimBoth, dropWhile_of_head? hhead, dropWhile_of_head?, List.reverse_reverse]
  rwa [List.head?_reverse]

theorem apply_of_mem_head?_dropWhile (h : c ∈ (cs.dropWhile p).head?) : p c = false := by
  have hhead := List.head?_dropWhile_not p cs
  rw [Option.mem_def.mp h] at hhead
  exact hhead

theorem apply_of_mem_getLast?_trimBoth (h : c ∈ (trimBoth p cs).getLast?) : p c = false := by
  rw [trimBoth, List.getLast?_reverse] at h
  exact apply_of_mem_head?_dropWhile h

theorem trimBoth_prefix : trimBoth p cs <+: cs.dropWhile p :=
  List.rdropWhile_prefix p (cs.dropWhile p)

theorem apply_of_mem_head?_trimBoth (h : c ∈ (trimBoth p cs).head?) : p c = false := by
  have hprefix : trimBoth p cs <+: cs.dropWhile p := trimBoth_prefix
  obtain ⟨rest, hrest⟩ := hprefix
  have hhead : c ∈ (cs.dropWhile p).head? := by
    rw [← hrest, List.head?_append, Option.mem_def.mp h]
    rfl
  exact apply_of_mem_head?_dropWhile hhead

theorem Separate.trimBoth (h : Separate mark cs) : Separate mark (trimBoth p cs) := by
  have hrest : Separate mark (cs.dropWhile p) := h.suffix (List.dropWhile_suffix p)
  exact hrest.prefix trimBoth_prefix

/-! ## Characters of words -/

theorem isWord_of_isDigit (h : c.isDigit = true) : isWord c = true := by
  have hrange : (48, 57) ∈ letterOrNumberRanges := List.mem_cons_self
  rw [Char.isDigit, Bool.and_eq_true, decide_eq_true_eq, decide_eq_true_eq] at h
  rw [isWord, Bool.or_eq_true, inRanges_iff]
  exact Or.inr ⟨_, hrange, h.1, h.2⟩

theorem isBlank_of_isWord (h : isWord c = true) : isBlank c = false := by
  have hdisjoint : ∀ blank ∈ blankRanges, ∀ letter ∈ letterOrNumberRanges,
      blank.2 < letter.1 ∨ letter.2 < blank.1 := by
    decide +kernel
  rw [isWord, Bool.or_eq_true, beq_iff_eq, inRanges_iff] at h
  rw [Bool.eq_false_iff, isBlank, Ne, inRanges_iff]
  rintro ⟨blank, hblank, hfirst, hlast⟩
  rcases h with rfl | ⟨letter, hletter, hfirst', hlast'⟩
  · exact absurd (inRanges_iff.mpr ⟨blank, hblank, hfirst, hlast⟩) (by decide)
  · rcases hdisjoint blank hblank letter hletter with h | h <;> omega

end Text

namespace Store

open BrowserFlow.Store.Path (IsComponent)

variable {cs : List Char}

/-! ## Stems -/

/-- What a slug is. All its characters are small, which is what lower-casing leaves. -/
structure IsStem (cs : List Char) : Prop where
  ne_nil : cs ≠ []
  isSlugChar : ∀ c ∈ cs, isSlugChar c = true
  isSmall : ∀ c ∈ cs, Text.isSmall c.toNat = true
  separate : Text.Separate '-' cs
  head : ∀ c ∈ cs.head?, isSlugEdge c = false
  last : ∀ c ∈ cs.getLast?, isSlugEdge c = false

theorem isStem_defaultSlug : IsStem defaultSlug.toList where
  ne_nil := by decide
  isSlugChar := List.all_eq_true.mp (by decide +kernel)
  isSmall := List.all_eq_true.mp (by decide +kernel)
  separate := by simp [Text.Separate, defaultSlug]
  head := by simp [defaultSlug, isSlugEdge]
  last := by simp [defaultSlug, isSlugEdge]

theorem isStem_slugChars (h : slugChars cs ≠ []) : IsStem (slugChars cs) := by
  have hmem : ∀ c ∈ slugChars cs, isSlugChar c = true ∧ Text.isSmall c.toNat = true := by
    intro c hc
    rcases Text.mem_of_mem_squeezeFrom (Text.mem_of_mem_trimBoth hc) with rfl | hc
    · exact ⟨by decide +kernel, by decide +kernel⟩
    · obtain ⟨hlower, hkept⟩ := List.mem_filter.mp hc
      exact ⟨hkept, Text.isSmall_of_mem_lower hlower⟩
  exact
    { ne_nil := h
      isSlugChar := fun c hc => (hmem c hc).1
      isSmall := fun c hc => (hmem c hc).2
      separate := (Text.separate_squeezeFrom false).trimBoth
      head := fun _ => Text.apply_of_mem_head?_trimBoth
      last := fun _ => Text.apply_of_mem_getLast?_trimBoth }

theorem isBlank_of_isSlugChar {c : Char} (h : isSlugChar c = true) : Text.isBlank c = false := by
  simp only [isSlugChar, Bool.or_eq_true, beq_iff_eq] at h
  rcases h with (h | rfl) | rfl
  · exact Text.isBlank_of_isWord h
  · decide
  · decide

/-- Each pass leaves a stem as it is. -/
theorem slugChars_of_isStem (h : IsStem cs) : slugChars cs = cs := by
  have hblank : ∀ c ∈ cs, Text.isBlank c = false := fun c hc =>
    isBlank_of_isSlugChar (h.isSlugChar c hc)
  have hstrip : Text.stripBlanks cs = cs := Text.trimBoth_of_ends
    (fun c hc => hblank c (List.mem_of_mem_head? hc))
    (fun c hc => hblank c (List.mem_of_mem_getLast? hc))
  have hhyphenate : Text.hyphenateBlanks cs = cs := Text.squeezeFrom_of_forall hblank false
  have hlower : Text.lower cs = cs := Text.lower_of_isSmall h.isSmall
  have hfilter : cs.filter isSlugChar = cs := List.filter_eq_self.mpr h.isSlugChar
  have hsqueeze : Text.squeeze (· == '-') '-' cs = cs :=
    Text.squeezeFrom_of_separate h.separate (absurd · (by decide))
  calc slugChars cs
      = Text.trimBoth isSlugEdge (Text.squeeze (· == '-') '-' (cs.filter isSlugChar)) := by
        rw [slugChars, hstrip, hhyphenate, hlower]
    _ = Text.trimBoth isSlugEdge cs := by rw [hfilter, hsqueeze]
    _ = cs := Text.trimBoth_of_ends h.head h.last

theorem isStem_slug (name : String) : IsStem (slug name).toList := by
  unfold slug
  split
  · exact isStem_defaultSlug
  · rename_i hcs
    rw [String.toList_ofList]
    exact isStem_slugChars hcs

theorem slug_of_isStem {name : String} (h : IsStem name.toList) : slug name = name := by
  unfold slug
  rw [slugChars_of_isStem h]
  split
  · exact absurd ‹_› h.ne_nil
  · exact String.ofList_toList

/-! ## Files of a stem -/

/-- The name is that of an entry in whatever directory it is named in. It is not hidden, and it is
no name of that directory or of the one above. -/
structure NamesChild (name : String) : Prop where
  plain : ∀ c ∈ ['/', '\\', '\x00'], c ∉ name.toList
  visible : name.toList.head? ≠ some '.'
  join_eq (directory : Path) :
    directory.join name = ⟨directory.root, directory.components ++ [name]⟩
  place_join {root folder : Folder} {directory : Path} {here : List String}
    (place_eq : Folder.place root directory = .ok here)
    (folder_eq : Folder.entryAt? root here = some (.folder folder))
    (path_fits : (directory.join name).fault? = none) (name_fits : nameFault? name = none) :
    Folder.place root (directory.join name) = .ok (here ++ [name])

theorem namesChild_of_isComponent {name : String} (hcomponent : IsComponent name)
    (hplain : ∀ c ∈ ['/', '\\', '\x00'], c ∉ name.toList)
    (hvisible : name.toList.head? ≠ some '.') : NamesChild name where
  plain := hplain
  visible := hvisible
  join_eq := Path.join_of_isComponent hcomponent
  place_join := by
    intro root folder directory here hplace hfolder hpath hname
    have hinside : name ≠ Folder.outside := by
      rintro rfl
      exact hvisible rfl
    rw [Path.join_of_isComponent hcomponent] at hpath ⊢
    rw [Folder.place] at hplace
    cases hdirectory : directory.fault? with
    | some fault => simp [hdirectory] at hplace
    | none =>
        rw [hdirectory] at hplace
        rw [Folder.place, hpath]
        exact Folder.locate_append hplace hfolder hinside hname

theorem head?_candidate (base : String) (h : base.toList ≠ []) (n : Nat) :
    (candidate base n).toList.head? = base.toList.head? := by
  rcases Nat.lt_or_ge 1 n with hn | hn
  · rw [candidate_of_lt base hn, String.toList_append, List.head?_append_of_ne_nil _ h]
  · rw [candidate_of_le base hn]

theorem isSlugChar_of_mem_candidate {base : String} (h : IsStem base.toList) {n : Nat} {c : Char}
    (hc : c ∈ (candidate base n).toList) : isSlugChar c = true := by
  rcases mem_candidate hc with hbase | rfl | hdigit
  · exact h.isSlugChar c hbase
  · decide +kernel
  · simp [isSlugChar, Text.isWord_of_isDigit hdigit]

/-- What begins with a stem, and has a number and an ending behind it, is a name of its own. -/
theorem namesChild_candidate_append {base : String} (h : IsStem base.toList) (n : Nat)
    {ending : String} (hending : ∀ c ∈ ['/', '\\', '\x00'], c ∉ ending.toList) :
    NamesChild (candidate base n ++ ending) := by
  have hhead : (candidate base n ++ ending).toList.head? = base.toList.head? := by
    have hne : (candidate base n).toList ≠ [] := by
      rw [Ne, ← List.head?_eq_none_iff, head?_candidate base h.ne_nil, List.head?_eq_none_iff]
      exact h.ne_nil
    rw [String.toList_append, List.head?_append_of_ne_nil _ hne, head?_candidate base h.ne_nil]
  have hvisible : (candidate base n ++ ending).toList.head? ≠ some '.' := by
    rw [hhead]
    exact fun hpoint => absurd (h.head '.' hpoint) (by decide)
  have hplain : ∀ c ∈ ['/', '\\', '\x00'], c ∉ (candidate base n ++ ending).toList := by
    intro c hc hmem
    rw [String.toList_append, List.mem_append] at hmem
    rcases hmem with hmem | hmem
    · have hnone : ['/', '\\', '\x00'].any isSlugChar = false := by decide +kernel
      exact List.any_eq_false.mp hnone c hc (isSlugChar_of_mem_candidate h hmem)
    · exact hending c hc hmem
  refine namesChild_of_isComponent ⟨⟨?_, ?_⟩, hplain '/' List.mem_cons_self⟩ hplain hvisible
  · intro hempty
    rw [hempty] at hhead
    exact h.ne_nil (List.head?_eq_none_iff.mp hhead.symm)
  · intro hpoint
    rw [hpoint] at hvisible
    exact hvisible rfl

/-- A slug is made of words, points and single hyphens, neither of which it begins or ends with;
it is its own slug; and the files that are stored under it, with a number or without, are entries
of the directory of the store. -/
theorem slug_safe_and_stable (name : String) :
    (slug name).toList ≠ [] ∧
      (∀ c ∈ (slug name).toList, Text.isWord c = true ∨ c = '.' ∨ c = '-') ∧
      (∀ front back, (slug name).toList ≠ front ++ '-' :: '-' :: back) ∧
      (∀ c ∈ (slug name).toList.head?, c ≠ '-' ∧ c ≠ '.') ∧
      (∀ c ∈ (slug name).toList.getLast?, c ≠ '-' ∧ c ≠ '.') ∧
      slug (slug name) = slug name ∧
      ∀ n, NamesChild (scriptFile (candidate (slug name) n)) ∧
        NamesChild (documentFile (candidate (slug name) n)) := by
  have h := isStem_slug name
  have hedge : ∀ c, isSlugEdge c = false → c ≠ '-' ∧ c ≠ '.' := by
    intro c hc
    simpa [isSlugEdge] using hc
  refine ⟨h.ne_nil, ?_, Text.separate_iff.mp h.separate, fun c hc => hedge c (h.head c hc),
    fun c hc => hedge c (h.last c hc), slug_of_isStem h, fun n => ⟨?_, ?_⟩⟩
  · intro c hc
    simpa [isSlugChar, or_assoc] using h.isSlugChar c hc
  · exact namesChild_candidate_append h n (by simp)
  · exact namesChild_candidate_append h n (by simp)

end Store

end BrowserFlow
