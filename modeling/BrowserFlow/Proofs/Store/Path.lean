import BrowserFlow.Store.Path
import Mathlib.Data.List.Basic

/-!
# Paths and their texts

A path that was read is written so that it is read again (`Path.ofString_text`), and what
is named in it by a component of its own is its last component (`Path.join_of_isComponent`).
-/

namespace BrowserFlow

namespace Text

theorem splitOn_cons_self (mark : Char) (cs : List Char) :
    splitOn mark (mark :: cs) = [] :: splitOn mark cs := by
  rw [splitOn, if_pos rfl]

theorem splitOn_of_notMem {mark : Char} {cs : List Char} (h : mark ∉ cs) :
    splitOn mark cs = [cs] := by
  induction cs with
  | nil => rfl
  | cons c cs ih =>
      rw [List.mem_cons, not_or] at h
      rw [splitOn, if_neg (Ne.symm h.1), ih h.2]

theorem splitOn_append {mark : Char} {part : List Char} (h : mark ∉ part) (rest : List Char) :
    splitOn mark (part ++ mark :: rest) = part :: splitOn mark rest := by
  induction part with
  | nil => exact splitOn_cons_self mark rest
  | cons c part ih =>
      rw [List.mem_cons, not_or] at h
      rw [List.cons_append, splitOn, if_neg (Ne.symm h.1), ih h.2]

/-- Parts without the mark come back when what they are joined to is cut. -/
theorem splitOn_intercalate {mark : Char} {parts : List (List Char)} (hne : parts ≠ [])
    (h : ∀ part ∈ parts, mark ∉ part) : splitOn mark ([mark].intercalate parts) = parts := by
  induction parts with
  | nil => exact absurd rfl hne
  | cons part parts ih =>
      rw [List.forall_mem_cons] at h
      cases parts with
      | nil => simpa [List.intercalate] using splitOn_of_notMem h.1
      | cons next parts =>
          have hrest := ih (List.cons_ne_nil next parts) h.2
          rw [List.intercalate_cons_cons, List.append_assoc, List.singleton_append,
            splitOn_append h.1, hrest]

theorem notMem_of_mem_splitOn {mark : Char} {cs part : List Char} (h : part ∈ splitOn mark cs) :
    mark ∉ part := by
  induction cs generalizing part with
  | nil =>
      rw [List.mem_singleton.mp h]
      exact List.not_mem_nil
  | cons c cs ih =>
      rw [splitOn] at h
      split at h
      · rcases List.mem_cons.mp h with rfl | h
        · exact List.not_mem_nil
        · exact ih h
      · rename_i hc
        cases hparts : splitOn mark cs with
        | nil => exact absurd hparts (splitOn_ne_nil mark cs)
        | cons first others =>
            rw [hparts] at h ih
            rcases List.mem_cons.mp h with rfl | h
            · rw [List.mem_cons, not_or]
              exact ⟨Ne.symm hc, ih List.mem_cons_self⟩
            · exact ih (List.mem_cons_of_mem first h)

end Text

namespace Store.Path

/-- A text that stands between the slashes of a path and is kept. -/
def IsComponent (part : String) : Prop := (part ≠ "" ∧ part ≠ ".") ∧ '/' ∉ part.toList

/-- A path of the form that paths are read in. -/
structure Plain (p : Path) : Prop where
  root_mem : p.root ∈ ["", "/", "//"]
  isComponent : ∀ part ∈ p.components, IsComponent part

theorem plain_ofString (s : String) : (ofString s).Plain where
  root_mem := by
    change rootOf s.toList ∈ _
    unfold rootOf
    split <;> decide
  isComponent := by
    intro part hpart
    obtain ⟨hmem, hkept⟩ := List.mem_filter.mp hpart
    obtain ⟨cs, hcs, rfl⟩ := List.mem_map.mp hmem
    refine ⟨of_decide_eq_true hkept, ?_⟩
    rw [String.toList_ofList]
    exact Text.notMem_of_mem_splitOn hcs

theorem filter_of_isComponent {parts : List String} (h : ∀ part ∈ parts, IsComponent part) :
    parts.filter (fun part => part ≠ "" ∧ part ≠ ".") = parts :=
  List.filter_eq_self.mpr fun part hpart => decide_eq_true (h part hpart).1

theorem exists_cons_of_isComponent {part : String} (h : IsComponent part) :
    ∃ c cs, part.toList = c :: cs ∧ c ≠ '/' := by
  cases hcs : part.toList with
  | nil => exact absurd (String.toList_eq_nil_iff.mp hcs) h.1.1
  | cons c cs =>
      refine ⟨c, cs, rfl, ?_⟩
      rintro rfl
      exact h.2 (by rw [hcs]; exact List.mem_cons_self)

/-- What the text of a path has behind its first slashes. -/
def body (parts : List String) : List Char := ['/'].intercalate (parts.map String.toList)

theorem body_cons_cons (part next : String) (parts : List String) :
    body (part :: next :: parts) = part.toList ++ '/' :: body (next :: parts) := by
  simp [body, List.intercalate_cons_cons]

theorem body_cons (part : String) (parts : List String) :
    ∃ rest, body (part :: parts) = part.toList ++ rest := by
  cases parts with
  | nil => exact ⟨[], by simp [body]⟩
  | cons next parts => exact ⟨'/' :: body (next :: parts), body_cons_cons part next parts⟩

theorem splitOn_body {parts : List String} (hne : parts ≠ [])
    (h : ∀ part ∈ parts, IsComponent part) :
    (Text.splitOn '/' (body parts)).map String.ofList = parts := by
  rw [body, Text.splitOn_intercalate (mt List.map_eq_nil_iff.mp hne), List.map_map]
  · exact (List.map_congr_left fun part _ => String.ofList_toList).trans (List.map_id parts)
  · rw [List.forall_mem_map]
    exact fun part hpart => (h part hpart).2

theorem components_of_slashes {slashes : List Char} (h : ∀ c ∈ slashes, c = '/')
    (cs : List Char) :
    ((Text.splitOn '/' (slashes ++ cs)).map String.ofList).filter
        (fun part => part ≠ "" ∧ part ≠ ".") =
      ((Text.splitOn '/' cs).map String.ofList).filter fun part => part ≠ "" ∧ part ≠ "." := by
  induction slashes with
  | nil => rfl
  | cons c slashes ih =>
      rw [List.forall_mem_cons] at h
      obtain ⟨rfl, h⟩ := h
      rw [List.cons_append, Text.splitOn_cons_self, List.map_cons,
        List.filter_cons_of_neg (by decide), ih h]

theorem ofString_text {p : Path} (h : p.Plain) : ofString p.text = p := by
  obtain ⟨root, parts⟩ := p
  obtain ⟨hroot, hparts⟩ := h
  simp only [List.mem_cons, List.not_mem_nil, or_false] at hroot
  cases parts with
  | nil => rcases hroot with rfl | rfl | rfl <;> rfl
  | cons part parts =>
      have htext : (text ⟨root, part :: parts⟩).toList = root.toList ++ body (part :: parts) := by
        simp [text, body]
      have hslashes : ∀ c ∈ root.toList, c = '/' := by
        rcases hroot with rfl | rfl | rfl <;> simp
      rw [ofString, htext, components_of_slashes hslashes,
        splitOn_body (List.cons_ne_nil part parts) hparts, filter_of_isComponent hparts]
      -- the slashes at the front end where the first component begins
      obtain ⟨rest, hrest⟩ := body_cons part parts
      obtain ⟨c, cs, hcs, hc⟩ := exists_cons_of_isComponent (hparts part List.mem_cons_self)
      have htake : (body (part :: parts)).takeWhile (· = '/') = [] := by
        simp [hrest, hcs, hc]
      rcases hroot with rfl | rfl | rfl <;> simp [rootOf, htake]

/-- A component by itself names an entry of the directory. -/
theorem join_of_isComponent {name : String} (h : IsComponent name) (p : Path) :
    p.join name = ⟨p.root, p.components ++ [name]⟩ := by
  have hplain : (⟨"", [name]⟩ : Path).Plain := ⟨List.mem_cons_self, by simpa using h⟩
  have htext : (⟨"", [name]⟩ : Path).text = name := by simp [text, List.intercalate]
  have hread := ofString_text hplain
  rw [htext] at hread
  rw [join, hread, if_pos rfl]

theorem Plain.join {p : Path} (hp : p.Plain) (name : String) : (p.join name).Plain := by
  have hname := plain_ofString name
  unfold Path.join
  dsimp only
  split
  · refine ⟨hp.root_mem, ?_⟩
    rw [List.forall_mem_append]
    exact ⟨hp.isComponent, hname.isComponent⟩
  · exact hname

theorem body_append_singleton (parts : List String) :
    ∃ front, ∀ name : String, body (parts ++ [name]) = front ++ name.toList := by
  induction parts with
  | nil => exact ⟨[], fun name => by simp [body]⟩
  | cons part parts ih =>
      obtain ⟨front, hfront⟩ := ih
      refine ⟨part.toList ++ '/' :: front, fun name => ?_⟩
      obtain ⟨next, rest, hrest⟩ : ∃ next rest, parts ++ [name] = next :: rest :=
        List.exists_cons_of_ne_nil (by simp)
      rw [List.cons_append, hrest, body_cons_cons, ← hrest, hfront, List.append_assoc,
        List.cons_append]

theorem text_join (p : Path) : ∃ front, ∀ name, IsComponent name →
    (p.join name).text.toList = front ++ name.toList := by
  obtain ⟨front, hfront⟩ := body_append_singleton p.components
  refine ⟨p.root.toList ++ front, fun name h => ?_⟩
  rw [List.append_assoc, ← hfront, join_of_isComponent h]
  simp [text, body]

theorem mem_body_append_singleton {parts : List String} {name : String} {c : Char}
    (h : c ∈ body (parts ++ [name])) : c ∈ body parts ∨ c = '/' ∨ c ∈ name.toList := by
  induction parts with
  | nil => exact Or.inr (Or.inr (by simpa [body] using h))
  | cons part parts ih =>
      cases parts with
      | nil =>
          rw [List.singleton_append, body_cons_cons] at h
          simpa [body] using h
      | cons next parts =>
          rw [List.cons_append, List.cons_append, body_cons_cons, ← List.cons_append] at h
          rw [body_cons_cons, List.mem_append, List.mem_cons]
          rcases List.mem_append.mp h with hpart | hrest
          · exact Or.inl (Or.inl hpart)
          · rcases List.mem_cons.mp hrest with hslash | hrest
            · exact Or.inr (Or.inl hslash)
            · exact (ih hrest).imp_left fun hbody => Or.inr (Or.inr hbody)

/-- The path of an entry has the characters of its name, those of the path of the directory, and
slashes. -/
theorem mem_text_join {name : String} (hname : IsComponent name) {p : Path} {c : Char}
    (h : c ∈ (p.join name).text.toList) : c ∈ p.text.toList ∨ c = '/' ∨ c ∈ name.toList := by
  have htext : (p.join name).text.toList = p.root.toList ++ body (p.components ++ [name]) := by
    rw [join_of_isComponent hname]
    simp [text, body]
  rw [htext, List.mem_append] at h
  rcases h with hroot | hbody
  · left
    have hne : p.root ≠ "" := by
      rintro hempty
      simp [hempty] at hroot
    rw [text, if_neg fun hpoint => hne hpoint.1, String.toList_append]
    exact List.mem_append_left _ hroot
  · refine (mem_body_append_singleton hbody).imp_left fun hcomponents => ?_
    have hne : p.components ≠ [] := by
      rintro hempty
      simp [hempty, body] at hcomponents
    rw [text, if_neg fun hpoint => hne hpoint.2, String.toList_append, String.toList_ofList]
    exact List.mem_append_right _ hcomponents

theorem stem_join {name : String} (h : IsComponent name) (p : Path) :
    (p.join name).stem = stemOf name := by
  rw [join_of_isComponent h, stem, Path.name, List.getLastD_concat]

end Store.Path

end BrowserFlow
