import BrowserFlow.Flow.Graph
import Mathlib.Data.List.Nodup

/-!
# Ids of edges that were given none

The default id of an edge joins the ids of its ends with a hyphen, which these may contain
themselves. So two pairs of ends share an id not only if they are the same, but also if the
first source goes on, after a hyphen, with the word that the other target begins with
(`Edge.Overlap`, `Edge.defaultId_eq_iff`). The source of one of the two has more hyphens then,
so among sources with equally many hyphens the id tells the ends (`Edge.ends_of_defaultId`).
-/

namespace BrowserFlow

theorem append_cons_eq_append_cons_iff {α : Type} {c : α} {l l' r r' : List α} :
    l ++ c :: r = l' ++ c :: r' ↔
      l = l' ∧ r = r' ∨ (∃ m, l' = l ++ c :: m ∧ r = m ++ c :: r') ∨
        ∃ m, l = l' ++ c :: m ∧ r' = m ++ c :: r := by
  constructor
  · intro h
    rcases List.append_eq_append_iff.mp h with ⟨m, rfl, hm⟩ | ⟨m, rfl, hm⟩
    · cases m with
      | nil =>
          obtain rfl := List.cons_injective hm
          exact Or.inl ⟨(List.append_nil l).symm, rfl⟩
      | cons d m =>
          obtain ⟨rfl, rfl⟩ := List.cons.inj hm
          exact Or.inr (Or.inl ⟨m, rfl, rfl⟩)
    · cases m with
      | nil =>
          obtain rfl := List.cons_injective hm
          exact Or.inl ⟨List.append_nil l', rfl⟩
      | cons d m =>
          obtain ⟨rfl, rfl⟩ := List.cons.inj hm
          exact Or.inr (Or.inr ⟨m, rfl, rfl⟩)
  · rintro (⟨rfl, rfl⟩ | ⟨m, rfl, rfl⟩ | ⟨m, rfl, rfl⟩)
    · rfl
    · rw [List.append_assoc, List.cons_append]
    · rw [List.append_assoc, List.cons_append]

namespace Edge

def ends (edge : Edge) : String × String := (edge.source, edge.target)

/-- The second source is the first one with a word more, and the first target is the second
one with the same word before it. -/
def Overlap (first second : String × String) : Prop :=
  ∃ word, second.1 = first.1 ++ "-" ++ word ∧ first.2 = word ++ "-" ++ second.2

theorem toList_defaultId (source target : String) :
    (defaultId source target).toList =
      "edge-".toList ++ (source.toList ++ '-' :: target.toList) := by
  simp [defaultId, toString]

theorem overlap_iff {first second : String × String} :
    Overlap first second ↔ ∃ word, second.1.toList = first.1.toList ++ '-' :: word ∧
      first.2.toList = word ++ '-' :: second.2.toList := by
  constructor
  · rintro ⟨word, hsource, htarget⟩
    exact ⟨word.toList, by simp [hsource], by simp [htarget]⟩
  · rintro ⟨word, hsource, htarget⟩
    refine ⟨String.ofList word, String.toList_inj.mp ?_, String.toList_inj.mp ?_⟩
    · simp [hsource]
    · simp [htarget]

/-- Two pairs of ends have one id just if they are the same or overlap. -/
theorem defaultId_eq_iff {first second : String × String} :
    defaultId first.1 first.2 = defaultId second.1 second.2 ↔
      first = second ∨ Overlap first second ∨ Overlap second first := by
  rw [← String.toList_inj, toList_defaultId, toList_defaultId, List.append_cancel_left_eq,
    append_cons_eq_append_cons_iff, overlap_iff, overlap_iff, Prod.ext_iff, String.toList_inj,
    String.toList_inj]

/-- Of two pairs that overlap the second has more hyphens in its source. -/
theorem Overlap.count_lt {first second : String × String} (h : Overlap first second) :
    first.1.toList.count '-' < second.1.toList.count '-' := by
  obtain ⟨word, hsource, -⟩ := overlap_iff.mp h
  rw [hsource, List.count_append, List.count_cons_self]
  omega

/-- Among sources with equally many hyphens the id of an edge tells its ends. -/
theorem ends_of_defaultId {first second : String × String}
    (hcount : first.1.toList.count '-' = second.1.toList.count '-')
    (h : defaultId first.1 first.2 = defaultId second.1 second.2) : first = second := by
  rcases defaultId_eq_iff.mp h with heq | hoverlap | hoverlap
  · exact heq
  · exact absurd hoverlap.count_lt (by omega)
  · exact absurd hoverlap.count_lt (by omega)

/-- Distinct pairs of ends have distinct ids just if no two of them overlap. -/
theorem nodup_map_defaultId_iff {pairs : List (String × String)} (h : pairs.Nodup) :
    (pairs.map fun ends => defaultId ends.1 ends.2).Nodup ↔
      ∀ first ∈ pairs, ∀ second ∈ pairs, ¬ Overlap first second := by
  rw [List.nodup_map_iff_inj_on h]
  constructor
  · intro hinj first hfirst second hsecond hoverlap
    have heq : first = second :=
      hinj first hfirst second hsecond (defaultId_eq_iff.mpr (Or.inr (Or.inl hoverlap)))
    subst heq
    exact absurd hoverlap.count_lt (Nat.lt_irrefl _)
  · intro hnone first hfirst second hsecond hid
    rcases defaultId_eq_iff.mp hid with heq | hoverlap | hoverlap
    · exact heq
    · exact absurd hoverlap (hnone first hfirst second hsecond)
    · exact absurd hoverlap (hnone second hsecond first hfirst)

end Edge

end BrowserFlow
