import BrowserFlow.Proofs.Store.Catalogue
import Mathlib.Data.String.Basic

/-!
# Listing the saved scripts

The slugs of a folder of scripts are those of its catalogue in ascending order
(`Catalogue.slugsIn_folder`), and what is listed are the names that they are in force for
(`Catalogue.mapM_listedName`). A name and its slug determine each other
(`Catalogue.slugOf_name`, `Catalogue.slugOf_nameAt`).
-/

namespace BrowserFlow.Store

open Editor (SaveRequest)

theorem stemOf_scriptFile {slug : String} (h : slug ≠ "") :
    Path.stemOf (scriptFile slug) = slug := by
  have hback : (scriptFile slug).toList.reverse = 'y' :: 'p' :: '.' :: slug.toList.reverse := by
    simp [scriptFile]
  have hlist : slug.toList ≠ [] := mt String.toList_eq_nil_iff.mp h
  simp [Path.stemOf, hback, hlist]

theorem isSuffixOf_scriptFile (slug : String) :
    ".py".toList.isSuffixOf (scriptFile slug).toList = true := by
  rw [List.isSuffixOf_iff_suffix, scriptFile, String.toList_append]
  exact List.suffix_append _ _

theorem isSuffixOf_documentFile (slug : String) :
    ".py".toList.isSuffixOf (documentFile slug).toList = false := by
  rw [← Bool.not_eq_true, List.isSuffixOf_iff_suffix]
  rintro ⟨before, hbefore⟩
  have hlast := congrArg List.getLast? hbefore
  simp [documentFile] at hlast

namespace Catalogue

variable {c : Catalogue} {store : ScriptStore} {slug : String}

theorem Sound.slug_ne_empty (h : c.Sound store) (hslug : slug ∈ Table.keys c) : slug ≠ "" := by
  obtain ⟨request, hget⟩ := Table.mem_keys_iff.mp hslug
  obtain ⟨n, -, rfl, -⟩ := h.claimed slug request hget
  exact candidate_ne_empty (Store.slug_ne_empty _) n

def sorted (c : Catalogue) : List String := (Table.keys c).mergeSort fun a b => !decide (b < a)

theorem mem_sorted_iff : slug ∈ c.sorted ↔ slug ∈ Table.keys c :=
  (List.mergeSort_perm _ _).mem_iff

theorem slugsIn_folder (h : c.Sound store) : ScriptStore.slugsIn c.folder = c.sorted := by
  have hfilter : ∀ slugs : List String,
      (slugs.flatMap fun slug => [scriptFile slug, documentFile slug]).filter
        (fun name => ".py".toList.isSuffixOf name.toList) = slugs.map scriptFile := by
    intro slugs
    induction slugs with
    | nil => rfl
    | cons slug slugs ih =>
        rw [List.flatMap_cons, List.filter_append, ih]
        simp only [List.filter_cons, isSuffixOf_scriptFile, isSuffixOf_documentFile]
        rfl
  have hstems : ((Table.keys c).map scriptFile).map Path.stemOf = Table.keys c := by
    rw [List.map_map, List.map_congr_left (g := id), List.map_id]
    intro slug hslug
    exact stemOf_scriptFile (h.slug_ne_empty hslug)
  rw [ScriptStore.slugsIn, keys_folder, hfilter, hstems, sorted]

theorem pairwise_sorted (h : c.Sound store) : c.sorted.Pairwise (· < ·) := by
  have hle : c.sorted.Pairwise fun a b => (!decide (b < a)) = true := by
    apply List.pairwise_mergeSort
    · intro a b c hab hbc
      simp only [Bool.not_eq_true', decide_eq_false_iff_not, not_lt] at hab hbc ⊢
      exact hab.trans hbc
    · intro a b
      simp only [Bool.or_eq_true, Bool.not_eq_true', decide_eq_false_iff_not, not_lt]
      exact le_total a b
  have hnodup : c.sorted.Nodup := (List.mergeSort_perm _ _).nodup_iff.mpr h.nodup_slugs
  apply hle.imp₂ _ hnodup
  intro a b hle hne
  simp only [Bool.not_eq_true', decide_eq_false_iff_not, not_lt] at hle
  exact lt_of_le_of_ne hle hne

def nameAt (c : Catalogue) (slug : String) : String :=
  ((Table.get? c slug).map SaveRequest.name).getD ""

def slugOf (c : Catalogue) (name : String) : String :=
  ((Table.keys c).find? fun slug => c.nameAt slug = name).getD ""

theorem nameAt_of_get? {request : SaveRequest} (h : Table.get? c slug = some request) :
    c.nameAt slug = request.name := by
  rw [nameAt, h]
  rfl

theorem slugOf_name (h : c.Sound store) {request : SaveRequest}
    (hslug : Table.get? c slug = some request) : c.slugOf request.name = slug := by
  unfold slugOf
  cases hfind : (Table.keys c).find? fun slug => c.nameAt slug = request.name with
  | none =>
      have hmem : slug ∈ Table.keys c := Table.mem_keys_iff.mpr ⟨request, hslug⟩
      have hnot := List.find?_eq_none.mp hfind slug hmem
      exact absurd (decide_eq_true (nameAt_of_get? hslug)) hnot
  | some other =>
      have hname : c.nameAt other = request.name := by simpa using List.find?_some hfind
      obtain ⟨saved, hsaved⟩ := Table.mem_keys_iff.mp (List.mem_of_find?_eq_some hfind)
      rw [nameAt_of_get? hsaved] at hname
      exact h.slug_unique hsaved hslug hname

theorem slugOf_nameAt (h : c.Sound store) (hslug : slug ∈ Table.keys c) :
    c.slugOf (c.nameAt slug) = slug := by
  obtain ⟨request, hget⟩ := Table.mem_keys_iff.mp hslug
  rw [nameAt_of_get? hget, slugOf_name h hget]

theorem map_slugOf_nameAt_sorted (h : c.Sound store) :
    (c.sorted.map c.nameAt).map c.slugOf = c.sorted := by
  rw [List.map_map, List.map_congr_left (g := id), List.map_id]
  intro slug hslug
  exact slugOf_nameAt h (mem_sorted_iff.mp hslug)

theorem listedName_folder (h : c.Sound store) {request : SaveRequest}
    (hslug : Table.get? c slug = some request) (hname : request.name ≠ "") :
    store.listedName c.folder slug = .ok (.text request.name) := by
  have howner := ownerIn_folder h.readable (h.fits slug request hslug)
  rw [hslug] at howner
  simp [ScriptStore.listedName, howner, Json.isBlank, hname, bind, Except.bind, pure, Except.pure]

theorem mapM_listedName (h : c.Sound store)
    (hnames : ∀ slug request, Table.get? c slug = some request → request.name ≠ "")
    {slugs : List String} (hslugs : ∀ slug ∈ slugs, slug ∈ Table.keys c) :
    slugs.mapM (store.listedName c.folder) = .ok (slugs.map fun slug => .text (c.nameAt slug)) := by
  induction slugs with
  | nil => rfl
  | cons slug slugs ih =>
      rw [List.forall_mem_cons] at hslugs
      obtain ⟨request, hget⟩ := Table.mem_keys_iff.mp hslugs.1
      have hlisted := listedName_folder h hget (hnames slug request hget)
      rw [List.mapM_cons, hlisted, ih hslugs.2, List.map_cons, nameAt_of_get? hget]
      rfl

end Catalogue

end BrowserFlow.Store
