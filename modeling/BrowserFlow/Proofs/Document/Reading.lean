import BrowserFlow.Document.Check
import BrowserFlow.Proofs.Flow.Sound

/-!
# What a document that passes describes

A document passes only if it describes a sound flow whose edges have distinct ids
(`sound_of_importGraph`). The proof follows the check: a computation of several
steps succeeds just when each of them does (`result_bind_eq_ok_iff`), the parameters
that are kept form a proper table, an entry of the list of steps describes a proper
step under a new id, and one of the list of edges an edge under a new id between
steps of the document. The two lists carry the ids seen so far along.
-/

namespace BrowserFlow

namespace Journaled

@[simp] theorem mapError_eq_ok_iff {ε ε' α : Type} {f : ε → ε'} {x : Except ε α} {a : α} :
    x.mapError f = .ok a ↔ x = .ok a := by
  cases x with
  | error e => simp [mapError_error]
  | ok b => simp [mapError_ok]

theorem bind_eq_ok_iff {ε α β : Type} {x : Except ε α} {f : α → Except ε β} {b : β} :
    x.bind f = .ok b ↔ ∃ a, x = .ok a ∧ f a = .ok b := by
  cases x <;> simp [Except.bind]

theorem result_bind_eq_ok_iff {ε α β : Type} {x : Journaled ε α} {next : α → Journaled ε β}
    {b : β} :
    (x >>= next).result = .ok b ↔ ∃ a, x.result = .ok a ∧ (next a).result = .ok b := by
  rw [result_bind, bind_eq_ok_iff]

theorem result_require_eq_ok_iff {ε : Type} {p : Prop} [Decidable p] {e : ε} {u : Unit} :
    (require p e).result = .ok u ↔ p := by
  unfold require
  split <;> simp [*]

theorem result_pure_eq_ok_iff {ε α : Type} {a b : α} :
    (pure a : Journaled ε α).result = .ok b ↔ a = b := by
  simp

theorem result_fail_ne_ok {ε α : Type} {e : ε} {a : α} :
    (fail e : Journaled ε α).result ≠ .ok a := by
  simp

end Journaled

namespace Document

open Journaled

/-- Parameters pass if each one that the kind has can hold its value, and then these
are the ones that are kept. -/
theorem result_checkParams_eq_ok_iff {place : String} {kind : Kind} {entries kept : Table Json} :
    (checkParams place kind entries).result = .ok kept ↔
      (∀ entry ∈ entries, ∀ field, kind.shape.field? entry.1 = some field →
        field.accepts entry.2 = true) ∧
      kept = entries.filter fun entry => (kind.shape.field? entry.1).isSome := by
  induction entries generalizing kept with
  | nil =>
      rw [checkParams, result_pure_eq_ok_iff, eq_comm]
      simp
  | cons entry entries ih =>
      obtain ⟨key, v⟩ := entry
      rw [checkParams]
      cases hfield : kind.shape.field? key with
      | none =>
          rw [result_bind, result_note]
          change (checkParams place kind entries).result = .ok kept ↔ _
          rw [ih]
          simp [hfield]
      | some field =>
          simp only [result_bind_eq_ok_iff, result_require_eq_ok_iff, result_pure_eq_ok_iff, ih]
          constructor
          · rintro ⟨-, haccepts, rest, ⟨hrest, rfl⟩, rfl⟩
            simpa [hfield, haccepts] using hrest
          · rintro ⟨hall, rfl⟩
            rw [List.forall_mem_cons] at hall
            exact ⟨(), hall.1 field hfield, _, ⟨hall.2, rfl⟩, by simp [hfield]⟩

theorem takes_of_checkParams {place : String} {kind : Kind} {entries kept : Table Json}
    (h : (checkParams place kind entries).result = .ok kept) : kind.shape.Takes kept := by
  obtain ⟨hall, rfl⟩ := result_checkParams_eq_ok_iff.mp h
  intro entry hentry
  obtain ⟨hmem, hknown⟩ := List.mem_filter.mp hentry
  obtain ⟨field, hfield⟩ := Option.isSome_iff_exists.mp hknown
  exact ⟨field, hfield, hall entry hmem field hfield⟩

/-- Where every key names a parameter of the kind, passing is to form a proper table,
and everything is kept. -/
theorem result_checkParams_of_known {place : String} {kind : Kind} {entries kept : Table Json}
    (hknown : ∀ entry ∈ entries, (kind.shape.field? entry.1).isSome) :
    (checkParams place kind entries).result = .ok kept ↔
      kind.shape.Takes entries ∧ kept = entries := by
  rw [result_checkParams_eq_ok_iff, List.filter_eq_self.mpr hknown]
  apply and_congr_left
  intro _
  constructor
  · intro hall entry hentry
    obtain ⟨field, hfield⟩ := Option.isSome_iff_exists.mp (hknown entry hentry)
    exact ⟨field, hfield, hall entry hentry field hfield⟩
  · intro htakes entry hentry field hfield
    obtain ⟨other, hother, haccepts⟩ := htakes entry hentry
    rw [hfield] at hother
    rw [Option.some.inj hother]
    exact haccepts

theorem checkPosition_eq_ok_iff {place : String} {x y : Json} {p : Position} :
    checkPosition place x y = .ok p ↔ p.isNumeric = true ∧ p = ⟨x, y⟩ := by
  unfold checkPosition
  split
  · rename_i hnum
    constructor
    · intro h
      obtain rfl := Except.ok.inj h
      exact ⟨hnum, rfl⟩
    · rintro ⟨-, rfl⟩
      rfl
  · rename_i hnum
    constructor
    · intro h
      exact absurd h (by simp)
    · rintro ⟨h, rfl⟩
      exact absurd h hnum

theorem isNumeric_of_nodePosition {place : String} {fields : Table Json} {p : Position}
    (h : (nodePosition place fields).result = .ok p) : p.isNumeric = true := by
  unfold nodePosition at h
  split at h
  · rw [← result_pure_eq_ok_iff.mp h]
    rfl
  · simp only [result_bind_eq_ok_iff, result_mapError, mapError_eq_ok_iff, result_lift,
      checkPosition_eq_ok_iff] at h
    obtain ⟨x, -, y, -, hnum, -⟩ := h
    exact hnum
  · exact absurd h result_fail_ne_ok

/-- The parameters of a step that passes form a proper table of its kind's record. -/
theorem takes_of_nodeParams {place : String} {kind : Kind} {fields kept : Table Json}
    (h : (nodeParams place kind fields).result = .ok kept) : kind.shape.Takes kept := by
  unfold nodeParams at h
  split at h
  · rw [← result_pure_eq_ok_iff.mp h]
    exact Shape.takes_nil _
  · rw [result_mapError, mapError_eq_ok_iff] at h
    exact takes_of_checkParams h
  · exact absurd h result_fail_ne_ok

/-- An entry that passes describes a proper step under a new id. -/
theorem proper_of_checkNode {seen : List String} {index : Nat} {entry : Json} {read : NodeEntry}
    (h : (checkNode seen index entry).result = .ok read) :
    read.node.id ∉ seen ∧ read.node.Proper := by
  unfold checkNode at h
  split at h
  · simp only [result_bind_eq_ok_iff, result_require_eq_ok_iff] at h
    obtain ⟨idValue, -, kindValue, -, id, -, kindName, -, -, hid, h⟩ := h
    split at h
    · exact absurd h result_fail_ne_ok
    · simp only [result_bind_eq_ok_iff, result_pure_eq_ok_iff] at h
      obtain ⟨position, hposition, params, hparams, rfl⟩ := h
      refine ⟨hid, Params.shape_ofPairs _ _, ?_, isNumeric_of_nodePosition hposition⟩
      exact Params.accepts_get_ofPairs (takes_of_nodeParams hparams)
  · exact absurd h result_fail_ne_ok

theorem proper_of_checkNodes {seen : List String} {index : Nat} {entries : List Json}
    {read : List NodeEntry} (hseen : seen.Nodup)
    (h : (checkNodes seen index entries).result = .ok read) :
    (seen ++ read.map fun entry => entry.node.id).Nodup ∧
      ∀ entry ∈ read, entry.node.Proper := by
  induction entries generalizing seen index read with
  | nil =>
      obtain rfl := result_pure_eq_ok_iff.mp h
      simpa using hseen
  | cons entry entries ih =>
      simp only [checkNodes, result_bind_eq_ok_iff, result_pure_eq_ok_iff] at h
      obtain ⟨first, hfirst, others, hothers, rfl⟩ := h
      obtain ⟨hid, hproper⟩ := proper_of_checkNode hfirst
      have hnew : (seen ++ [first.node.id]).Nodup := nodup_append_singleton_iff.mpr ⟨hid, hseen⟩
      obtain ⟨hnodup, hall⟩ := ih hnew hothers
      refine ⟨by simpa using hnodup, ?_⟩
      rw [List.forall_mem_cons]
      exact ⟨hproper, hall⟩

/-- An entry that passes describes an edge under a new id between known steps. -/
theorem ends_of_checkEdge {nodeIds seen : List String} {index : Nat} {entry : Json}
    {read : EdgeEntry} (h : (checkEdge nodeIds seen index entry).result = .ok read) :
    read.edge.id ∉ seen ∧ read.edge.source ∈ nodeIds ∧ read.edge.target ∈ nodeIds := by
  unfold checkEdge at h
  split at h
  · simp only [edgeEnd, result_bind_eq_ok_iff, result_require_eq_ok_iff,
      result_pure_eq_ok_iff] at h
    obtain ⟨-, -, -, -, source, ⟨_, -, -, hsource, rfl⟩, target, ⟨_, -, -, htarget, rfl⟩,
      id, -, -, hid, rfl⟩ := h
    exact ⟨hid, hsource, htarget⟩
  · exact absurd h result_fail_ne_ok

theorem ends_of_checkEdges {nodeIds seen : List String} {index : Nat} {entries : List Json}
    {read : List EdgeEntry} (hseen : seen.Nodup)
    (h : (checkEdges nodeIds seen index entries).result = .ok read) :
    (seen ++ read.map fun entry => entry.edge.id).Nodup ∧
      ∀ entry ∈ read, entry.edge.source ∈ nodeIds ∧ entry.edge.target ∈ nodeIds := by
  induction entries generalizing seen index read with
  | nil =>
      obtain rfl := result_pure_eq_ok_iff.mp h
      simpa using hseen
  | cons entry entries ih =>
      simp only [checkEdges, result_bind_eq_ok_iff, result_pure_eq_ok_iff] at h
      obtain ⟨first, hfirst, others, hothers, rfl⟩ := h
      obtain ⟨hid, hends⟩ := ends_of_checkEdge hfirst
      have hnew : (seen ++ [first.edge.id]).Nodup := nodup_append_singleton_iff.mpr ⟨hid, hseen⟩
      obtain ⟨hnodup, hall⟩ := ih hnew hothers
      refine ⟨by simpa using hnodup, ?_⟩
      rw [List.forall_mem_cons]
      exact ⟨hends, hall⟩

/-- A document that passes describes a sound flow whose edges have distinct ids. -/
theorem sound_of_check {document : Json} {doc : Checked}
    (h : (check document).result = .ok doc) : doc.graph.Sound ∧ doc.graph.edgeIds.Nodup := by
  unfold check at h
  split at h
  · simp only [result_bind_eq_ok_iff, result_pure_eq_ok_iff] at h
    obtain ⟨_, -, _, -, _, -, _, -, nodes, hnodes, edges, hedges, rfl⟩ := h
    obtain ⟨hnodeIds, hproper⟩ := proper_of_checkNodes List.nodup_nil hnodes
    obtain ⟨hedgeIds, hends⟩ := ends_of_checkEdges List.nodup_nil hedges
    have hids : Graph.nodeIds (Checked.graph ⟨nodes, edges⟩) =
        nodes.map fun entry => entry.node.id := by
      simp [Checked.graph, Graph.nodeIds, Function.comp_def]
    constructor
    · constructor
      · rw [hids]
        simpa using hnodeIds
      · rw [hids]
        simp only [Checked.graph, List.forall_mem_map]
        exact fun entry hentry => (hends entry hentry).1
      · rw [hids]
        simp only [Checked.graph, List.forall_mem_map]
        exact fun entry hentry => (hends entry hentry).2
      · simp only [Checked.graph, List.forall_mem_map]
        exact hproper
    · simpa [Checked.graph, Graph.edgeIds, Function.comp_def] using hedgeIds
  · exact absurd h result_fail_ne_ok

theorem sound_of_importGraph {document : Json} {g : Graph}
    (h : (importGraph document).result = .ok g) : g.Sound ∧ g.edgeIds.Nodup := by
  simp only [importGraph, result_bind_eq_ok_iff, result_pure_eq_ok_iff] at h
  obtain ⟨doc, hdoc, -, -, rfl⟩ := h
  exact sound_of_check hdoc

end Document

end BrowserFlow
