import BrowserFlow.Document.Limits
import BrowserFlow.Proofs.Document.Grammar
import BrowserFlow.Proofs.Json.Extent

/-!
# Complete documents

What the check answers with is complete: checked once more it passes as it is, and there is
nothing to warn of (`checkWithin_toJson`). The complete form of an entry has a kind or a
source, so that it is not taken for one of the earlier editor, whatever other keys it has;
its parameters are those that were kept before, and entering what was left out a second
time changes nothing. The limits that held for a document hold for its complete form, since
only the parameters of a step can be a part that it did not have.
-/

namespace BrowserFlow

namespace Journaled

variable {ε α β : Type}

theorem pure_bind (a : α) (next : α → Journaled ε β) : (pure a >>= next) = next a := rfl

theorem eq_pure {x : Journaled ε α} {a : α} (hrecords : x.records = [])
    (hresult : x.result = .ok a) : x = pure a := by
  obtain ⟨records, result⟩ := x
  subst hrecords hresult
  rfl

theorem require_eq_pure {p : Prop} [Decidable p] (h : p) (e : ε) : require p e = pure () := if_pos h

end Journaled

theorem Table.set_set {α : Type} (t : Table α) (key : String) (v w : α) :
    set (set t key v) key w = set t key w := by
  induction t with
  | nil => simp [set]
  | cons entry t ih =>
      obtain ⟨k, u⟩ := entry
      by_cases hk : k = key
      · simp [set, hk]
      · simp [set, hk, ih]

namespace Document

open Journaled

/-! ## Entries -/

theorem checkParams_of_takes {place : String} {kind : Kind} {entries : Table Json}
    (h : kind.shape.Takes entries) : checkParams place kind entries = pure entries := by
  induction entries with
  | nil => rfl
  | cons entry entries ih =>
      obtain ⟨key, v⟩ := entry
      obtain ⟨⟨field, hfield, haccepts⟩, hrest⟩ := List.forall_mem_cons.mp h
      rw [checkParams, hfield]
      simp only [require_eq_pure haccepts, pure_bind, ih hrest]

theorem nodeParams_of_takes {place : String} {kind : Kind} {fields kept : Table Json}
    (hfields : Table.get? fields "params" = some (.object kept)) (h : kind.shape.Takes kept) :
    nodeParams place kind fields = pure kept := by
  rw [nodeParams, hfields]
  simp only [checkParams_of_takes h]
  rfl

theorem records_nodePosition (place : String) (fields : Table Json) :
    (nodePosition place fields).records = [] := by
  rw [nodePosition]
  split
  · rfl
  · rename_i coordinates _
    simp only [required]
    cases Table.get? coordinates "x" with
    | none => rfl
    | some x =>
        cases Table.get? coordinates "y" with
        | none => rfl
        | some y => rfl
  · rfl

/-- The position is read from its own field only, and without records. -/
theorem nodePosition_eq_pure {place : String} {fields complete : Table Json} {p : Position}
    (hfields : Table.get? complete "position" = Table.get? fields "position")
    (h : (nodePosition place fields).result = .ok p) : nodePosition place complete = pure p := by
  have hsame : nodePosition place complete = nodePosition place fields := by
    rw [nodePosition, nodePosition, hfields]
  rw [hsame]
  exact eq_pure (records_nodePosition _ _) h

theorem required_eq_pure {place key : String} {fields : Table Json} {v : Json}
    (h : Table.get? fields key = some v) : required place key fields = pure v := by
  rw [required, h]

/-- The parameters that are kept are some of those that were given. -/
theorem copyDepth_nodeParams_le {place : String} {kind : Kind} {fields kept : Table Json}
    (h : (nodeParams place kind fields).result = .ok kept) :
    (Json.object kept).copyDepth ≤ max (Json.fieldsExtent 2 1 2 fields) 3 := by
  unfold nodeParams at h
  split at h
  · obtain rfl := result_pure_eq_ok_iff.mp h
    exact Nat.le_max_right _ _
  · rename_i given hgiven
    rw [result_mapError, mapError_eq_ok_iff] at h
    obtain ⟨-, rfl⟩ := result_checkParams_eq_ok_iff.mp h
    calc 2 + Json.fieldsExtent 2 1 2 (given.filter fun entry => (kind.shape.field? entry.1).isSome)
        ≤ 2 + Json.fieldsExtent 2 1 2 given :=
          Nat.add_le_add_left (Json.fieldsExtent_le_of_subset (List.filter_subset_self _)) 2
      _ ≤ Json.fieldsExtent 2 1 2 fields :=
          Json.extent_le_fieldsExtent (Table.mem_of_get? hgiven)
      _ ≤ _ := Nat.le_max_left _ _
  · exact absurd h result_fail_ne_ok

/-- What an entry is completed to is in the present form, and deeper than the entry at
most by parameters that were left out. -/
structure Completes (modern : Json → Json) (entry complete : Json) : Prop where
  modern_eq : modern complete = complete
  copyDepth_le : complete.copyDepth ≤ max entry.copyDepth 5

theorem copyDepth_set_le {fields : Table Json} {key : String} {v : Json}
    (h : v.copyDepth ≤ max (Json.fieldsExtent 2 1 2 fields) 3) :
    (Json.object (Table.set fields key v)).copyDepth ≤ max (Json.object fields).copyDepth 5 := by
  have hset := @Json.fieldsExtent_set_le 2 1 2 fields key v
  rw [Json.copyDepth] at h
  simp only [Json.copyDepth, Json.extent]
  omega

theorem checkNode_fields {seen : List String} {index : Nat} {entry : Json} {read : NodeEntry}
    (h : (checkNode seen index entry).result = .ok read) :
    checkNode seen index (.object read.fields) = pure read ∧
      Completes Legacy.modernNode entry (.object read.fields) := by
  unfold checkNode at h
  split at h
  · rename_i fields
    simp only [result_bind_eq_ok_iff, result_require_eq_ok_iff, result_required_eq_ok_iff,
      result_asText_eq_ok_iff] at h
    obtain ⟨_, hid, _, hkind, id, rfl, kindName, rfl, -, hnew, h⟩ := h
    split at h
    · exact absurd h result_fail_ne_ok
    · rename_i kind hname
      simp only [result_bind_eq_ok_iff, result_pure_eq_ok_iff] at h
      obtain ⟨position, hposition, params, hparams, rfl⟩ := h
      -- completing the parameters leaves every other field as it was
      have hother : ∀ key, "params" ≠ key →
          Table.get? (Table.set fields "params" (.object params)) key = Table.get? fields key := by
        intro key hkey
        rw [Table.get?_set, if_neg hkey]
      have hid' := (hother "id" (by decide)).trans hid
      have hkind' := (hother "kind" (by decide)).trans hkind
      have hparams' : Table.get? (Table.set fields "params" (.object params)) "params" =
          some (.object params) := by
        rw [Table.get?_set, if_pos rfl]
      refine ⟨?_, ?_, copyDepth_set_le (copyDepth_nodeParams_le hparams)⟩
      · rw [checkNode, required_eq_pure hid', required_eq_pure hkind']
        simp only [pure_bind, asText, require_eq_pure hnew, hname,
          nodePosition_eq_pure (hother "position" (by decide)) hposition,
          nodeParams_of_takes hparams' (takes_of_nodeParams hparams), Table.set_set]
      · rw [Legacy.modernNode, hkind']
  · exact absurd h result_fail_ne_ok

theorem checkEdge_fields {nodeIds seen : List String} {index : Nat} {entry : Json}
    {read : EdgeEntry} (h : (checkEdge nodeIds seen index entry).result = .ok read) :
    checkEdge nodeIds seen index (.object read.fields) = pure read ∧
      Completes Legacy.modernEdge entry (.object read.fields) := by
  unfold checkEdge at h
  split at h
  · rename_i fields
    simp only [edgeEnd, result_bind_eq_ok_iff, result_require_eq_ok_iff,
      result_required_eq_ok_iff, result_asText_eq_ok_iff, result_pure_eq_ok_iff] at h
    obtain ⟨_, hsource, _, htarget, source, ⟨_, rfl, -, hsourceMem, rfl⟩,
      target, ⟨_, rfl, -, htargetMem, rfl⟩, id, hid, -, hnew, rfl⟩ := h
    rw [hid]
    -- the id is entered, and the ends are those of before
    have hother : ∀ key, "id" ≠ key →
        Table.get? (Table.set fields "id" (.text id)) key = Table.get? fields key := by
      intro key hkey
      rw [Table.get?_set, if_neg hkey]
    have hsource' := (hother "sourceNodeId" (by decide)).trans hsource
    have htarget' := (hother "targetNodeId" (by decide)).trans htarget
    have hid' : Table.get? (Table.set fields "id" (.text id)) "id" = some (.text id) := by
      rw [Table.get?_set, if_pos rfl]
    have hdepth : (Json.text id).copyDepth ≤ max (Json.fieldsExtent 2 1 2 fields) 3 :=
      Nat.le_trans (by decide : 2 ≤ 3) (Nat.le_max_right _ _)
    refine ⟨?_, ?_, copyDepth_set_le hdepth⟩
    · rw [checkEdge, required_eq_pure hsource', required_eq_pure htarget']
      simp only [pure_bind, edgeEnd, asText, require_eq_pure hsourceMem,
        require_eq_pure htargetMem, hid', Option.getD_some, require_eq_pure hnew, Table.set_set]
    · rw [Legacy.modernEdge, hsource']
  · exact absurd h result_fail_ne_ok

/-! ## Documents -/

/-- Entries that pass one by one as they were completed pass as a list. -/
theorem checkAll_fields {α : Type} (complete : α → Json) {id : α → String} {modern : Json → Json}
    {check : List String → Nat → Json → Journaled Fault α}
    {checkAll : List String → Nat → List Json → Journaled Fault (List α)}
    (hcheck : ∀ {seen index entry read}, (check seen index entry).result = .ok read →
      check seen index (complete read) = pure read ∧ Completes modern entry (complete read))
    (hnil : ∀ seen index, checkAll seen index [] = pure [])
    (hcons : ∀ seen index entry rest, checkAll seen index (entry :: rest) = do
      let first ← check seen index entry
      let others ← checkAll (seen ++ [id first]) (index + 1) rest
      return first :: others)
    {seen : List String} {index : Nat} {entries : List Json} {all : List α}
    (h : (checkAll seen index entries).result = .ok all) :
    checkAll seen index (all.map complete) = pure all ∧
      List.Forall₂ (Completes modern) entries (all.map complete) := by
  -- the completed entries have the ids of those that were read, so each meets the same ids
  induction entries generalizing seen index all with
  | nil =>
      rw [hnil] at h
      obtain rfl := result_pure_eq_ok_iff.mp h
      exact ⟨hnil _ _, .nil⟩
  | cons entry entries ih =>
      rw [hcons] at h
      simp only [result_bind_eq_ok_iff, result_pure_eq_ok_iff] at h
      obtain ⟨first, hfirst, others, hothers, rfl⟩ := h
      obtain ⟨hagain, hcomplete⟩ := hcheck hfirst
      obtain ⟨hagainAll, hcompleteAll⟩ := ih hothers
      refine ⟨?_, .cons hcomplete hcompleteAll⟩
      rw [List.map_cons, hcons, hagain, pure_bind, hagainAll]
      rfl

theorem map_modern_eq {modern : Json → Json} {entries complete : List Json}
    (h : List.Forall₂ (Completes modern) entries complete) : complete.map modern = complete := by
  induction h with
  | nil => rfl
  | cons hfirst _ ih => rw [List.map_cons, hfirst.modern_eq, ih]

theorem itemsExtent_complete_le {modern : Json → Json} {entries complete : List Json}
    (h : List.Forall₂ (Completes modern) entries complete) :
    Json.itemsExtent 2 1 2 complete ≤ max (Json.itemsExtent 2 1 2 entries) 5 := by
  induction h with
  | nil => decide
  | cons hfirst _ ih =>
      have hdepth := hfirst.copyDepth_le
      simp only [Json.copyDepth] at hdepth
      simp only [Json.itemsExtent]
      omega

/-- The complete form of a document passes as it is, and its copy goes no deeper than that
of the document, or of one with a step that has no parameters. -/
theorem check_toJson {document : Json} {doc : Checked} (h : (check document).result = .ok doc) :
    check doc.toJson = pure doc ∧ copyDepth doc.toJson ≤ max (copyDepth document) 9 := by
  unfold check at h
  split at h
  · rename_i fields
    simp only [result_bind_eq_ok_iff, result_pure_eq_ok_iff, result_required_eq_ok_iff,
      result_entries_eq_ok_iff] at h
    obtain ⟨_, hnodeItems, _, hedgeItems, nodeItems, rfl, edgeItems, rfl, nodes, hnodes,
      edges, hedges, rfl⟩ := h
    obtain ⟨hnodes, hnodesComplete⟩ := checkAll_fields
      (fun read : NodeEntry => .object read.fields) checkNode_fields (fun _ _ => rfl)
      (fun _ _ _ _ => rfl) hnodes
    obtain ⟨hedges, hedgesComplete⟩ := checkAll_fields
      (fun read : EdgeEntry => .object read.fields) checkEdge_fields (fun _ _ => rfl)
      (fun _ _ _ _ => rfl) hedges
    have hnodesModern := map_modern_eq hnodesComplete
    have hedgesModern := map_modern_eq hedgesComplete
    constructor
    · simp only [check, Checked.toJson, required, Table.get?, entries, reduceIte, pure_bind,
        String.reduceEq, hnodesModern, hedgesModern, hnodes, hedges]
    · have hnodesDepth := itemsExtent_complete_le hnodesComplete
      have hedgesDepth := itemsExtent_complete_le hedgesComplete
      simp only [copyDepth, Checked.toJson, Json.field?, Table.get?, reduceIte, String.reduceEq,
        Legacy.modernise, hnodesModern, hedgesModern, hnodeItems, hedgeItems, Json.copyDepth,
        Json.extent, Json.fieldsExtent]
      omega
  · exact absurd h result_fail_ne_ok

/-- Within limits that allow a step without parameters, the complete form of a document
passes as it is, without records. -/
theorem checkWithin_toJson {limits : Json.Limits} {document : Json} {doc : Checked}
    (hcopied : Json.Limits.allows limits.copied 9 = true)
    (h : (checkWithin limits document).result = .ok doc) :
    checkWithin limits doc.toJson = pure doc := by
  unfold checkWithin at h
  split at h
  · rename_i hfits
    rw [result_mapError, mapError_eq_ok_iff] at h
    obtain ⟨hagain, hdepth⟩ := check_toJson h
    have hmax : Json.Limits.allows limits.copied (max (copyDepth document) 9) = true := by
      rcases Nat.le_total (copyDepth document) 9 with hle | hle
      · rwa [Nat.max_eq_right hle]
      · rw [Nat.max_eq_left hle]
        exact hfits
    rw [checkWithin_of_fits (Json.Limits.allows_of_le hdepth hmax), hagain]
    rfl
  · exact absurd h result_fail_ne_ok

end Document

end BrowserFlow
