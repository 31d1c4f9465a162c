import BrowserFlow.Proofs.Editor.Call

/-!
# The ids that a run gives

The numbers in the ids of new steps come from the counter of the session, which every
addition moves past the number that it takes and which nothing moves back
(`nextNumber_le_perform`), neither clearing nor a flow that is read. The id tells the
number. So no id is given twice along a run, and since each is free at its time,
the steps that are there do not have it either (`given_distinct`).
-/

namespace BrowserFlow.Editor

open BrowserFlow.Action Session

namespace Call

def given? (s : Session) : Call → Option String
  | add kind position params =>
    match (addValues kind position params s).result with
    | .ok node => some node.id
    | .error _ => none
  | _ => none

/-- An id that is given has the least free number, and the counter moves past it. -/
theorem exists_of_given? {call : Call} {s : Session} {id : String} (h : call.given? s = some id) :
    ∃ kind, id = numberedId kind (s.freeNumber kind) ∧
      (call.perform s).state.nextNumber = s.freeNumber kind + 1 := by
  cases call with
  | add kind position params =>
      rw [given?] at h
      split at h
      · rename_i node hnode
        obtain rfl := Option.some.inj h
        obtain ⟨number, ⟨rfl, hid, -⟩, hleaves⟩ := leaves_add hnode
        refine ⟨node.kind, hid, ?_⟩
        rw [hleaves.state_eq]
        rfl
      · exact nomatch h
  | _ => exact nomatch h

end Call

namespace Session

def given (s : Session) : List Call → List String
  | [] => []
  | call :: calls => (call.given? s).toList ++ (call.perform s).state.given calls

theorem le_freeNumber (s : Session) (kind : Kind) : s.nextNumber ≤ s.freeNumber kind :=
  le_firstFrom _ _ _

theorem nextNumber_le_apply {s : Session} {effect : Effect} (h : effect.Allowed s) :
    s.nextNumber ≤ (effect.apply s).nextNumber := by
  cases effect with
  | added node number =>
      obtain ⟨rfl, -, -⟩ := h
      exact Nat.le_succ_of_le (le_freeNumber s node.kind)
  | _ => exact Nat.le_refl _

theorem nextNumber_le_perform (call : Call) (s : Session) :
    s.nextNumber ≤ (call.perform s).state.nextNumber := by
  rcases call.state_perform s with heq | ⟨effect, -, hallowed, heq⟩
  · rw [heq]
  · rw [heq]
    exact nextNumber_le_apply hallowed

theorem exists_of_mem_given {s : Session} {calls : List Call} {id : String}
    (h : id ∈ s.given calls) : ∃ kind n, s.nextNumber ≤ n ∧ id = numberedId kind n := by
  induction calls generalizing s with
  | nil => exact absurd h List.not_mem_nil
  | cons call calls ih =>
      rcases List.mem_append.mp h with hnow | hlater
      · obtain ⟨kind, rfl, -⟩ := Call.exists_of_given? (Option.mem_toList.mp hnow)
        exact ⟨kind, _, le_freeNumber s kind, rfl⟩
      · obtain ⟨kind, n, hle, rfl⟩ := ih hlater
        exact ⟨kind, n, Nat.le_trans (nextNumber_le_perform call s) hle, rfl⟩

/-- The ids of a run are distinct. -/
theorem nodup_given (s : Session) (calls : List Call) : (s.given calls).Nodup := by
  induction calls generalizing s with
  | nil => exact List.nodup_nil
  | cons call calls ih =>
      rw [given]
      cases hgiven : call.given? s with
      | none => exact ih _
      | some id =>
          refine List.nodup_cons.mpr ⟨?_, ih _⟩
          -- the number of this id lies below the counter that the later ones start from
          intro hlater
          obtain ⟨kind, rfl, hnext⟩ := Call.exists_of_given? hgiven
          obtain ⟨other, n, hle, heq⟩ := exists_of_mem_given hlater
          have hsame := (numberedId_inj heq).2
          omega

/-- Along every run of a session no id is given to two new steps, and none is given that
a step has at that moment. -/
theorem given_distinct (s : Session) (calls : List Call) :
    (s.given calls).Nodup ∧
      ∀ before call later id, calls = before ++ call :: later →
        call.given? (s.after before) = some id → id ∉ (s.after before).graph.nodeIds := by
  refine ⟨nodup_given s calls, ?_⟩
  intro before call later id _ hgiven
  obtain ⟨kind, rfl, -⟩ := Call.exists_of_given? hgiven
  exact numberedId_freeNumber_notMem _ kind

/-- The number of a step that was removed is not taken again, not even after clearing, and
a flow that is read may have taken the next one already. -/
theorem given_distinct_loaded :
    let document := Json.object
      [("nodes", .list [.object [("id", .text "wait-2"), ("kind", .text "wait")]]),
        ("edges", .list [])]
    let s := create "s" "flow" []
    let before := [Call.add (.text "wait") .null .null, .remove (.text "wait-1"), .clear,
      .load {} document]
    let call := Call.add (.text "wait") .null .null
    s.given (before ++ [call]) = ["wait-1", "wait-3"] ∧ (s.given (before ++ [call])).Nodup ∧
      "wait-3" ∉ (s.after before).graph.nodeIds := by
  intro document s before call
  have hgiven : call.given? (s.after before) = some "wait-3" := by decide
  obtain ⟨hnodup, hfresh⟩ := given_distinct s (before ++ [call])
  exact ⟨by decide, hnodup, hfresh before call [] "wait-3" rfl hgiven⟩

end Session

end BrowserFlow.Editor
