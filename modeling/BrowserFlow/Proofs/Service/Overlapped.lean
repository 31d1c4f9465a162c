import BrowserFlow.Proofs.Service.Relayed

/-!
# Saves that overlap with other requests

A save has two halves with the store in between, which takes its time. What other requests do to
the session meanwhile comes in turns: calls, changes of a step, and halves of other saves, which
may end in any order. A turn gives the session a name or leaves it the one it has
(`Turn.name_take`), so after a run of turns it has the name that was given last
(`name_through`).

What the store gets and what is announced is settled in the first half, and is of one moment: a
name, and the script of the flow that is handed along. But the reply has the name that the
session has in the second half, and this is the name of what was stored just if no other name
was given last (`overlapped_save`).
-/

namespace BrowserFlow.Service

open BrowserFlow.Action
open Editor (Call Does Edit Effect Event SaveRequest Session)

/-- What may be done to a session in one go while a save is pending. -/
inductive Turn where
  | call (c : Call)
  | change (id : String) (params position : Option (Table Json))
  /-- The first half of another save. -/
  | begin (name : Option String)
  /-- The second half of another save, which has handed a name to the store. -/
  | finish (handed : String) (answer : Except Failure Json)

namespace Turn

def take : Turn → Session → Session
  | call c, s => (c.perform s).state
  | change id params position, s => (changeNode id params position s).state
  | begin name, s => (beginSave name s).state
  | finish handed answer, s => (finishSave handed answer s).state

def given? : Turn → Option String
  | call (.rename name) => some name
  | begin name => name
  | _ => none

end Turn

/-! ## The name of the session -/

theorem name_apply {effect : Effect} (h : ∀ name, effect ≠ .renamed name) (s : Session) :
    (effect.apply s).name = s.name := by
  cases effect with
  | renamed name => exact absurd rfl (h name)
  | _ => rfl

theorem ne_renamed_of_causes {call : Call} {effect : Effect} (hcauses : call.Causes effect)
    (hcall : ∀ name, call ≠ .rename name) (name : String) : effect ≠ .renamed name := by
  rintro rfl
  cases call with
  | rename other => exact hcall other rfl
  | _ => simp [Call.Causes] at hcauses

theorem preserves_name {α : Type} {x : Edit α} {fits : Session → Effect → α → Prop}
    (hx : ∀ s, Does x s (fits s)) (hfits : ∀ s effect a, fits s effect a →
      ∀ name, effect ≠ .renamed name) (name : String) :
    Preserves (fun s : Session => s.name = name) x := by
  intro s hs
  rcases hx s with ⟨failure, h⟩ | ⟨effect, a, hfit, -, h⟩
  · rwa [h.state_eq]
  · rw [h.state_eq, name_apply (hfits s effect a hfit), hs]

theorem preserves_name_changeNode (id : String) (params position : Option (Table Json))
    (name : String) :
    Preserves (fun s : Session => s.name = name) (changeNode id params position) := by
  have hfind : Preserves (fun s : Session => s.name = name) (Session.findNode id) :=
    (Session.looks_findNode id).preserves _
  have hplace : Preserves (fun s : Session => s.name = name) (changeNode id none position) := by
    cases position with
    | none => exact hfind
    | some p =>
        refine Preserves.bind (preserves_name (Session.does_moveNode id _ _) ?_ name) fun _ => hfind
        rintro s effect node ⟨old, place, -, rfl, -⟩ other
        exact nofun
  cases params with
  | none => exact hplace
  | some changes =>
      refine ((Session.looks_handlerFor id).preserves _).bind fun handler => ?_
      refine Preserves.bind (preserves_name
        (Session.does_updateParams handler.nodeId changes) ?_ name) fun _ => hplace
      rintro s effect node ⟨old, kept, -, rfl, -⟩ other
      exact nofun

theorem Turn.name_take (turn : Turn) (s : Session) :
    (turn.take s).name = turn.given?.getD s.name := by
  cases turn with
  | change id params position => exact preserves_name_changeNode id params position s.name s rfl
  | begin name =>
      rw [take, given?, state_beginSave]
  | finish handed answer =>
      have hsame : (finishSave handed answer s).state = s := by cases answer <;> rfl
      rw [take, hsame]
      rfl
  | call c =>
      by_cases hrename : ∃ name, c = .rename name
      · obtain ⟨name, rfl⟩ := hrename
        rfl
      · have hother : ∀ name, c ≠ .rename name := fun name heq => hrename ⟨name, heq⟩
        have hgiven : (Turn.call c).given? = none := by
          cases c with
          | rename name => exact absurd rfl (hother name)
          | _ => rfl
        rw [hgiven, Option.getD_none, take]
        rcases c.state_perform s with hsame | ⟨effect, hcauses, -, hdone⟩
        · rw [hsame]
        · rw [hdone, name_apply (ne_renamed_of_causes hcauses hother)]

def through (s : Session) (turns : List Turn) : Session :=
  turns.foldl (fun s turn => turn.take s) s

/-- After a run of turns a session has the name that was given last. -/
theorem name_through (s : Session) (turns : List Turn) :
    (through s turns).name = (turns.filterMap Turn.given?).getLast?.getD s.name := by
  induction turns generalizing s with
  | nil => rfl
  | cons turn turns ih =>
      change (through (turn.take s) turns).name = _
      rw [ih, turn.name_take]
      cases hgiven : turn.given? with
      | none => rw [List.filterMap_cons_none hgiven, Option.getD_none]
      | some name =>
          rw [List.filterMap_cons_some hgiven, List.getLast?_cons]
          rfl

/-! ## What is handed over, announced and told -/

/-- A save hands over the script of the flow that it hands along, under a name. -/
structure Hands (s : Session) (name : String) (request : SaveRequest) : Prop where
  name_eq : request.name = name
  graph_eq : ⟨request.nodes, request.edges⟩ = s.graph
  script_eq : (Graph.compile ⟨request.nodes, request.edges⟩ (.ofBool true)).result =
    .ok request.script

theorem hands_of_beginSave {name : Option String} {s : Session} {request : SaveRequest}
    (h : (beginSave name s).result = .ok request) : Hands s (name.getD s.name) request := by
  let renamed : Session := { s with name := name.getD s.name }
  have hprepared : (Session.prepareSave renamed).result = .ok request :=
    (result_beginSave name s).symm.trans h
  cases hblank : Text.allBlank renamed.name.toList with
  | true =>
      rw [Session.result_prepareSave_of_blank hblank] at hprepared
      cases hprepared
  | false =>
      rw [Session.result_prepareSave hblank, Session.result_compile] at hprepared
      change ((s.graph.compile (.ofBool true)).result.mapError _).map _ = _ at hprepared
      cases hscript : (s.graph.compile (.ofBool true)).result with
      | error fault =>
          rw [hscript] at hprepared
          cases hprepared
      | ok script =>
          rw [hscript] at hprepared
          obtain rfl := Except.ok.inj hprepared
          exact ⟨rfl, rfl, hscript⟩

theorem exists_begun {s : Session} (h : s.Consistent)
    (hstart : ∃ node ∈ s.graph.nodes, node.kind = .start) {name : Option String}
    (hname : Text.allBlank (name.getD s.name).toList = false) :
    ∃ request, (beginSave name s).result = .ok request := by
  obtain ⟨order, -, hscript⟩ := h.exists_order hstart (.ofBool true)
  let renamed : Session := { s with name := name.getD s.name }
  have hprepared := @Session.result_prepareSave renamed hname
  rw [Session.result_compile, hscript] at hprepared
  exact ⟨_, (result_beginSave name s).trans hprepared⟩

def savedReply (name : String) (value : Json) : Reply :=
  .ok (.object [("name", .text name), ("result", value)])

def Reply.shownName? (reply : Reply) : Option String :=
  match reply.content with
  | .verbatim (.object fields) => (Table.get? fields "name").bind Json.text?
  | _ => none

/-- The reply to a save shows its name, if it can be sent. -/
theorem shownName?_sent_savedReply {name : String} {value : Json}
    (h : (savedReply name value).sent.status = 200) :
    (savedReply name value).sent.shownName? = some name := by
  unfold Reply.sent at h ⊢
  split at h
  · rename_i hsendable
    rw [if_pos hsendable]
    rfl
  · cases h

/-- Whatever is done to a session between the halves of a save, the store has got the script of
the flow that it got, under one name, and this name is announced. The reply shows the name that
the session has by then, which was given last meanwhile, or is that of the save if none was; so
it is the name of what was stored just if no other name was given last. Where the store has
failed nothing is announced. -/
theorem overlapped_save {s : Session} {name : Option String} {request : SaveRequest}
    (hbegun : (beginSave name s).result = .ok request) (turns : List Turn) :
    let t := through (beginSave name s).state turns
    let last := (turns.filterMap Turn.given?).getLast?
    Hands s (name.getD s.name) request ∧
      (∀ value, (finishSave request.name (.ok value) t).Leaves t [.saved request.name]
        (.ok (savedReply t.name value))) ∧
      (∀ value, (savedReply t.name value).sent.status = 200 →
        (savedReply t.name value).sent.shownName? = some t.name) ∧
      t.name = last.getD request.name ∧
      (t.name = request.name ↔ ∀ given, last = some given → given = request.name) ∧
      ∀ failure, (finishSave request.name (.error failure) t).Leaves t [] (.error failure) := by
  intro t last
  have hhands := hands_of_beginSave hbegun
  have hname : t.name = last.getD request.name := by
    rw [hhands.name_eq, name_through, state_beginSave]
  refine ⟨hhands, fun value => ⟨rfl, rfl, rfl⟩, fun value => shownName?_sent_savedReply, hname, ?_,
    fun failure => ⟨rfl, rfl, rfl⟩⟩
  rw [hname]
  cases last <;> simp

/-- While a save is pending the script is named otherwise, and then saved under its old name. -/
theorem overlapped_save_twice :
    let s := Session.create "1" "Log in" []
    let turns := [Turn.call (.rename "Other"), .begin (some "Log in"), .finish "Log in" (.ok .null)]
    let t := through (beginSave none s).state turns
    ∃ request, (beginSave none s).result = .ok request ∧
      (finishSave request.name (.ok .null) t).Leaves t [.saved request.name]
        (.ok (savedReply request.name .null)) := by
  intro s turns t
  obtain ⟨request, hbegun⟩ := @exists_begun s (Session.consistent_create _ _ _)
    ⟨_, List.mem_singleton_self _, rfl⟩ none (by decide)
  obtain ⟨hhands, hleaves, -, -, hsame, -⟩ := overlapped_save hbegun turns
  refine ⟨request, hbegun, ?_⟩
  have hname : t.name = request.name := by
    rw [hsame, hhands.name_eq]
    rintro given ⟨rfl⟩
    rfl
  have hanswered := hleaves .null
  rwa [hname] at hanswered

/-- While a save is pending the script gets another name, and the reply shows this one. -/
theorem not_shown_renamed :
    let s := Session.create "1" "Log in" []
    let t := through (beginSave none s).state [Turn.call (.rename "Other")]
    ∃ request, (beginSave none s).result = .ok request ∧ request.name = "Log in" ∧
      (finishSave request.name (.ok .null) t).Leaves t [.saved "Log in"]
        (.ok (savedReply "Other" .null)) ∧
      (savedReply "Other" .null).sent.status = 200 ∧
      (savedReply "Other" .null).sent.shownName? = some "Other" := by
  intro s t
  obtain ⟨request, hbegun⟩ := @exists_begun s (Session.consistent_create _ _ _)
    ⟨_, List.mem_singleton_self _, rfl⟩ none (by decide)
  have hname : request.name = "Log in" := (hands_of_beginSave hbegun).name_eq
  have hstatus : (savedReply "Other" .null).sent.status = 200 := by decide
  refine ⟨request, hbegun, hname, ?_, hstatus, shownName?_sent_savedReply hstatus⟩
  rw [hname]
  exact ⟨rfl, rfl, rfl⟩

end BrowserFlow.Service
