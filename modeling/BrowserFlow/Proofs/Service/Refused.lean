import BrowserFlow.Proofs.Service.Served

/-!
# What a request to save leaves behind

A request to save may bring a name, and the script gets it before anything is checked: before
the name is found blank, the flow is found to have no start, or the store fails. So the
session afterwards is the one before under the name that was brought, whatever the reply is
(`session_after_save`). All else of the session, the other sessions and the registry is as it
was; but where the request is refused the session is unchanged just if the request brings no
other name.
-/

namespace BrowserFlow.Service

open BrowserFlow.Action
open Editor (Edit Event SaveRequest Session)

variable {τ : Type}

def Body.broughtName : Body → Option String
  | .value (.object fields) => (Table.get? fields "name").bind Json.text?
  | _ => none

theorem ofRequest_save_cases (id : String) (body : Body) :
    Operation.ofRequest (.save id) body = .ok (.save id body.broughtName) ∨
      body.broughtName = none ∧ ∃ fault, Operation.ofRequest (.save id) body = .error fault := by
  rcases body with _ | _ | _ | v
  · exact Or.inl rfl
  · exact Or.inr ⟨rfl, _, rfl⟩
  · exact Or.inr ⟨rfl, _, rfl⟩
  · cases v with
    | null => exact Or.inl rfl
    | bool b => exact Or.inr ⟨rfl, _, rfl⟩
    | number x => exact Or.inr ⟨rfl, _, rfl⟩
    | text s => exact Or.inr ⟨rfl, _, rfl⟩
    | list items => exact Or.inr ⟨rfl, _, rfl⟩
    | object fields =>
        simp only [Operation.ofRequest, Body.optional, Body.required, Body.readValue,
          optionalField, Body.broughtName]
        cases hfield : Table.get? fields "name" with
        | none => exact Or.inl rfl
        | some v =>
            cases v with
            | null | text s => exact Or.inl rfl
            | bool b | number x | list items | object others => exact Or.inr ⟨rfl, _, rfl⟩

theorem state_beginSave (name : Option String) (s : Session) :
    (beginSave name s).state = { s with name := name.getD s.name } := by
  cases name with
  | none => exact (Session.looks_prepareSave s).1
  | some name =>
      have hrename : (Session.rename name >>= fun _ => Session.prepareSave) s =
          Session.prepareSave { s with name := name } := rfl
      change ((Session.rename name >>= fun _ => Session.prepareSave) s).state = _
      rw [hrename]
      exact (Session.looks_prepareSave _).1

theorem session_saveScript (store : SaveRequest → Action τ Event Failure Json)
    (name : Option String) (s : Session) (outside : τ) :
    (saveScript store name (s, outside)).state.1 = { s with name := name.getD s.name } := by
  let renamed : Session := { s with name := name.getD s.name }
  refine Preserves.of_bind (P := fun both : Session × τ => both.1 = renamed)
    (state_beginSave name s) fun request => ?_
  refine (preserves_attempt_onSecond (· = renamed) (store request)).bind fun answer => ?_
  refine Preserves.onFirst (P := (· = renamed)) ?_
  exact (preserves_finishSave _ _ answer).bind fun v =>
    (looks_read.bind fun s => looks_pure _).preserves _

/-- The session gets the name, and keeps its own where the body does not fit. -/
theorem registry_answer_save (c : Collaborators τ) (r : Registry) (outside : τ) {id : String}
    {s : Session} (hs : Table.get? r.sessions id = some s) {request : Request}
    (hsave : destination request.method request.path = .endpoint (.save id)) :
    (answer c request r outside).registry = { r with
      sessions := Table.set r.sessions id
        { s with name := request.body.broughtName.getD s.name } } := by
  rcases ofRequest_save_cases id request.body with hbody | ⟨hnone, fault, hbody⟩
  · have hasks : request.Asks (.save id request.body.broughtName) := ⟨_, hsave, hbody⟩
    rw [answer_of_asks hasks]
    change (Registry.onSession id (saveScript c.save _) (r, outside)).state.1 = _
    rw [Registry.onSession_of_some hs, session_saveScript]
  · rw [hnone, Option.getD_none, Table.set_of_get? hs]
    rcases answer_cases c request r outside with ⟨hsame, -⟩ | ⟨operation, hasks, -⟩
    · exact hsame
    · obtain ⟨endpoint, hendpoint, hfits⟩ := hasks
      obtain rfl := Destination.endpoint.inj (hsave.symm.trans hendpoint)
      rw [hbody] at hfits
      cases hfits

/-- Whatever the reply to a request to save is, the session afterwards is the one before under
the name that the body brings, and nothing else in the registry has changed. So just the
requests that bring no other name leave the session as it was. -/
theorem session_after_save (c : Collaborators τ) (r : Registry) (outside : τ) {id : String}
    {s : Session} (hs : Table.get? r.sessions id = some s) {request : Request}
    (hsave : destination request.method request.path = .endpoint (.save id)) :
    let name := request.body.broughtName
    let after := (answer c request r outside).registry
    Table.get? after.sessions id = some { s with name := name.getD s.name } ∧
      (∀ other, other ≠ id → Table.get? after.sessions other = Table.get? r.sessions other) ∧
      after.listeners = r.listeners ∧ after.opened = r.opened ∧
      (Table.get? after.sessions id = some s ↔
        ∀ brought, name = some brought → brought = s.name) := by
  intro name after
  have hafter : after = { r with
      sessions := Table.set r.sessions id { s with name := name.getD s.name } } :=
    registry_answer_save c r outside hs hsave
  have hsession : Table.get? after.sessions id = some { s with name := name.getD s.name } := by
    rw [hafter, Table.get?_set, if_pos rfl]
  refine ⟨hsession, ?_, by rw [hafter], by rw [hafter], ?_⟩
  · intro other hother
    rw [hafter, Table.get?_set, if_neg (Ne.symm hother)]
  · rw [hsession]
    constructor
    · intro hsame brought hbrought
      have hname : name.getD s.name = s.name := congrArg Session.name (Option.some.inj hsame)
      rwa [hbrought, Option.getD_some] at hname
    · intro hall
      cases hname : name with
      | none => rfl
      | some brought => rw [Option.getD_some, hall brought hname]

def raising (raised : Raised) : Collaborators Unit where
  save := fun _ => Action.fail (.raised raised)
  names := fun _ => .ok []
  runner := some fun _ => Action.fail (.raised raised)

def openFirst : Request := ⟨"POST", "/api/sessions".toList, .absent⟩

def firstSession : Session := Session.create (Registry.sessionId 1) Editor.defaultName []

theorem get?_openFirst (c : Collaborators Unit) :
    Table.get? (served c ({}, ()) [openFirst]).1.sessions (Registry.sessionId 1) =
      some firstSession := rfl

def saveFirst (body : Body) : Request :=
  ⟨"POST", "/api/sessions/00000000000000000000000000000001/save".toList, body⟩

theorem destination_saveFirst (body : Body) :
    destination (saveFirst body).method (saveFirst body).path =
      .endpoint (.save (Registry.sessionId 1)) := by
  change destination "POST" (saveFirst .absent).path = _
  decide +kernel

/-- Under a full disk, a save under the name of the session and one under another name. -/
theorem session_after_save_failing :
    let c := raising ⟨.other "OSError", some "disk full"⟩
    let opened := (served c ({}, ()) [openFirst]).1
    let id := Registry.sessionId 1
    let after := fun body => (answer c (saveFirst body) opened ()).registry
    ∃ s, Table.get? opened.sessions id = some s ∧
      Table.get? (after .absent).sessions id = some s ∧
      Table.get? (after (.value (.object [("name", .text "Other")]))).sessions id =
        some { s with name := "Other" } := by
  intro c opened id after
  have hfirst : Table.get? opened.sessions id = some firstSession := get?_openFirst c
  refine ⟨firstSession, hfirst, ?_, ?_⟩
  · exact (session_after_save c opened () hfirst (destination_saveFirst .absent)).1
  · exact (session_after_save c opened () hfirst (destination_saveFirst _)).1

/-- A request to save under a blank name is refused, and the session has the name. -/
theorem not_unchanged_blank :
    let c := raising ⟨.other "OSError", some "disk full"⟩
    let opened := (served c ({}, ()) [openFirst]).1
    let id := Registry.sessionId 1
    let request := saveFirst (.value (.object [("name", .text "  ")]))
    let refused := answer c request opened ()
    destination request.method request.path = .endpoint (.save id) ∧ refused.reply.status = 400 ∧
      ∃ s t, Table.get? opened.sessions id = some s ∧
        Table.get? refused.registry.sessions id = some t ∧
        s.name = "My Selenium Script" ∧ t.name = "  " := by
  intro c opened id request refused
  have hfirst : Table.get? opened.sessions id = some firstSession := get?_openFirst c
  have hrefused := registry_answer_save c opened () hfirst (destination_saveFirst request.body)
  refine ⟨destination_saveFirst _, by decide +kernel, firstSession,
    { firstSession with name := "  " }, hfirst, ?_, by decide, rfl⟩
  change Table.get? (answer c (saveFirst request.body) opened ()).registry.sessions id = _
  rw [hrefused, Table.get?_set, if_pos rfl]
  rfl

end BrowserFlow.Service
