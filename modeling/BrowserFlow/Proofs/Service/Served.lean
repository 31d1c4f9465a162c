import BrowserFlow.Proofs.Editor.Consistent
import BrowserFlow.Service.Answer

/-!
# Serving requests

A request either asks for an operation, and is then answered by performing it, or is
answered without a look at the sessions (`fullExchange_cases`).

What new sessions have and allowed effects keep, all sessions of a registry have after
every operation (`preserves_perform`): what an edit does to a session is an effect, and
the store or the runner that is asked has no hand in it. So the sessions are consistent
whatever requests have been answered (`consistent_served`).
-/

namespace BrowserFlow.Service

open BrowserFlow.Action
open Editor (Does Edit Effect Event SaveRequest Session)

variable {τ : Type}

/-! ## Requests that ask for an operation -/

/-- A request that leads to an endpoint, with a body that fits it. -/
def Request.Asks (request : Request) (operation : Operation) : Prop :=
  ∃ endpoint, destination request.method request.path = .endpoint endpoint ∧
    Operation.ofRequest endpoint request.body = .ok operation

theorem fullExchange_cases (c : Collaborators τ) (request : Request) (r : Registry) (outside : τ) :
    (∃ reply, fullExchange c request r outside = .idle r outside reply) ∨
      ∃ operation, request.Asks operation ∧
        fullExchange c request r outside = exchange c operation r outside := by
  unfold fullExchange
  cases hdestination : destination request.method request.path with
  | nowhere | otherMethod | otherPath => exact Or.inl ⟨_, rfl⟩
  | endpoint endpoint =>
      cases hbody : Operation.ofRequest endpoint request.body with
      | ok operation =>
          exact Or.inr ⟨operation, ⟨endpoint, hdestination, hbody⟩, by simp only [hbody]⟩
      | error fault => cases fault <;> exact Or.inl ⟨_, by simp only [hbody]; rfl⟩

theorem fullExchange_of_asks {request : Request} {operation : Operation}
    (h : request.Asks operation) (c : Collaborators τ) (r : Registry) (outside : τ) :
    fullExchange c request r outside = exchange c operation r outside := by
  obtain ⟨endpoint, hdestination, hbody⟩ := h
  simp only [fullExchange, hdestination, hbody]

theorem method_ne_head_of_mem {parts : List String} {entry : String × Endpoint}
    (h : entry ∈ endpointsAt parts) : entry.1 ≠ "HEAD" := by
  unfold endpointsAt at h
  split at h <;> simp only [List.mem_cons, List.not_mem_nil, or_false] at h
  all_goals rcases h with rfl | rfl <;> simp

theorem subset_of_mem_splitOn {mark : Char} {cs part : List Char}
    (h : part ∈ Text.splitOn mark cs) : part ⊆ cs := by
  induction cs generalizing part with
  | nil =>
      rw [Text.splitOn, List.mem_singleton] at h
      rw [h]
      exact List.Subset.refl []
  | cons c cs ih =>
      rw [Text.splitOn] at h
      split at h
      · rcases List.mem_cons.mp h with rfl | h
        · exact List.nil_subset _
        · exact List.subset_cons_of_subset c (ih h)
      · cases hparts : Text.splitOn mark cs with
        | nil => exact absurd hparts (Text.splitOn_ne_nil mark cs)
        | cons first others =>
            rw [hparts] at h ih
            rcases List.mem_cons.mp h with rfl | h
            · exact List.cons_subset_cons c (ih List.mem_cons_self)
            · exact List.subset_cons_of_subset c (ih (List.mem_cons_of_mem first h))

theorem subset_of_pathParts {cs : List Char} {parts : List String}
    (h : pathParts cs = some parts) : ∀ part ∈ parts, part.toList ⊆ cs := by
  unfold pathParts at h
  split at h
  · rename_i texts htexts
    split at h
    · cases h
    · obtain rfl := Option.some.inj h
      intro part hpart
      obtain ⟨text, htext, rfl⟩ := List.mem_map.mp hpart
      rw [String.toList_ofList]
      exact subset_of_mem_splitOn (by rw [htexts]; exact List.mem_cons_of_mem _ htext)
  · cases h

theorem exists_parts_of_mem_endpointsOf {path : List Char} {entry : String × Endpoint}
    (h : entry ∈ endpointsOf path) :
    ∃ parts, (∀ part ∈ parts, part.toList ⊆ path) ∧ entry ∈ endpointsAt parts := by
  have hparts : ∀ cs, cs ⊆ path → entry ∈ ((pathParts cs).map endpointsAt).getD [] →
      ∃ parts, (∀ part ∈ parts, part.toList ⊆ path) ∧ entry ∈ endpointsAt parts := by
    intro cs hsubset hmem
    cases hcs : pathParts cs with
    | none => simp [hcs] at hmem
    | some parts =>
        refine ⟨parts, fun part hpart => ?_, by simpa [hcs] using hmem⟩
        exact List.Subset.trans (subset_of_pathParts hcs part hpart) hsubset
  have hline : dropLineEnd path ⊆ path := by
    unfold dropLineEnd
    split
    · exact (List.dropLast_sublist path).subset
    · exact List.Subset.refl path
  unfold endpointsOf at h
  split at h
  · exact hparts _ hline h
  · exact hparts _ (List.Subset.refl path) h

theorem exists_parts_of_destination {method : String} {path : List Char} {endpoint : Endpoint}
    (h : destination method path = .endpoint endpoint) :
    ∃ parts, (∀ part ∈ parts, part.toList ⊆ path) ∧ (method, endpoint) ∈ endpointsAt parts := by
  unfold destination at h
  split at h
  · split at h <;> cases h
  · split at h
    · rename_i entry hentry
      obtain ⟨parts, hsubset, hmem⟩ :=
        exists_parts_of_mem_endpointsOf (List.mem_of_find?_eq_some hentry)
      have hmethod : entry.1 = method := by simpa using List.find?_some hentry
      have hendpoint : entry.2 = endpoint := Destination.endpoint.inj h
      exact ⟨parts, hsubset, by rwa [← hmethod, ← hendpoint]⟩
    · cases h

/-- No endpoint is asked for the head of a reply alone. -/
theorem method_ne_head_of_destination {method : String} {path : List Char} {endpoint : Endpoint}
    (h : destination method path = .endpoint endpoint) : method ≠ "HEAD" := by
  obtain ⟨parts, -, hmem⟩ := exists_parts_of_destination h
  exact method_ne_head_of_mem hmem

theorem answer_of_asks {request : Request} {operation : Operation} (h : request.Asks operation)
    (c : Collaborators τ) (r : Registry) (outside : τ) :
    answer c request r outside = exchange c operation r outside := by
  have hmethod : request.method ≠ "HEAD" := by
    obtain ⟨endpoint, hdestination, -⟩ := h
    exact method_ne_head_of_destination hdestination
  rw [answer, if_neg hmethod, fullExchange_of_asks h]

/-- Only an operation that a request asks for changes anything. -/
theorem answer_cases (c : Collaborators τ) (request : Request) (r : Registry) (outside : τ) :
    ((answer c request r outside).registry = r ∧ (answer c request r outside).outside = outside) ∨
      ∃ operation, request.Asks operation ∧
        answer c request r outside = exchange c operation r outside := by
  rcases fullExchange_cases c request r outside with ⟨reply, hidle⟩ | ⟨operation, hasks, -⟩
  · left
    rw [answer, hidle]
    split <;> exact ⟨rfl, rfl⟩
  · exact Or.inr ⟨operation, hasks, answer_of_asks hasks c r outside⟩

/-! ## Properties of all sessions -/

/-- A property that new sessions have and allowed effects keep. -/
structure Stable (P : Session → Prop) : Prop where
  create : ∀ id name listeners, P (Session.create id name listeners)
  apply : ∀ {s : Session} {effect : Effect}, P s → effect.Allowed s → P (effect.apply s)

theorem stable_consistent : Stable Session.Consistent where
  create := Session.consistent_create
  apply h hallowed := h.apply hallowed

def Registry.Every (P : Session → Prop) (r : Registry) : Prop :=
  ∀ id s, Table.get? r.sessions id = some s → P s

variable {P : Session → Prop}

theorem Registry.Every.set {r : Registry} (h : r.Every P) {s : Session} (hs : P s) (id : String)
    (opened : Nat) :
    Registry.Every P { r with sessions := Table.set r.sessions id s, opened := opened } := by
  intro other t ht
  rw [Table.get?_set] at ht
  split at ht
  · rwa [← Option.some.inj ht]
  · exact h other t ht

theorem Registry.Every.erase {r : Registry} (h : r.Every P) (id : String) :
    Registry.Every P { r with sessions := Table.erase r.sessions id } := by
  intro other t ht
  rw [Table.get?_erase] at ht
  split at ht
  · cases ht
  · exact h other t ht

/-! ## Operations on a session -/

theorem Stable.preserves {α : Type} (hP : Stable P) {x : Edit α}
    {fits : Session → Effect → α → Prop} (hx : ∀ s, Does x s (fits s)) : Preserves P x := by
  intro s hs
  rcases hx s with ⟨failure, h⟩ | ⟨effect, a, -, hallowed, h⟩
  · rwa [h.state_eq]
  · rw [h.state_eq]
    exact hP.apply hs hallowed

theorem Stable.preserves_changeNode (hP : Stable P) (id : String)
    (params position : Option (Table Json)) : Preserves P (changeNode id params position) := by
  have hfind : Preserves P (Session.findNode id) := (Session.looks_findNode id).preserves P
  have hmove (x y : Json) : Preserves P (do
      let _ ← Session.moveNode id x y
      Session.findNode id) :=
    (hP.preserves (Session.does_moveNode id x y)).bind fun _ => hfind
  cases params with
  | none =>
      cases position with
      | none => exact hfind
      | some position => exact hmove _ _
  | some changes =>
      refine ((Session.looks_handlerFor id).preserves P).bind fun handler => ?_
      refine (hP.preserves (Session.does_updateParams handler.nodeId changes)).bind fun _ => ?_
      cases position with
      | none => exact hfind
      | some position => exact hmove _ _

theorem preserves_finishSave (P : Session → Prop) (name : String)
    (answer : Except Failure Json) : Preserves P (Session.finishSave name answer) := by
  cases answer with
  | error failure => exact fun _ hs => hs
  | ok v => exact fun _ hs => hs

theorem preserves_finishRun (P : Session → Prop) (headless : Toggle)
    (answer : Except Failure Json) : Preserves P (Session.finishRun headless answer) := by
  cases answer with
  | error failure => exact fun _ hs => hs
  | ok v => exact fun _ hs => hs

/-- A collaborator that is asked in between has no hand in the session. -/
theorem preserves_asking {ρ α : Type} {prepare : Edit ρ}
    {finish : ρ → Except Failure Json → Edit α} (hprepare : Preserves P prepare)
    (hfinish : ∀ request answer, Preserves P (finish request answer))
    (ask : ρ → Action τ Event Failure Json) :
    Preserves (fun both : Session × τ => P both.1) (do
      let request ← onFirst prepare
      let answer ← attempt (onSecond (ask request))
      onFirst (finish request answer)) := by
  refine hprepare.onFirst.bind fun request => ?_
  refine (preserves_attempt_onSecond P (ask request)).bind fun answer => ?_
  exact (hfinish request answer).onFirst

theorem Stable.preserves_beginSave (hP : Stable P) (name : Option String) :
    Preserves P (beginSave name) := by
  have hprepare := Session.looks_prepareSave.preserves P
  cases name with
  | none => exact hprepare
  | some name => exact (hP.preserves (Session.does_rename name)).bind fun _ => hprepare

theorem Stable.preserves_saveScript (hP : Stable P)
    (store : SaveRequest → Action τ Event Failure Json) (name : Option String) :
    Preserves (fun both : Session × τ => P both.1) (saveScript store name) := by
  apply preserves_asking (hP.preserves_beginSave name)
  intro request answer
  exact (preserves_finishSave P _ answer).bind fun v =>
    (looks_read.bind fun s => looks_pure _).preserves P

theorem preserves_runScript (runner : Option (String → Action τ Event Failure Json))
    (headless : Bool) :
    Preserves (fun both : Session × τ => P both.1) (runScript runner headless) := by
  cases runner with
  | none => exact (looks_fail _).preserves _
  | some runner =>
      refine Preserves.bind ?_ fun v => (looks_pure _).preserves _
      exact preserves_asking ((Session.looks_compile _).preserves P)
        (fun _ answer => preserves_finishRun P _ answer) runner

/-! ## Operations -/

theorem preserves_onSession {α : Type} {x : Action (Session × τ) Event Failure α}
    (hx : Preserves (fun both => P both.1) x) (id : String) :
    Preserves (fun both : Registry × τ => both.1.Every P) (Registry.onSession id x) := by
  rintro ⟨r, outside⟩ hr
  cases hs : Table.get? r.sessions id with
  | none =>
      rw [Registry.onSession_of_none hs]
      exact hr
  | some s =>
      rw [Registry.onSession_of_some hs]
      exact hr.set (hx (s, outside) (hr id s hs)) id r.opened

/-- What is returned, or told of the session, at the end of an edit is a look. -/
theorem Stable.preserves_edit {α β : Type} (hP : Stable P) {x : Edit α}
    {fits : Session → Effect → α → Prop} (hx : ∀ s, Does x s (fits s)) {last : α → Edit β}
    (hlast : ∀ a, Looks (last a)) (id : String) :
    Preserves (fun both : Registry × τ => both.1.Every P) (Registry.edit id (x >>= last)) :=
  preserves_onSession ((hP.preserves hx).bind fun a => (hlast a).preserves P).onFirst id

theorem looks_find (id : String) : Looks (Registry.find id) := by
  apply looks_read.bind
  intro r
  split
  · exact looks_pure _
  · exact looks_fail _

theorem Stable.preserves_create (hP : Stable P) (name : Option String) :
    Preserves (Registry.Every P) (Registry.create name) := by
  intro r hr
  exact hr.set (hP.create _ _ r.listeners) _ _

theorem preserves_close (id : String) : Preserves (Registry.Every P) (Registry.close id) := by
  refine ((looks_find id).preserves _).bind fun _ => ?_
  refine (preserves_update fun r hr => ?_).bind fun _ => (looks_noteAll _).preserves _
  exact Registry.Every.erase hr id

/-- After every operation all sessions have what they had before. -/
theorem Stable.preserves_perform (hP : Stable P) (c : Collaborators τ) (operation : Operation) :
    Preserves (fun both : Registry × τ => both.1.Every P) (perform c operation) := by
  have hsummary {α : Type} (_ : α) : Looks (do return Reply.ok (summary (← read)) : Edit Reply) :=
    looks_read.bind fun s => looks_pure _
  cases operation with
  | health => exact (looks_read.bind fun _ => looks_pure _).preserves _
  | kinds => exact (looks_pure _).preserves _
  | scripts => exact (looks_read.bind fun _ => looks_pure _).preserves _
  | compile document headless => exact (looks_ofJournaled _ _).preserves _
  | openSession name =>
      exact (hP.preserves_create name).onFirst.bind fun s => (looks_pure _).preserves _
  | showSession id =>
      exact ((looks_find id).preserves _).onFirst.bind fun s => (looks_pure _).preserves _
  | closeSession id => exact (preserves_close id).onFirst.bind fun _ => (looks_pure _).preserves _
  | rename id name =>
      exact hP.preserves_edit (Session.does_rename name)
        (fun _ => looks_read.bind fun s => looks_pure _) id
  | addNode id kind position params =>
      exact hP.preserves_edit (Session.does_addNode _ position _) (fun _ => looks_pure _) id
  | changeNode id node params position =>
      have hchange := hP.preserves_changeNode node params position
      exact preserves_onSession (hchange.bind fun _ => (looks_pure _).preserves P).onFirst id
  | removeNode id node =>
      exact hP.preserves_edit (Session.does_removeNode node) (fun _ => looks_pure _) id
  | connect id source target =>
      exact hP.preserves_edit (Session.does_connect source target) (fun _ => looks_pure _) id
  | removeEdge id edge =>
      exact hP.preserves_edit (Session.does_removeEdge edge) (fun _ => looks_pure _) id
  | clear id => exact hP.preserves_edit Session.does_clear hsummary id
  | generate id headless =>
      exact hP.preserves_edit (Session.does_generate headless) (fun _ => looks_pure _) id
  | save id name => exact preserves_onSession (hP.preserves_saveScript c.save name) id
  | run id headless => exact preserves_onSession (preserves_runScript c.runner headless) id
  | download id =>
      exact ((looks_find id).preserves _).onFirst.bind fun s => (looks_pure _).preserves _
  | load id document =>
      exact hP.preserves_edit (Session.does_importWithin c.limits document) hsummary id

/-! ## Requests one after the other -/

def served (c : Collaborators τ) (state : Registry × τ) (requests : List Request) :
    Registry × τ :=
  requests.foldl (fun state request =>
    let e := answer c request state.1 state.2
    (e.registry, e.outside)) state

theorem Stable.answer (hP : Stable P) (c : Collaborators τ) (request : Request) {r : Registry}
    (hr : r.Every P) (outside : τ) : (answer c request r outside).registry.Every P := by
  rcases answer_cases c request r outside with ⟨hsame, -⟩ | ⟨operation, -, hanswer⟩
  · rwa [hsame]
  · rw [hanswer]
    exact hP.preserves_perform c operation (r, outside) hr

theorem Stable.served (hP : Stable P) (c : Collaborators τ) {state : Registry × τ}
    (h : state.1.Every P) (requests : List Request) : (served c state requests).1.Every P := by
  induction requests generalizing state with
  | nil => exact h
  | cons request requests ih =>
      rw [Service.served, List.foldl_cons]
      exact ih (hP.answer c request h state.2)

/-- In every state that a service comes to, all sessions are consistent. -/
theorem consistent_served (c : Collaborators τ) {start : Registry} (hempty : start.sessions = [])
    (outside : τ) (requests : List Request) :
    (served c (start, outside) requests).1.Every Session.Consistent := by
  apply stable_consistent.served c
  intro id s hs
  rw [hempty] at hs
  cases hs

end BrowserFlow.Service
