import BrowserFlow.Proofs.Editor.Atomic
import BrowserFlow.Proofs.Service.Refused

/-!
# How failures of the store and the runner are told

A session that a service has come to has a script as soon as it has a start, so the store is
asked under every name that is not blank, and the runner if there is one. What either raises is
then told to whoever made the request (`tells_raised`). A failure of the outside is one of the
gateway, told by its text, or by its name where the text is empty. But a failure of one of the
editor's own kinds is taken for the editor's; and one that has no text to be shown, or halves in
what is to be shown, ends in an internal error.
-/

namespace BrowserFlow.Service

open BrowserFlow.Action
open Editor (Edit Event SaveRequest Session)

variable {τ : Type}

/-! ## What is told -/

namespace Reply

def told (status : Nat) (detail : String) : Reply :=
  { status, content := .verbatim (.object [("detail", .text detail)]) }

theorem sent_explained (status : Nat) (detail : String) :
    (explained status detail).sent =
      if Text.isWhole detail.toList then told status detail else broken := by
  have hsendable : (explained status detail).isSendable = Text.isWhole detail.toList := by
    have hkey : Text.isWhole "detail".toList = true := by decide
    have hheight : Json.height (.object [("detail", .text detail)]) ≤ heightLimit := by
      simp only [Json.height, Json.extent, Json.fieldsExtent, heightLimit]
      omega
    simp only [isSendable, explained, Content.isSendable, Option.map_none, Option.all_none,
      Bool.and_true, Json.isWhole, Json.haveWholeFields, hkey, Bool.true_and, hheight, decide_true]
  rw [sent, hsendable]
  rfl

end Reply

/-- What is said of a failure of the outside: its text, or its name if that is empty. -/
def nameOrText (name text : String) : String := if text = "" then name else text

/-- How a reply tells what a collaborator has raised. -/
structure Tells (reply : Reply) (raised : Raised) : Prop where
  /-- A failure of the outside that can be told is relayed. -/
  relayed : ∀ name text, raised = ⟨.other name, some text⟩ →
    Text.isWhole (nameOrText name text).toList = true → reply = .told 502 (nameOrText name text)
  /-- No other failure is. -/
  of_status : reply.status = 502 → ∃ name text, raised = ⟨.other name, some text⟩ ∧
    Text.isWhole (nameOrText name text).toList = true
  /-- One of the editor's kinds is told as if the editor had failed. -/
  own : ∀ text, raised.text = some text → (∀ name, raised.kind ≠ .other name) →
    Text.isWhole text.toList = true → reply = .told (FailureKind.status raised.kind) text
  /-- Nothing is told of a failure without a text that can be shown and sent. -/
  untold : (∀ text, raised.text = some text → Text.isWhole text.toList = false) → reply = .broken

theorem status_eq_badGateway_iff {kind : FailureKind} :
    FailureKind.status kind = 502 ↔ ∃ name, kind = .other name := by
  cases kind <;> simp [FailureKind.status]

theorem failureDetail_own {kind : FailureKind} (h : ∀ name, kind ≠ .other name)
    (text : String) : failureDetail (.raised ⟨kind, some text⟩) = text := by
  cases kind with
  | other name => exact absurd rfl (h name)
  | _ => rfl

theorem failureDetail_of_not_isWhole {kind : FailureKind} {text : String}
    (h : Text.isWhole text.toList = false) : failureDetail (.raised ⟨kind, some text⟩) = text := by
  cases kind with
  | other name =>
      refine if_neg fun hempty => ?_
      rw [show text = "" from hempty] at h
      cases h
  | _ => rfl

theorem tells_sent_failed (raised : Raised) :
    Tells (Reply.failed (.raised raised)).sent raised := by
  obtain ⟨kind, text⟩ := raised
  cases text with
  | none =>
      have hbroken : (Reply.failed (.raised ⟨kind, none⟩)).sent = .broken := rfl
      rw [hbroken]
      constructor
      case relayed => exact fun _ _ h => by cases h
      case of_status => exact fun h => by cases h
      case own => exact fun _ h => by cases h
      case untold => exact fun _ => rfl
  | some text =>
      let detail := failureDetail (.raised ⟨kind, some text⟩)
      have hsent : (Reply.failed (.raised ⟨kind, some text⟩)).sent =
          if Text.isWhole detail.toList then .told (FailureKind.status kind) detail
          else .broken := Reply.sent_explained _ _
      rw [hsent]
      constructor
      case relayed =>
        rintro name _ ⟨rfl, rfl⟩ hwhole
        exact if_pos hwhole
      case of_status =>
        intro hstatus
        split at hstatus
        · rename_i hwhole
          obtain ⟨name, rfl⟩ := status_eq_badGateway_iff.mp hstatus
          exact ⟨name, text, rfl, hwhole⟩
        · cases hstatus
      case own =>
        rintro _ ⟨rfl⟩ hown hwhole
        have hdetail : detail = text := failureDetail_own hown text
        rw [hdetail, if_pos hwhole]
      case untold =>
        intro hhalves
        have hhalf := hhalves text rfl
        have hdetail : detail = text := failureDetail_of_not_isWhole hhalf
        rw [hdetail, if_neg (by simp [hhalf])]

/-! ## What is asked -/

/-- What a collaborator raises ends the request. -/
theorem result_asking_of_raised {ρ α : Type} {prepare : Edit ρ}
    {ask : ρ → Action τ Event Failure Json} {finish : ρ → Except Failure Json → Edit α}
    {s : Session} {outside : τ} {request : ρ} {failure : Failure}
    (hprepared : (prepare s).result = .ok request)
    (hraised : (ask request outside).result = .error failure)
    (hfinish : ∀ s, (finish request (.error failure) s).result = .error failure) :
    ((do
      let request ← onFirst prepare
      let answer ← attempt (onSecond (ask request))
      onFirst (finish request answer) : Action (Session × τ) Event Failure α)
        (s, outside)).result = .error failure := by
  rw [bind_apply]
  simp only [onFirst_apply, hprepared, bind_apply, attempt_apply, onSecond_apply, hraised, hfinish]

theorem result_beginSave (name : Option String) (s : Session) :
    (beginSave name s).result =
      (Session.prepareSave { s with name := name.getD s.name }).result := by
  cases name with
  | none => rfl
  | some name => rfl

theorem result_saveScript_of_raised {store : SaveRequest → Action τ Event Failure Json}
    {name : Option String} {s : Session} {outside : τ} {script : String} {failure : Failure}
    (hname : Text.allBlank (name.getD s.name).toList = false)
    (hscript : (s.graph.compile (.ofBool true)).result = .ok script)
    (hraised : (store ⟨name.getD s.name, script, s.graph.nodes, s.graph.edges⟩ outside).result =
      .error failure) :
    (saveScript store name (s, outside)).result = .error failure := by
  let renamed : Session := { s with name := name.getD s.name }
  have hprepared : (Session.prepareSave renamed).result =
      .ok ⟨name.getD s.name, script, s.graph.nodes, s.graph.edges⟩ := by
    rw [Session.result_prepareSave (s := renamed) hname, Session.result_compile, hscript]
    rfl
  exact result_asking_of_raised ((result_beginSave name s).trans hprepared) hraised fun t => rfl

theorem result_runScript_of_raised {runner : String → Action τ Event Failure Json}
    {headless : Bool} {s : Session} {outside : τ} {script : String} {failure : Failure}
    (hscript : (s.graph.compile headless).result = .ok script)
    (hraised : (runner script outside).result = .error failure) :
    (runScript (some runner) headless (s, outside)).result = .error failure := by
  have hcompiled : (Session.compile headless s).result = .ok script := by
    rw [Session.result_compile, hscript]
    rfl
  have hrun : (Session.runScript runner headless (s, outside)).result = .error failure :=
    result_asking_of_raised hcompiled hraised fun t => rfl
  change ((Session.runScript runner headless >>= fun value =>
    pure (Reply.ok (.object [("result", value)]))) (s, outside)).result = _
  rw [bind_apply, hrun]

/-- An operation on a session that ends with a failure is answered by telling it. -/
theorem reply_of_raised {c : Collaborators τ} {request : Request} {operation : Operation}
    {r : Registry} {outside : τ} {raised : Raised} (hasks : request.Asks operation)
    (h : (perform c operation (r, outside)).result = .error (.raised raised)) :
    Tells (answer c request r outside).reply raised := by
  rw [answer_of_asks hasks, exchange]
  simp only [h]
  exact tells_sent_failed raised

/-- A consistent session with a start has a script for the store under every name that is not
blank, and what the store raises then is told. -/
theorem tells_of_save (c : Collaborators τ) {r : Registry} (outside : τ) {id : String} {s : Session}
    (hs : Table.get? r.sessions id = some s) (hconsistent : s.Consistent)
    (hstart : ∃ node ∈ s.graph.nodes, node.kind = .start) {request : Request}
    {name : Option String} (hasks : request.Asks (.save id name))
    (hname : Text.allBlank (name.getD s.name).toList = false) :
    ∃ script, (s.graph.compile (.ofBool true)).result = .ok script ∧ ∀ raised,
      (c.save ⟨name.getD s.name, script, s.graph.nodes, s.graph.edges⟩ outside).result =
        .error (.raised raised) → Tells (answer c request r outside).reply raised := by
  obtain ⟨order, -, hscript⟩ := hconsistent.exists_order hstart (.ofBool true)
  refine ⟨_, hscript, fun raised hraised => reply_of_raised hasks ?_⟩
  change (Registry.onSession id (saveScript c.save name) (r, outside)).result = _
  rw [Registry.onSession_of_some hs]
  exact result_saveScript_of_raised hname hscript hraised

theorem tells_of_run {c : Collaborators τ} {r : Registry} (outside : τ) {id : String} {s : Session}
    (hs : Table.get? r.sessions id = some s) (hconsistent : s.Consistent)
    (hstart : ∃ node ∈ s.graph.nodes, node.kind = .start) {request : Request}
    {headless : Bool} (hasks : request.Asks (.run id headless))
    {runner : String → Action τ Event Failure Json} (hrunner : c.runner = some runner) :
    ∃ script, (s.graph.compile headless).result = .ok script ∧ ∀ raised,
      (runner script outside).result = .error (.raised raised) →
        Tells (answer c request r outside).reply raised := by
  obtain ⟨order, -, hscript⟩ := hconsistent.exists_order hstart headless
  refine ⟨_, hscript, fun raised hraised => reply_of_raised hasks ?_⟩
  change (Registry.onSession id (runScript c.runner headless) (r, outside)).result = _
  rw [Registry.onSession_of_some hs, hrunner]
  exact result_runScript_of_raised hscript hraised

/-- In every state that a service comes to, a session that has a start has a script for the
store, under every name that is not blank, and one for the runner; and whatever they raise then
is told. -/
theorem tells_raised (c : Collaborators τ) {start : Registry} (hempty : start.sessions = [])
    (outside : τ) (requests : List Request) {id : String} {s : Session}
    (hs : Table.get? (served c (start, outside) requests).1.sessions id = some s)
    (hstart : ∃ node ∈ s.graph.nodes, node.kind = .start) (request : Request) :
    let state := served c (start, outside) requests
    let reply := (answer c request state.1 state.2).reply
    (∀ name : Option String, request.Asks (.save id name) →
      Text.allBlank (name.getD s.name).toList = false →
      ∃ script, (s.graph.compile (.ofBool true)).result = .ok script ∧ ∀ raised,
        (c.save ⟨name.getD s.name, script, s.graph.nodes, s.graph.edges⟩ state.2).result =
          .error (.raised raised) → Tells reply raised) ∧
    ∀ (headless : Bool) (runner : String → Action τ Event Failure Json),
      request.Asks (.run id headless) → c.runner = some runner →
      ∃ script, (s.graph.compile headless).result = .ok script ∧ ∀ raised,
        (runner script state.2).result = .error (.raised raised) → Tells reply raised := by
  intro state reply
  have hconsistent : state.1.Every Session.Consistent :=
    consistent_served c hempty outside requests
  constructor
  · intro name hasks hname
    exact tells_of_save c state.2 hs (hconsistent id s hs) hstart hasks hname
  · intro headless runner hasks hrunner
    exact tells_of_run state.2 hs (hconsistent id s hs) hstart hasks hrunner

def runFirst (body : Body) : Request :=
  ⟨"POST", "/api/sessions/00000000000000000000000000000001/run".toList, body⟩

theorem destination_runFirst (body : Body) :
    destination (runFirst body).method (runFirst body).path =
      .endpoint (.run (Registry.sessionId 1)) := by
  change destination "POST" (runFirst .absent).path = _
  decide +kernel

/-- A store and a runner that raise a failure without a text. -/
theorem tells_raised_nameless :
    let c := raising ⟨.other "TimeoutError", some ""⟩
    let state := served c ({}, ()) [openFirst]
    ∃ s, Table.get? state.1.sessions (Registry.sessionId 1) = some s ∧
      (∃ node ∈ s.graph.nodes, node.kind = .start) ∧ Text.allBlank s.name.toList = false ∧
      (answer c (saveFirst .absent) state.1 state.2).reply = .told 502 "TimeoutError" ∧
      (answer c (runFirst .absent) state.1 state.2).reply = .told 502 "TimeoutError" := by
  intro c state
  have hs : Table.get? state.1.sessions (Registry.sessionId 1) = some firstSession :=
    get?_openFirst c
  have hstart : ∃ node ∈ firstSession.graph.nodes, node.kind = .start :=
    ⟨_, List.mem_singleton_self _, rfl⟩
  have hname : Text.allBlank firstSession.name.toList = false := by decide
  have hsave : (saveFirst .absent).Asks (.save (Registry.sessionId 1) none) :=
    ⟨.save _, destination_saveFirst _, rfl⟩
  have hrun : (runFirst .absent).Asks (.run (Registry.sessionId 1) false) :=
    ⟨.run _, destination_runFirst _, rfl⟩
  refine ⟨firstSession, hs, hstart, hname, ?_, ?_⟩
  · have hall := tells_raised c rfl () [openFirst] hs hstart (saveFirst .absent)
    obtain ⟨script, -, htells⟩ := hall.1 none hsave hname
    exact (htells _ rfl).relayed _ _ rfl (by decide)
  · have hall := tells_raised c rfl () [openFirst] hs hstart (runFirst .absent)
    obtain ⟨script, -, htells⟩ := hall.2 false _ hrun rfl
    exact (htells _ rfl).relayed _ _ rfl (by decide)

/-- What the store raises is taken for a failure of the editor. -/
theorem not_relayed_invalidDocument :
    let raised : Raised := ⟨.invalidDocument, some "name rejected by store"⟩
    let c := raising raised
    let state := served c ({}, ()) [openFirst]
    (∃ s, Table.get? state.1.sessions (Registry.sessionId 1) = some s ∧
        (∃ node ∈ s.graph.nodes, node.kind = .start) ∧ Text.allBlank s.name.toList = false) ∧
      (saveFirst .absent).Asks (.save (Registry.sessionId 1) none) ∧
      (∀ request, (c.save request state.2).result = .error (.raised raised)) ∧
      (answer c (saveFirst .absent) state.1 state.2).reply =
        .told 400 "name rejected by store" := by
  intro raised c state
  have hs : Table.get? state.1.sessions (Registry.sessionId 1) = some firstSession :=
    get?_openFirst c
  have hstart : ∃ node ∈ firstSession.graph.nodes, node.kind = .start :=
    ⟨_, List.mem_singleton_self _, rfl⟩
  have hname : Text.allBlank firstSession.name.toList = false := by decide
  have hasks : (saveFirst .absent).Asks (.save (Registry.sessionId 1) none) :=
    ⟨.save _, destination_saveFirst _, rfl⟩
  refine ⟨⟨firstSession, hs, hstart, hname⟩, hasks, fun _ => rfl, ?_⟩
  obtain ⟨script, -, htells⟩ := tells_of_save c state.2 hs (Session.consistent_create _ _ _) hstart
    hasks hname
  exact (htells raised rfl).own _ rfl (fun name h => by cases h) (by decide)

end BrowserFlow.Service
