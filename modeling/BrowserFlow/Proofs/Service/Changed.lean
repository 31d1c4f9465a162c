import BrowserFlow.Proofs.Editor.Updated
import BrowserFlow.Proofs.Flow.Entered
import BrowserFlow.Proofs.Json.Extent
import BrowserFlow.Proofs.Script.Halves
import BrowserFlow.Proofs.Service.Relayed

/-!
# Requests to change a step

A request to change a step may bring parameters and a position, which are entered one after the
other. Only the parameters can be refused once the step is there: what a body gives for a
position is numeric by the time it is looked at (`numericAt_of_ofRequest`), and a coordinate
that is left out is zero. So the request is done as a whole or not at all
(`leaves_changeNode`), and `AnswersChange` says which and what comes of it, for every state
that a service comes to (`answersChange`).

The reply to a request that is done shows the step. A text with halves cannot be sent, so such a
step is changed and announced, and the reply is an internal error (`not_sent_half`).
-/

namespace BrowserFlow

open BrowserFlow.Action

def Node.changed (node : Node) (params position : Option (Table Json)) : Node :=
  { node with
    params := node.params.entered (params.getD [])
    position := position.elim node.position fun p =>
      ⟨Editor.Session.coordinate p "x", Editor.Session.coordinate p "y"⟩ }

namespace Service

open Editor (Edit Event Session)

variable {s : Session} {id : String} {node : Node} {params position : Option (Table Json)}

/-! ## The change -/

def NumericAt (position : Option (Table Json)) : Prop :=
  ∀ p, position = some p →
    Position.isNumeric ⟨Session.coordinate p "x", Session.coordinate p "y"⟩ = true

theorem leaves_changeNode_of_missing (h : s.Consistent) (hmissing : s.graph.node? id = none)
    (params position : Option (Table Json)) :
    (changeNode id params position s).Leaves s [] (.error (.unknownNode id)) := by
  cases params with
  | some changes =>
      have hhandler := (Session.looks_handlerFor id).leaves s
      rw [h.result_handlerFor, if_neg (Graph.node?_eq_none_iff.mp hmissing)] at hhandler
      exact hhandler.bind_error
  | none =>
      have hfound := Session.leaves_findNode_of_none hmissing
      cases position with
      | none => exact hfound
      | some p => exact (hfound.bind_error).bind_error

/-- Without parameters the step is moved, or nothing is done to it. -/
theorem leaves_changeNode_none (h : s.graph.nodeIds.Nodup) (hnode : s.graph.node? id = some node)
    (hnumeric : NumericAt position) :
    (changeNode id none position s).Leaves
      { s with graph := s.graph.updateNode id fun _ => node.changed none position } []
      (.ok (node.changed none position)) := by
  cases position with
  | none =>
      have hself : node.changed none none = node := by
        rw [Node.changed, Option.getD_none, Params.entered_nil]
        rfl
      rw [hself, Graph.updateNode_self h hnode]
      exact Session.leaves_findNode hnode
  | some p =>
      obtain rfl := Graph.id_of_node? hnode
      let moved : Node :=
        { node with position := ⟨Session.coordinate p "x", Session.coordinate p "y"⟩ }
      have hmoved := Session.leaves_moveNode hnode (hnumeric p rfl)
      rw [Graph.updateNode_of_node? h hnode] at hmoved
      have hchanged : node.changed none (some p) = moved := by
        rw [Node.changed, Option.getD_none, Params.entered_nil]
        rfl
      rw [hchanged]
      exact hmoved.bind (Session.leaves_findNode
        (@Graph.node?_updateNode s.graph moved (Graph.mem_nodeIds_of_node? hnode)))

/-- Parameters that are admitted are entered, and the step is moved then. -/
theorem leaves_changeNode (h : s.Consistent) (hnode : s.graph.node? id = some node)
    (hkept : ∀ changes, params = some changes →
      (Document.checkParams "params" node.kind changes).result =
        .ok (changes.filter fun entry => (node.kind.shape.field? entry.1).isSome))
    (hnumeric : NumericAt position) :
    let changed := node.changed params position
    (changeNode id params position s).Leaves
      { s with graph := s.graph.updateNode id fun _ => changed }
      (if params.isSome then [.nodeUpdated id changed.params.pairs] else []) (.ok changed) := by
  intro changed
  cases params with
  | none => exact leaves_changeNode_none h.sound.nodup_nodeIds hnode hnumeric
  | some changes =>
      obtain rfl := Graph.id_of_node? hnode
      have hmem := Graph.mem_nodeIds_of_node? hnode
      let entered : Node := { node with params := node.params.entered changes }
      have hhandler : (Session.handlerFor node.id s).result = .ok ⟨node.id⟩ := by
        rw [h.result_handlerFor, if_pos hmem]
      have hshape : node.params.shape = node.kind.shape :=
        (h.sound.proper node (Graph.mem_of_node? hnode)).shape_eq
      have hupdated := Session.leaves_updateParams_entered h.sound.nodup_nodeIds hnode hshape
        (hkept changes rfl)
      have hids : (s.graph.updateNode entered.id fun _ => entered).nodeIds = s.graph.nodeIds :=
        Graph.nodeIds_updateNode_id s.graph entered
      have hplaced : (changeNode node.id none position
          { s with graph := s.graph.updateNode entered.id fun _ => entered }).Leaves
          { s with graph := s.graph.updateNode entered.id fun _ => changed } [] (.ok changed) := by
        have hmoved := @leaves_changeNode_none
          { s with graph := s.graph.updateNode entered.id fun _ => entered } entered.id entered
          position (by rw [hids]; exact h.sound.nodup_nodeIds) (Graph.node?_updateNode hmem)
          hnumeric
        have hchanged : entered.changed none position = changed := by
          simp only [Node.changed, Option.getD_none, Params.entered_nil]
          rfl
        rwa [Graph.updateNode_updateNode, hchanged] at hmoved
      exact (Session.looks_handlerFor node.id).leaves_bind hhandler (hupdated.bind hplaced)

/-- Parameters that are not admitted end the request before anything has changed. -/
theorem leaves_changeNode_of_refused (h : s.Consistent) (hnode : s.graph.node? id = some node)
    {changes : Table Json} {fault : ValueFault}
    (hfault : (Document.checkParams "params" node.kind changes).result = .error fault)
    (position : Option (Table Json)) :
    (changeNode id (some changes) position s).Leaves s [] (.error (.invalidValue fault)) := by
  have hhandler : (Session.handlerFor id s).result = .ok ⟨id⟩ := by
    rw [h.result_handlerFor, if_pos (Graph.mem_nodeIds_of_node? hnode)]
  exact (Session.looks_handlerFor id).leaves_bind hhandler
    (Session.leaves_updateParams_of_refused hnode hfault).bind_error

/-! ## The request -/

theorem fits_apply_iff {α β : Type} {f : Fitting (α → β)} {x : Fitting α} {b : β} :
    Fitting.apply f x = .fits b ↔ ∃ g a, f = .fits g ∧ x = .fits a ∧ g a = b := by
  cases f <;> cases x <;> simp [Fitting.apply]

theorem isNumber_of_coordinateField {field entry : String × Json}
    (h : coordinateField field = .fits entry) : entry.2.isNumber = true := by
  obtain ⟨f, x, hf, -, rfl⟩ := fits_apply_iff.mp h
  obtain rfl := Fitting.fits.inj hf
  rfl

theorem isNumber_of_mapA {fields table : Table Json}
    (h : fields.mapA coordinateField = .fits table) : ∀ entry ∈ table, entry.2.isNumber = true := by
  induction fields generalizing table with
  | nil =>
      obtain rfl := Fitting.fits.inj h
      exact fun entry hentry => absurd hentry List.not_mem_nil
  | cons field fields ih =>
      obtain ⟨f, rest, hf, hrest, rfl⟩ := fits_apply_iff.mp h
      obtain ⟨g, first, hg, hfirst, rfl⟩ := fits_apply_iff.mp hf
      obtain rfl := Fitting.fits.inj hg
      exact List.forall_mem_cons.mpr ⟨isNumber_of_coordinateField hfirst, ih hrest⟩

theorem isNumber_coordinate {p : Table Json} (h : ∀ entry ∈ p, entry.2.isNumber = true)
    (key : String) : (Session.coordinate p key).isNumber = true := by
  unfold Session.coordinate
  cases hget : Table.get? p key with
  | none => rfl
  | some v => exact h _ (Table.mem_of_get? hget)

theorem numericAt_of_optionalField {fields : Table Json} {position : Option (Table Json)}
    (h : optionalField fields "position" asPosition = .fits position) : NumericAt position := by
  rintro p rfl
  unfold optionalField at h
  split at h
  · cases h
  · cases h
  · obtain ⟨f, table, hf, htable, hsome⟩ := fits_apply_iff.mp h
    obtain rfl := Fitting.fits.inj hf
    obtain rfl := Option.some.inj hsome
    unfold asPosition at htable
    split at htable
    · have hnumbers := isNumber_of_mapA htable
      rw [Position.isNumeric, isNumber_coordinate hnumbers, isNumber_coordinate hnumbers]
      rfl
    · cases htable

theorem exists_fields_of_required {α : Type} {read : Table Json → Fitting α} {body : Body} {a : α}
    (h : body.required read = .ok a) :
    ∃ fields, body = .value (.object fields) ∧ read fields = .fits a := by
  cases body with
  | absent | malformed | unreadable => cases h
  | value v =>
      cases v with
      | object fields =>
          refine ⟨fields, rfl, ?_⟩
          simp only [Body.required, Body.readValue] at h
          split at h
          · rename_i hread
            rw [hread, Except.ok.inj h]
          · cases h
      | _ => cases h

/-- A position that a request brings is numeric, also where coordinates are left out. -/
theorem numericAt_of_ofRequest {session node : String} {body : Body}
    {params position : Option (Table Json)}
    (h : Operation.ofRequest (.changeNode session node) body =
      .ok (.changeNode session node params position)) : NumericAt position := by
  obtain ⟨fields, -, hfields⟩ := exists_fields_of_required h
  obtain ⟨f, place, hf, hplace, hoperation⟩ := fits_apply_iff.mp hfields
  obtain ⟨g, changes, hg, -, rfl⟩ := fits_apply_iff.mp hf
  obtain rfl := Fitting.fits.inj hg
  obtain ⟨-, -, -, rfl⟩ := Operation.changeNode.inj hoperation
  exact numericAt_of_optionalField hplace

/-! ## The reply -/

theorem isWhole_of_destination {method : String} {path : List Char} {session node : String}
    (h : destination method path = .endpoint (.changeNode session node))
    (hpath : Text.isWhole path = true) :
    Text.isWhole session.toList = true ∧ Text.isWhole node.toList = true := by
  obtain ⟨parts, hsubset, hmem⟩ := exists_parts_of_destination h
  have hwhole : ∀ part ∈ parts, Text.isWhole part.toList = true := by
    intro part hpart
    rw [Text.isWhole, List.all_eq_true] at hpath ⊢
    exact fun c hc => hpath c (hsubset part hpart hc)
  unfold endpointsAt at hmem
  split at hmem
  all_goals simp only [List.mem_cons, List.not_mem_nil, or_false, Prod.mk.injEq, reduceCtorEq,
    and_false, Endpoint.changeNode.injEq, or_self] at hmem
  obtain ⟨-, rfl, rfl⟩ := hmem
  exact ⟨hwhole _ (by simp), hwhole _ (by simp)⟩

theorem isWhole_around {before id after : String} (hbefore : Text.isWhole before.toList = true)
    (h : Text.isWhole id.toList = true) (hafter : Text.isWhole after.toList = true) :
    Text.isWhole (before ++ id ++ after).toList = true := by
  rw [String.toList_append, String.toList_append, Text.isWhole_append, Text.isWhole_append,
    hbefore, h, hafter]
  rfl

namespace Reply

theorem sent_unknownSession {id : String} (h : Text.isWhole id.toList = true) :
    (failed (.unknownSession id)).sent = told 404 (Failure.unknownSession id).message :=
  (sent_explained _ _).trans (if_pos (isWhole_around (by decide) h (by decide)))

theorem sent_unknownNode {id : String} (h : Text.isWhole id.toList = true) :
    (failed (.unknownNode id)).sent = told 404 (Failure.unknownNode id).message :=
  (sent_explained _ _).trans (if_pos (isWhole_around (by decide) h (by decide)))

theorem sent_invalidParam (field : Field) :
    (failed (.invalidValue (.param "params" field))).sent =
      told 400 (ValueFault.param "params" field).message := by
  have hmessage : Text.isWhole (ValueFault.param "params" field).message.toList = true := by
    cases field <;> decide
  exact (sent_explained _ _).trans (if_pos hmessage)

theorem sent_ok {v : Json} (h : v.height ≤ heightLimit) :
    (ok v).sent =
      if v.isWhole then { status := 200, content := .verbatim v.standardised } else broken := by
  have hsendable : (ok v).isSendable = v.isWhole := by
    simp [isSendable, ok, Content.isSendable, h]
  rw [sent, hsendable]
  rfl

end Reply

theorem height_of_isNumber {v : Json} (h : v.isNumber = true) : v.height = 1 := by
  cases v <;> first | rfl | cases h

theorem height_of_admits {field : Field} {v : Json} (h : field.Admits v) : v.height = 1 := by
  cases field with
  | url | selector | value | code => rcases h with rfl | ⟨s, rfl⟩ <;> rfl
  | waitMillis | timeoutMillis => rcases h with rfl | ⟨n, rfl⟩ <;> rfl
  | waitMode => rcases h with rfl | rfl | rfl <;> rfl

theorem height_toJson_le {node : Node} (h : node.Proper) :
    node.toJson.height ≤ Reply.heightLimit := by
  have hnumbers := h.isNumeric
  rw [Position.isNumeric, Bool.and_eq_true] at hnumbers
  have hx : node.position.x.extent 1 0 1 = 1 := height_of_isNumber hnumbers.1
  have hy : node.position.y.extent 1 0 1 = 1 := height_of_isNumber hnumbers.2
  have hpairs : Json.fieldsExtent 1 0 1 node.params.pairs ≤ 1 := by
    refine Json.fieldsExtent_le_iff.mpr ⟨Nat.zero_le 1, fun entry hentry => ?_⟩
    obtain ⟨field, -, -, rfl⟩ := Params.mem_pairs_iff.mp hentry
    exact (height_of_admits (Field.accepts_iff_admits.mp (h.accepts field))).le
  simp only [Node.toJson, Position.toJson, Json.height, Json.extent, Json.fieldsExtent, hx, hy,
    Reply.heightLimit]
  omega

/-- A step is proper also after a change that it admits. -/
theorem proper_changed (h : node.Proper) {kept : Table Json}
    (hkept : (Document.checkParams "params" node.kind (params.getD [])).result = .ok kept)
    (hnumeric : NumericAt position) : (node.changed params position).Proper where
  shape_eq := by
    rw [Node.changed, Params.entered, Params.shape_build]
    exact h.shape_eq
  accepts := by
    have htakes := Document.takes_of_checkParams hkept
    obtain ⟨-, rfl⟩ := Document.result_checkParams_eq_ok_iff.mp hkept
    rw [← h.shape_eq] at htakes
    intro field
    have haccepts := Params.accepts_get_merged h.accepts htakes field
    rwa [Params.merged_filter] at haccepts
  isNumeric := by
    cases position with
    | none => exact h.isNumeric
    | some p => exact hnumeric p rfl

/-! ## The exchange -/

variable {τ : Type}

theorem exchange_of_edit {c : Collaborators τ} {operation : Operation} {session : String}
    {x : Edit Reply} (hperform : perform c operation = Registry.edit session x) {r : Registry}
    (hs : Table.get? r.sessions session = some s) {s' : Session} {events : List Event}
    {result : Except Failure Reply} (h : (x s).Leaves s' events result) (outside : τ) :
    let e := exchange c operation r outside
    e.registry = { r with sessions := Table.set r.sessions session s' } ∧ e.outside = outside ∧
      e.notices = events.map (Notice.mk session) ∧
      (∀ reply, result = .ok reply → e.reply = reply.sent) ∧
      ∀ failure, result = .error failure → e.reply = (Reply.failed failure).sent := by
  obtain ⟨rfl, rfl, rfl⟩ := h
  simp only [exchange, hperform, Registry.edit, Registry.onSession_of_some hs, onFirst_apply]
  refine ⟨trivial, trivial, trivial, ?_, ?_⟩
  · intro reply hreply
    rw [hreply]
  · intro failure hfailure
    rw [hfailure]

theorem perform_changeNode (c : Collaborators τ) (session id : String)
    (params position : Option (Table Json)) :
    perform c (.changeNode session id params position) =
      Registry.edit session (do return .ok (← changeNode id params position).toJson) := rfl

/-- An exchange that changes nothing and announces nothing, and explains why. -/
structure Refuses (r : Registry) (outside : τ) (status : Nat) (failure : Failure)
    (e : Exchange τ) : Prop where
  registry_eq : e.registry = r
  outside_eq : e.outside = outside
  notices_eq : e.notices = []
  reply_eq : e.reply = .told status failure.message

/-- An exchange that puts a changed step in the place of the old one, changes nothing else, and
announces the parameters if the request brings some. The reply shows the step, but for one that
cannot be sent. -/
structure Applies (r : Registry) (outside : τ) (session : String) (s : Session) (announced : Bool)
    (changed : Node) (e : Exchange τ) : Prop where
  registry_eq : e.registry = { r with
    sessions := Table.set r.sessions session
      { s with graph := s.graph.updateNode changed.id fun _ => changed } }
  outside_eq : e.outside = outside
  notices_eq : e.notices =
    if announced then [⟨session, .nodeUpdated changed.id changed.params.pairs⟩] else []
  reply_eq : e.reply =
    if changed.toJson.isWhole then
      { status := 200, content := .verbatim changed.toJson.standardised }
    else .broken

/-- How a request to change a step is answered. -/
inductive AnswersChange (r : Registry) (outside : τ) (session id : String)
    (params position : Option (Table Json)) (e : Exchange τ) : Prop where
  | noSession (missing : Table.get? r.sessions session = none)
      (refuses : Refuses r outside 404 (.unknownSession session) e)
  | noNode {s : Session} (there : Table.get? r.sessions session = some s)
      (missing : id ∉ s.graph.nodeIds) (refuses : Refuses r outside 404 (.unknownNode id) e)
  /-- A parameter of the step cannot have the value that the request gives it. -/
  | notAdmitted {s : Session} {node : Node} {field : Field} {v : Json}
      (there : Table.get? r.sessions session = some s) (found : s.graph.node? id = some node)
      (known : field ∈ node.kind.shape.fields) (given : (field.name, v) ∈ params.getD [])
      (unfit : ¬ field.Admits v)
      (refuses : Refuses r outside 400 (.invalidValue (.param "params" field)) e)
  | done {s : Session} {node : Node} (there : Table.get? r.sessions session = some s)
      (found : s.graph.node? id = some node)
      (fit : ∀ entry ∈ params.getD [], ∀ field,
        node.kind.shape.field? entry.1 = some field → field.Admits entry.2)
      (applies : Applies r outside session s params.isSome (node.changed params position) e)

theorem AnswersChange.applies {r : Registry} {outside : τ} {session : String}
    {e : Exchange τ} (h : AnswersChange r outside session id params position e)
    (there : Table.get? r.sessions session = some s) (found : s.graph.node? id = some node)
    (fit : ∀ entry ∈ params.getD [], ∀ field,
      node.kind.shape.field? entry.1 = some field → field.Admits entry.2) :
    Applies r outside session s params.isSome (node.changed params position) e := by
  cases h with
  | noSession missing => rw [missing] at there; cases there
  | noNode hs missing =>
      obtain rfl := Option.some.inj (hs.symm.trans there)
      exact absurd (Graph.mem_nodeIds_of_node? found) missing
  | notAdmitted hs hnode known given unfit =>
      obtain rfl := Option.some.inj (hs.symm.trans there)
      obtain rfl := Option.some.inj (hnode.symm.trans found)
      exact absurd (fit _ given _ (Shape.field?_eq_some_iff.mpr ⟨known, rfl⟩)) unfit
  | done hs hnode _ applies =>
      obtain rfl := Option.some.inj (hs.symm.trans there)
      obtain rfl := Option.some.inj (hnode.symm.trans found)
      exact applies

section Exchange

variable {c : Collaborators τ} {r : Registry} {session : String}

theorem refuses_of_leaves (hs : Table.get? r.sessions session = some s) {failure : Failure}
    (h : (changeNode id params position s).Leaves s [] (.error failure)) {status : Nat}
    (hsent : (Reply.failed failure).sent = .told status failure.message) (outside : τ) :
    Refuses r outside status failure
      (exchange c (.changeNode session id params position) r outside) := by
  obtain ⟨hregistry, houtside, hnotices, -, hreply⟩ :=
    exchange_of_edit (perform_changeNode c session id params position) hs h.bind_error outside
  exact ⟨by rw [hregistry, Table.set_of_get? hs], houtside, hnotices,
    (hreply failure rfl).trans hsent⟩

theorem applies_of_leaves (hs : Table.get? r.sessions session = some s) {changed : Node}
    (hproper : changed.Proper)
    (h : (changeNode id params position s).Leaves
      { s with graph := s.graph.updateNode changed.id fun _ => changed }
      (if params.isSome then [.nodeUpdated changed.id changed.params.pairs] else [])
      (.ok changed)) (outside : τ) :
    Applies r outside session s params.isSome changed
      (exchange c (.changeNode session id params position) r outside) := by
  obtain ⟨hregistry, houtside, hnotices, hreply, -⟩ :=
    exchange_of_edit (perform_changeNode c session id params position) hs
      (h.map_ok fun node => Reply.ok node.toJson) outside
  refine ⟨hregistry, houtside, ?_,
    (hreply _ rfl).trans (Reply.sent_ok (height_toJson_le hproper))⟩
  rw [hnotices]
  split <;> rfl

/-- A request to change a step of a consistent session is done as a whole or not at all. -/
theorem answersChange_exchange (hr : r.Every Session.Consistent)
    (hsession : Text.isWhole session.toList = true) (hid : Text.isWhole id.toList = true)
    (hnumeric : NumericAt position) (outside : τ) :
    AnswersChange r outside session id params position
      (exchange c (.changeNode session id params position) r outside) := by
  cases hs : Table.get? r.sessions session with
  | none =>
      have hperform : perform c (.changeNode session id params position) (r, outside) =
          ⟨(r, outside), [], [], .error (.unknownSession session)⟩ :=
        Registry.onSession_of_none hs _ _
      refine .noSession hs ?_
      simp only [exchange, hperform]
      exact ⟨rfl, rfl, rfl, Reply.sent_unknownSession hsession⟩
  | some s =>
      have h := hr session s hs
      cases hnode : s.graph.node? id with
      | none =>
          exact .noNode hs (Graph.node?_eq_none_iff.mp hnode) (refuses_of_leaves hs
            (leaves_changeNode_of_missing h hnode params position) (Reply.sent_unknownNode hid)
            outside)
      | some node =>
          rcases Document.result_checkParams_cases "params" node.kind (params.getD []) with
            ⟨hfit, hkept⟩ | ⟨field, hknown, v, hgiven, hunfit, hfault⟩
          · obtain rfl := Graph.id_of_node? hnode
            have hproper := h.sound.proper node (Graph.mem_of_node? hnode)
            refine .done hs hnode hfit (applies_of_leaves hs
              (proper_changed hproper hkept hnumeric) ?_ outside)
            refine leaves_changeNode h hnode ?_ hnumeric
            rintro changes rfl
            exact hkept
          · cases params with
            | none => exact absurd hgiven List.not_mem_nil
            | some changes =>
                exact .notAdmitted hs hnode hknown hgiven hunfit (refuses_of_leaves hs
                  (leaves_changeNode_of_refused h hnode hfault position)
                  (Reply.sent_invalidParam field) outside)

end Exchange

/-- In every state that a service comes to, a request to change a step is done as a whole or not
at all. It is refused for a session or a step that is missing, or for a value that a parameter
does not admit, and then nothing has changed and nothing is announced. Otherwise the step has
the parameters and the position that the request brings, and nothing else has changed. -/
theorem answersChange (c : Collaborators τ) {start : Registry} (hempty : start.sessions = [])
    (outside : τ) (requests : List Request) {request : Request} {session id : String}
    (hpath : Text.isWhole request.path = true)
    (hpatch : destination request.method request.path = .endpoint (.changeNode session id))
    {params position : Option (Table Json)}
    (hbody : Operation.ofRequest (.changeNode session id) request.body =
      .ok (.changeNode session id params position)) :
    let state := served c (start, outside) requests
    AnswersChange state.1 state.2 session id params position
      (answer c request state.1 state.2) := by
  intro state
  have hr : state.1.Every Session.Consistent := consistent_served c hempty outside requests
  obtain ⟨hsession, hid⟩ := isWhole_of_destination hpatch hpath
  rw [answer_of_asks ⟨_, hpatch, hbody⟩]
  exact answersChange_exchange hr hsession hid (numericAt_of_ofRequest hbody) state.2

def addFirst (kind : Kind) : Request :=
  ⟨"POST", "/api/sessions/00000000000000000000000000000001/nodes".toList,
    .value (.object [("kind", .text kind.name)])⟩

def firstStep : Node := ⟨"navigate-1", .navigate, {}, .navigate .null⟩

def steppedSession : Session :=
  { firstSession with
    graph := firstSession.graph.insertNode firstStep
    handlers := Table.set firstSession.handlers firstStep.id ⟨firstStep.id⟩
    nextNumber := 2 }

def stepped : Registry := { sessions := [(Registry.sessionId 1, steppedSession)], opened := 1 }

theorem served_addFirst (c : Collaborators Unit) :
    served c ({}, ()) [openFirst, addFirst .navigate] = (stepped, ()) := by
  let opened : Registry := { sessions := [(Registry.sessionId 1, firstSession)], opened := 1 }
  have hserved : served c ({}, ()) [openFirst, addFirst .navigate] =
      ((answer c (addFirst .navigate) opened ()).registry,
        (answer c (addFirst .navigate) opened ()).outside) := rfl
  have hasks : (addFirst .navigate).Asks
      (.addNode (Registry.sessionId 1) Kind.navigate.name none none) :=
    ⟨.addNode (Registry.sessionId 1), by decide +kernel, rfl⟩
  have hperform : perform c (.addNode (Registry.sessionId 1) Kind.navigate.name none none) =
      Registry.edit (Registry.sessionId 1)
        (do return .created (← Session.addNode (.text Kind.navigate.name) none []).toJson) := rfl
  have hadded : (Session.addNode (.text Kind.navigate.name) none [] firstSession).Leaves
      steppedSession [.nodeAdded "navigate-1" .navigate] (.ok firstStep) := ⟨rfl, rfl, rfl⟩
  have hopen : Table.get? opened.sessions (Registry.sessionId 1) = some firstSession := rfl
  obtain ⟨hregistry, -⟩ := exchange_of_edit hperform hopen
    (hadded.map_ok fun node => Reply.created node.toJson) ()
  rw [hserved, answer_of_asks hasks, hregistry]
  rfl

def changeFirst (params position : Table Json) : Request :=
  ⟨"PATCH", "/api/sessions/00000000000000000000000000000001/nodes/navigate-1".toList,
    .value (.object [("params", .object params), ("position", .object position)])⟩

theorem destination_changeFirst (params position : Table Json) :
    destination (changeFirst params position).method (changeFirst params position).path =
      .endpoint (.changeNode (Registry.sessionId 1) "navigate-1") := by
  change destination "PATCH" (changeFirst [] []).path = _
  decide +kernel

theorem fits_firstStep (url : String) : ∀ entry ∈ [("url", Json.text url)], ∀ field,
    firstStep.kind.shape.field? entry.1 = some field → field.Admits entry.2 := by
  intro entry hentry field hfield
  obtain rfl := List.mem_singleton.mp hentry
  obtain rfl : Field.url = field := Option.some.inj hfield
  exact Or.inr ⟨url, rfl⟩

/-- A change of a parameter and of one coordinate. -/
theorem answersChange_url :
    let c := raising ⟨.other "OSError", some "disk full"⟩
    let state := served c ({}, ()) [openFirst, addFirst .navigate]
    let x : Json := .number (.float (.ofDecimal false 15 (-1)))
    let request := changeFirst [("url", .text "https://a.example")] [("x", x)]
    let e := answer c request state.1 state.2
    Applies stepped () (Registry.sessionId 1) steppedSession true
        ⟨"navigate-1", .navigate, ⟨x, .int 0⟩, .navigate (.text "https://a.example")⟩ e ∧
      e.reply.status = 200 := by
  intro c state x request e
  have hanswer := @answersChange Unit c {} rfl () [openFirst, addFirst .navigate] request
    (Registry.sessionId 1) "navigate-1" (by decide) (destination_changeFirst _ _)
    (some [("url", .text "https://a.example")]) (some [("x", x)]) rfl
  have happlies : Applies stepped () (Registry.sessionId 1) steppedSession true
      ⟨"navigate-1", .navigate, ⟨x, .int 0⟩, .navigate (.text "https://a.example")⟩ e := by
    have hstate : state = (stepped, ()) := served_addFirst c
    change AnswersChange state.1 state.2 _ _ _ _ e at hanswer
    rw [hstate] at hanswer
    exact hanswer.applies rfl (rfl : steppedSession.graph.node? "navigate-1" = some firstStep)
      (fits_firstStep _)
  refine ⟨happlies, ?_⟩
  rw [happlies.reply_eq, if_pos (by decide)]

/-- An address with a half is taken, and then the step cannot be shown. -/
theorem not_sent_half :
    let c := raising ⟨.other "OSError", some "disk full"⟩
    let state := served c ({}, ()) [openFirst, addFirst .navigate]
    let half := String.singleton (Text.ofHalf 0xd83d)
    let request := changeFirst [("url", .text half)] []
    let e := answer c request state.1 state.2
    request.Asks (.changeNode (Registry.sessionId 1) "navigate-1" (some [("url", .text half)])
        (some [])) ∧
      Applies stepped () (Registry.sessionId 1) steppedSession true
        ⟨"navigate-1", .navigate, ⟨.int 0, .int 0⟩, .navigate (.text half)⟩ e ∧
      e.reply.status = 500 := by
  intro c state half request e
  have hasks : request.Asks (.changeNode (Registry.sessionId 1) "navigate-1"
      (some [("url", .text half)]) (some [])) := ⟨_, destination_changeFirst _ _, rfl⟩
  have hstate : state = (stepped, ()) := served_addFirst c
  have hr := @consistent_served Unit c {} rfl () [openFirst, addFirst .navigate]
  rw [served_addFirst] at hr
  have happlies : Applies stepped () (Registry.sessionId 1) steppedSession true
      ⟨"navigate-1", .navigate, ⟨.int 0, .int 0⟩, .navigate (.text half)⟩ e := by
    have hanswer := @answersChange_exchange "navigate-1" (some [("url", .text half)]) (some [])
      Unit c stepped (Registry.sessionId 1) hr (by decide) (by decide)
      (fun p hp => by rw [← Option.some.inj hp]; rfl) ()
    change Applies _ _ _ _ _ _ (answer c request state.1 state.2)
    rw [answer_of_asks hasks, hstate]
    exact hanswer.applies rfl (rfl : steppedSession.graph.node? "navigate-1" = some firstStep)
      (fits_firstStep _)
  refine ⟨hasks, happlies, ?_⟩
  rw [happlies.reply_eq, if_neg (by decide)]
  rfl

end Service

end BrowserFlow
