import BrowserFlow.Editor.Values
import BrowserFlow.Proofs.Action
import BrowserFlow.Proofs.Document.Reading
import BrowserFlow.Proofs.Editor.Fresh

/-!
# What a call can do to a session

An `Effect` is what a call that succeeds does: how it changes the session, and which
events it announces. `Effect.Allowed` says what the call has made sure of by then. An
edit `Does` something if it either fails without a trace, the session being as it was
and no event announced, or has an effect that is allowed; the last argument says
which, and what is returned.

There is one such statement for each edit of a session. Whatever is to be shown of
edits follows from it by cases on the effect, without a look at the edits themselves.

A change of parameters can end in one more way, `Unshown`: the step is changed, but the limits
do not let its parameters be shown, so the edit fails with its effect done and not announced.
-/

namespace BrowserFlow.Editor

open BrowserFlow.Action

/-- What a call that succeeds does to its session. -/
inductive Effect where
  | nothing
  | told (event : Event)
  | renamed (name : String)
  | added (node : Node) (number : Nat)
  | updated (node : Node) (changes : Table Json)
  | moved (node : Node) (position : Position)
  | removed (id : String)
  | joined (source target : String)
  | parted (edge : Edge)
  | cleared
  | imported (g : Graph)

namespace Effect

def apply : Effect → Session → Session
  | nothing, s => s
  | told _, s => s
  | renamed name, s => { s with name := name }
  | added node number, s =>
    { s with
      graph := s.graph.insertNode node
      handlers := Table.set s.handlers node.id ⟨node.id⟩
      nextNumber := number + 1 }
  | updated node changes, s =>
    { s with
      graph := s.graph.updateNode node.id fun other =>
        { other with params := node.params.merged changes } }
  | moved node position, s =>
    { s with
      graph := s.graph.updateNode node.id fun other => { other with position := position } }
  | removed id, s =>
    { s with graph := s.graph.removeNode id, handlers := Table.erase s.handlers id }
  | joined source target, s => { s with graph := s.graph.insertEdge (.between source target) }
  | parted edge, s => { s with graph := s.graph.eraseEdge edge }
  | cleared, s => { s with graph := initialGraph, handlers := bindAll initialGraph }
  | imported g, s => { s with graph := g, handlers := bindAll g }

def events : Effect → List Event
  | nothing | renamed _ | moved _ _ => []
  | told event => [event]
  | added node _ => [.nodeAdded node.id node.kind]
  | updated node changes => [.nodeUpdated node.id (node.params.merged changes).pairs]
  | removed id => [.nodeRemoved id]
  | joined source target => [.edgeAdded (Edge.defaultId source target) source target]
  | parted edge => [.edgeRemoved edge.id]
  | cleared => [.cleared]
  | imported g => [.imported g.nodes.length g.edges.length]

/-- What a call has made sure of before it does this to a session. -/
def Allowed (s : Session) : Effect → Prop
  | nothing | renamed _ | cleared => True
  | told event =>
    (∃ headless, event = .generated headless) ∨ (∃ name, event = .saved name) ∨
      ∃ headless, event = .ran headless
  | added node number =>
    number = s.freeNumber node.kind ∧ node.id = Session.numberedId node.kind number ∧ node.Proper
  | updated node changes =>
    s.graph.node? node.id = some node ∧ node.kind.shape.Takes changes
  | moved node position => s.graph.node? node.id = some node ∧ position.isNumeric = true
  | removed id => id ∈ s.graph.nodeIds
  | joined source target =>
    source ∈ s.graph.nodeIds ∧ target ∈ s.graph.nodeIds ∧
      s.graph.edgeBetween? source target = none
  | parted edge => s.graph.edge? edge.id = some edge
  | imported g => g.Sound ∧ g.edgeIds.Nodup

theorem Allowed.notMem_nodeIds {s : Session} {node : Node} {number : Nat}
    (h : (added node number).Allowed s) : node.id ∉ s.graph.nodeIds := by
  obtain ⟨rfl, hid, -⟩ := h
  rw [hid]
  exact Session.numberedId_freeNumber_notMem s node.kind

end Effect

/-- An edit that either fails without a trace, or has an effect that is allowed, and
then returns something that fits the effect. -/
def Does {α : Type} (x : Edit α) (s : Session) (fits : Effect → α → Prop) : Prop :=
  (∃ failure, (x s).Leaves s [] (.error failure)) ∨
    ∃ effect a, fits effect a ∧ effect.Allowed s ∧
      (x s).Leaves (effect.apply s) effect.events (.ok a)

section Does

variable {α β : Type} {s : Session} {fits : Effect → α → Prop}

theorem does_fail (failure : Failure) : Does (Action.fail failure) s fits :=
  Or.inl ⟨failure, rfl, rfl, rfl⟩

theorem does_effect {x : Edit α} (effect : Effect) (a : α) (hfits : fits effect a)
    (hallowed : effect.Allowed s) (h : (x s).Leaves (effect.apply s) effect.events (.ok a)) :
    Does x s fits :=
  Or.inr ⟨effect, a, hfits, hallowed, h⟩

/-- What is done after a look is done as a whole. -/
theorem does_of_looks_bind {x : Edit β} {next : β → Edit α} (hx : Looks x)
    (hnext : ∀ b, (x s).result = .ok b → Does (next b) s fits) : Does (x >>= next) s fits := by
  rcases hx.bind_cases next s with hfailed | ⟨b, hb, hleaves⟩
  · exact Or.inl hfailed
  · rcases hnext b hb with ⟨failure, h⟩ | ⟨effect, a, hfits, hallowed, h⟩
    · exact Or.inl ⟨failure, hleaves h⟩
    · exact Or.inr ⟨effect, a, hfits, hallowed, hleaves h⟩

theorem does_of_looks {x : Edit α} (hx : Looks x) (hfits : ∀ a, fits .nothing a) :
    Does x s fits := by
  have hleaves := hx.leaves s
  cases hresult : (x s).result with
  | error failure =>
      rw [hresult] at hleaves
      exact Or.inl ⟨failure, hleaves⟩
  | ok a =>
      rw [hresult] at hleaves
      exact does_effect .nothing a (hfits a) trivial hleaves

theorem Does.weaken {x : Edit α} (h : Does x s fits) {fits' : Effect → α → Prop}
    (hfits : ∀ effect a, fits effect a → fits' effect a) : Does x s fits' := by
  rcases h with hfailed | ⟨effect, a, hfit, hallowed, h⟩
  · exact Or.inl hfailed
  · exact Or.inr ⟨effect, a, hfits effect a hfit, hallowed, h⟩

theorem Does.map {x : Edit α} (h : Does x s fits) (f : α → β) {fits' : Effect → β → Prop}
    (hfits : ∀ effect a, fits effect a → fits' effect (f a)) :
    Does (do return f (← x)) s fits' := by
  rcases h with ⟨failure, h⟩ | ⟨effect, a, hfit, hallowed, h⟩
  · exact Or.inl ⟨failure, h.bind_error⟩
  · exact Or.inr ⟨effect, f a, hfits effect a hfit, hallowed, h.map_ok f⟩

theorem does_onNamed {unknown : String → Failure} {v : Json} {x : String → Edit α}
    (h : ∀ id, v = .text id → Does (x id) s fits) : Does (Session.onNamed unknown v x) s fits := by
  unfold Session.onNamed
  split
  · exact h _ rfl
  · exact does_fail _

/-- An edit that has changed the parameters of a step and then fails, since they hold a whole
number that is too long to be shown. -/
structure Unshown (limits : Json.Limits) (x : Edit α) (s : Session) (node : Node)
    (changes : Table Json) (excess : Json.Excess) : Prop where
  allowed : (Effect.updated node changes).Allowed s
  excess_eq : Json.checkWritten limits (.object (node.params.merged changes).pairs) = .error excess
  leaves : (x s).Leaves ((Effect.updated node changes).apply s) [] (.error (.beyondLimit excess))

/-- A change of parameters within limits does something, or changes a step with an id that it
is `about` and cannot show it. -/
def DoesWithin (limits : Json.Limits) (x : Edit α) (s : Session) (about : String → Prop)
    (fits : Effect → α → Prop) : Prop :=
  Does x s fits ∨ ∃ node changes excess, about node.id ∧ Unshown limits x s node changes excess

variable {limits : Json.Limits} {about : String → Prop}

theorem doesWithin_of_looks_bind {x : Edit β} {next : β → Edit α} (hx : Looks x)
    (hnext : ∀ b, (x s).result = .ok b → DoesWithin limits (next b) s about fits) :
    DoesWithin limits (x >>= next) s about fits := by
  cases hresult : (x s).result with
  | error failure =>
      refine Or.inl (does_of_looks_bind hx fun b hb => ?_)
      rw [hresult] at hb
      cases hb
  | ok b =>
      rcases hnext b hresult with hdoes | ⟨node, changes, excess, habout, h⟩
      · refine Or.inl (does_of_looks_bind hx fun c hc => ?_)
        rw [hresult] at hc
        rwa [← Except.ok.inj hc]
      · exact Or.inr ⟨node, changes, excess, habout, h.allowed, h.excess_eq,
          hx.leaves_bind hresult h.leaves⟩

theorem DoesWithin.weaken {x : Edit α} (h : DoesWithin limits x s about fits)
    {about' : String → Prop} {fits' : Effect → α → Prop} (habout : ∀ id, about id → about' id)
    (hfits : ∀ effect a, fits effect a → fits' effect a) :
    DoesWithin limits x s about' fits' := by
  rcases h with h | ⟨node, changes, excess, hnode, h⟩
  · exact Or.inl (h.weaken hfits)
  · exact Or.inr ⟨node, changes, excess, habout _ hnode, h⟩

theorem DoesWithin.map {x : Edit α} (h : DoesWithin limits x s about fits) (f : α → β)
    {fits' : Effect → β → Prop} (hfits : ∀ effect a, fits effect a → fits' effect (f a)) :
    DoesWithin limits (do return f (← x)) s about fits' := by
  rcases h with h | ⟨node, changes, excess, hnode, h⟩
  · exact Or.inl (h.map f hfits)
  · exact Or.inr ⟨node, changes, excess, hnode, h.allowed, h.excess_eq, h.leaves.bind_error⟩

theorem doesWithin_onNamed {unknown : String → Failure} {v : Json} {x : String → Edit α}
    (h : ∀ id, v = .text id → DoesWithin limits (x id) s about fits) :
    DoesWithin limits (Session.onNamed unknown v x) s about fits := by
  unfold Session.onNamed
  split
  · exact h _ rfl
  · exact Or.inl (does_fail _)

theorem DoesWithin.does {x : Edit α} (h : DoesWithin {} x s about fits) : Does x s fits := by
  rcases h with h | ⟨node, changes, excess, -, h⟩
  · exact h
  · exact nomatch h.excess_eq

end Does

namespace Session

/-! ## Looking up and checking -/

theorem looks_findNode (id : String) : Looks (findNode id) := by
  apply looks_read.bind
  intro s
  split
  · exact looks_pure _
  · exact looks_fail _

theorem result_findNode (id : String) (s : Session) :
    (findNode id s).result =
      match s.graph.node? id with
      | some node => .ok node
      | none => .error (.unknownNode id) := by
  rw [findNode, looks_read.result_bind, read_apply]
  simp only [Except.bind]
  cases s.graph.node? id <;> rfl

theorem result_findNode_eq_ok_iff {s : Session} {id : String} {node : Node} :
    (findNode id s).result = .ok node ↔ s.graph.node? id = some node := by
  rw [result_findNode]
  cases s.graph.node? id <;> simp

theorem looks_handlerFor (id : String) : Looks (handlerFor id) := by
  apply looks_read.bind
  intro s
  split
  · exact looks_pure _
  · exact looks_fail _

theorem looks_onNamed {α : Type} {unknown : String → Failure} {id : Json} {x : String → Edit α}
    (h : ∀ id, Looks (x id)) : Looks (onNamed unknown id x) := by
  unfold onNamed
  split
  · exact h _
  · exact looks_fail _

theorem looks_handlerOf (id : Json) : Looks (handlerOf id) := by
  unfold handlerOf
  split
  · exact looks_fail _
  · exact looks_fail _
  · exact looks_onNamed looks_handlerFor

theorem looks_requireKind (v : Json) : Looks (requireKind v) := by
  unfold requireKind
  split
  · exact looks_pure _
  · exact looks_fail _

theorem looks_requireParams (kind : Kind) (params : Table Json) :
    Looks (requireParams kind params) :=
  looks_ofJournaled _ _

theorem takes_of_requireParams {s : Session} {kind : Kind} {params kept : Table Json}
    (h : (requireParams kind params s).result = .ok kept) : kind.shape.Takes kept :=
  Document.takes_of_checkParams (Journaled.mapError_eq_ok_iff.mp h)

theorem result_requireParams_of_takes {kind : Kind} {params : Table Json}
    (h : kind.shape.Takes params) (s : Session) :
    (requireParams kind params s).result = .ok params := by
  refine Journaled.mapError_eq_ok_iff.mpr ((Document.result_checkParams_of_known ?_).mpr ⟨h, rfl⟩)
  intro entry hentry
  obtain ⟨field, hfield, -⟩ := h entry hentry
  exact Option.isSome_iff_exists.mpr ⟨field, hfield⟩

theorem looks_requirePosition (x y : Json) : Looks (requirePosition x y) := looks_ofExcept _

theorem isNumeric_of_requirePosition {s : Session} {x y : Json} {p : Position}
    (h : (requirePosition x y s).result = .ok p) : p.isNumeric = true := by
  have hcheck := Journaled.mapError_eq_ok_iff.mp h
  exact (Document.checkPosition_eq_ok_iff.mp hcheck).1

theorem looks_requestedPosition (position : Option (Table Json)) :
    Looks (requestedPosition position) := by
  cases position with
  | none => exact looks_pure _
  | some position => exact looks_requirePosition _ _

theorem isNumeric_of_requestedPosition {s : Session} {position : Option (Table Json)}
    {p : Position} (h : (requestedPosition position s).result = .ok p) : p.isNumeric = true := by
  cases position with
  | none =>
      have heq : ({} : Position) = p := Except.ok.inj h
      rw [← heq]
      rfl
  | some position => exact isNumeric_of_requirePosition h

theorem looks_compileWithin (limits : Json.Limits) (headless : Toggle) :
    Looks (compileWithin limits headless) :=
  looks_read.bind fun _ => looks_ofJournaled _ _

theorem looks_compile (headless : Toggle) : Looks (compile headless) :=
  looks_compileWithin {} headless

theorem result_compileWithin (limits : Json.Limits) (headless : Toggle) (s : Session) :
    (compileWithin limits headless s).result =
      (s.graph.compileWithin limits headless).result.mapError .ofCompiling := rfl

theorem result_compile (headless : Toggle) (s : Session) :
    (compile headless s).result = (s.graph.compile headless).result.mapError .ofCompiling := rfl

theorem looks_order : Looks order := by
  apply looks_read.bind
  intro s
  exact (looks_ofJournaled _ _).bind fun nodes => looks_pure _

theorem looks_prepareSaveWithin (limits : Json.Limits) : Looks (prepareSaveWithin limits) := by
  apply looks_read.bind
  intro s
  split
  · exact looks_fail _
  · exact (looks_compileWithin limits _).bind fun script => looks_pure _

theorem looks_prepareSave : Looks prepareSave := looks_prepareSaveWithin {}

theorem looks_note (level : Level) (text : String) : Looks (note level text) :=
  looks_read.bind fun _ => looks_noteAll _

/-! ## Edits -/

theorem does_read {α : Type} {s : Session} {fits : Effect → α → Prop} {next : Session → Edit α}
    (h : Does (next s) s fits) : Does (Action.read >>= next) s fits := by
  refine does_of_looks_bind looks_read fun now hnow => ?_
  obtain rfl : s = now := Except.ok.inj hnow
  exact h

theorem does_findNode {α : Type} {s : Session} {fits : Effect → α → Prop} {id : String}
    {next : Node → Edit α} (h : ∀ node, s.graph.node? id = some node → Does (next node) s fits) :
    Does (findNode id >>= next) s fits :=
  does_of_looks_bind (looks_findNode id) fun node hnode =>
    h node (result_findNode_eq_ok_iff.mp hnode)

theorem does_addNode (kindValue : Json) (position : Option (Table Json)) (params : Table Json)
    (s : Session) :
    Does (addNode kindValue position params) s fun effect node =>
      ∃ number, effect = .added node number := by
  refine does_of_looks_bind (looks_requireKind kindValue) fun kind _ => ?_
  refine does_of_looks_bind (looks_requireParams kind params) fun kept hkept => ?_
  refine does_of_looks_bind (looks_requestedPosition position) fun place hplace => ?_
  let number := s.freeNumber kind
  let node : Node := ⟨numberedId kind number, kind, place, Params.ofPairs kind.shape kept⟩
  have hproper : node.Proper :=
    ⟨Params.shape_ofPairs _ _, Params.accepts_get_ofPairs (takes_of_requireParams hkept),
      isNumeric_of_requestedPosition hplace⟩
  exact does_effect (.added node number) node ⟨number, rfl⟩ ⟨rfl, rfl, hproper⟩ ⟨rfl, rfl, rfl⟩

theorem does_updateParamsWithin (limits : Json.Limits) (id : String) (changes : Table Json)
    (s : Session) :
    DoesWithin limits (updateParamsWithin limits id changes) s (· = id) fun effect node =>
      ∃ old kept, old.id = id ∧ effect = .updated old kept ∧
        node = { old with params := old.params.merged kept } := by
  refine doesWithin_of_looks_bind (looks_findNode id) fun old hold => ?_
  have hfound := result_findNode_eq_ok_iff.mp hold
  obtain rfl := Graph.id_of_node? hfound
  refine doesWithin_of_looks_bind (looks_requireParams old.kind changes) fun kept hkept => ?_
  have hallowed : (Effect.updated old kept).Allowed s := ⟨hfound, takes_of_requireParams hkept⟩
  -- the step is replaced first, and then the record either is made or is not
  cases hshown : Json.checkWritten limits (.object (old.params.merged kept).pairs) with
  | error excess =>
      refine Or.inr ⟨old, kept, excess, rfl, hallowed, hshown, ?_⟩
      simp only [requireShown, hshown]
      exact ⟨rfl, rfl, rfl⟩
  | ok _ =>
      refine Or.inl (does_effect (.updated old kept) _ ⟨old, kept, rfl, rfl, rfl⟩ hallowed ?_)
      simp only [requireShown, hshown]
      exact ⟨rfl, rfl, rfl⟩

theorem does_updateParams (id : String) (changes : Table Json) (s : Session) :
    Does (updateParams id changes) s fun effect node =>
      ∃ old kept, old.id = id ∧ effect = .updated old kept ∧
        node = { old with params := old.params.merged kept } :=
  (does_updateParamsWithin {} id changes s).does

theorem does_applyValueWithin (limits : Json.Limits) (handler : Handler) (changes : Json)
    (s : Session) :
    DoesWithin limits (applyValueWithin limits handler changes) s (· = handler.nodeId)
      fun effect node => ∃ old kept, old.id = handler.nodeId ∧ effect = .updated old kept ∧
        node = { old with params := old.params.merged kept } := by
  refine doesWithin_of_looks_bind (looks_findNode _) fun _ _ => ?_
  exact doesWithin_of_looks_bind (looks_ofExcept _) fun fields _ =>
    does_updateParamsWithin limits handler.nodeId fields s

theorem does_withFields {α : Type} {s : Session} {fits : Effect → α → Prop}
    {next : Table Json → Edit α} (params : Json) (h : ∀ fields, Does (next fields) s fits) :
    Does (if params.isBlank then (do next (← pure []))
      else (do next (← Action.ofExcept params.asFields))) s fits := by
  split
  · exact does_of_looks_bind (looks_pure _) fun fields _ => h fields
  · exact does_of_looks_bind (looks_ofExcept _) fun fields _ => h fields

theorem does_addValues (kind position params : Json) (s : Session) :
    Does (addValues kind position params) s fun effect node =>
      ∃ number, effect = .added node number := by
  refine does_of_looks_bind (looks_requireKind kind) fun found _ => ?_
  split
  · exact does_withFields params fun fields => does_addNode _ _ fields s
  · exact does_withFields params fun fields => does_addNode _ _ fields s
  · refine does_withFields params fun fields => ?_
    exact does_of_looks_bind (looks_requireParams found fields) fun _ _ => does_fail _

theorem does_moveNode (id : String) (x y : Json) (s : Session) :
    Does (moveNode id x y) s fun effect node =>
      ∃ old position, old.id = id ∧ effect = .moved old position ∧
        node = { old with position := position } := by
  refine does_findNode fun old hold => ?_
  obtain rfl := Graph.id_of_node? hold
  refine does_of_looks_bind (looks_requirePosition x y) fun position hposition => ?_
  exact does_effect (.moved old position) _ ⟨old, position, rfl, rfl, rfl⟩
    ⟨hold, isNumeric_of_requirePosition hposition⟩ ⟨rfl, rfl, rfl⟩

theorem does_removeNode (id : String) (s : Session) :
    Does (removeNode id) s fun effect _ => effect = .removed id := by
  refine does_findNode fun node hnode => ?_
  exact does_effect (.removed id) () rfl (Graph.mem_nodeIds_of_node? hnode) ⟨rfl, rfl, rfl⟩

theorem does_connect (source target : String) (s : Session) :
    Does (connect source target) s fun effect edge =>
      effect = .nothing ∧ s.graph.edgeBetween? source target = some edge ∨
        effect = .joined source target ∧ edge = .between source target := by
  refine does_findNode fun first hfirst => ?_
  refine does_findNode fun second hsecond => ?_
  refine does_read ?_
  cases hedge : s.graph.edgeBetween? source target with
  | some edge =>
      exact does_effect .nothing edge (Or.inl ⟨rfl, rfl⟩) trivial ⟨rfl, rfl, rfl⟩
  | none =>
      exact does_effect (.joined source target) _ (Or.inr ⟨rfl, rfl⟩)
        ⟨Graph.mem_nodeIds_of_node? hfirst, Graph.mem_nodeIds_of_node? hsecond, hedge⟩
        ⟨rfl, rfl, rfl⟩

theorem leaves_connect {source target : String} {s : Session}
    (h : (Effect.joined source target).Allowed s) :
    (connect source target s).Leaves ((Effect.joined source target).apply s)
      (Effect.joined source target).events (.ok (.between source target)) := by
  obtain ⟨hsource, htarget, hnew⟩ := h
  obtain ⟨first, hfirst⟩ := Graph.mem_nodeIds_iff.mp hsource
  obtain ⟨second, hsecond⟩ := Graph.mem_nodeIds_iff.mp htarget
  refine (looks_findNode source).leaves_bind (result_findNode_eq_ok_iff.mpr hfirst) ?_
  refine (looks_findNode target).leaves_bind (result_findNode_eq_ok_iff.mpr hsecond) ?_
  refine looks_read.leaves_bind rfl ?_
  rw [hnew]
  exact ⟨rfl, rfl, rfl⟩

theorem does_connectValues (source target : Json) (s : Session) :
    Does (connectValues source target) s fun effect edge =>
      effect = .nothing ∧ edge ∈ s.graph.edges ∨
        (source = .text edge.source ∧ target = .text edge.target) ∧
          effect = .joined edge.source edge.target := by
  unfold connectValues
  refine does_onNamed fun first hfirst => ?_
  split
  · rename_i second
    rcases does_connect first second s with hfailed | ⟨effect, edge, hfits, hallowed, h⟩
    · exact Or.inl hfailed
    · refine Or.inr ⟨effect, edge, ?_, hallowed, h⟩
      rcases hfits with ⟨heffect, hedge⟩ | ⟨heffect, rfl⟩
      · exact Or.inl ⟨heffect, List.mem_of_find?_eq_some hedge⟩
      · exact Or.inr ⟨⟨hfirst, rfl⟩, heffect⟩
  · exact does_findNode fun _ _ => does_fail _

theorem does_removeEdge (id : String) (s : Session) :
    Does (removeEdge id) s fun effect _ => ∃ edge, edge.id = id ∧ effect = .parted edge := by
  refine does_read ?_
  cases hedge : s.graph.edge? id with
  | none => exact does_fail _
  | some edge =>
      have hid : edge.id = id := by simpa using List.find?_some hedge
      subst hid
      exact does_effect (.parted edge) () ⟨edge, rfl, rfl⟩ hedge ⟨rfl, rfl, rfl⟩

theorem does_clear (s : Session) : Does clear s fun effect _ => effect = .cleared :=
  does_effect .cleared () rfl trivial ⟨rfl, rfl, rfl⟩

theorem does_rename (name : String) (s : Session) :
    Does (rename name) s fun effect _ => effect = .renamed name :=
  does_effect (.renamed name) () rfl trivial ⟨rfl, rfl, rfl⟩

theorem does_generateWithin (limits : Json.Limits) (headless : Toggle) (s : Session) :
    Does (generateWithin limits headless) s fun effect _ =>
      effect = .told (.generated headless) := by
  refine does_of_looks_bind (looks_compileWithin limits headless) fun script _ => ?_
  exact does_effect (.told (.generated headless)) script rfl (Or.inl ⟨headless, rfl⟩)
    ⟨rfl, rfl, rfl⟩

theorem does_generate (headless : Toggle) (s : Session) :
    Does (generate headless) s fun effect _ => effect = .told (.generated headless) :=
  does_generateWithin {} headless s

/-- Saves through a store that has no state of its own. -/
def saveThrough (limits : Json.Limits) (store : SaveRequest → Except Failure Json) : Edit Json :=
  Action.zoom (fun s => (s, ())) (fun both _ => both.1)
    (saveWithin limits fun request => Action.ofExcept (store request))

theorem saveThrough_eq (limits : Json.Limits) (store : SaveRequest → Except Failure Json) :
    saveThrough limits store =
      (prepareSaveWithin limits >>= fun request => finishSave request.name (store request)) := by
  funext s
  rw [bind_apply]
  simp only [saveThrough, saveWithin, zoom, bind_apply, onFirst_apply, onSecond_apply,
    attempt_apply, ofExcept_apply]
  cases (prepareSaveWithin limits s).result <;> rfl

theorem does_saveThrough (limits : Json.Limits) (store : SaveRequest → Except Failure Json)
    (s : Session) :
    Does (saveThrough limits store) s fun effect _ => ∃ name, effect = .told (.saved name) := by
  rw [saveThrough_eq]
  refine does_of_looks_bind (looks_prepareSaveWithin limits) fun request _ => ?_
  cases store request with
  | error failure => exact does_of_looks_bind (looks_note _ _) fun _ _ => does_fail failure
  | ok v =>
      exact does_effect (.told (.saved request.name)) v ⟨request.name, rfl⟩
        (Or.inr (Or.inl ⟨request.name, rfl⟩)) ⟨rfl, rfl, rfl⟩

/-- Runs the script through a runner that has no state of its own. -/
def runThrough (limits : Json.Limits) (runner : String → Except Failure Json)
    (headless : Toggle) : Edit Json :=
  Action.zoom (fun s => (s, ())) (fun both _ => both.1)
    (runScriptWithin limits (fun script => Action.ofExcept (runner script)) headless)

theorem runThrough_eq (limits : Json.Limits) (runner : String → Except Failure Json)
    (headless : Toggle) :
    runThrough limits runner headless =
      (compileWithin limits headless >>= fun script => finishRun headless (runner script)) := by
  funext s
  rw [bind_apply]
  simp only [runThrough, runScriptWithin, zoom, bind_apply, onFirst_apply, onSecond_apply,
    attempt_apply, ofExcept_apply]
  cases (compileWithin limits headless s).result <;> rfl

theorem does_runThrough (limits : Json.Limits) (runner : String → Except Failure Json)
    (headless : Toggle) (s : Session) :
    Does (runThrough limits runner headless) s fun effect _ => effect = .told (.ran headless) := by
  rw [runThrough_eq]
  refine does_of_looks_bind (looks_compileWithin limits headless) fun script _ => ?_
  cases runner script with
  | error failure => exact does_of_looks_bind (looks_note _ _) fun _ _ => does_fail failure
  | ok v =>
      exact does_effect (.told (.ran headless)) v rfl (Or.inr (Or.inr ⟨headless, rfl⟩))
        ⟨rfl, rfl, rfl⟩

theorem does_importWithin (limits : Json.Limits) (document : Json) (s : Session) :
    Does (importWithin limits document) s fun effect g => effect = .imported g := by
  refine does_of_looks_bind (looks_ofJournaled _ _) fun g hg => ?_
  have hread : (Document.importGraph document).result = .ok g := by
    have hwithin := Journaled.mapError_eq_ok_iff.mp hg
    unfold Document.importWithin at hwithin
    split at hwithin
    · exact Journaled.mapError_eq_ok_iff.mp hwithin
    · exact absurd hwithin Journaled.result_fail_ne_ok
  exact does_effect (.imported g) g rfl (Document.sound_of_importGraph hread) ⟨rfl, rfl, rfl⟩

end Session

end BrowserFlow.Editor
