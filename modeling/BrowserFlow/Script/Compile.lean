import BrowserFlow.Journal
import BrowserFlow.Script.Assembly
import BrowserFlow.Script.Toggle

/-!
# Compiling flows

`Graph.compileWithin` makes a script and keeps records on the way: a warning about
several starts, the steps in the order of the walk, a summary, and the steps again
as they are written. Without a start there is no order, and a step that cannot be
written within the limits ends the writing. `Graph.compile` has no limits.
-/

namespace BrowserFlow

/-- A flow without a start step cannot be put into order. -/
structure NoStart where
deriving DecidableEq, Repr

inductive CompileFault where
  | noStart
  /-- The choice of a window cannot be shown. -/
  | unshown (excess : Json.Excess)
  /-- A step cannot be written. -/
  | unwritten (fault : Script.Fault)
deriving DecidableEq, Repr

namespace Node

def writtenRecord (node : Node) : Record :=
  ⟨.debug, .fragments,
    s!"emit: '{node.id}' ({node.kind.name}) -> {node.fragmentLines.length} line(s)"⟩

def visitRecord (node : Node) : Record :=
  ⟨.debug, .ordering, s!"linearize: visit '{node.id}' ({node.kind.name})"⟩

def writeWithin (limits : Json.Limits) (node : Node) : Journaled Script.Fault String :=
  match node.faultWithin? limits with
  | some fault => .fail fault
  | none => do
    .noteAll [node.writtenRecord]
    return node.fragment

def writeAllWithin (limits : Json.Limits) : List Node → Journaled Script.Fault (List String)
  | [] => pure []
  | node :: rest => do
    let first ← node.writeWithin limits
    let others ← writeAllWithin limits rest
    return first :: others

def write (node : Node) : Journaled Script.Fault String := node.writeWithin {}

/-- Writing fails with the fault of the first step that has one. -/
theorem result_writeAllWithin (limits : Json.Limits) (nodes : List Node) :
    (writeAllWithin limits nodes).result =
      match nodes.findSome? (faultWithin? limits) with
      | some fault => .error fault
      | none => .ok (nodes.map fragment) := by
  induction nodes with
  | nil => rfl
  | cons node rest ih =>
    cases h : node.faultWithin? limits with
    | some fault => simp [writeAllWithin, writeWithin, h, Except.bind]
    | none =>
      simp only [writeAllWithin, writeWithin, h, Journaled.result_bind, Journaled.result_noteAll,
        Journaled.result_pure, Except.bind, ih, List.findSome?_cons, List.map_cons]
      cases rest.findSome? (faultWithin? limits) <;> rfl

end Node

def Script.writeWithin (limits : Json.Limits) (nodes : List Node) (headless : Bool) :
    Journaled Script.Fault String := do
  let _ ← Node.writeAllWithin limits nodes
  return Script.assemble nodes headless

theorem Script.result_writeWithin (limits : Json.Limits) (nodes : List Node) (headless : Bool) :
    (Script.writeWithin limits nodes headless).result =
      match nodes.findSome? (Node.faultWithin? limits) with
      | some fault => .error fault
      | none => .ok (Script.assemble nodes headless) := by
  rw [writeWithin, Journaled.result_bind, Node.result_writeAllWithin]
  cases nodes.findSome? (Node.faultWithin? limits) <;> rfl

namespace Graph

def startRecords (g : Graph) : List Record :=
  match g.starts with
  | first :: _ :: _ => [⟨.warning, .ordering,
      s!"graph has {g.starts.length} start nodes; using '{first.id}' (first in node order)"⟩]
  | _ => []

def findStart (g : Graph) : Journaled NoStart Node :=
  match g.start? with
  | some node => do
    .noteAll g.startRecords
    return node
  | none => .fail {}

def linearize (g : Graph) : Journaled NoStart (List Node) := do
  let start ← g.findStart
  let order := g.orderFrom start.id
  .noteAll (order.map Node.visitRecord)
  return order

def compileWithin (limits : Json.Limits) (g : Graph) (headless : Toggle) :
    Journaled CompileFault String := do
  let order ← g.linearize.mapError fun _ => .noStart
  (Journaled.lift (Json.checkWritten limits headless.value)).mapError .unshown
  .note .debug .compiling (s!"compile_graph: {order.length} of {g.nodes.length} node(s) reachable, "
    ++ s!"headless={headless.shown}")
  (Script.writeWithin limits order headless.isOn).mapError .unwritten

def compile (g : Graph) (headless : Toggle) : Journaled CompileFault String :=
  g.compileWithin {} headless

theorem result_linearize (g : Graph) :
    g.linearize.result =
      match g.order? with
      | some order => .ok order
      | none => .error {} := by
  cases h : g.start? <;> simp [linearize, findStart, order?, h, Except.bind]

/-- Compiling fails without a start, or with what cannot be shown, or with the fault of the
first step in the order that has one, and otherwise gives the script. -/
theorem result_compileWithin (limits : Json.Limits) (g : Graph) (headless : Toggle) :
    (g.compileWithin limits headless).result =
      match g.order? with
      | none => .error .noStart
      | some order =>
        match Json.checkWritten limits headless.value with
        | .error excess => .error (.unshown excess)
        | .ok _ =>
          match order.findSome? (Node.faultWithin? limits) with
          | some fault => .error (.unwritten fault)
          | none => .ok (Script.assemble order headless.isOn) := by
  simp only [compileWithin, Journaled.result_bind, Journaled.result_mapError, result_linearize,
    Journaled.result_lift, Journaled.result_note, Script.result_writeWithin]
  cases g.order? with
  | none => rfl
  | some order =>
    simp only [Journaled.mapError_ok, Except.bind]
    cases Json.checkWritten limits headless.value with
    | error excess => rfl
    | ok _ => cases order.findSome? (Node.faultWithin? limits) <;> rfl

/-- Where numbers may have any length, compiling fails without a start, or with the fault of
the first step in the order that has one, and otherwise gives the script. -/
theorem result_compile (g : Graph) (headless : Toggle) :
    (g.compile headless).result =
      match g.order? with
      | none => .error .noStart
      | some order =>
        match order.findSome? Node.fault? with
        | some fault => .error (.unwritten fault)
        | none => .ok (Script.assemble order headless.isOn) := by
  rw [compile, result_compileWithin]
  cases g.order? <;> rfl

/-- Steps with proper parameters have no fault, so only the start can be missing. -/
theorem result_compile_of_accepts {g : Graph} (headless : Toggle)
    (h : ∀ order, g.order? = some order → ∀ node ∈ order,
      Field.code.accepts (node.params.get .code) = true) :
    (g.compile headless).result =
      match g.script? headless.isOn with
      | some script => .ok script
      | none => .error .noStart := by
  rw [result_compile, script?]
  cases ho : g.order? with
  | none => rfl
  | some order =>
    have hnone : order.findSome? Node.fault? = none :=
      List.findSome?_eq_none_iff.2 fun node hnode => Node.fault?_eq_none (h order ho node hnode)
    simp [hnone]

end Graph

end BrowserFlow
