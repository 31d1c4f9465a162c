import BrowserFlow.Flow.Graph

/-!
# The order in which steps run

The steps of a flow run in the order of a depth-first walk from the start step
that follows edges in the order in which they were connected. A step that was
already visited is passed over together with what follows from it: a step where
branches merge runs once, where it is first reached; a cycle ends at its back
edge; and a step that cannot be reached does not run.

The walk is a loop over a stack of ids. Each round takes one id off the stack and
either marks it or finds it marked. `Search.load` counts the ids on the stack and
the edges that leave unmarked steps; every round makes it smaller, which is why
the loop ends.
-/

namespace BrowserFlow

/-- The state of the walk: the ids still to look at, the next one first; the ids
already marked; and the steps found so far. -/
structure Search where
  stack : List String
  visited : List String := []
  found : List Node := []

namespace Search

def openEdges (g : Graph) (visited : List String) : List Edge :=
  g.edges.filter fun edge => edge.source ∉ visited

/-- What is left to do, an upper bound on the rounds to come. -/
def load (g : Graph) (s : Search) : Nat := s.stack.length + (openEdges g s.visited).length

/-- The steps that follow `id` and are not marked once `id` is. -/
def fresh (g : Graph) (visited : List String) (id : String) : List String :=
  (g.targets id).filter fun target => target ∉ id :: visited

def step (g : Graph) (s : Search) : Search :=
  match s.stack with
  | [] => s
  | id :: rest =>
    if id ∈ s.visited then { s with stack := rest }
    else
      match g.node? id with
      | none => { s with stack := rest, visited := id :: s.visited }
      | some node =>
        { stack := fresh g s.visited id ++ rest
          visited := id :: s.visited
          found := s.found ++ [node] }

theorem openEdges_cons (g : Graph) (visited : List String) (id : String) :
    openEdges g (id :: visited) = (openEdges g visited).filter fun edge => edge.source ≠ id := by
  simp only [openEdges, List.filter_filter]
  congr 1
  funext edge
  by_cases h : edge.source = id <;> simp [h]

/-- Marking a step takes the edges that leave it out of the open ones. -/
theorem length_openEdges_cons {g : Graph} {visited : List String} {id : String}
    (h : id ∉ visited) :
    (g.outgoing id).length + (openEdges g (id :: visited)).length
      = (openEdges g visited).length := by
  have hout : g.outgoing id = (openEdges g visited).filter fun edge => edge.source = id := by
    simp only [Graph.outgoing, openEdges, List.filter_filter]
    congr 1
    funext edge
    by_cases he : edge.source = id
    · simp [he, h]
    · simp [he]
  rw [openEdges_cons, hout, ← List.countP_eq_length_filter, ← List.countP_eq_length_filter]
  have := List.length_eq_countP_add_countP (fun edge : Edge => decide (edge.source = id))
    (l := openEdges g visited)
  simpa using this.symm

theorem length_fresh_le (g : Graph) (visited : List String) (id : String) :
    (fresh g visited id).length ≤ (g.outgoing id).length := by
  have := List.length_filter_le (fun target => decide (target ∉ id :: visited)) (g.targets id)
  simpa [fresh, Graph.targets] using this

/-- Every round lightens the load. -/
theorem load_step_lt {g : Graph} {s : Search} (h : s.stack ≠ []) :
    (s.step g).load g < s.load g := by
  obtain ⟨stack, visited, found⟩ := s
  match stack, h with
  | id :: rest, _ =>
    by_cases hv : id ∈ visited
    · simp [step, load, hv]
    · have hopen := length_openEdges_cons (g := g) hv
      cases hn : g.node? id with
      | none => simp only [step, load, hv, hn, if_false, List.length_cons]; omega
      | some node =>
        have hle := length_fresh_le g visited id
        simp only [step, load, hv, hn, if_false, List.length_cons, List.length_append]
        omega

def run (g : Graph) (s : Search) : Search :=
  if s.stack = [] then s else run g (s.step g)
termination_by s.load g
decreasing_by exact load_step_lt ‹_›

end Search

namespace Graph

def orderFrom (g : Graph) (id : String) : List Node := (Search.run g ⟨[id], [], []⟩).found

/-- The steps of a flow in the order in which they run; `none` without a start. -/
def order? (g : Graph) : Option (List Node) := g.start?.map fun start => g.orderFrom start.id

end Graph

end BrowserFlow
