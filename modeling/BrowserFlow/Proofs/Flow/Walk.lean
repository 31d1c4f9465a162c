import BrowserFlow.Script.Compile
import Mathlib.Data.List.Basic

/-!
# The loop is the recursive walk

`Graph.visit` is the depth-first walk as a recursion: an id that is marked already is
passed over; any other is marked, its step is noted, and the ids that its edges lead
to are visited one after the other (`Graph.visitAll`), each with the marks that those
before it have left. An id without a step ends there. What is known on the way is a
`Trail`. The recursion ends because each step that is noted is one unmarked id less;
that marks are only ever added is part of the result, since the walk goes on from the
marks of a part of itself.

The loop of `Search` keeps the ids that are still to be visited on a stack, drops
those that were marked when it pushed them, and may hold an id many times. What it
does with the ids on top of the stack is nevertheless what the recursion does with
them (`run_visit_and_visitAll`), whatever lies below and whatever is marked already. Hence a flow
is put into the order of the recursive walk from its first start
(`result_linearize_eq_walk`).
-/

namespace BrowserFlow

/-- What a walk knows: the ids that are marked, and the steps noted so far. -/
structure Trail where
  marked : List String := []
  found : List Node := []

namespace Graph

def unmarked (g : Graph) (marked : List String) : List String :=
  g.nodeIds.filter fun id => id ∉ marked

theorem length_unmarked_le {g : Graph} {marked more : List String} (h : marked ⊆ more) :
    (g.unmarked more).length ≤ (g.unmarked marked).length := by
  apply List.Sublist.length_le
  apply List.monotone_filter_right
  intro id hid
  simp only [decide_eq_true_eq] at hid ⊢
  exact fun hmem => hid (h hmem)

theorem length_unmarked_cons_lt {g : Graph} {marked : List String} {id : String}
    (hid : id ∈ g.nodeIds) (h : id ∉ marked) :
    (g.unmarked (id :: marked)).length < (g.unmarked marked).length := by
  have hsub : g.unmarked (id :: marked) = (g.unmarked marked).filter (· ≠ id) := by
    rw [unmarked, unmarked, List.filter_filter]
    apply List.filter_congr
    intro other _
    by_cases ho : other = id <;> simp [ho]
  rw [hsub]
  apply List.length_filter_lt_length_iff_exists.mpr
  exact ⟨id, List.mem_filter.mpr ⟨hid, by simpa using h⟩, by simp⟩

mutual

def visit (g : Graph) (id : String) (t : Trail) : { u : Trail // t.marked ⊆ u.marked } :=
  if _hid : id ∈ t.marked then ⟨t, fun _ h => h⟩
  else
    match _hnode : g.node? id with
    | none => ⟨{ t with marked := id :: t.marked }, List.subset_cons_self _ _⟩
    | some node =>
      let u := visitAll g (g.targets id) ⟨id :: t.marked, t.found ++ [node]⟩
      ⟨u.1, fun _ h => u.2 (List.mem_cons_of_mem _ h)⟩
termination_by ((g.unmarked t.marked).length, 0)
decreasing_by
  apply Prod.Lex.left
  have hmem : id ∈ g.nodeIds := by
    by_contra hnot
    rw [node?_eq_none_iff.mpr hnot] at _hnode
    exact nomatch _hnode
  exact length_unmarked_cons_lt hmem _hid

def visitAll (g : Graph) (ids : List String) (t : Trail) : { u : Trail // t.marked ⊆ u.marked } :=
  match ids with
  | [] => ⟨t, fun _ h => h⟩
  | id :: rest =>
    let u := visit g id t
    let v := visitAll g rest u.1
    ⟨v.1, fun _ h => v.2 (u.2 h)⟩
termination_by ((g.unmarked t.marked).length, ids.length)
decreasing_by
  · apply Prod.Lex.right
    exact Nat.succ_pos _
  · rcases Nat.lt_or_eq_of_le (length_unmarked_le (g := g) u.2) with h | h
    · exact Prod.Lex.left _ _ h
    · rw [h]
      exact Prod.Lex.right _ (Nat.lt_succ_self _)

end

def walk (g : Graph) (id : String) : List Node := (g.visit id {}).1.found

theorem visit_of_mem {g : Graph} {id : String} {t : Trail} (h : id ∈ t.marked) :
    (g.visit id t).1 = t := by
  rw [visit, dif_pos h]

theorem visit_of_none {g : Graph} {id : String} {t : Trail} (h : id ∉ t.marked)
    (hnode : g.node? id = none) : (g.visit id t).1 = { t with marked := id :: t.marked } := by
  rw [visit, dif_neg h]
  split
  · rfl
  · simp_all

theorem visit_of_some {g : Graph} {id : String} {t : Trail} {node : Node} (h : id ∉ t.marked)
    (hnode : g.node? id = some node) :
    (g.visit id t).1 =
      (g.visitAll (g.targets id) ⟨id :: t.marked, t.found ++ [node]⟩).1 := by
  rw [visit, dif_neg h]
  split
  · simp_all
  · rename_i other hother
    rw [hnode] at hother
    rw [Option.some.inj hother]

theorem visitAll_nil (g : Graph) (t : Trail) : (g.visitAll [] t).1 = t := by
  rw [visitAll]

theorem visitAll_cons (g : Graph) (id : String) (rest : List String) (t : Trail) :
    (g.visitAll (id :: rest) t).1 = (g.visitAll rest (g.visit id t).1).1 := by
  rw [visitAll]

end Graph

/-- The loop with some ids on its stack that knows what a walk knows. -/
def Trail.search (t : Trail) (stack : List String) : Search := ⟨stack, t.marked, t.found⟩

namespace Search

theorem run_of_nil (g : Graph) (t : Trail) : run g (t.search []) = t.search [] := by
  rw [run]
  exact if_pos rfl

theorem run_cons (g : Graph) (t : Trail) (id : String) (stack : List String) :
    run g (t.search (id :: stack)) = run g (step g (t.search (id :: stack))) := by
  rw [run]
  exact if_neg (List.cons_ne_nil _ _)

/-- What the loop does with ids on top of its stack is to visit them. The ids of `seen`,
which are marked, may be left out: a round that meets one only drops it. -/
theorem run_visit_and_visitAll (g : Graph) :
    (∀ id t stack, run g (t.search (id :: stack)) = run g ((g.visit id t).1.search stack)) ∧
      ∀ ids t seen, seen ⊆ t.marked → ∀ stack,
        run g (t.search (ids.filter (fun id => id ∉ seen) ++ stack)) =
          run g ((g.visitAll ids t).1.search stack) := by
  -- along the recursion of the walk: what is below the ids on the stack plays no part
  refine Graph.visit.mutual_induct g
    (fun id t => ∀ stack, run g (t.search (id :: stack)) = run g ((g.visit id t).1.search stack))
    (fun ids t => ∀ seen, seen ⊆ t.marked → ∀ stack,
      run g (t.search (ids.filter (fun id => id ∉ seen) ++ stack)) =
        run g ((g.visitAll ids t).1.search stack))
    ?marked ?missing ?found ?nil ?cons
  case marked =>
    intro id t h stack
    rw [run_cons, Graph.visit_of_mem h]
    simp [step, Trail.search, h]
  case missing =>
    intro id t h hnode stack
    rw [run_cons, Graph.visit_of_none h hnode]
    simp [step, Trail.search, h, hnode]
  case found =>
    intro id t h node hnode ih stack
    have hstep : step g (t.search (id :: stack)) =
        Trail.search ⟨id :: t.marked, t.found ++ [node]⟩ (fresh g t.marked id ++ stack) := by
      simp [step, Trail.search, h, hnode]
    rw [run_cons, hstep, Graph.visit_of_some h hnode]
    exact ih (id :: t.marked) (fun _ hmem => hmem) stack
  case nil =>
    intro t seen _ stack
    rw [Graph.visitAll_nil]
    rfl
  case cons =>
    intro t id rest u ihId ihRest _ seen hseen stack
    rw [Graph.visitAll_cons]
    by_cases hid : id ∈ seen
    · have hvisit : u.1 = t := Graph.visit_of_mem (hseen hid)
      rw [hvisit] at ihRest
      rw [List.filter_cons_of_neg (by simpa using hid), ihRest seen hseen stack]
      exact congrArg (fun v => run g ((g.visitAll rest v).1.search stack)) hvisit.symm
    · rw [List.filter_cons_of_pos (by simpa using hid), List.cons_append, ihId]
      exact ihRest seen (fun _ hmem => u.2 (hseen hmem)) stack

/-- A loop that begins with one id finds the steps of the walk from it. -/
theorem found_run_singleton (g : Graph) (id : String) :
    (run g ⟨[id], [], []⟩).found = g.walk id := by
  change (run g (Trail.search {} [id])).found = _
  rw [(run_visit_and_visitAll g).1, run_of_nil]
  rfl

end Search

namespace Graph

/-- A flow is put into the order of the recursive walk from its first start, and only a
flow without a start cannot be put into order. -/
theorem result_linearize_eq_walk (g : Graph) :
    g.linearize.result =
      match g.start? with
      | some start => .ok (g.walk start.id)
      | none => .error {} := by
  rw [result_linearize, order?]
  cases g.start? with
  | none => rfl
  | some start => exact congrArg Except.ok (Search.found_run_singleton g start.id)

end Graph

end BrowserFlow
