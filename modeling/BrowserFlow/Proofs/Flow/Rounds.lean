import BrowserFlow.Script.Compile
import Mathlib.Logic.Function.Iterate

/-!
# How many rounds the loop takes

A round of the loop takes the id on top off the stack and may put others there, one for each of
some of the edges that leave the step it marks (`exists_stack_step`). An edge is used in this way
only once, since its step stays marked. So the rounds so far, the ids on the stack and the edges
that leave unmarked steps are together never more than they were (`add_load_iterate_le`), whatever
the edges are like, and the loop ends: with an empty stack, in at most one round for the start and
one for each edge (`Graph.rounds_of_linearize`).
-/

namespace BrowserFlow

namespace Search

variable {g : Graph} {s : Search}

/-- A round takes one id off the stack, and puts ids there to which its edges lead. -/
theorem exists_stack_step (h : s.stack ≠ []) : ∃ id rest pushed, s.stack = id :: rest ∧
    pushed.Sublist (g.targets id) ∧ (s.step g).stack = pushed ++ rest := by
  obtain ⟨stack, visited, found⟩ := s
  match stack, h with
  | id :: rest, _ =>
    by_cases hv : id ∈ visited
    · exact ⟨id, rest, [], rfl, List.nil_sublist _, by simp [step, hv]⟩
    · cases hn : g.node? id with
      | none => exact ⟨id, rest, [], rfl, List.nil_sublist _, by simp [step, hv, hn]⟩
      | some node =>
        exact ⟨id, rest, fresh g visited id, rfl, List.filter_sublist, by simp [step, hv, hn]⟩

/-- As long as the loop goes on, each round is paid for by what there was to do. -/
theorem add_load_iterate_le {n : Nat} (h : ∀ k < n, ((step g)^[k] s).stack ≠ []) :
    n + ((step g)^[n] s).load g ≤ s.load g := by
  induction n with
  | zero => exact Nat.le_of_eq (Nat.zero_add _)
  | succ n ih =>
      have hbefore := ih fun k hk => h k (Nat.lt_succ_of_lt hk)
      have hround := load_step_lt (g := g) (h n (Nat.lt_succ_self n))
      rw [Function.iterate_succ_apply']
      omega

/-- The loop is a number of rounds, after which the stack is empty for the first time. -/
theorem exists_iterate_eq_run (g : Graph) (s : Search) :
    ∃ n, (∀ k < n, ((step g)^[k] s).stack ≠ []) ∧ ((step g)^[n] s).stack = [] ∧
      run g s = (step g)^[n] s := by
  induction s using run.induct g with
  | case1 s hempty =>
      refine ⟨0, fun k hk => absurd hk (Nat.not_lt_zero k), hempty, ?_⟩
      rw [run, if_pos hempty]
      rfl
  | case2 s hstack ih =>
      obtain ⟨n, hbefore, hend, hrun⟩ := ih
      refine ⟨n + 1, ?_, hend, ?_⟩
      · intro k hk
        cases k with
        | zero => exact hstack
        | succ k => exact hbefore k (Nat.lt_of_succ_lt_succ hk)
      · rw [run, if_neg hstack, hrun]
        rfl

theorem load_start (g : Graph) (id : String) : load g ⟨[id], [], []⟩ = 1 + g.edges.length := by
  simp [load, openEdges]

end Search

namespace Graph

open Search

/-- A flow with a start is put into order by a loop of at most one round more than the flow has
edges. Each round takes one id off the stack, on which there is the start at first, and after the
last one the stack is empty. -/
theorem rounds_of_linearize {g : Graph} {start : Node} (hstart : g.start? = some start) :
    let first : Search := ⟨[start.id], [], []⟩
    ∃ n ≤ 1 + g.edges.length,
      (∀ k < n, ∃ id rest pushed, ((step g)^[k] first).stack = id :: rest ∧
        pushed.Sublist (g.targets id) ∧ ((step g)^[k + 1] first).stack = pushed ++ rest) ∧
      ((step g)^[n] first).stack = [] ∧
      g.linearize.result = .ok ((step g)^[n] first).found := by
  intro first
  obtain ⟨n, hbefore, hend, hrun⟩ := exists_iterate_eq_run g first
  have hload := add_load_iterate_le hbefore
  rw [load_start] at hload
  refine ⟨n, by omega, ?_, hend, ?_⟩
  · intro k hk
    rw [Function.iterate_succ_apply']
    exact exists_stack_step (hbefore k hk)
  · rw [result_linearize, order?, hstart, ← hrun]
    rfl

/-- Two parallel edges, a loop, a way back and an edge that leads nowhere, between steps of which
two have one id: four rounds. -/
theorem rounds_of_linearize_tangled :
    let g : Graph :=
      { nodes := [{ id := "s", kind := .start }, { id := "a", kind := .wait },
          { id := "a", kind := .click }]
        edges := [⟨"1", "s", "a"⟩, ⟨"2", "s", "a"⟩, ⟨"3", "a", "a"⟩, ⟨"4", "a", "s"⟩,
          ⟨"5", "a", "x"⟩] }
    let first : Search := ⟨["s"], [], []⟩
    g.start? = some { id := "s", kind := .start } ∧
      ((step g)^[3] first).stack = ["a"] ∧ ((step g)^[4] first).stack = [] ∧
      ∃ n ≤ 6, ((step g)^[n] first).stack = [] ∧
        g.linearize.result = .ok ((step g)^[n] first).found := by
  intro g first
  have hstart : g.start? = some { id := "s", kind := .start } := by decide
  obtain ⟨n, hle, -, hend, hresult⟩ := rounds_of_linearize hstart
  exact ⟨hstart, by decide, by decide, n, hle, hend, hresult⟩

end Graph

end BrowserFlow
