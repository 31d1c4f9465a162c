import BrowserFlow.Editor.Session
import BrowserFlow.Proofs.Action
import BrowserFlow.Proofs.FirstFree

/-!
# Ids of new steps

A step that is added gets the kind with a number as its id, and the id tells them both
(`numberedId_inj`). So among one more number than there are steps one is free, and the
search for a free number, which looks at no more than that, does not end at a taken one
(`numberedId_freeNumber_notMem`). It ends at the least free number, where it would also end if
it might look further, and the counter moves past this number (`freshId_least`). Nothing is
asked of the ids that the flow has already.
-/

namespace BrowserFlow.Editor.Session

theorem toList_numberedId (kind : Kind) (n : Nat) :
    (numberedId kind n).toList = kind.name.toList ++ '-' :: (Nat.repr n).toList := by
  simp [numberedId, toString]

theorem hyphen_notMem_name (kind : Kind) : '-' ∉ kind.name.toList := by
  cases kind <;> decide

theorem hyphen_notMem_repr (n : Nat) : '-' ∉ (Nat.repr n).toList := by
  rw [Nat.toList_repr]
  exact fun hmem => absurd (Nat.isDigit_of_mem_toDigits (by decide) (by decide) hmem) (by decide)

/-- The id of a new step tells its kind and its number, since no kind has a hyphen in its
name. -/
theorem numberedId_inj {kind other : Kind} {m n : Nat}
    (h : numberedId kind m = numberedId other n) : kind = other ∧ m = n := by
  have hlists := congrArg String.toList h
  rw [toList_numberedId, toList_numberedId,
    List.append_cons_inj_of_notMem (hyphen_notMem_name kind) (hyphen_notMem_repr m)] at hlists
  exact ⟨Kind.name_injective (String.toList_inj.mp hlists.1),
    repr_injective (String.toList_inj.mp hlists.2.2)⟩

/-- One more number than a list has items cannot all name items of it. -/
theorem exists_numberedId_notMem (kind : Kind) (ids : List String) (first : Nat) :
    ∃ n, first ≤ n ∧ n ≤ first + ids.length ∧ numberedId kind n ∉ ids :=
  exists_notMem_of_injective (numberedId kind) first (fun _ _ _ _ h => (numberedId_inj h).2) ids

def isFree (s : Session) (kind : Kind) (n : Nat) : Bool :=
  (s.graph.node? (numberedId kind n)).isNone

theorem isFree_iff {s : Session} {kind : Kind} {n : Nat} :
    s.isFree kind n = true ↔ numberedId kind n ∉ s.graph.nodeIds := by
  rw [isFree, Option.isNone_iff_eq_none, Graph.node?_eq_none_iff]

theorem isFree_eq_false_iff {s : Session} {kind : Kind} {n : Nat} :
    s.isFree kind n = false ↔ numberedId kind n ∈ s.graph.nodeIds := by
  rw [← Bool.not_eq_true, isFree_iff, not_not]

theorem freeNumber_eq (s : Session) (kind : Kind) :
    s.freeNumber kind = firstFrom (s.isFree kind) s.graph.nodes.length s.nextNumber := rfl

/-- Each number from the counter on that is passed over is that of a step. -/
theorem numberedId_mem_of_lt_freeNumber {s : Session} {kind : Kind} {n : Nat}
    (hge : s.nextNumber ≤ n) (hlt : n < s.freeNumber kind) :
    numberedId kind n ∈ s.graph.nodeIds := by
  rw [freeNumber_eq] at hlt
  exact isFree_eq_false_iff.mp (not_free_of_lt_firstFrom hge hlt)

theorem numberedId_freeNumber_notMem (s : Session) (kind : Kind) :
    numberedId kind (s.freeNumber kind) ∉ s.graph.nodeIds := by
  obtain ⟨n, hge, hle, hn⟩ := exists_numberedId_notMem kind s.graph.nodeIds s.nextNumber
  rw [Graph.nodeIds, List.length_map] at hle
  have hbound := firstFrom_le (s.isFree kind) s.graph.nodes.length s.nextNumber
  rw [← freeNumber_eq] at hbound
  by_cases hlt : s.freeNumber kind < s.nextNumber + s.graph.nodes.length
  · exact isFree_iff.mp (free_firstFrom hlt)
  · -- all numbers before the last one were taken, so the free one is the last
    have hlast : s.freeNumber kind = n := by
      by_contra hne
      exact hn (numberedId_mem_of_lt_freeNumber hge (by omega))
    rw [hlast]
    exact hn

/-- A new id has the least number from the counter on whose id no step has, which is at most as
far from the counter as there are steps. The search finds it whatever its limit is, if only it may
get there; the counter moves past it, and nothing else changes. -/
theorem freshId_least (s : Session) (kind : Kind) :
    ∃ k, s.nextNumber ≤ k ∧ k ≤ s.nextNumber + s.graph.nodes.length ∧
      numberedId kind k ∉ s.graph.nodeIds ∧
      (∀ m, s.nextNumber ≤ m → m < k → numberedId kind m ∈ s.graph.nodeIds) ∧
      (∀ limit, k < s.nextNumber + limit → firstFrom (s.isFree kind) limit s.nextNumber = k) ∧
      (freshId kind s).Leaves { s with nextNumber := k + 1 } [] (.ok (numberedId kind k)) := by
  have hge : s.nextNumber ≤ s.freeNumber kind := le_firstFrom _ _ _
  have hfree := numberedId_freeNumber_notMem s kind
  refine ⟨s.freeNumber kind, hge, firstFrom_le _ _ _, hfree,
    fun m => numberedId_mem_of_lt_freeNumber, fun limit hlimit => ?_, ⟨rfl, rfl, rfl⟩⟩
  exact firstFrom_eq_of_least hge hlimit (isFree_iff.mpr hfree) fun m hm hlt =>
    isFree_eq_false_iff.mpr (numberedId_mem_of_lt_freeNumber hm hlt)

end BrowserFlow.Editor.Session
