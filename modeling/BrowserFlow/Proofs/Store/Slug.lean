import BrowserFlow.Proofs.FirstFree
import BrowserFlow.Store.ScriptStore

/-!
# The search for a slug

A name is saved under the first of its slugs that is usable (`slugFor_cases`): the search
passes over slugs that belong to other names, each of which has a document in the folder,
and there are not enough of these for it to give up.
-/

namespace BrowserFlow.Store

theorem slug_ne_empty (name : String) : slug name ≠ "" := by
  unfold slug
  split
  · decide
  · rename_i cs hcs
    intro h
    have hchars := congrArg String.toList h
    rw [String.toList_ofList] at hchars
    exact hcs hchars

theorem candidate_of_le {n : Nat} (base : String) (h : n ≤ 1) : candidate base n = base := if_pos h

theorem candidate_of_lt {n : Nat} (base : String) (h : 1 < n) :
    candidate base n = base ++ ("-" ++ Nat.repr n) := by
  rw [candidate, if_neg (by omega), ← String.append_assoc]
  rfl

theorem candidate_ne_empty {base : String} (h : base ≠ "") (n : Nat) : candidate base n ≠ "" := by
  rcases Nat.lt_or_ge 1 n with hn | hn
  · rw [candidate_of_lt base hn]
    simp
  · rw [candidate_of_le base hn]
    exact h

/-- Different numbers, counted from one, give different slugs. -/
theorem candidate_injective {base : String} {m n : Nat} (hm : 1 ≤ m) (hn : 1 ≤ n)
    (h : candidate base m = candidate base n) : m = n := by
  have hne : ∀ n : Nat, base ≠ base ++ ("-" ++ Nat.repr n) := by
    intro n heq
    have hlength := congrArg (fun s => s.toList.length) heq
    simp at hlength
  rcases Nat.lt_or_ge 1 m with hm' | hm' <;> rcases Nat.lt_or_ge 1 n with hn' | hn'
  · rw [candidate_of_lt base hm', candidate_of_lt base hn', String.append_right_inj] at h
    exact repr_injective ((String.append_right_inj _).mp h)
  · rw [candidate_of_lt base hm', candidate_of_le base hn'] at h
    exact absurd h.symm (hne m)
  · rw [candidate_of_le base hm', candidate_of_lt base hn'] at h
    exact absurd h (hne n)
  · omega

theorem documentFile_injective {slug other : String} (h : documentFile slug = documentFile other) :
    slug = other := (String.append_left_inj _).mp h

theorem scriptFile_injective {slug other : String} (h : scriptFile slug = scriptFile other) :
    slug = other := (String.append_left_inj _).mp h

theorem scriptFile_ne_documentFile (slug other : String) :
    scriptFile slug ≠ documentFile other := by
  intro h
  have hlast := congrArg (fun name => name.toList.getLast?) h
  simp [scriptFile, documentFile] at hlast

/-- Slugs that come one after the other and have files among those of a list are no more than
these. -/
theorem le_add_length_of_documentFile_mem {base : String} {files : List String} {k : Nat}
    (h : ∀ m, 1 ≤ m → m < k → documentFile (candidate base m) ∈ files) : k ≤ 1 + files.length := by
  apply le_add_length_of_mem _ h
  intro m n hm hn heq
  exact candidate_injective hm hn (documentFile_injective heq)

namespace ScriptStore

variable {store : ScriptStore} {folder : Folder} {base name : String}

/-- The name can have the slug. -/
def Usable (store : ScriptStore) (folder : Folder) (name slug : String) : Prop :=
  ∃ owner, store.ownerIn folder slug = .ok owner ∧ isUsable name owner = true

/-- The slug belongs to another name. -/
def Passed (store : ScriptStore) (folder : Folder) (name slug : String) : Prop :=
  ∃ owner, store.ownerIn folder slug = .ok owner ∧ isUsable name owner = false

theorem Passed.cons {n k : Nat} (hn : store.Passed folder name (candidate base n))
    (h : ∀ m, n + 1 ≤ m → m < k → store.Passed folder name (candidate base m)) (m : Nat)
    (hm : n ≤ m) (hk : m < k) : store.Passed folder name (candidate base m) := by
  rcases Nat.eq_or_lt_of_le hm with rfl | hlt
  · exact hn
  · exact h m hlt hk

/-- The search goes on while slugs belong to others. It ends with a fault, with a slug
that the name can have, or when it has looked at as many as it may. -/
theorem slugFrom_cases (store : ScriptStore) (folder : Folder) (base name : String)
    (fuel n : Nat) :
    ∃ k, n ≤ k ∧ k ≤ n + fuel ∧
      (∀ m, n ≤ m → m < k → store.Passed folder name (candidate base m)) ∧
      ((∃ fault, k < n + fuel ∧ store.ownerIn folder (candidate base k) = .error fault ∧
          store.slugFrom folder base name fuel n = .error fault) ∨
        (k < n + fuel → store.Usable folder name (candidate base k)) ∧
          store.slugFrom folder base name fuel n = .ok (candidate base k)) := by
  induction fuel generalizing n with
  | zero =>
      refine ⟨n, le_refl n, le_refl n, by omega, Or.inr ⟨by omega, rfl⟩⟩
  | succ fuel ih =>
      cases howner : store.ownerIn folder (candidate base n) with
      | error fault =>
          refine ⟨n, le_refl n, by omega, by omega, Or.inl ⟨fault, by omega, howner, ?_⟩⟩
          simp [slugFrom, howner, bind, Except.bind]
      | ok owner =>
          cases husable : isUsable name owner with
          | true =>
              refine ⟨n, le_refl n, by omega, by omega,
                Or.inr ⟨fun _ => ⟨owner, howner, husable⟩, ?_⟩⟩
              simp [slugFrom, howner, husable, bind, Except.bind]
          | false =>
              have hnext : store.slugFrom folder base name (fuel + 1) n =
                  store.slugFrom folder base name fuel (n + 1) := by
                simp [slugFrom, howner, husable, bind, Except.bind]
              obtain ⟨k, hge, hle, hpassed, hend⟩ := ih (n + 1)
              rw [hnext]
              refine ⟨k, by omega, by omega, Passed.cons ⟨owner, howner, husable⟩ hpassed, ?_⟩
              have hbound : n + 1 + fuel = n + (fuel + 1) := by omega
              rw [hbound] at hend
              exact hend

theorem Passed.mem_keys {slug : String} (h : store.Passed folder name slug) :
    documentFile slug ∈ Table.keys folder := by
  obtain ⟨owner, howner, husable⟩ := h
  rw [← Table.get?_isSome_iff]
  by_contra hnone
  rw [Bool.not_eq_true, Option.isSome_eq_false_iff, Option.isNone_iff_eq_none] at hnone
  have hnull : store.ownerIn folder slug = .ok owner → owner = .null := by
    unfold ownerIn loadIn
    split <;> simp [hnone, bind, Except.bind, eq_comm]
  obtain rfl := hnull howner
  simp [isUsable] at husable

/-- A name is saved under the first slug that it can have, and is not saved if a document
before that cannot be read. -/
theorem slugFor_cases (store : ScriptStore) (folder : Folder) (name : String) :
    ∃ k, 1 ≤ k ∧ (∀ m, 1 ≤ m → m < k → store.Passed folder name (candidate (slug name) m)) ∧
      ((∃ fault, store.ownerIn folder (candidate (slug name) k) = .error fault ∧
          store.slugFor folder name = .error fault) ∨
        store.Usable folder name (candidate (slug name) k) ∧
          store.slugFor folder name = .ok (candidate (slug name) k)) := by
  obtain ⟨k, hge, -, hpassed, hend⟩ :=
    slugFrom_cases store folder (slug name) name (folder.length + 1) 1
  refine ⟨k, hge, hpassed, ?_⟩
  rcases hend with ⟨fault, -, howner, hfault⟩ | ⟨husable, hok⟩
  · exact Or.inl ⟨fault, howner, hfault⟩
  · -- each slug that was passed over has a document of its own
    have hbound : k ≤ 1 + (Table.keys folder).length :=
      le_add_length_of_documentFile_mem fun m hm hlt => (hpassed m hm hlt).mem_keys
    rw [Table.keys, List.length_map] at hbound
    exact Or.inr ⟨husable (by omega), hok⟩

/-- The slug that a name gets is one of its slugs, and usable. -/
theorem usable_of_slugFor {slug : String} (h : store.slugFor folder name = .ok slug) :
    store.Usable folder name slug ∧ ∃ n, slug = candidate (Store.slug name) n := by
  obtain ⟨n, -, -, ⟨fault, -, hfault⟩ | ⟨husable, hok⟩⟩ := slugFor_cases store folder name
  · rw [h] at hfault
    cases hfault
  · rw [h] at hok
    rw [Except.ok.inj hok]
    exact ⟨husable, n, rfl⟩

end ScriptStore

end BrowserFlow.Store
