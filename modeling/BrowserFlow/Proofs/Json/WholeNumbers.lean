import BrowserFlow.Proofs.Json.Standard

/-!
# Limits of what is read

`WholesIn P v` says that all whole numbers of `v`, those inside of it included, have the property
`P`. A list and an object have it as their parts do. A whole number is read only if its digits are
no more than the limits allow, and its value has no more digits than its text, so all whole numbers
of a value that was read may be written within the same limits (`wholesIn_of_read`). Nor is a value
read that is nested deeper than they allow (`allows_depth_of_read`), so what was read can be
written again (`checkText_of_read`).
-/

namespace BrowserFlow.Json

/-- All whole numbers of a value have a property. -/
def WholesIn (P : Int → Prop) (v : Json) : Prop := ∀ n ∈ v.wholeNumbers, P n

section Parts

variable {P : Int → Prop}

theorem wholesIn_list_iff {items : List Json} :
    WholesIn P (.list items) ↔ ∀ v ∈ items, WholesIn P v := by
  rw [WholesIn, wholeNumbers]
  induction items with
  | nil => simp [itemsWholeNumbers]
  | cons v items ih =>
      rw [itemsWholeNumbers, List.forall_mem_append, ih, List.forall_mem_cons]
      rfl

theorem wholesIn_object_iff {fields : List (String × Json)} :
    WholesIn P (.object fields) ↔ ∀ entry ∈ fields, WholesIn P entry.2 := by
  rw [WholesIn, wholeNumbers]
  induction fields with
  | nil => simp [fieldsWholeNumbers]
  | cons entry fields ih =>
      rw [fieldsWholeNumbers, List.forall_mem_append, ih, List.forall_mem_cons]
      rfl

theorem wholesIn_int_iff {n : Int} : WholesIn P (.number (.int n)) ↔ P n :=
  List.forall_mem_singleton

theorem wholesIn_float (x : Binary64) : WholesIn P (.number (.float x)) :=
  List.forall_mem_nil _

theorem wholesIn_null : WholesIn P .null := List.forall_mem_nil _

theorem wholesIn_text (s : String) : WholesIn P (.text s) := List.forall_mem_nil _

theorem WholesIn.get? {fields : Table Json} {key : String} {v : Json}
    (h : WholesIn P (.object fields)) (hv : Table.get? fields key = some v) : WholesIn P v :=
  wholesIn_object_iff.mp h _ (Table.mem_of_get? hv)

theorem WholesIn.subset {some all : Table Json} (h : WholesIn P (.object all))
    (hsub : some ⊆ all) : WholesIn P (.object some) :=
  wholesIn_object_iff.mpr fun entry hentry => wholesIn_object_iff.mp h entry (hsub hentry)

theorem WholesIn.set {fields : Table Json} {v : Json} (h : WholesIn P (.object fields))
    (key : String) (hv : WholesIn P v) : WholesIn P (.object (Table.set fields key v)) := by
  rw [wholesIn_object_iff]
  intro entry hentry
  rcases Table.mem_set hentry with rfl | hentry
  · exact hv
  · exact wholesIn_object_iff.mp h entry hentry

/-- Where a key is repeated, only values of the pairs themselves remain. -/
theorem wholesIn_ofPairs {pairs : List (String × Json)}
    (h : ∀ entry ∈ pairs, WholesIn P entry.2) : WholesIn P (.object (Table.ofPairs pairs)) := by
  rw [wholesIn_object_iff]
  exact fun entry hentry => h entry (Table.mem_of_mem_ofPairs hentry)

end Parts

/-! ## Reading -/

theorem ofDigits_append_singleton (ds : List Char) (d : Char) :
    ofDigits (ds ++ [d]) = 10 * ofDigits ds + digit d := by
  rw [ofDigits, List.foldl_append]
  rfl

theorem ofDigits_lt {ds : List Char} (h : Digits ds) : ofDigits ds < 10 ^ ds.length := by
  induction ds using List.reverseRecOn with
  | nil => exact Nat.one_pos
  | append_singleton ds d ih =>
      have hrest := ih fun c hc => h c (List.mem_append_left [d] hc)
      have hdigit : digit d ≤ 9 := by
        have hd := h d (List.mem_append_right ds List.mem_cons_self)
        rw [Char.isDigit_iff_toNat] at hd
        rw [digit]
        exact Nat.sub_le_of_le_add hd.2
      rw [ofDigits_append_singleton, List.length_append, List.length_singleton, Nat.pow_succ]
      omega

/-- A number has no more digits than a text of digits that denotes it. -/
theorem digitCount_ofDigits_le {ds : List Char} (hne : ds ≠ []) (h : Digits ds) :
    Binary64.digitCount (ofDigits ds) ≤ ds.length := by
  rw [Binary64.digitCount,
    Nat.length_toDigits_le_iff (by decide) (List.length_pos_iff.mpr hne)]
  exact ofDigits_lt h

theorem WholeDigits.digits {ds : List Char} (h : WholeDigits ds) : ds ≠ [] ∧ Digits ds := by
  rcases h with rfl | ⟨⟨d, rest, rfl, -⟩, hdigits⟩
  · exact ⟨by simp, by simp [Digits]⟩
  · exact ⟨List.cons_ne_nil d rest, hdigits⟩

/-- A whole number that the limits let be written. -/
abbrev Limits.AllowsWhole (limits : Limits) (n : Int) : Prop :=
  allows limits.digits (Binary64.digitCount n.natAbs) = true

/-- A whole number is read only if the digits of its text are not too many. -/
theorem allowsWhole_of_readMagnitude? {limits : Limits} {negative : Bool} {cs rest : List Char}
    {n : Int} (h : readMagnitude? limits negative cs = some (.ok (.int n), rest)) :
    limits.AllowsWhole n := by
  rw [readMagnitude?] at h
  cases hwhole : wholeDigits? cs with
  | none => simp [hwhole] at h
  | some pair =>
      obtain ⟨whole, afterWhole⟩ := pair
      obtain ⟨hne, hdigits⟩ := (wholeDigits_of_wholeDigits? hwhole).1.digits
      simp only [hwhole, Option.bind_eq_bind, Option.bind_some] at h
      split at h
      · simp at h
      · split at h
        · rename_i hpart
          rw [List.isEmpty_iff.mp hpart, List.append_nil] at h
          have hnumber := (Prod.mk.inj (Option.some.inj h)).1
          rcases checkDigits_cases limits whole.length with ⟨hallowed, hcheck⟩ | ⟨_, -, -, hcheck⟩
          · rw [hcheck] at hnumber
            have hvalue := Number.int.inj (Except.ok.inj hnumber)
            have habs : n.natAbs = ofDigits whole := by
              rw [← hvalue]
              split <;> simp
            rw [Limits.AllowsWhole, habs]
            exact Limits.allows_of_le (digitCount_ofDigits_le hne hdigits) hallowed
          · rw [hcheck] at hnumber
            cases hnumber
        · simp at h

section Read

variable {limits : Limits}

theorem wholesIn_of_readMagnitude? {negative : Bool} {cs rest : List Char} {x : Number}
    (h : readMagnitude? limits negative cs = some (.ok x, rest)) :
    WholesIn limits.AllowsWhole (.number x) := by
  cases x with
  | int n => exact wholesIn_int_iff.mpr (allowsWhole_of_readMagnitude? h)
  | float x => exact wholesIn_float x

theorem word_or_number_of_readScalar {cs rest : List Char} {v : Json}
    (h : readScalar limits cs = .ok (v, rest)) :
    (∃ word ∈ words, v = word.2) ∨
      ∃ x negative more after, v = .number x ∧
        readMagnitude? limits negative more = some (.ok x, after) := by
  rw [readScalar.eq_def] at h
  split at h
  · rename_i r hword
    obtain ⟨word, hmem, hword⟩ := List.exists_of_findSome?_eq_some hword
    obtain ⟨after, -, rfl⟩ := Option.map_eq_some_iff.mp hword
    cases h
    exact Or.inl ⟨word, hmem, rfl⟩
  · dsimp only at h
    split at h
    · rename_i x after hnumber
      obtain ⟨rfl, -⟩ := Prod.mk.inj (Except.ok.inj h)
      right
      split at hnumber
      · exact ⟨x, _, _, _, rfl, hnumber⟩
      · exact ⟨x, _, _, _, rfl, hnumber⟩
    · cases h
    · cases h

theorem wholesIn_of_readScalar {cs rest : List Char} {v : Json}
    (h : readScalar limits cs = .ok (v, rest)) : WholesIn limits.AllowsWhole v := by
  rcases word_or_number_of_readScalar h with ⟨word, hmem, rfl⟩ | ⟨x, _, _, _, rfl, hnumber⟩
  · have hwords : ∀ word ∈ words, word.2.wholeNumbers = [] := by decide
    rw [WholesIn, hwords word hmem]
    exact List.forall_mem_nil _
  · exact wholesIn_of_readMagnitude? hnumber

theorem depth_of_readScalar {cs rest : List Char} {v : Json}
    (h : readScalar limits cs = .ok (v, rest)) : v.depth = 0 := by
  rcases word_or_number_of_readScalar h with ⟨word, hmem, rfl⟩ | ⟨x, _, _, _, rfl, -⟩
  · have hwords : ∀ word ∈ words, word.2.depth = 0 := by decide
    exact hwords word hmem
  · rfl

theorem exists_of_map {α β : Type} {x : Reading α} (f : α → β) {b : β} {rest : List Char}
    (h : (x.map fun r => (f r.1, r.2)) = .ok (b, rest)) : ∃ a, x = .ok (a, rest) ∧ f a = b := by
  cases x with
  | error stop => cases h
  | ok r =>
      obtain ⟨a, after⟩ := r
      obtain ⟨hvalue, rfl⟩ := Prod.mk.inj (Except.ok.inj h)
      exact ⟨a, rfl, hvalue⟩

/-- What is read as a value: a text, a list or an object with or without parts where one more
is allowed to stand open, or what is no more than a word or a number. -/
theorem readValue_cases {fuel depth : Nat} {cs rest : List Char} {v : Json}
    (h : readValue limits (fuel + 1) depth cs = .ok (v, rest)) :
    (∃ s, v = .text s) ∨
    (∃ items, v = .list items ∧ Limits.allows limits.depth (depth + 1) = true ∧
      (items = [] ∨ ∃ more, readItems limits fuel (depth + 1) more = .ok (items, rest))) ∨
    (∃ fields, v = .object (Table.ofPairs fields) ∧
      Limits.allows limits.depth (depth + 1) = true ∧
      (fields = [] ∨ ∃ more, readFields limits fuel (depth + 1) more = .ok (fields, rest))) ∨
    readScalar limits cs = .ok (v, rest) := by
  rw [readValue.eq_def] at h
  dsimp only at h
  split at h
  · cases h
  · split_ifs at h with hquote hbracket hdepth hbrace hdepth
    · obtain ⟨s, -, rfl⟩ := exists_of_map Json.text h
      exact Or.inl ⟨s, rfl⟩
    · right; left
      split at h
      · cases h
        exact ⟨[], rfl, hdepth, Or.inl rfl⟩
      · obtain ⟨items, hitems, rfl⟩ := exists_of_map Json.list h
        exact ⟨items, rfl, hdepth, Or.inr ⟨_, hitems⟩⟩
    · right; right; left
      split at h
      · cases h
        exact ⟨[], rfl, hdepth, Or.inl rfl⟩
      · obtain ⟨fields, hfields, rfl⟩ :=
          exists_of_map (fun pairs => Json.object (Table.ofPairs pairs)) h
        exact ⟨fields, rfl, hdepth, Or.inr ⟨_, hfields⟩⟩
    · exact Or.inr (Or.inr (Or.inr h))

theorem readItems_cases {fuel depth : Nat} {cs rest : List Char} {vs : List Json}
    (h : readItems limits (fuel + 1) depth cs = .ok (vs, rest)) :
    ∃ v after others, vs = v :: others ∧ readValue limits fuel depth cs = .ok (v, after) ∧
      (others = [] ∨ ∃ more, readItems limits fuel depth more = .ok (others, rest)) := by
  rw [readItems] at h
  split at h
  · cases h
  · rename_i v after hv
    split at h
    · cases h
      exact ⟨v, after, [], rfl, hv, Or.inl rfl⟩
    · obtain ⟨others, hothers, rfl⟩ := exists_of_map (_ :: ·) h
      exact ⟨v, after, others, rfl, hv, Or.inr ⟨_, hothers⟩⟩
    · cases h

theorem readFields_cases {fuel depth : Nat} {cs rest : List Char} {fields : List (String × Json)}
    (h : readFields limits (fuel + 1) depth cs = .ok (fields, rest)) :
    ∃ key v body after others, fields = (key, v) :: others ∧
      readValue limits fuel depth body = .ok (v, after) ∧
      (others = [] ∨ ∃ more, readFields limits fuel depth more = .ok (others, rest)) := by
  rw [readFields] at h
  split at h
  · cases h
  · rename_i key body hname
    split at h
    · cases h
    · rename_i v after hv
      split at h
      · cases h
        exact ⟨key, v, body, after, [], rfl, hv, Or.inl rfl⟩
      · obtain ⟨others, hothers, rfl⟩ := exists_of_map (_ :: ·) h
        exact ⟨key, v, body, after, others, rfl, hv, Or.inr ⟨_, hothers⟩⟩
      · cases h

/-- Values that are read within a number of lists and objects have what texts, words and
numbers have, and what lists and objects have if their parts have it. -/
theorem readValue_induction {P : Nat → Json → Prop} (htext : ∀ depth s, P depth (.text s))
    (hscalar : ∀ depth cs v rest, readScalar limits cs = .ok (v, rest) → P depth v)
    (hlist : ∀ depth items, Limits.allows limits.depth (depth + 1) = true →
      (∀ v ∈ items, P (depth + 1) v) → P depth (.list items))
    (hobject : ∀ depth fields, Limits.allows limits.depth (depth + 1) = true →
      (∀ entry ∈ fields, P (depth + 1) entry.2) → P depth (.object (Table.ofPairs fields)))
    (fuel : Nat) :
    (∀ depth cs v rest, readValue limits fuel depth cs = .ok (v, rest) → P depth v) ∧
    (∀ depth cs vs rest, readItems limits fuel depth cs = .ok (vs, rest) → ∀ v ∈ vs, P depth v) ∧
    ∀ depth cs fields rest, readFields limits fuel depth cs = .ok (fields, rest) →
      ∀ entry ∈ fields, P depth entry.2 := by
  -- the fuel goes down from a value to its parts
  induction fuel with
  | zero => simp [readValue, readItems, readFields]
  | succ fuel ih =>
      obtain ⟨hvalue, hitems, hfields⟩ := ih
      refine ⟨?_, ?_, ?_⟩
      · intro depth cs v rest h
        rcases readValue_cases h with
          ⟨s, rfl⟩ | ⟨items, rfl, hdepth, hread⟩ | ⟨fields, rfl, hdepth, hread⟩ | hread
        · exact htext depth s
        · apply hlist depth items hdepth
          rcases hread with rfl | ⟨more, hread⟩
          · exact List.forall_mem_nil _
          · exact hitems _ _ _ _ hread
        · apply hobject depth fields hdepth
          rcases hread with rfl | ⟨more, hread⟩
          · exact List.forall_mem_nil _
          · exact hfields _ _ _ _ hread
        · exact hscalar depth cs v rest hread
      · intro depth cs vs rest h
        obtain ⟨v, after, others, rfl, hv, hothers⟩ := readItems_cases h
        refine List.forall_mem_cons.mpr ⟨hvalue _ _ _ _ hv, ?_⟩
        rcases hothers with rfl | ⟨more, hothers⟩
        · exact List.forall_mem_nil _
        · exact hitems _ _ _ _ hothers
      · intro depth cs fields rest h
        obtain ⟨key, v, body, after, others, rfl, hv, hothers⟩ := readFields_cases h
        refine List.forall_mem_cons.mpr ⟨hvalue _ _ _ _ hv, ?_⟩
        rcases hothers with rfl | ⟨more, hothers⟩
        · exact List.forall_mem_nil _
        · exact hfields _ _ _ _ hothers

theorem wholesIn_of_readValue {fuel depth : Nat} {cs rest : List Char} {v : Json}
    (h : readValue limits fuel depth cs = .ok (v, rest)) : WholesIn limits.AllowsWhole v := by
  refine (readValue_induction (P := fun _ => WholesIn limits.AllowsWhole) ?_ ?_ ?_ ?_ fuel).1
    depth cs v rest h
  · exact fun _ => wholesIn_text
  · exact fun _ _ _ _ => wholesIn_of_readScalar
  · exact fun _ _ _ => wholesIn_list_iff.mpr
  · exact fun _ _ _ => wholesIn_ofPairs

/-- A value that is read inside of as many lists and objects as are allowed is not deeper than
what is left. -/
theorem depth_of_readValue {fuel depth limit : Nat} {cs rest : List Char} {v : Json}
    (hlimit : limits.depth = some limit) (hdepth : depth ≤ limit)
    (h : readValue limits fuel depth cs = .ok (v, rest)) : depth + v.depth ≤ limit := by
  let P (depth : Nat) (v : Json) : Prop := depth ≤ limit → depth + v.depth ≤ limit
  refine (readValue_induction (P := P) ?_ ?_ ?_ ?_ fuel).1 depth cs v rest h hdepth
  · exact fun _ _ hle => hle
  · intro depth cs v rest hread hle
    rw [depth_of_readScalar hread]
    exact hle
  · intro depth items hallows hparts _
    rw [hlimit, Limits.allows_some, decide_eq_true_iff] at hallows
    have hitems : itemsExtent 0 0 1 items ≤ limit - (depth + 1) :=
      itemsExtent_le_iff.mpr ⟨Nat.zero_le _, fun v hv =>
        Nat.le_sub_of_add_le' (hparts v hv hallows)⟩
    rw [Json.depth, extent]
    omega
  · intro depth fields hallows hparts _
    rw [hlimit, Limits.allows_some, decide_eq_true_iff] at hallows
    have hfields : fieldsExtent 0 0 1 (Table.ofPairs fields) ≤ limit - (depth + 1) := by
      refine fieldsExtent_le_iff.mpr ⟨Nat.zero_le _, fun entry hentry => ?_⟩
      exact Nat.le_sub_of_add_le' (hparts entry (Table.mem_of_mem_ofPairs hentry) hallows)
    rw [Json.depth, extent]
    omega

theorem exists_readValue_of_read {cs : List Char} {v : Json} (h : read limits cs = .ok v) :
    ∃ fuel rest, readValue limits fuel 0 (skipSpace cs) = .ok (v, rest) := by
  have hread : readAll limits cs = .ok v := by
    rw [read.eq_def] at h
    split at h
    · cases h
    · rw [readDecoded] at h
      cases hall : readAll limits cs with
      | error stop => simp [hall, Except.mapError] at h
      | ok w =>
          rw [hall] at h
          exact congrArg Except.ok (Except.ok.inj h)
  rw [readAll] at hread
  cases hvalue : readValue limits (2 * cs.length + 2) 0 (skipSpace cs) with
  | error stop => simp [hvalue, bind, Except.bind] at hread
  | ok r =>
      obtain ⟨w, rest⟩ := r
      cases hafter : skipSpace rest with
      | nil =>
          simp only [hvalue, hafter, bind, Except.bind] at hread
          cases hread
          exact ⟨_, rest, hvalue⟩
      | cons c ds => simp [hvalue, hafter, bind, Except.bind] at hread

/-- The whole numbers of a value that was read within limits may be written within them. -/
theorem wholesIn_of_read {cs : List Char} {v : Json} (h : read limits cs = .ok v) :
    WholesIn limits.AllowsWhole v := by
  obtain ⟨fuel, rest, hvalue⟩ := exists_readValue_of_read h
  exact wholesIn_of_readValue hvalue

theorem allows_depth_of_read {cs : List Char} {v : Json} (h : read limits cs = .ok v) :
    Limits.allows limits.depth v.depth = true := by
  obtain ⟨fuel, rest, hvalue⟩ := exists_readValue_of_read h
  cases hlimit : limits.depth with
  | none => rfl
  | some limit =>
      have hle := depth_of_readValue hlimit (Nat.zero_le limit) hvalue
      rw [Nat.zero_add] at hle
      exact decide_eq_true hle

theorem checkWritten_of_wholesIn {v : Json} (h : WholesIn limits.AllowsWhole v) :
    checkWritten limits v = .ok () := by
  cases hcheck : checkWritten limits v with
  | ok _ => rfl
  | error excess =>
      obtain ⟨limit, hlimit, -, n, hn, hlong⟩ := checkWritten_eq_error_iff.mp hcheck
      have hallows := h n hn
      rw [Limits.AllowsWhole, hlimit, Limits.allows_some, decide_eq_true_iff] at hallows
      exact absurd hallows (Nat.not_le.mpr hlong)

theorem checkText_of_wholesIn {v : Json} (hdepth : Limits.allows limits.depth v.depth = true)
    (h : WholesIn limits.AllowsWhole v) : checkText limits v = .ok () := by
  rw [checkText, if_pos hdepth, checkWritten_of_wholesIn h]

/-- What was read within limits can be written within them. -/
theorem checkText_of_read {cs : List Char} {v : Json} (h : read limits cs = .ok v) :
    checkText limits v = .ok () :=
  checkText_of_wholesIn (allows_depth_of_read h) (wholesIn_of_read h)

end Read

end BrowserFlow.Json
