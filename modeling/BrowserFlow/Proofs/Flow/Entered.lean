import BrowserFlow.Proofs.Flow.Params

/-!
# Parameters after a change

Changes are entered by writing the parameters as a table, entering the changes over it and
building the parameters again. What comes of it is said here parameter by parameter: each has
the last value that the changes give under its name, and keeps its own where they give none
(`merged_filter`). Changes under other names are dropped before, and change nothing. Changes that
follow others can be entered over them first (`entered_entered`).
-/

namespace BrowserFlow

namespace Table

variable {α : Type*}

theorem get?_append (t changes : Table α) (key : String) :
    get? (t ++ changes) key = (get? t key).or (get? changes key) := by
  induction t with
  | nil => rfl
  | cons entry t ih =>
      rw [List.cons_append, get?, get?]
      split
      · rfl
      · exact ih

/-- In a merged table a key has the last value that was entered for it. -/
theorem get?_merge (t changes : Table α) (key : String) :
    get? (merge t changes) key = (get? changes.reverse key).or (get? t key) := by
  induction changes generalizing t with
  | nil => rfl
  | cons change changes ih =>
      change get? (merge (set t change.1 change.2) changes) key = _
      rw [ih, List.reverse_cons, get?_append, Option.or_assoc, get?_set, get?, get?]
      split <;> rfl

theorem nodup_keys_merge {t : Table α} (h : (keys t).Nodup) (changes : Table α) :
    (keys (merge t changes)).Nodup := by
  induction changes generalizing t with
  | nil => exact h
  | cons change changes ih => exact ih (nodup_keys_set h change.1 change.2)

theorem get?_reverse {t : Table α} (h : (keys t).Nodup) (key : String) :
    get? t.reverse key = get? t key := by
  have hreverse : (keys t.reverse).Nodup := by
    rw [keys, List.map_reverse, List.nodup_reverse]
    exact h
  refine Option.ext fun v => ?_
  rw [get?_eq_some_iff hreverse, get?_eq_some_iff h, List.mem_reverse]

/-- Of two tables that have each key once, the one that is entered over the other counts. -/
theorem get?_merge_of_nodup (t : Table α) {changes : Table α} (h : (keys changes).Nodup)
    (key : String) : get? (merge t changes) key = (get? changes key).or (get? t key) := by
  rw [get?_merge, get?_reverse h]

theorem get?_filter {p : String → Bool} {key : String} (hkey : p key = true) (t : Table α) :
    get? (t.filter fun entry => p entry.1) key = get? t key := by
  induction t with
  | nil => rfl
  | cons entry t ih =>
      rw [List.filter_cons, get?]
      split
      · rw [get?, ih]
      · rename_i hother
        have hne : entry.1 ≠ key := fun heq => hother (by rw [heq, hkey])
        rw [if_neg hne, ih]

end Table

namespace Params

theorem lastNamed_of_nodup {entries : Table Json} (h : (Table.keys entries).Nodup)
    (hnames : ∀ entry ∈ entries, ∃ field : Field, entry.1 = field.name) (field : Field) :
    lastNamed entries field = (Table.get? entries field.name).getD .null := by
  apply lastNamed_eq_of_forall
  · rintro ⟨key, v⟩ hentry hnamed
    obtain ⟨other, rfl⟩ := hnames _ hentry
    rw [Field.isNamed_name_iff.mp hnamed, (Table.get?_eq_some_iff h).mpr hentry]
    rfl
  · intro hne
    cases hget : Table.get? entries field.name with
    | none => exact absurd (by rw [hget]; rfl) hne
    | some v => exact ⟨_, Table.mem_of_get? hget, Field.isNamed_name_iff.mpr rfl⟩

theorem exists_name_of_mem_pairs {p : Params} {entry : String × Json} (h : entry ∈ p.pairs) :
    ∃ field : Field, entry.1 = field.name := by
  obtain ⟨field, -, -, rfl⟩ := mem_pairs_iff.mp h
  exact ⟨field, rfl⟩

theorem get?_pairs (p : Params) (field : Field) :
    (Table.get? p.pairs field.name).getD .null = p.get field := by
  rw [← lastNamed_of_nodup (nodup_keys_pairs p) (fun _ => exists_name_of_mem_pairs),
    lastNamed_pairs]

/-- The parameters with the values that changes give under their names. -/
def entered (p : Params) (changes : Table Json) : Params :=
  build (fun field => (Table.get? changes.reverse field.name).getD (p.get field)) p.shape

@[simp] theorem entered_nil (p : Params) : p.entered [] = p := build_get p

@[simp] theorem shape_entered (p : Params) (changes : Table Json) :
    (p.entered changes).shape = p.shape := shape_build _ _

theorem get_entered {p : Params} {field : Field} (h : field ∈ p.shape.fields)
    (changes : Table Json) :
    (p.entered changes).get field =
      (Table.get? changes.reverse field.name).getD (p.get field) := by
  rw [entered, get_build, if_pos h]

/-- Changes one after the other are as good as the second entered over the first. -/
theorem entered_entered (p : Params) {changes : Table Json} (h : (Table.keys changes).Nodup)
    (later : Table Json) :
    (p.entered changes).entered later = p.entered (Table.merge changes later) := by
  refine ext_get (by simp) fun field => ?_
  by_cases hfield : field ∈ p.shape.fields
  · rw [get_entered (by rwa [shape_entered]), get_entered hfield, get_entered hfield,
      Table.get?_reverse (Table.nodup_keys_merge h later), Table.get?_merge,
      Table.get?_reverse h]
    cases Table.get? later.reverse field.name <;> rfl
  · rw [get_of_notMem (by rwa [shape_entered, shape_entered]),
      get_of_notMem (by rwa [shape_entered])]

/-- The parameters after two changes have the later of the values that were given. -/
theorem get_entered_merge {p : Params} {field : Field} (hfield : field ∈ p.shape.fields)
    {a b : Table Json} (ha : (Table.keys a).Nodup) (hb : (Table.keys b).Nodup) :
    (p.entered (Table.merge a b)).get field =
      ((Table.get? b field.name).or (Table.get? a field.name)).getD (p.get field) := by
  rw [get_entered hfield, Table.get?_reverse (Table.nodup_keys_merge ha b),
    Table.get?_merge_of_nodup a hb]

/-- The changes that are kept give each parameter what the changes give it. -/
theorem merged_filter (p : Params) (changes : Table Json) :
    p.merged (changes.filter fun entry => (p.shape.field? entry.1).isSome) = p.entered changes := by
  let kept := changes.filter fun entry => (p.shape.field? entry.1).isSome
  have hnames : ∀ entry ∈ Table.merge p.pairs kept, ∃ field : Field, entry.1 = field.name := by
    intro entry hentry
    rcases Table.mem_merge hentry with hpair | hkept
    · exact exists_name_of_mem_pairs hpair
    · obtain ⟨field, hfield⟩ := Option.isSome_iff_exists.mp (List.mem_filter.mp hkept).2
      exact ⟨field, (Shape.field?_eq_some_iff.mp hfield).2.symm⟩
  refine ext_get (by rw [shape_merged, shape_entered]) fun field => ?_
  rw [merged, ofPairs, entered, get_build, get_build]
  split
  · rename_i hfield
    have hknown : (p.shape.field? field.name).isSome = true := by
      rw [Shape.field?_eq_some_iff.mpr ⟨hfield, rfl⟩]
      rfl
    have hkept : Table.get? kept.reverse field.name = Table.get? changes.reverse field.name := by
      rw [← List.filter_reverse]
      exact @Table.get?_filter _ (fun key => (p.shape.field? key).isSome) _ hknown _
    rw [lastNamed_of_nodup (Table.nodup_keys_merge (nodup_keys_pairs p) kept) hnames,
      Table.get?_merge, hkept, ← get?_pairs p field]
    cases Table.get? changes.reverse field.name <;> rfl
  · rfl

end Params

end BrowserFlow
