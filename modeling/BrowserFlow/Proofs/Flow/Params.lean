import BrowserFlow.Flow.Params
import BrowserFlow.Proofs.Table
import Mathlib.Data.List.Basic

/-!
# Proper parameters

`shape.Takes entries` says that named entries name parameters of a record only, and
give each a value that it can hold. It is the condition under which a table of
parameters can be entered into a step: a record built from such a table holds
proper values (`accepts_get_ofPairs`), a table stays such when another is entered
over it (`Takes.merge`), and the set parameters of a proper record form such a
table (`takes_pairs_iff`). Writing a record as a table and building it again gives the
record back (`ofPairs_pairs`), whatever its values are.
-/

namespace BrowserFlow

theorem Field.isNamed_name_iff {field other : Field} :
    field.isNamed other.name = true ↔ field = other := by
  cases field <;> cases other <;> decide

@[simp] theorem Field.accepts_null (field : Field) : field.accepts .null = true := by
  cases field <;> rfl

/-- The values of a parameter spelled out: null, or what its name asks for. -/
def Field.Admits : Field → Json → Prop
  | .url, v | .selector, v | .value, v | .code, v => v = .null ∨ ∃ s, v = .text s
  | .waitMillis, v | .timeoutMillis, v => v = .null ∨ ∃ n : Nat, v = .nat n
  | .waitMode, v => v = .null ∨ v = .text "element" ∨ v = .text "time"

theorem ValueType.accepts_text_iff {v : Json} :
    ValueType.text.accepts v = true ↔ ∃ s, v = .text s := by
  cases v <;> simp [accepts]

theorem ValueType.accepts_millis_iff {v : Json} :
    ValueType.millis.accepts v = true ↔ ∃ n : Nat, v = .nat n := by
  constructor
  · intro h
    cases v with
    | number x =>
        cases x with
        | int n =>
            refine ⟨n.toNat, ?_⟩
            rw [Json.nat, Int.toNat_of_nonneg (of_decide_eq_true h), Json.int]
        | float x => simp [accepts] at h
    | _ => simp [accepts] at h
  · rintro ⟨n, rfl⟩
    simp [accepts, Json.nat, Json.int]

theorem ValueType.accepts_mode_iff {v : Json} :
    ValueType.mode.accepts v = true ↔ v = .text "element" ∨ v = .text "time" := by
  cases v <;> simp [accepts, waitModes]

theorem Field.accepts_iff_admits {field : Field} {v : Json} :
    field.accepts v = true ↔ field.Admits v := by
  have hnull : (!v.isSet) = true ↔ v = .null := by cases v <;> simp [Json.isSet]
  rw [Field.accepts, Bool.or_eq_true, hnull]
  cases field with
  | url | selector | value | code => exact or_congr_right ValueType.accepts_text_iff
  | waitMillis | timeoutMillis => exact or_congr_right ValueType.accepts_millis_iff
  | waitMode => exact or_congr_right ValueType.accepts_mode_iff

theorem Json.isSet_eq_false_iff {v : Json} : v.isSet = false ↔ v = .null := by
  cases v <;> simp [Json.isSet]

namespace Shape

theorem field?_eq_some_iff {shape : Shape} {key : String} {field : Field} :
    shape.field? key = some field ↔ field ∈ shape.fields ∧ field.name = key := by
  constructor
  · intro h
    exact ⟨List.mem_of_find?_eq_some h, by simpa using List.find?_some h⟩
  · rintro ⟨hmem, rfl⟩
    cases h : shape.field? field.name with
    | none =>
        have hnot := List.find?_eq_none.mp h field hmem
        simp at hnot
    | some other =>
        have hname : other.name = field.name := by simpa using List.find?_some h
        rw [Field.name_injective hname]

/-- Entries that name parameters of the record only, each with a value that the
parameter can hold. -/
def Takes (shape : Shape) (entries : Table Json) : Prop :=
  ∀ entry ∈ entries, ∃ field, shape.field? entry.1 = some field ∧ field.accepts entry.2 = true

theorem takes_nil (shape : Shape) : shape.Takes [] := by simp [Takes]

theorem Takes.merge {shape : Shape} {entries changes : Table Json}
    (h : shape.Takes entries) (hc : shape.Takes changes) :
    shape.Takes (Table.merge entries changes) := by
  intro entry hentry
  rcases Table.mem_merge hentry with hentry | hentry
  · exact h entry hentry
  · exact hc entry hentry

end Shape

namespace Params

/-- The value that entries give to a parameter is null or that of an entry of its
name. -/
theorem lastNamed_eq_null_or (entries : Table Json) (field : Field) :
    lastNamed entries field = .null ∨
      ∃ entry ∈ entries, field.isNamed entry.1 = true ∧ lastNamed entries field = entry.2 := by
  unfold lastNamed
  split
  · rename_i entry hfind
    refine Or.inr ⟨entry, ?_, by simpa using List.find?_some hfind, rfl⟩
    exact List.mem_reverse.mp (List.mem_of_find?_eq_some hfind)
  · exact Or.inl rfl

/-- Where all entries of its name agree, a parameter has the value that they give. -/
theorem lastNamed_eq_of_forall {entries : Table Json} {field : Field} {v : Json}
    (hall : ∀ entry ∈ entries, field.isNamed entry.1 = true → entry.2 = v)
    (hex : v ≠ .null → ∃ entry ∈ entries, field.isNamed entry.1 = true) :
    lastNamed entries field = v := by
  unfold lastNamed
  split
  · rename_i entry hfind
    have hmem : entry ∈ entries := List.mem_reverse.mp (List.mem_of_find?_eq_some hfind)
    exact hall entry hmem (by simpa using List.find?_some hfind)
  · rename_i hfind
    by_contra hne
    obtain ⟨entry, hmem, hnamed⟩ := hex fun h => hne h.symm
    have hnot := List.find?_eq_none.mp hfind entry (List.mem_reverse.mpr hmem)
    exact hnot hnamed

theorem accepts_get_ofPairs {shape : Shape} {entries : Table Json} (h : shape.Takes entries)
    (field : Field) : field.accepts ((ofPairs shape entries).get field) = true := by
  rw [ofPairs, get_build]
  split
  · rcases lastNamed_eq_null_or entries field with hnull | ⟨entry, hmem, hnamed, heq⟩
    · rw [hnull, Field.accepts_null]
    · obtain ⟨other, hother, haccepts⟩ := h entry hmem
      obtain ⟨-, hname⟩ := Shape.field?_eq_some_iff.mp hother
      rw [← hname, Field.isNamed_name_iff] at hnamed
      rw [heq, hnamed]
      exact haccepts
  · exact Field.accepts_null field

theorem get_of_notMem {p : Params} {field : Field} (h : field ∉ p.shape.fields) :
    p.get field = .null := by
  rw [← build_get p, get_build, if_neg h]

theorem mem_pairs_iff {p : Params} {entry : String × Json} :
    entry ∈ p.pairs ↔
      ∃ field ∈ p.shape.fields, (p.get field).isSet = true ∧ entry = (field.name, p.get field) := by
  rw [pairs, List.mem_filterMap]
  apply exists_congr
  intro field
  apply and_congr_right
  intro _
  by_cases hset : (p.get field).isSet
  · simp [hset, eq_comm]
  · simp [hset]

theorem nodup_keys_pairs (p : Params) : (Table.keys p.pairs).Nodup := by
  have hfields : p.shape.fields.Nodup := by
    cases p.shape <;> decide
  have hkeys : Table.keys p.pairs = p.shape.fields.filterMap fun field =>
      if (p.get field).isSet then some field.name else none := by
    rw [Table.keys, pairs, List.map_filterMap]
    congr 1
    funext field
    split <;> rfl
  rw [hkeys]
  refine hfields.filterMap ?_
  intro a b key ha hb
  simp only [Option.mem_def, Option.ite_none_right_eq_some, Option.some.injEq] at ha hb
  exact Field.name_injective (ha.2.trans hb.2.symm)

theorem lastNamed_pairs (p : Params) (field : Field) : lastNamed p.pairs field = p.get field := by
  apply lastNamed_eq_of_forall
  · intro entry hentry hnamed
    obtain ⟨other, -, -, rfl⟩ := mem_pairs_iff.mp hentry
    rw [Field.isNamed_name_iff.mp hnamed]
  · intro hne
    have hmem : field ∈ p.shape.fields := by
      by_contra hnot
      exact hne (get_of_notMem hnot)
    have hset : (p.get field).isSet = true := by
      rw [← Bool.not_eq_false, Json.isSet_eq_false_iff]
      exact hne
    exact ⟨_, mem_pairs_iff.mpr ⟨field, hmem, hset, rfl⟩, Field.isNamed_name_iff.mpr rfl⟩

/-- Writing a record as a table and building it again gives the record back. -/
@[simp] theorem ofPairs_pairs (p : Params) : ofPairs p.shape p.pairs = p := by
  rw [ofPairs, funext (lastNamed_pairs p), build_get]

/-- The set parameters of a record form a proper table just when all its values are
proper. -/
theorem takes_pairs_iff {p : Params} :
    p.shape.Takes p.pairs ↔ ∀ field : Field, field.accepts (p.get field) = true := by
  constructor
  · intro h field
    rw [← ofPairs_pairs p]
    exact accepts_get_ofPairs h field
  · intro h entry hentry
    obtain ⟨field, hmem, -, rfl⟩ := mem_pairs_iff.mp hentry
    exact ⟨field, Shape.field?_eq_some_iff.mpr ⟨hmem, rfl⟩, h field⟩

theorem accepts_get_merged {p : Params} {changes : Table Json}
    (h : ∀ field : Field, field.accepts (p.get field) = true) (hc : p.shape.Takes changes)
    (field : Field) : field.accepts ((p.merged changes).get field) = true :=
  accepts_get_ofPairs ((takes_pairs_iff.mpr h).merge hc) field

end Params

end BrowserFlow
