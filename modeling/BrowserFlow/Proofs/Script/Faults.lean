import BrowserFlow.Proofs.Flow.Params
import BrowserFlow.Proofs.Json.ReadBack
import BrowserFlow.Script.Fragment

/-!
# Steps that cannot be written

Of the values that a step shows only whole numbers can be too long. Where the parameters of a
step are proper, its own statements are a text, and every other parameter is one but the
milliseconds of a wait. So a step of them that cannot be written waits for a number of
milliseconds with more digits than the limits let it be written with
(`Node.faultWithin?_eq_some_iff`).
-/

namespace BrowserFlow

namespace Script

variable {limits : Json.Limits} {values : List Json}

theorem shownFault?_eq_some_iff {fault : Fault} :
    shownFault? limits values = some fault ↔
      ∃ excess, Json.checkWritten limits (.list values) = .error excess ∧
        fault = .beyond excess := by
  unfold shownFault?
  cases Json.checkWritten limits (.list values) with
  | ok _ => simp
  | error excess => simp [eq_comm]

theorem shownFault?_of_wholeNumbers_eq_nil (h : (Json.list values).wholeNumbers = []) :
    shownFault? limits values = none := by
  rw [Option.eq_none_iff_forall_ne_some]
  intro fault hfault
  obtain ⟨excess, hcheck, -⟩ := shownFault?_eq_some_iff.mp hfault
  obtain ⟨limit, -, -, n, hn, -⟩ := Json.checkWritten_eq_error_iff.mp hcheck
  rw [h] at hn
  exact List.not_mem_nil hn

theorem shownFault?_of_pow_mem {zeros : Nat} (hlimit : limits.digits = some zeros)
    (h : ((10 ^ zeros : Nat) : Int) ∈ (Json.list values).wholeNumbers) :
    shownFault? limits values = some (.beyond (.written zeros)) :=
  shownFault?_eq_some_iff.mpr ⟨_, Json.checkWritten_of_pow_mem hlimit h, rfl⟩

def waitedMillis (params : Params) : Json :=
  if params.get .waitMode = .text "time" then pauseOf (params.get .waitMillis)
  else limitOf (params.get .timeoutMillis)

def longPause (zeros : Nat) : Node :=
  ⟨"w", .wait, {}, .wait (.text "time") .null (.nat (10 ^ zeros)) .null⟩

theorem accepts_longPause (zeros : Nat) (field : Field) :
    field.accepts ((longPause zeros).params.get field) = true := by
  cases field with
  | waitMillis => exact decide_eq_true (p := (0 : Int) ≤ (10 ^ zeros : Nat)) (Int.natCast_nonneg _)
  | _ => rfl

theorem faultWithin?_longPause {zeros : Nat} (hlimit : limits.digits = some zeros) :
    (longPause zeros).faultWithin? limits = some (.beyond (.written zeros)) :=
  shownFault?_of_pow_mem hlimit (List.mem_singleton.mpr rfl)

end Script

namespace Node

open Script

theorem wholeNumbers_of_admits_text {field : Field} {v : Json} (hfield : field.valueType = .text)
    (h : field.Admits v) : v.wholeNumbers = [] := by
  cases field with
  | waitMillis | timeoutMillis | waitMode => cases hfield
  | url | selector | value | code =>
      rcases h with rfl | ⟨s, rfl⟩
      · rfl
      · rfl

/-- With proper parameters a step cannot be written just if it is a wait whose milliseconds
have more digits than the limits allow. -/
theorem faultWithin?_eq_some_iff {limits : Json.Limits} {node : Node} {fault : Fault}
    (h : ∀ field : Field, field.accepts (node.params.get field) = true) :
    node.faultWithin? limits = some fault ↔
      node.kind = .wait ∧ ∃ limit, limits.digits = some limit ∧
        fault = .beyond (.written limit) ∧
        ∃ n ∈ (waitedMillis node.params).wholeNumbers, limit < Binary64.digitCount n.natAbs := by
  have htext {field : Field} (hfield : field.valueType = .text) :
      (node.params.get field).wholeNumbers = [] :=
    wholeNumbers_of_admits_text hfield (Field.accepts_iff_admits.mp (h field))
  have hurl : (node.params.get .url).wholeNumbers = [] := htext rfl
  have hselector : (node.params.get .selector).wholeNumbers = [] := htext rfl
  have hvalue : (node.params.get .value).wholeNumbers = [] := htext rfl
  unfold faultWithin?
  cases hkind : node.kind with
  | code => simp [ownStatementsFault?_of_accepts (h .code)]
  | wait =>
      have hshown : (Json.list (shownValues .wait node.params)).wholeNumbers =
          (waitedMillis node.params).wholeNumbers := by
        simp only [shownValues, waitingValues, waitedMillis]
        split <;> simp [Json.wholeNumbers, Json.itemsWholeNumbers, hselector]
      simp only [shownFault?_eq_some_iff, Json.checkWritten_eq_error_iff, hshown, true_and]
      constructor
      · rintro ⟨_, ⟨limit, hlimit, rfl, hlong⟩, rfl⟩
        exact ⟨limit, hlimit, rfl, hlong⟩
      · rintro ⟨limit, hlimit, rfl, hlong⟩
        exact ⟨_, ⟨limit, hlimit, rfl, hlong⟩, rfl⟩
  | start | finish | screenshot | navigate | click | extract | condition | typing | select =>
      have hshort : (Json.list (shownValues node.kind node.params)).wholeNumbers = [] := by
        simp [hkind, shownValues, Json.wholeNumbers, Json.itemsWholeNumbers, hurl, hselector,
          hvalue]
      rw [hkind] at hshort
      simp [shownFault?_of_wholeNumbers_eq_nil hshort]

end Node

end BrowserFlow
