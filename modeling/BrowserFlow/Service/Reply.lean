import BrowserFlow.Failure
import BrowserFlow.Text.Half

/-!
# Replies of the service

A reply has a status and a body. Most bodies are values. The standard format knows
neither infinity nor the undefined number: where a reply is made of the results of
an operation these become null, and where it repeats something as it is they cannot
be sent. Nor can a value that is too high or too deep, or a text with halves of pairs,
and the name under which a flow is downloaded has to fit into a header. A reply that
cannot be sent becomes a report of an internal error.
-/

namespace BrowserFlow

namespace Json

mutual

/-- Whether a value has no numbers but finite ones. -/
def isStandard : Json → Bool
  | .number (.float x) => x.isFinite
  | .list items => areStandard items
  | .object fields => haveStandardValues fields
  | .null | .bool _ | .number (.int _) | .text _ => true

def areStandard : List Json → Bool
  | [] => true
  | v :: rest => v.isStandard && areStandard rest

def haveStandardValues : List (String × Json) → Bool
  | [] => true
  | (_, v) :: rest => v.isStandard && haveStandardValues rest

end

mutual

/-- Whether a value has no texts and no keys with halves of pairs. -/
def isWhole : Json → Bool
  | .text s => Text.isWhole s.toList
  | .list items => areWhole items
  | .object fields => haveWholeFields fields
  | .null | .bool _ | .number _ => true

def areWhole : List Json → Bool
  | [] => true
  | v :: rest => v.isWhole && areWhole rest

def haveWholeFields : List (String × Json) → Bool
  | [] => true
  | (key, v) :: rest => Text.isWhole key.toList && v.isWhole && haveWholeFields rest

end

mutual

/-- A value with null in the place of every number that is not finite. -/
def standardised : Json → Json
  | .number (.float x) => if x.isFinite then .number (.float x) else .null
  | .list items => .list (standardisedItems items)
  | .object fields => .object (standardisedFields fields)
  | .null => .null
  | .bool b => .bool b
  | .number (.int n) => .number (.int n)
  | .text s => .text s

def standardisedItems : List Json → List Json
  | [] => []
  | v :: rest => v.standardised :: standardisedItems rest

def standardisedFields : List (String × Json) → List (String × Json)
  | [] => []
  | (key, v) :: rest => (key, v.standardised) :: standardisedFields rest

end

mutual

theorem isStandard_standardised : ∀ v : Json, v.standardised.isStandard = true
  | .number (.float x) => by
    rw [standardised]
    split <;> simp_all [isStandard]
  | .list items => by simp [standardised, isStandard, areStandard_standardisedItems items]
  | .object fields => by
    simp [standardised, isStandard, haveStandardValues_standardisedFields fields]
  | .null | .bool _ | .number (.int _) | .text _ => by simp [standardised, isStandard]

theorem areStandard_standardisedItems :
    ∀ items : List Json, areStandard (standardisedItems items) = true
  | [] => rfl
  | v :: rest => by
    simp [standardisedItems, areStandard, isStandard_standardised v,
      areStandard_standardisedItems rest]

theorem haveStandardValues_standardisedFields :
    ∀ fields : List (String × Json), haveStandardValues (standardisedFields fields) = true
  | [] => rfl
  | (_, v) :: rest => by
    simp [standardisedFields, haveStandardValues, isStandard_standardised v,
      haveStandardValues_standardisedFields rest]

end

mutual

theorem isWhole_standardised : ∀ v : Json, v.standardised.isWhole = v.isWhole
  | .number (.float x) => by
    rw [standardised]
    split <;> simp only [isWhole]
  | .list items => by simp only [standardised, isWhole, areWhole_standardisedItems items]
  | .object fields => by
    simp only [standardised, isWhole, haveWholeFields_standardisedFields fields]
  | .null | .bool _ | .number (.int _) | .text _ => by simp only [standardised]

theorem areWhole_standardisedItems :
    ∀ items : List Json, areWhole (standardisedItems items) = areWhole items
  | [] => rfl
  | v :: rest => by
    simp only [standardisedItems, areWhole, isWhole_standardised v,
      areWhole_standardisedItems rest]

theorem haveWholeFields_standardisedFields :
    ∀ fields : List (String × Json),
      haveWholeFields (standardisedFields fields) = haveWholeFields fields
  | [] => rfl
  | (_, v) :: rest => by
    simp only [standardisedFields, haveWholeFields, isWhole_standardised v,
      haveWholeFields_standardisedFields rest]

end

mutual

theorem extent_standardised (leaf least step : Nat) :
    ∀ v : Json, v.standardised.extent leaf least step = v.extent leaf least step
  | .number (.float x) => by
    rw [standardised]
    split <;> simp only [extent]
  | .list items => by
    simp only [standardised, extent, itemsExtent_standardisedItems leaf least step items]
  | .object fields => by
    simp only [standardised, extent, fieldsExtent_standardisedFields leaf least step fields]
  | .null | .bool _ | .number (.int _) | .text _ => by simp only [standardised]

theorem itemsExtent_standardisedItems (leaf least step : Nat) :
    ∀ items : List Json,
      itemsExtent leaf least step (standardisedItems items) = itemsExtent leaf least step items
  | [] => rfl
  | v :: rest => by
    simp only [standardisedItems, itemsExtent, extent_standardised leaf least step v,
      itemsExtent_standardisedItems leaf least step rest]

theorem fieldsExtent_standardisedFields (leaf least step : Nat) :
    ∀ fields : List (String × Json),
      fieldsExtent leaf least step (standardisedFields fields) =
        fieldsExtent leaf least step fields
  | [] => rfl
  | (_, v) :: rest => by
    simp only [standardisedFields, fieldsExtent, extent_standardised leaf least step v,
      fieldsExtent_standardisedFields leaf least step rest]

end

@[simp] theorem depth_standardised (v : Json) : v.standardised.depth = v.depth :=
  extent_standardised 0 0 1 v

end Json

namespace Service

/-- What a reply carries. -/
inductive Content where
  | none
  /-- The value of a result. -/
  | value (v : Json)
  /-- A value that is repeated as it is. -/
  | verbatim (v : Json)
  | text (s : String)

/-- A reply. `download` is the name of the file that the body should become. -/
structure Reply where
  status : Nat
  content : Content := .none
  download : Option String := none

namespace Reply

def ok (v : Json) : Reply := { status := 200, content := .value v }

def created (v : Json) : Reply := { status := 201, content := .value v }

def done : Reply := { status := 204 }

def explained (status : Nat) (detail : String) : Reply :=
  { status, content := .value (.object [("detail", .text detail)]) }

def notFound : Reply := explained 404 "Not Found"

def notAllowed : Reply := explained 405 "Method Not Allowed"

def redirected : Reply := { status := 307 }

/-- The reply to a body that is not what the operation takes. It repeats everything
that does not fit. -/
def unprocessable (misfits : List Json) : Reply :=
  { status := 422
    content := .verbatim
      (.object [("detail", .list (misfits.map fun v => .object [("input", v)]))]) }

def unreadable : Reply := explained 400 "There was an error parsing the body"

def broken : Reply := { status := 500, content := .text "Internal Server Error" }

def disposition (name : String) : String := s!"attachment; filename=\"{name}\""

/-- The characters that a header may have. -/
def fitsHeader (text : String) : Bool := text.toList.all fun c => c.toNat < 256

def heightLimit : Nat := 256

def depthLimit : Nat := 955

def Content.isSendable : Content → Bool
  | .value v => decide (v.height ≤ heightLimit) && v.isWhole
  | .verbatim v => v.isStandard && decide (v.depth ≤ depthLimit) && v.isWhole
  | .none | .text _ => true

/-- What is sent for a body: a value of the standard format, or a text. -/
def Content.sent : Content → Content
  | .value v => .verbatim v.standardised
  | content => content

def isSendable (r : Reply) : Bool :=
  Content.isSendable r.content && (r.download.map disposition).all fitsHeader

def sent (r : Reply) : Reply :=
  if r.isSendable then { r with content := Content.sent r.content } else broken

theorem isSendable_contentSent {content : Content} (h : Content.isSendable content = true) :
    Content.isSendable (Content.sent content) = true := by
  cases content with
  | value v =>
    rw [Content.isSendable, Bool.and_eq_true] at h
    have hv : v.height ≤ heightLimit := of_decide_eq_true h.1
    have hd : v.depth ≤ depthLimit := Nat.le_trans (Nat.le_trans v.depth_le_height hv) (by decide)
    simp [Content.isSendable, Content.sent, v.isStandard_standardised, v.isWhole_standardised, hd,
      h.2]
  | none => exact h
  | verbatim v => exact h
  | text s => exact h

theorem isSendable_sent (r : Reply) : r.sent.isSendable = true := by
  rw [sent]
  split
  · rename_i h
    rw [isSendable, Bool.and_eq_true] at h ⊢
    exact ⟨isSendable_contentSent h.1, h.2⟩
  · rfl

/-- A reply to a request that only asks for what stands before the body. -/
def withoutBody (r : Reply) : Reply := { r with content := .none }

end Reply

/-- The status of a failure. What cannot be found, and a runner that is missing,
have one of their own; failures of the outside are those of a gateway. -/
def FailureKind.status : FailureKind → Nat
  | .unknownNode | .unknownEdge | .unknownSession => 404
  | .noRunner => 503
  | .other _ => 502
  | .invalidDocument | .invalidParams | .noStart | .emptyName | .unspecific => 400

/-- What is said about a failure: its message, or its name if a failure of the
outside has none. -/
def failureDetail (failure : Failure) : String :=
  match failure.kind with
  | .other name => if failure.message = "" then name else failure.message
  | _ => failure.message

/-- The reply to a request that failed. Limits of the service itself, statements that
it cannot write and failures that nothing can be said about are internal errors. -/
def Reply.failed (failure : Failure) : Reply :=
  match failure with
  | .beyondLimit _ | .ownStatements _ => .broken
  | _ =>
    if failure.hasMessage then
      .explained (FailureKind.status failure.kind) (failureDetail failure)
    else .broken

end Service

end BrowserFlow
