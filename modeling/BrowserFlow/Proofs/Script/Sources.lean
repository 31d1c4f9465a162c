import BrowserFlow.Document.File
import BrowserFlow.Proofs.Document.Complete
import BrowserFlow.Proofs.Document.RoundTrip
import BrowserFlow.Proofs.Editor.Effect
import BrowserFlow.Proofs.Flow.Reach
import BrowserFlow.Service.Answer
import BrowserFlow.Service.Body

/-!
# One script from every source

A document comes to its script in three ways: it lies in a file, whose document is checked
before it is imported, it comes with a request that wants nothing but the script, or it is
imported into a session. Each way has the answer of `within` for its own limits
(`sources_agree_iff`). So the three agree, in the script as well as in the failure, just when
the document fits the limits of all of them or of none.
-/

namespace BrowserFlow.Script

open BrowserFlow.Action Document Editor Journaled

/-- The script of the flow that a document describes, however deep the document is. -/
def ofDocument (document : Json) (headless : Toggle) : Except Failure String := do
  let g ← (importGraph document).result.mapError .invalidDocument
  (g.compile headless).result.mapError .ofCompiling

/-- A document that describes a flow has a script just if the flow has a start. -/
theorem ofDocument_of_importGraph {document : Json} {g : Graph}
    (h : (importGraph document).result = .ok g) (headless : Toggle) :
    ofDocument document headless =
      match g.script? headless.isOn with
      | some script => .ok script
      | none => .error .noStart := by
  rw [ofDocument, h]
  change (g.compile headless).result.mapError Failure.ofCompiling = _
  rw [(sound_of_importGraph h).1.result_compile]
  cases g.script? headless.isOn <;> rfl

def within (limits : Json.Limits) (document : Json) (headless : Toggle) : Except Failure String :=
  if fits limits document then ofDocument document headless else .error (.beyondLimit .copyDepth)

def ofImport (imported : Journaled Refusal Graph) (headless : Toggle) : Except Failure String := do
  let g ← imported.result.mapError .ofRefusal
  (g.compile headless).result.mapError .ofCompiling

/-- The import of a document that is checked before, as one in a file is. -/
def reimport (limits : Json.Limits) (document : Json) : Journaled Refusal Graph := do
  let doc ← checkWithin limits document
  Document.importWithin limits doc.toJson

def generated (limits : Json.Limits) (document : Json) (headless : Toggle) : Edit String := do
  let _ ← Session.importWithin limits document
  Session.generate headless

theorem ofImport_importWithin (limits : Json.Limits) (document : Json) (headless : Toggle) :
    ofImport (Document.importWithin limits document) headless =
      within limits document headless := by
  rw [ofImport, within, Document.importWithin]
  split
  · rw [result_mapError, ofDocument]
    cases (importGraph document).result <;> rfl
  · rfl

theorem result_importWithin (limits : Json.Limits) (document : Json) :
    (Document.importWithin limits document).result =
      (checkWithin limits document).result.map Checked.graph := by
  rw [Document.importWithin, checkWithin]
  split
  · rw [result_mapError, result_mapError, result_importGraph]
    cases (check document).result <;> rfl
  · rfl

/-- A document and its complete form are imported as the same flow. -/
theorem result_reimport {limits : Json.Limits}
    (hcopied : Json.Limits.allows limits.copied 9 = true) (document : Json) :
    (reimport limits document).result = (Document.importWithin limits document).result := by
  rw [reimport, result_bind, result_importWithin]
  cases hcheck : (checkWithin limits document).result with
  | error refusal => rfl
  | ok doc =>
      have hagain := checkWithin_toJson hcopied hcheck
      calc (Document.importWithin limits doc.toJson).result
          = (checkWithin limits doc.toJson).result.map Checked.graph := result_importWithin _ _
        _ = .ok doc.graph := by rw [hagain]; rfl

theorem ofImport_reimport {limits : Json.Limits}
    (hcopied : Json.Limits.allows limits.copied 9 = true) (document : Json) (headless : Toggle) :
    ofImport (reimport limits document) headless = within limits document headless := by
  rw [ofImport, result_reimport hcopied, ← ofImport, ofImport_importWithin]

theorem loadFile_eq_reimport {limits : Json.Limits} {path : String} {bytes : List UInt8}
    {document : Json} (h : readFile limits path bytes = .ok document) :
    loadFile limits path bytes = reimport limits document := by
  rw [loadFile, checkFile, h]
  rfl

theorem result_compileDocument (limits : Json.Limits) (document : Json) (headless : Bool) :
    (Service.compileDocument limits document headless).result =
      within limits.nearer document headless := by
  rw [← ofImport_importWithin, ofImport, Service.compileDocument, result_bind, result_mapError]
  cases (Document.importWithin limits.nearer document).result <;> rfl

theorem result_generate (headless : Toggle) (s : Session) :
    (Session.generate headless s).result =
      (s.graph.compile headless).result.mapError .ofCompiling := by
  rw [Session.generate, Session.generateWithin,
    (Session.looks_compileWithin {} headless).result_bind, Session.result_compileWithin]
  change _ = (s.graph.compileWithin {} headless).result.mapError Failure.ofCompiling
  cases (s.graph.compileWithin {} headless).result <;> rfl

/-- A session generates what it imported, whatever it held before. -/
theorem result_generated (limits : Json.Limits) (document : Json) (headless : Toggle)
    (s : Session) :
    (generated limits document headless s).result = within limits document headless := by
  rw [← ofImport_importWithin, ofImport, generated]
  cases himport : (Document.importWithin limits document).result with
  | error refusal =>
      have hfailed : (Session.importWithin limits document s).Leaves s []
          (.error (.ofRefusal refusal)) :=
        Outcome.Leaves.bind_error ⟨rfl, rfl, by rw [ofJournaled_apply, himport, mapError_error]⟩
      exact hfailed.bind_error.result_eq
  | ok g =>
      let imported : Session := { s with graph := g, handlers := bindAll g }
      have hload : (Session.importWithin limits document s).Leaves imported
          [.imported g.nodes.length g.edges.length] (.ok g) := by
        apply (looks_ofJournaled _ _).leaves_bind
        · rw [ofJournaled_apply, himport, mapError_ok]
        · exact ⟨rfl, rfl, rfl⟩
      rw [bind_apply, hload.result_eq, hload.state_eq]
      exact result_generate headless imported

/-- Only a document that goes beyond the limits fails for its depth. -/
theorem ofDocument_ne_copyDepth (document : Json) (headless : Toggle) :
    ofDocument document headless ≠ .error (.beyondLimit .copyDepth) := by
  intro h
  cases himport : (importGraph document).result with
  | error fault =>
      rw [ofDocument, himport] at h
      cases h
  | ok g =>
      rw [ofDocument_of_importGraph himport] at h
      split at h <;> cases h

/-- Two limits lead to the same answer just if both or neither let the document in. -/
theorem within_eq_within_iff {limits limits' : Json.Limits} {document : Json} {headless : Toggle} :
    within limits document headless = within limits' document headless ↔
      fits limits document = fits limits' document := by
  have hne := ofDocument_ne_copyDepth document headless
  rw [within, within]
  cases fits limits document <;> cases fits limits' document <;> simp [hne, hne.symm]

/-- The complete form of a document passes as it is, without a warning. Files, requests and
sessions have the same answer for a document, the script or the failure, just if it fits the
limits of all of them or of none. -/
theorem sources_agree_iff {file : Json.Limits}
    (hcopied : Json.Limits.allows file.copied 9 = true) (served edited : Json.Limits)
    (document : Json) (headless : Bool) (s : Session) :
    let filed := ofImport (reimport file document) headless
    let requested := (Service.compileDocument served document headless).result
    let edited' := (generated edited document headless s).result
    (∀ doc, (checkWithin file document).result = .ok doc →
      checkWithin file doc.toJson = pure doc) ∧
    (∀ path bytes, readFile file path bytes = .ok document →
      ofImport (loadFile file path bytes) headless = filed) ∧
    (filed = within file document headless ∧
      requested = within served.nearer document headless ∧
      edited' = within edited document headless) ∧
    (filed = requested ∧ requested = edited' ↔
      fits file document = fits served.nearer document ∧
        fits served.nearer document = fits edited document) := by
  intro filed requested edited'
  have hfiled : filed = within file document headless := ofImport_reimport hcopied _ _
  have hrequested : requested = within served.nearer document headless :=
    result_compileDocument _ _ _
  have hedited : edited' = within edited document headless := result_generated _ _ _ _
  refine ⟨fun doc hdoc => checkWithin_toJson hcopied hdoc, ?_, ⟨hfiled, hrequested, hedited⟩, ?_⟩
  · intro path bytes hread
    rw [loadFile_eq_reimport hread]
  · rw [hfiled, hrequested, hedited, within_eq_within_iff, within_eq_within_iff]

/-- A document whose steps and edges have keys of both forms, a parameter that is dropped and
an edge without an id. -/
theorem sources_agree_iff_marked :
    let document : Json := .object
      [("nodes", .list [.object [("id", .text "s"), ("kind", .text "start"),
            ("type", .text "wait"), ("params", .object [("speed", .int 2)])],
          .object [("id", .text "w"), ("type", .text "wait"),
            ("data", .object [("elementType", .text "time"), ("wait", .int 500)])]]),
        ("edges", .list [.object [("sourceNodeId", .text "s"), ("targetNodeId", .text "w"),
          ("source", .text "w")]])]
    let s := Session.create "1" defaultName []
    (∃ doc, (checkWithin .standard document).result = .ok doc ∧
      (checkWithin .standard document).records.length = 1 ∧
      checkWithin .standard doc.toJson = pure doc) ∧
    ∃ script, ofImport (reimport .standard document) true = .ok script ∧
      (Service.compileDocument Service.limits document true).result = .ok script ∧
      (generated Service.limits document true s).result = .ok script := by
  intro document s
  obtain ⟨hagain, -, ⟨hfiled, -, -⟩, hagree⟩ :=
    @sources_agree_iff .standard (by decide) Service.limits Service.limits document true s
  obtain ⟨hserved, hedited⟩ := hagree.mpr (by decide)
  have hscript : ∃ script, within .standard document true = .ok script :=
    ⟨_, @ofDocument_of_importGraph document _ rfl true⟩
  obtain ⟨script, hscript⟩ := hscript
  have hdoc : ∃ doc, (checkWithin .standard document).result = .ok doc := ⟨_, rfl⟩
  obtain ⟨doc, hdoc⟩ := hdoc
  refine ⟨⟨doc, hdoc, rfl, hagain doc hdoc⟩, script, ?_, ?_, ?_⟩
  · rw [hfiled, hscript]
  · rw [← hserved, hfiled, hscript]
  · rw [← hedited, ← hserved, hfiled, hscript]

/-- A document that has a script where it lies in a file is refused by the service, since a
value that is of no account is nested too deep for it. -/
theorem not_agree_remarked :
    (∃ script, ofImport (reimport .standard (remarked 490)) true = .ok script) ∧
      (Service.compileDocument Service.limits (remarked 490) true).result =
        .error (.beyondLimit .copyDepth) ∧
      (generated Service.limits (remarked 490) true (Session.create "1" defaultName [])).result =
        .error (.beyondLimit .copyDepth) := by
  have hfile : fits .standard (remarked 490) = true := by
    rw [fits, copyDepth_remarked]
    decide
  have hserved : fits Service.limits.nearer (remarked 490) = false := by
    rw [fits, copyDepth_remarked]
    decide
  have hedited : fits Service.limits (remarked 490) = false := by
    rw [fits, copyDepth_remarked]
    decide
  refine ⟨?_, ?_, ?_⟩
  · rw [ofImport_reimport (by decide), within, hfile]
    exact ⟨_, @ofDocument_of_importGraph (remarked 490) _ rfl true⟩
  · rw [result_compileDocument, within, hserved]
    rfl
  · rw [result_generated, within, hedited]
    rfl

end BrowserFlow.Script
