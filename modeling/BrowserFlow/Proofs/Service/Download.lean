import BrowserFlow.Proofs.Document.Loaded
import BrowserFlow.Proofs.Service.Disposition
import BrowserFlow.Proofs.Service.Refused

/-!
# Downloading a flow

In every state that a service comes to, a request to download the flow of an open session leaves
everything as it is (`answer_download`). It is answered with the document of the flow if this can
be sent: if the coordinates of the steps are finite, no text of the flow has halves of pairs, and
the name of the file has no character beyond the first 256, for these are all that a header takes.
The header then gives the file its name just if the name of the script has no quotes, no
backslashes and no control characters that are not blank.
-/

namespace BrowserFlow.Service

open Editor (Session exportFilename)

variable {τ : Type} {s : Session}

/-- A reply that hands over a document as a file of a given name: the header can be sent, and is
read as that name in quotes. -/
structure Offers (reply : Reply) (document : Json) (filename : String) : Prop where
  status_eq : reply.status = 200
  content_eq : reply.content = .verbatim document
  header : ∃ name, reply.download = some name ∧
    Reply.fitsHeader (Reply.disposition name) = true ∧
    readHeader (Reply.disposition name).toList = some (.attachment filename)

/-! ## What can be sent -/

/-- What a flow must be for its document to be sent, and the name of the file for its header. -/
structure Sendable (s : Session) : Prop where
  isFinite : s.graph.IsFinite
  isWhole : s.graph.toJson.isWhole = true
  latin : ∀ c ∈ (exportFilename s.name).toList, c.toNat < 256

theorem isSendable_downloadReply_iff (h : s.Consistent) :
    (downloadReply s).isSendable = true ↔ Sendable s := by
  have hdepth : s.graph.toJson.depth ≤ 4 :=
    Document.extent_toJson_le (Nat.le_refl 0) h.sound.admits h.sound.isNumeric
  have hshallow : s.graph.toJson.depth ≤ Reply.depthLimit := Nat.le_trans hdepth (by decide)
  have hstandard := Document.isStandard_toJson_iff h.sound
  have hheader := @fitsHeader_disposition_iff (exportFilename s.name)
  simp only [downloadReply, Reply.isSendable, Reply.Content.isSendable, Option.map_some,
    Option.all_some, Bool.and_eq_true, decide_eq_true hshallow, and_true, hstandard, hheader]
  exact ⟨fun h => ⟨h.1.1, h.1.2, h.2⟩, fun h => ⟨⟨h.isFinite, h.isWhole⟩, h.latin⟩⟩

theorem sent_downloadReply (h : s.Consistent) :
    (Sendable s → (downloadReply s).sent = downloadReply s) ∧
      (¬ Sendable s → (downloadReply s).sent = .broken) := by
  rw [← isSendable_downloadReply_iff h]
  exact ⟨fun hsend => if_pos hsend, fun hsend => if_neg hsend⟩

/-! ## The exchange -/

theorem exchange_download {r : Registry} {session : String}
    (hs : Table.get? r.sessions session = some s) (c : Collaborators τ) (outside : τ) :
    let e := exchange c (.download session) r outside
    e.registry = r ∧ e.outside = outside ∧ e.notices = [] ∧ e.reply = (downloadReply s).sent := by
  have hfind : Registry.find session r = ⟨r, [], [], .ok s⟩ := by
    simp only [Registry.find, Action.bind_apply, Action.read_apply, hs, Action.pure_apply,
      List.append_nil]
  have hperform : perform c (.download session) (r, outside) =
      ⟨(r, outside), [], [], .ok (downloadReply s)⟩ := by
    simp only [perform, Action.bind_apply, Action.onFirst_apply, hfind, Action.pure_apply,
      List.append_nil]
  simp only [exchange, hperform, true_and]

/-- The header of what is handed over names the file just if the name of the script has no special
characters but blank ones. -/
theorem offers_downloadReply_iff (h : Sendable s) :
    Offers (downloadReply s) s.graph.toJson (exportFilename s.name) ↔
      ∀ c ∈ s.name.toList, Text.isBlank c = true ∨ isSpecial c = false := by
  rw [← isPlain_exportFilename_iff h.latin, ← readHeader_disposition_iff]
  constructor
  · rintro ⟨-, -, name, hname, -, hheader⟩
    obtain rfl : exportFilename s.name = name := Option.some.inj hname
    exact hheader
  · exact fun hheader => ⟨rfl, rfl, _, rfl, fitsHeader_disposition_iff.mpr h.latin, hheader⟩

/-- In every state that a service comes to, a request for the flow of an open session changes
nothing. It is answered with the document if that can be sent, and the file gets its name from the
header just if the name of the script has no special characters but blank ones. -/
theorem answer_download (c : Collaborators τ) {start : Registry} (hempty : start.sessions = [])
    (outside : τ) (requests : List Request) {request : Request} {session : String}
    (hdownload : destination request.method request.path = .endpoint (.download session))
    (hs : Table.get? (served c (start, outside) requests).1.sessions session = some s) :
    let state := served c (start, outside) requests
    let e := answer c request state.1 state.2
    (e.registry = state.1 ∧ e.outside = state.2 ∧ e.notices = []) ∧
      (Sendable s → e.reply = downloadReply s) ∧ (¬ Sendable s → e.reply = .broken) ∧
      (Offers e.reply s.graph.toJson (exportFilename s.name) ↔
        Sendable s ∧ ∀ c ∈ s.name.toList, Text.isBlank c = true ∨ isSpecial c = false) := by
  intro state e
  have hconsistent : s.Consistent := consistent_served c hempty outside requests session s hs
  obtain ⟨hreply, hbroken⟩ := sent_downloadReply hconsistent
  have hexchange : e = exchange c (.download session) state.1 state.2 :=
    answer_of_asks ⟨_, hdownload, rfl⟩ c state.1 state.2
  obtain ⟨hregistry, houtside, hnotices, hsent⟩ := exchange_download hs c state.2
  rw [hexchange, hregistry, houtside, hnotices, hsent]
  refine ⟨⟨rfl, rfl, rfl⟩, hreply, hbroken, ?_⟩
  by_cases hsend : Sendable s
  · rw [hreply hsend, offers_downloadReply_iff hsend]
    exact (and_iff_right hsend).symm
  · rw [hbroken hsend]
    refine iff_of_false (fun hoffers => ?_) fun h => hsend h.1
    exact absurd hoffers.status_eq (by decide)

def openNamed (name : String) : Request :=
  ⟨"POST", "/api/sessions".toList, .value (.object [("scriptName", .text name)])⟩

def downloadFirst : Request :=
  ⟨"GET", "/api/sessions/00000000000000000000000000000001/export".toList, .absent⟩

theorem destination_downloadFirst : destination downloadFirst.method downloadFirst.path =
    .endpoint (.download (Registry.sessionId 1)) := by
  decide +kernel

theorem get?_openNamed (c : Collaborators Unit) (name : String) :
    Table.get? (served c ({}, ()) [openNamed name]).1.sessions (Registry.sessionId 1) =
      some (Session.create (Registry.sessionId 1) (Registry.nameOrDefault (some name)) []) := rfl

theorem isFinite_initialGraph : Editor.initialGraph.IsFinite := by
  simp [Editor.initialGraph, Graph.IsFinite, Json.int]

/-- A name with a letter of the first 256, a tab, and a sign that becomes such a letter. -/
theorem answer_download_latin :
    let c := raising ⟨.other "OSError", some "disk full"⟩
    let state := served c ({}, ()) [openNamed "Ça va\t\u212a"]
    ∃ s, Table.get? state.1.sessions (Registry.sessionId 1) = some s ∧ s.name = "Ça va\t\u212a" ∧
      Offers (answer c downloadFirst state.1 state.2).reply s.graph.toJson "ça-va-k.json" := by
  intro c state
  let s := Session.create (Registry.sessionId 1) "Ça va\t\u212a" []
  have hs : Table.get? state.1.sessions (Registry.sessionId 1) = some s := get?_openNamed c _
  have hfilename : exportFilename s.name = "ça-va-k.json" := by decide +kernel
  have hsend : Sendable s :=
    { isFinite := isFinite_initialGraph
      isWhole := by decide +kernel
      latin := by
        rw [hfilename]
        simp }
  have hname : ∀ c ∈ s.name.toList, Text.isBlank c = true ∨ isSpecial c = false := by
    have hall : s.name.toList.all (fun c => Text.isBlank c || !isSpecial c) = true := by
      decide +kernel
    simpa only [List.all_eq_true, Bool.or_eq_true, Bool.not_eq_true'] using hall
  have hanswer := (@answer_download Unit s c {} rfl () [openNamed "Ça va\t\u212a"] downloadFirst
    (Registry.sessionId 1) destination_downloadFirst hs).2.2.2.mpr ⟨hsend, hname⟩
  rw [hfilename] at hanswer
  exact ⟨s, hs, rfl, hanswer⟩

/-- A quote in the name of the script ends the name of the file. -/
theorem not_offers_quote :
    let c := raising ⟨.other "OSError", some "disk full"⟩
    let state := served c ({}, ()) [openNamed "a\"b"]
    let reply := (answer c downloadFirst state.1 state.2).reply
    ∃ s, Table.get? state.1.sessions (Registry.sessionId 1) = some s ∧ s.name = "a\"b" ∧
      s.graph.IsFinite ∧ reply.status = 200 ∧
      reply.download.map Reply.disposition = some "attachment; filename=\"a\"b.json\"" ∧
      ¬ Offers reply s.graph.toJson (exportFilename s.name) := by
  intro c state reply
  let s := Session.create (Registry.sessionId 1) "a\"b" []
  have hs : Table.get? state.1.sessions (Registry.sessionId 1) = some s := get?_openNamed c _
  have hfilename : exportFilename s.name = "a\"b.json" := by decide +kernel
  have hsendable : (downloadReply s).isSendable = true := by decide +kernel
  have hreply : reply = downloadReply s := by
    change (answer c downloadFirst state.1 state.2).reply = _
    rw [answer_of_asks ⟨_, destination_downloadFirst, rfl⟩, (exchange_download hs c _).2.2.2]
    exact if_pos hsendable
  have hread : readHeader (Reply.disposition "a\"b.json").toList = none := by decide +kernel
  refine ⟨s, hs, rfl, isFinite_initialGraph, by rw [hreply]; rfl, ?_, ?_⟩
  · rw [hreply, downloadReply, hfilename]
    rfl
  · rw [hreply]
    rintro ⟨-, -, name, hname, -, hheader⟩
    obtain rfl : exportFilename s.name = name := Option.some.inj hname
    rw [hfilename, hread] at hheader
    cases hheader

end BrowserFlow.Service
