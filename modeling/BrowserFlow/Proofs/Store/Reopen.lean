import BrowserFlow.Proofs.Editor.Reload
import BrowserFlow.Proofs.Editor.Atomic
import BrowserFlow.Proofs.Script.Halves
import BrowserFlow.Proofs.Store.Stock

/-!
# Saved sessions come back

A session that is saved into a store that earlier saves have filled comes back from it:
under the slug that the answer tells are its script and a document that any session reads
as the flow of the saved one, so that it has the same script again (`stored_after_save`).
Two kinds of texts stand in the way. A script with a half has no bytes, so the save fails;
and where two halves meet, in a text that is not in the script, what is read back is the
one character that they make.
-/

namespace BrowserFlow.Editor.Session

open BrowserFlow.Action Store
open Store (ScriptStore)
open Json (ReadsBack)

theorem save_of_prepared {τ : Type} {store : SaveRequest → Action τ Event Failure Json}
    {s : Session} {outside : τ} {request : SaveRequest}
    (h : (prepareSave s).result = .ok request) :
    (save store (s, outside)).result = (store request outside).result ∧
      (save store (s, outside)).state.2 = (store request outside).state := by
  have hfinish : ∃ s' events, (finishSave request.name (store request outside).result s).Leaves
      s' events (store request outside).result := by
    cases (store request outside).result with
    | error failure => exact ⟨s, [], rfl, rfl, rfl⟩
    | ok v => exact ⟨_, _, rfl, rfl, rfl⟩
  obtain ⟨s', events, hfinish⟩ := hfinish
  have hleaves : (consult prepareSave store (fun request => finishSave request.name)
      (s, outside)).Leaves (s', (store request outside).state)
        ((store request outside).events ++ events) (store request outside).result :=
    leaves_consult_of_prepared looks_prepareSave h hfinish
  exact ⟨hleaves.result_eq, congrArg Prod.snd hleaves.state_eq⟩

/-- A document that describes a flow brings it into the session, and no other does. -/
theorem result_importWithin_iff {limits : Json.Limits} {document : Json} {t : Session}
    {g : Graph} : (importWithin limits document t).result = .ok g ↔
      (Document.importWithin limits document).result = .ok g := by
  rw [importWithin, (looks_ofJournaled _ _).result_bind, ofJournaled_apply]
  cases (Document.importWithin limits document).result with
  | error refusal => exact ⟨fun h => (by cases h), fun h => (by cases h)⟩
  | ok other =>
      constructor
      · exact fun h => congrArg Except.ok (Except.ok.inj h)
      · exact fun h => congrArg Except.ok (Except.ok.inj h)

theorem graph_importWithin {limits : Json.Limits} {document : Json} {t : Session} {g : Graph}
    (h : (importWithin limits document t).result = .ok g) :
    (importWithin limits document t).state.graph = g := by
  rcases does_importWithin limits document t with ⟨failure, hfailed⟩ | ⟨_, other, rfl, -, hdone⟩
  · rw [hfailed.result_eq] at h
    cases h
  · rw [hdone.result_eq] at h
    rw [hdone.state_eq, ← Except.ok.inj h]
    rfl

theorem Consistent.isWhole_of_compile {s : Session} (h : s.Consistent) {headless : Toggle}
    {script : String} (hscript : (s.graph.compile headless).result = .ok script)
    (hfragments : ∀ node ∈ s.graph.nodes, Text.isWhole node.fragment.toList = true) :
    Text.isWhole script.toList = true := by
  rw [h.sound.result_compile, Graph.script?] at hscript
  cases horder : s.graph.order? with
  | none =>
      rw [horder] at hscript
      cases hscript
  | some order =>
      rw [horder] at hscript
      rw [← Except.ok.inj hscript, Script.isWhole_assemble_iff]
      intro node hnode
      exact hfragments node (Graph.mem_of_mem_order? h.sound.nodup_nodeIds horder hnode)

/-- The script and the document of a session lie in a store under a slug. -/
structure StoredAs (s : Session) (script : String) (store : ScriptStore) (root : Folder)
    (slug : String) : Prop where
  /-- The path of the script is read as it is written, and names the slug. -/
  stem_eq : (Path.ofString (store.directory.join (scriptFile slug)).text).stem = slug
  script_eq : Folder.readFile root
      (Path.ofString (store.directory.join (scriptFile slug)).text) =
    .ok (Text.Utf8.encode script.toList)
  /-- The document brings the flow into any session just if no two halves meet in the texts
  of the flow. -/
  reopens : ∃ document, store.load root slug = .ok document ∧
    ∀ (copies : Json.Limits) (t : Session), Json.Limits.allows copies.copied 10 = true →
      let reopened := importWithin copies document t
      (reopened.result = .ok s.graph ↔ ∀ text ∈ s.graph.texts, Text.Unpaired text.toList) ∧
        (reopened.result = .ok s.graph → reopened.state.graph = s.graph ∧
          (reopened.state.graph.compile (.ofBool true)).result = .ok script)

def requestOf (s : Session) (script : String) : SaveRequest :=
  ⟨s.name, script, s.graph.nodes, s.graph.edges⟩

/-- An answered save has stored the session. -/
theorem storedAs_of_answered {s : Session} {script slug : String} {store : ScriptStore}
    {root : Folder} (h : store.Answered root (s.requestOf script) slug)
    (hsound : s.graph.Sound) (hids : s.graph.edgeIds.Nodup)
    (hscript : (s.graph.compile (.ofBool true)).result = .ok script)
    (hdirectory : store.directory.Plain) (hrecord : Recordable store.limits s.graph)
    (hdepth : Json.Limits.allows store.limits.depth 4 = true) :
    s.StoredAs script store (store.save (s.requestOf script) root).state slug := by
  obtain ⟨hpath, hstem, hfile, hload⟩ := h.reads hdirectory hrecord hdepth
  constructor
  case stem_eq => rw [hpath, hstem]
  case script_eq => rw [hpath, hfile, requestOf]
  case reopens =>
    refine ⟨_, hload, ?_⟩
    intro copies t hcopies reopened
    refine ⟨?_, fun hreopened => ?_⟩
    · rw [result_importWithin_iff]
      exact Document.result_importWithin_joined_iff hsound hids hcopies _
    · have hgraph := graph_importWithin hreopened
      exact ⟨hgraph, by rw [hgraph, hscript]⟩

/-- What becomes of saving a session into a store that saves have filled. -/
theorem save_cases {s : Session} {script : String} {store : ScriptStore} {root : Folder}
    {count : Nat} (hname : Text.allBlank s.name.toList = false)
    (hscript : (s.graph.compile (.ofBool true)).result = .ok script)
    (hstocks : store.Stocks root count) (hrecord : Recordable store.limits s.graph)
    (hdepth : Json.Limits.allows store.limits.depth 4 = true) :
    let saved := save store.save (s, root)
    (∃ slug, store.Answered root (s.requestOf script) slug ∧
        saved.result = .ok (store.answerTo (s.requestOf script) slug) ∧
        saved.state.2 = (store.save (s.requestOf script) root).state) ∨
      (∃ failure, saved.result = .error failure) ∧
        (Text.isWhole script.toList = true →
          ∃ m, 1 ≤ m ∧ m ≤ count + 1 ∧ ¬ store.Fits (candidate (slug s.name) m)) := by
  intro saved
  have hprepared : (prepareSave s).result = .ok (s.requestOf script) := by
    rw [result_prepareSave hname, result_compile, hscript]
    rfl
  obtain ⟨hresult, hleft⟩ : saved.result = (store.save (s.requestOf script) root).result ∧
      saved.state.2 = (store.save (s.requestOf script) root).state := save_of_prepared hprepared
  have hrequest : Recordable store.limits (flowOf (s.requestOf script)) := hrecord
  obtain ⟨-, ⟨slug, hslug⟩ | ⟨⟨failure, hfailure⟩, hunfit⟩⟩ := hstocks.save_cases hrequest hdepth
  · exact Or.inl ⟨slug, hslug, hresult.trans hslug.result_eq, hleft⟩
  · exact Or.inr ⟨⟨failure, hresult.trans hfailure⟩, hunfit⟩

/-- A session that is saved after other saves, whatever became of these, is found in the
store once the save is answered. Its document brings the flow back, with the script that
was written, just if no two halves meet in the texts of the flow; and where the slugs fit
that the save may have to look at, it is answered just if the script has no halves. -/
theorem stored_after_save {s : Session} {store : ScriptStore} {root : Folder}
    {earlier : List SaveRequest} {sessionId name directory : String} {listeners : List Listener}
    {calls : List Call} (hs : s = (create sessionId name listeners).after calls)
    (hname : Text.allBlank s.name.toList = false)
    (hstart : ∃ node ∈ s.graph.nodes, node.kind = .start) (hids : s.graph.edgeIds.Nodup)
    (hfloats : ∀ node ∈ s.graph.nodes, ∀ x : Binary64,
      .number (.float x) ∈ [node.position.x, node.position.y] → ReadsBack x)
    (hdigits : ∀ n ∈ s.graph.toJson.wholeNumbers,
      Json.Limits.allows store.limits.digits (Binary64.digitCount n.natAbs) = true)
    (hdirectory : store.directory = Path.ofString directory)
    (hdepth : Json.Limits.allows store.limits.depth 4 = true)
    (hempty : store.StartsEmpty root)
    (hearlier : ∀ request ∈ earlier, Recordable store.limits (flowOf request)) :
    let saved := save store.save (s, store.after root earlier)
    ∃ script, (s.graph.compile (.ofBool true)).result = .ok script ∧
      (∀ answer, saved.result = .ok answer → ∃ slug,
        answer = .object [("name", .text s.name),
          ("path", .text (store.directory.join (scriptFile slug)).text)] ∧
        s.StoredAs script store saved.state.2 slug) ∧
      ((∀ n, 1 ≤ n → n ≤ earlier.length + 1 → store.Fits (candidate (slug s.name) n)) →
        ((∃ answer, saved.result = .ok answer) ↔ Text.isWhole script.toList = true)) := by
  intro saved
  have hconsistent : s.Consistent := by
    rw [hs]
    exact consistent_after sessionId name listeners calls
  obtain ⟨order, -, hscript⟩ := hconsistent.exists_order hstart (.ofBool true)
  generalize Script.assemble order _ = script at hscript
  have hrecord : Recordable store.limits s.graph :=
    recordable_of_sound hconsistent.sound hfloats hdigits
  have hstocks := hempty.stocks.after hdepth earlier hearlier
  rw [Nat.zero_add] at hstocks
  have hcases := save_cases hname hscript hstocks hrecord hdepth
  refine ⟨script, hscript, ?_, ?_⟩
  · intro answer hanswer
    rcases hcases with ⟨slug, hslug, hresult, hleft⟩ | ⟨⟨failure, hfailure⟩, -⟩
    · rw [hresult] at hanswer
      refine ⟨slug, (Except.ok.inj hanswer).symm, ?_⟩
      rw [hleft]
      apply storedAs_of_answered hslug hconsistent.sound hids hscript _ hrecord hdepth
      rw [hdirectory]
      exact Path.plain_ofString directory
    · rw [hfailure] at hanswer
      cases hanswer
  · intro hfits
    rcases hcases with ⟨slug, hslug, hresult, -⟩ | ⟨⟨failure, hfailure⟩, hunfit⟩
    · exact ⟨fun _ => hslug.isWhole, fun _ => ⟨_, hresult⟩⟩
    · constructor
      · rintro ⟨answer, hanswer⟩
        rw [hfailure] at hanswer
        cases hanswer
      · intro hwhole
        obtain ⟨m, hm, hle, hnot⟩ := hunfit hwhole
        exact absurd (hfits m hm hle) hnot

/-- A session whose name has the slug of another that was saved before. -/
theorem stored_after_save_log_in :
    let s := (create "1" "Log in" []).after [.add (.text "wait") .null .null,
      .connect (.text "start-node") (.text "wait-1")]
    let store : ScriptStore := { directory := Path.ofString "scripts" }
    let saved := save store.save (s, store.after [] [⟨"log-in", "first", [], []⟩])
    ∃ script answer slug, (s.graph.compile (.ofBool true)).result = .ok script ∧
      saved.result = .ok answer ∧ s.StoredAs script store saved.state.2 slug ∧
      ∃ document, store.load saved.state.2 slug = .ok document ∧
        ∀ t, (importDocument document t).result = .ok s.graph := by
  intro s store saved
  have hs : s = (create "1" "Log in" []).after [.add (.text "wait") .null .null,
    .connect (.text "start-node") (.text "wait-1")] := rfl
  have hints : ∀ node ∈ s.graph.nodes, ∀ v ∈ [node.position.x, node.position.y],
      v ∈ [Json.int 250, .int 50, .int 0] := by decide
  have hfloats : ∀ node ∈ s.graph.nodes, ∀ x : Binary64,
      .number (.float x) ∈ [node.position.x, node.position.y] → ReadsBack x := by
    intro node hnode x hx
    simpa [Json.int] using hints node hnode _ hx
  have hempty : store.StartsEmpty [] := ScriptStore.startsEmpty_scripts
  have hearlier : ∀ request ∈ [(⟨"log-in", "first", [], []⟩ : SaveRequest)],
      Recordable store.limits (flowOf request) := by
    intro request hrequest
    rw [List.mem_singleton.mp hrequest]
    constructor <;> intro _ h <;> exact absurd h List.not_mem_nil
  obtain ⟨script, hscript, hstored, hanswered⟩ := stored_after_save hs (by decide) (by decide)
    (by decide) hfloats (fun _ _ => rfl) rfl rfl hempty hearlier
  have hbelow : ∀ n, 1 ≤ n → n ≤ 2 → n ∈ [1, 2] := by
    intro n hn hle
    simp only [List.mem_cons, List.not_mem_nil, or_false]
    omega
  have hfits : ∀ n ∈ [1, 2], store.Fits (candidate (slug s.name) n) := by decide +kernel
  have hfragments : s.graph.nodes.all (fun node => Script.isAscii node.fragment) = true := by
    decide +kernel
  have hwhole : Text.isWhole script.toList = true := by
    apply (consistent_after "1" "Log in" [] _).isWhole_of_compile hscript
    exact fun node hnode => Script.isWhole_of_isAscii (List.all_eq_true.mp hfragments node hnode)
  obtain ⟨answer, hanswer⟩ := (hanswered fun n hn hle => hfits n (hbelow n hn hle)).mpr hwhole
  obtain ⟨slug, -, hslug⟩ := hstored answer hanswer
  refine ⟨script, answer, slug, hscript, hanswer, hslug, ?_⟩
  obtain ⟨document, hload, hreopens⟩ := hslug.reopens
  refine ⟨document, hload, fun t => (hreopens {} t rfl).1.mpr ?_⟩
  have htexts : ∀ text ∈ s.graph.texts, Text.isWhole text.toList = true := by decide +kernel
  exact fun text htext => Text.unpaired_of_isWhole (htexts text htext)

def twoSteps (other edge : Table Json) : Json :=
  .object
    [("nodes", .list
      [.object [("id", .text "s"), ("kind", .text "start")], .object (("id", .text "c") :: other)]),
      ("edges", .list
        [.object (edge ++ [("sourceNodeId", .text "s"), ("targetNodeId", .text "c")])])]

/-- A code step with a half of a pair is not saved. Two halves that meet in the id of an edge
are saved, but the edge that is read back has another id, the one character that they make. -/
theorem not_stored_halves :
    let store : ScriptStore := { directory := Path.ofString "scripts" }
    let half := String.ofList [Text.ofHalf 0xd83d]
    let pair := String.ofList [Text.ofHalf 0xd880, Text.ofHalf 0xde00]
    let s := (create "1" "My Selenium Script" []).after [.load {}
      (twoSteps [("kind", .text "code"), ("params", .object [("code", .text half)])] [])]
    let t := (create "1" "My Selenium Script" []).after [.load {}
      (twoSteps [("kind", .text "wait")] [("id", .text pair)])]
    (∀ u ∈ [s, t], Text.allBlank u.name.toList = false ∧
        (∃ node ∈ u.graph.nodes, node.kind = .start) ∧ u.graph.edgeIds.Nodup) ∧
      store.StartsEmpty [] ∧
      (¬ ∃ answer, (save store.save (s, [])).result = .ok answer) ∧
      ∃ slug document, (save store.save (t, [])).result =
          .ok (.object [("name", .text t.name),
            ("path", .text (store.directory.join (scriptFile slug)).text)]) ∧
        store.load (save store.save (t, [])).state.2 slug = .ok document ∧
        ∀ u, (importDocument document u).result ≠ .ok t.graph := by
  intro store half pair s t
  have hrequired : ∀ u ∈ [s, t], Text.allBlank u.name.toList = false ∧
      (∃ node ∈ u.graph.nodes, node.kind = .start) ∧ u.graph.edgeIds.Nodup := by
    rw [List.forall_mem_cons, List.forall_mem_singleton]
    decide +kernel
  have hempty : store.StartsEmpty [] := ScriptStore.startsEmpty_scripts
  have hconsistent : ∀ document, ((create "1" "My Selenium Script" []).after
      [.load {} document]).Consistent := fun document => consistent_after _ _ _ _
  have hints : ∀ u ∈ [s, t], ∀ node ∈ u.graph.nodes,
      ∀ v ∈ [node.position.x, node.position.y], v = Json.int 0 := by
    rw [List.forall_mem_cons, List.forall_mem_singleton]
    decide +kernel
  have hrecord : ∀ u ∈ [s, t], u.graph.Sound → Recordable store.limits u.graph := by
    intro u hu hsound
    apply recordable_of_sound hsound _ fun _ _ => rfl
    intro node hnode x hx
    simpa [Json.int] using hints u hu node hnode _ hx
  refine ⟨hrequired, hempty, ?_, ?_⟩
  -- The half is in the script, so the save cannot have been answered.
  · obtain ⟨hname, hstart, -⟩ := hrequired s (by simp)
    obtain ⟨order, horder, hscript⟩ := (hconsistent _).exists_order hstart (.ofBool true)
    have hany : s.graph.order?.any (fun order => order.any fun node =>
        !Text.isWhole node.fragment.toList) = true := by decide +kernel
    have hhalf : ¬ Text.isWhole (Script.assemble order true).toList = true := by
      rw [horder] at hany
      obtain ⟨node, hnode, hfragment⟩ := List.any_eq_true.mp hany
      rw [Script.isWhole_assemble_iff]
      intro hall
      rw [hall node hnode] at hfragment
      cases hfragment
    rintro ⟨answer, hanswer⟩
    rcases save_cases hname hscript hempty.stocks (hrecord s (by simp) (hconsistent _).sound) rfl
      with ⟨slug, hslug, -⟩ | ⟨⟨failure, hfailure⟩, -⟩
    · exact hhalf hslug.isWhole
    · rw [hfailure] at hanswer
      cases hanswer
  -- The halves are in the document only, where they are written as two escapes that meet.
  · obtain ⟨hname, hstart, hids⟩ := hrequired t (by simp)
    obtain ⟨order, -, hscript⟩ := (hconsistent _).exists_order hstart (.ofBool true)
    have hfragments : t.graph.nodes.all (fun node => Script.isAscii node.fragment) = true := by
      decide +kernel
    have hwhole := (hconsistent _).isWhole_of_compile hscript fun node hnode =>
      Script.isWhole_of_isAscii (List.all_eq_true.mp hfragments node hnode)
    have hrecord := hrecord t (by simp) (hconsistent _).sound
    rcases save_cases hname hscript hempty.stocks hrecord rfl
      with ⟨slug, hslug, hresult, hleft⟩ | ⟨-, hunfit⟩
    · obtain ⟨document, hload, hreopens⟩ := (storedAs_of_answered hslug (hconsistent _).sound hids
        hscript (Path.plain_ofString "scripts") hrecord rfl).reopens
      rw [← hleft] at hload
      refine ⟨slug, document, hresult, hload, fun u hread => ?_⟩
      have hmem : pair ∈ t.graph.texts := by decide +kernel
      have hunpaired := (hreopens {} u rfl).1.mp hread pair hmem
      exact absurd (Json.joinedText_eq_self_iff.mpr hunpaired) (by decide)
    · obtain ⟨m, hm, hle, hnot⟩ := hunfit hwhole
      obtain rfl : m = 1 := by omega
      have hfits : store.Fits (candidate (slug t.name) 1) := by decide +kernel
      exact absurd hfits hnot

end BrowserFlow.Editor.Session
