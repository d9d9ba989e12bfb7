import YamlDialects.Proofs.Server.Attention

/-!
What has been published when no handler is in progress. Nothing was edited since the last publication for
an address, so that publication is right exactly if it was right when it was sent. It need not be: it is
sent after the documents are released, and another handler may have edited or published in between.
-/

set_option autoImplicit false

namespace YamlDialects.Service

theorem reachable_silent (files : Files) (settings : Settings) (surroundings : Surroundings) (workspace changed : Workspace)
    (before after : List Handler) (work : Work) (rest next : Handler) (sent : List (Publication × Workspace))
    (opened : List Address) (silent : work.opened? = none)
    (result : workspace.perform surroundings work = (next, none, changed))
    (reached : Reachable files settings ⟨workspace, before ++ (work :: rest) :: after, sent, opened⟩) :
    Reachable files settings ⟨changed, before ++ (next ++ rest) :: after, sent, opened⟩ := by
  have step := Step.proceed ⟨workspace, before ++ (work :: rest) :: after, sent, opened⟩ surroundings before after work rest rfl
  simp only [proceed, result, silent] at step
  exact .step _ _ reached step

theorem undisturbed_validation (files : Files) (settings : Settings) (workspace : Workspace) (before after : List Handler)
    (rest : Handler) (sent : List (Publication × Workspace)) (opened : List Address) (address : Address)
    (document : Document) (found : workspace.document? address = some document) (dirty : document.state = .dirty)
    (reached : Reachable files settings ⟨workspace, before ++ (.validate address :: rest) :: after, sent, opened⟩) :
    ∃ (settled : Workspace) (diagnostics : List Diagnostic),
      settled.document? address = some { document with state := .clean } ∧
      Reachable files settings ⟨settled,
        before ++ (.publish ⟨address, diagnostics, some document.version⟩ :: rest) :: after, sent, opened⟩ := by
  let surroundings : Surroundings := ⟨files, 0, Yaml.readText⟩
  let snapshot : Snapshot := ⟨document.generation, document.version, document.text⟩
  let reconciling : Document := { document with state := .reconciling }
  let indexed := workspace.ensureIndex surroundings
  have foundIndexed : indexed.document? address = some document :=
    (Workspace.document_of_documents _ _ (workspace.build_documents surroundings false) address).trans found
  have validated : Reachable files settings ⟨indexed, before ++ (.begin address :: rest) :: after, sent, opened⟩ :=
    reachable_silent files settings surroundings workspace indexed before after (.validate address) rest _ sent opened rfl rfl
      reached
  let begun := indexed.update address reconciling
  have foundBegun : begun.document? address = some reconciling := by
    rw [indexed.document_update address address document reconciling foundIndexed, if_pos rfl]
  have computing : Reachable files settings
      ⟨begun, before ++ (.compute address snapshot :: rest) :: after, sent, opened⟩ := by
    refine reachable_silent files settings surroundings indexed begun before after (.begin address) rest
      [.compute address snapshot] sent opened rfl ?_ validated
    simp [Workspace.perform, foundIndexed, Document.begin, dirty, snapshot, begun, reconciling]
  let outcome := begun.diagnose surroundings.read surroundings.now address snapshot.text
  have foundOutcome : outcome.2.document? address = some reconciling :=
    (Workspace.document_of_documents _ _ (begun.diagnose_documents surroundings.read surroundings.now address snapshot.text) address).trans
      foundBegun
  have finishing : Reachable files settings
      ⟨outcome.2, before ++ (.finish address snapshot outcome.1 :: rest) :: after, sent, opened⟩ :=
    reachable_silent files settings surroundings begun outcome.2 before after (.compute address snapshot) rest _ sent opened
      rfl rfl computing
  refine ⟨outcome.2.update address { document with state := .clean }, outcome.1, ?_, ?_⟩
  · rw [outcome.2.document_update address address reconciling _ foundOutcome, if_pos rfl]
  · refine reachable_silent files settings surroundings outcome.2 _ before after (.finish address snapshot outcome.1) rest
      [.publish ⟨address, outcome.1, some document.version⟩] sent opened rfl ?_ finishing
    simp [Workspace.perform, foundOutcome, Document.finish, snapshot, reconciling]

theorem reachable_publish (files : Files) (settings : Settings) (workspace : Workspace) (before after : List Handler)
    (publication : Publication) (rest : Handler) (sent : List (Publication × Workspace)) (opened : List Address)
    (reached : Reachable files settings ⟨workspace, before ++ (.publish publication :: rest) :: after, sent, opened⟩) :
    Reachable files settings ⟨workspace, before ++ rest :: after, (publication, workspace) :: sent, opened⟩ :=
  .step _ _ reached (.proceed _ ⟨files, 0, Yaml.readText⟩ before after (.publish publication) rest rfl)

theorem opening_run (files : Files) (settings : Settings) (address : Address) (text : String) (version : Int) :
    ∃ (ready : Workspace) (diagnostics : List Diagnostic),
      ready.document? address = some { Document.opened text version with state := .clean } ∧
      Reachable files settings ⟨ready, [[.publish ⟨address, diagnostics, some version⟩]], [], [address]⟩ := by
  have received : Reachable files settings ((start files settings).receive (.opened address text version)) :=
    .step _ _ .start (.receive _ (.opened address text version))
  let inserted := (start files settings).workspace.insert address (Document.opened text version)
  have found : inserted.document? address = some (Document.opened text version) := by
    rw [Workspace.document_insert, if_pos rfl]
  have validating : Reachable files settings ⟨inserted, [[.validate address]], [], [address]⟩ :=
    .step _ _ received (.proceed _ ⟨files, 0, Yaml.readText⟩ [] [] (.insert address text version) [.validate address] rfl)
  exact undisturbed_validation files settings inserted [] [] [] [] [address] address _ found rfl validating

theorem closing_run (files : Files) (settings : Settings) (address : Address) (text : String) (version : Int) :
    ∃ service, Reachable files settings service ∧ service.AtRest ∧ service.opened = [address] ∧
      service.workspace.document? address = none ∧
      service.lastSent? address = some (⟨address, [], none⟩, service.workspace) := by
  obtain ⟨ready, diagnostics, _, opening⟩ := opening_run files settings address text version
  have published := reachable_publish files settings ready [] [] _ [] [] [address] opening
  have received : Reachable files settings ⟨ready, [[], [.remove address, .publish ⟨address, [], none⟩]],
      [(⟨address, diagnostics, some version⟩, ready)], [address]⟩ :=
    .step _ _ published (.receive _ (.closed address))
  have removed := reachable_silent files settings ⟨files, 0, Yaml.readText⟩ ready (ready.erase address) [[]] [] (.remove address)
    [.publish ⟨address, [], none⟩] [] _ [address] rfl rfl received
  have cleared := reachable_publish files settings (ready.erase address) [[]] [] ⟨address, [], none⟩ [] _ [address] removed
  refine ⟨_, cleared, by simp [AtRest], rfl, ?_, by simp [lastSent?]⟩
  rw [Workspace.document_erase, if_pos rfl]

theorem overtaking_run (files : Files) (settings : Settings) (address : Address) (first second : String) :
    ∃ (service : Service) (document : Document) (old : Publication) (workspace : Workspace),
      Reachable files settings service ∧ service.AtRest ∧
      service.workspace.document? address = some document ∧ document.version = 2 ∧
      service.lastSent? address = some (old, workspace) ∧ old.version = some 1 := by
  obtain ⟨ready, diagnostics, foundReady, late⟩ := opening_run files settings address first 1
  -- The first handler has yet to publish when the change comes.
  let old : Publication := ⟨address, diagnostics, some 1⟩
  have received : Reachable files settings
      ⟨ready, [[.publish old], [.change address second 2, .validate address]], [], [address]⟩ :=
    .step _ _ late (.receive _ (.changed address [second] 2))
  let edited := Document.update { Document.opened first 1 with state := .clean } second 2
  have changing : ready.perform ⟨files, 0, Yaml.readText⟩ (.change address second 2) = ([], none, ready.update address edited) := by
    simp [Workspace.perform, foundReady, edited]
  have foundChanged : (ready.update address edited).document? address = some edited := by
    rw [ready.document_update address address _ edited foundReady, if_pos rfl]
  have validating : Reachable files settings
      ⟨ready.update address edited, [[.publish old], [.validate address]], [], [address, address]⟩ := by
    have step := Step.proceed ⟨ready, [[.publish old], [.change address second 2, .validate address]], [], [address]⟩
      ⟨files, 0, Yaml.readText⟩ [[.publish old]] [] (.change address second 2) [.validate address] rfl
    simp only [proceed, changing] at step
    exact .step _ _ received step
  obtain ⟨settled, fresh, foundSettled, both⟩ := undisturbed_validation files settings (ready.update address edited)
    [[.publish old]] [] [] [] [address, address] address edited foundChanged rfl validating
  have overtaken := reachable_publish files settings settled [[.publish old]] [] ⟨address, fresh, some 2⟩ [] []
    [address, address] both
  have ended := reachable_publish files settings settled [] [[]] old [] _ [address, address] overtaken
  exact ⟨_, _, old, settled, ended, by simp [AtRest], foundSettled, rfl, by simp [lastSent?, old], rfl⟩

structure Settled (service : Service) (read : Yaml.TextReader) (now : Nat) : Prop where
  present : ∀ address document, service.workspace.document? address = some document →
    ∃ publication workspace, service.lastSent? address = some (publication, workspace) ∧
      publication.diagnostics = (service.workspace.diagnose read now address document.text).1 ∧
      publication.version = some document.version
  closed : ∀ address ∈ service.opened, service.workspace.document? address = none →
    ∃ publication workspace, service.lastSent? address = some (publication, workspace) ∧ publication.diagnostics = []

def Suits (service : Service) (read : Yaml.TextReader) (now : Nat) (address : Address) (publication : Publication) : Option (String × Int) → Prop
  | some (text, version) =>
      publication.diagnostics = (service.workspace.diagnose read now address text).1 ∧ publication.version = some version
  | none => publication.diagnostics = []

-- The last publication was right for the document as it was when the publication was sent.
def SentInTime (service : Service) (read : Yaml.TextReader) (now : Nat) (address : Address) : Prop :=
  ∃ publication workspace, service.lastSent? address = some (publication, workspace) ∧
    service.Suits read now address publication (workspace.contentAt? address)

theorem at_rest_clean (service : Service) (consistent : Consistent service) (rest : service.AtRest) (address : Address)
    (document : Document) (found : service.workspace.document? address = some document) : document.state = .clean := by
  have idle : ∀ work, ¬ service.Pending work := by
    rintro work ⟨handler, member, inside⟩
    rw [rest handler member] at inside
    simp at inside
  obtain ⟨dirty, reconciling⟩ := consistent.attends address document found
  cases state : document.state with
  | clean => rfl
  | dirty =>
      obtain ⟨work, pending, _⟩ := dirty state
      exact absurd pending (idle work)
  | reconciling =>
      obtain ⟨work, pending, _⟩ := reconciling state
      exact absurd pending (idle work)

theorem at_rest_sent (service : Service) (consistent : Consistent service) (rest : service.AtRest) (address : Address)
    (opened : address ∈ service.opened) : ∃ publication workspace,
      service.lastSent? address = some (publication, workspace) ∧
        workspace.contentAt? address = service.workspace.contentAt? address := by
  cases consistent.answered address opened with
  | sent publication workspace last same => exact ⟨publication, workspace, last, same⟩
  | pending publication pending _ =>
      obtain ⟨handler, member, inside⟩ := pending
      rw [rest handler member] at inside
      simp at inside
  | unclean document found unclean => exact absurd (at_rest_clean service consistent rest address document found) unclean

theorem settled_iff_suits (service : Service) (read : Yaml.TextReader) (now : Nat) (consistent : Consistent service) :
    service.Settled read now ↔ ∀ address ∈ service.opened, ∃ publication workspace,
      service.lastSent? address = some (publication, workspace) ∧
        service.Suits read now address publication (service.workspace.contentAt? address) := by
  constructor
  · intro settled address opened
    cases found : service.workspace.document? address with
    | none => simpa [Workspace.contentAt?, found, Suits] using settled.closed address opened found
    | some document => simpa [Workspace.contentAt?, found, Suits] using settled.present address document found
  · intro suits
    refine ⟨?_, ?_⟩
    · intro address document found
      simpa [Workspace.contentAt?, found, Suits] using suits address (consistent.known address document found)
    · intro address opened found
      simpa [Workspace.contentAt?, found, Suits] using suits address opened

theorem settled_iff_sent_in_time (files : Files) (settings : Settings) (service : Service)
    (reached : Reachable files settings service) (rest : service.AtRest) (read : Yaml.TextReader) (now : Nat) :
    (∀ address ∈ service.opened, ∃ publication workspace, service.lastSent? address = some (publication, workspace) ∧
      workspace.contentAt? address = service.workspace.contentAt? address) ∧
    (service.Settled read now ↔ ∀ address ∈ service.opened, service.SentInTime read now address) := by
  have consistent := reachable_consistent files settings service reached
  have sent := at_rest_sent service consistent rest
  refine ⟨sent, ?_⟩
  rw [settled_iff_suits service read now consistent]
  -- The last publication is the same on both sides, and so is what it has to suit.
  constructor
  · intro suits address opened
    obtain ⟨publication, workspace, last, same⟩ := sent address opened
    obtain ⟨other, _, lastOther, right⟩ := suits address opened
    obtain ⟨rfl, rfl⟩ := Prod.mk.inj (Option.some.inj (last.symm.trans lastOther))
    exact ⟨publication, workspace, last, by rw [same]; exact right⟩
  · intro inTime address opened
    obtain ⟨publication, workspace, last, same⟩ := sent address opened
    obtain ⟨other, _, lastOther, right⟩ := inTime address opened
    obtain ⟨rfl, rfl⟩ := Prod.mk.inj (Option.some.inj (last.symm.trans lastOther))
    exact ⟨publication, workspace, last, by rw [← same]; exact right⟩

theorem settled_iff_sent_in_time_closed : ∃ service, Reachable (fun _ => none) {} service ∧ service.AtRest ∧
    service.opened ≠ [] ∧ service.Settled Yaml.readText 0 ∧ ∀ address ∈ service.opened, service.SentInTime Yaml.readText 0 address := by
  obtain ⟨service, reached, rest, opened, gone, last⟩ :=
    closing_run (fun _ => none) {} ⟨"file", some {}, "/a.yaml", ""⟩ "a: 1" 1
  have inTime : ∀ address ∈ service.opened, service.SentInTime Yaml.readText 0 address := by
    intro address member
    rw [opened, List.mem_singleton] at member
    subst member
    exact ⟨_, _, last, by simp [Workspace.contentAt?, gone, Suits]⟩
  have settled := (settled_iff_sent_in_time (fun _ => none) {} service reached rest Yaml.readText 0).2.mpr inTime
  exact ⟨service, reached, rest, by simp [opened], settled, inTime⟩

-- The publication of an older text comes last, and then nothing corrects it.
theorem overtaken_not_settled : ∃ service, Reachable (fun _ => none) {} service ∧ service.AtRest ∧ ¬ service.Settled Yaml.readText 0 := by
  obtain ⟨service, document, old, workspace, reached, rest, found, version, last, sentVersion⟩ :=
    overtaking_run (fun _ => none) {} ⟨"file", some {}, "/a.yaml", ""⟩ "a: 1" "a: 2"
  refine ⟨service, reached, rest, ?_⟩
  intro settled
  obtain ⟨publication, _, lastAgain, _, right⟩ := settled.present _ document found
  obtain ⟨rfl, _⟩ := Prod.mk.inj (Option.some.inj (last.symm.trans lastAgain))
  rw [sentVersion, version] at right
  simp at right

end YamlDialects.Service
