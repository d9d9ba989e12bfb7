import YamlDialects.Proofs.IndexCache.Entries
import YamlDialects.Server.Session

/-!
Handlers that take turns. Of all operations on a workspace only a few touch an open document, and each of them touches
one; the index comes and goes without them. A service holds the handlers in progress; any of them may do its next work
at any time. However they interleave, no edit is forgotten: a document that is not clean has a handler that will
see to it, and whatever was opened or closed is followed by a publication for it.
-/

set_option autoImplicit false

namespace YamlDialects.Workspace

theorem document_of_documents (first second : Workspace) (same : first.documents = second.documents) (address : Address) :
    first.document? address = second.document? address := by
  rw [document?, document?, same]

theorem document_erase (workspace : Workspace) (address other : Address) :
    (workspace.erase address).document? other = if other = address then none else workspace.document? other := by
  rw [document?, erase, Association.find_filter_ne, document?]
  by_cases same : other = address <;> simp [same]

theorem document_insert (workspace : Workspace) (address other : Address) (document : Document) :
    (workspace.insert address document).document? other =
      if other = address then some document else workspace.document? other := by
  rw [document?, insert, List.find?_append, erase, Association.find_filter_ne, document?]
  by_cases same : other = address
  · simp [same]
  · have different : ¬ address = other := fun equal => same equal.symm
    simp [same, different]

theorem document_update (workspace : Workspace) (address other : Address) (old document : Document)
    (found : workspace.document? address = some old) :
    (workspace.update address document).document? other =
      if other = address then some document else workspace.document? other :=
  Association.find_replace workspace.documents address other old document found

theorem document_invalidate (workspace : Workspace) (address : Address) :
    workspace.invalidateAll.document? address = (workspace.document? address).map Document.invalidate := by
  have general : ∀ documents : List (Address × Document),
      ((documents.map fun each => (each.1, each.2.invalidate)).find? (·.1 == address)).map (·.2) =
        ((documents.find? (·.1 == address)).map (·.2)).map Document.invalidate := by
    intro documents
    rw [List.find?_map]
    simp only [Option.map_map]
    rfl
  exact general workspace.documents

theorem mem_of_document (workspace : Workspace) (address : Address) (document : Document)
    (found : workspace.document? address = some document) : (address, document) ∈ workspace.documents := by
  obtain ⟨⟨other, entry⟩, listed, rfl⟩ := Option.map_eq_some_iff.mp found
  have same : other = address := by simpa using List.find?_some listed
  exact same ▸ List.mem_of_find?_eq_some listed

theorem build_documents (workspace : Workspace) (surroundings : Surroundings) (anew : Bool) :
    (workspace.build surroundings anew).2.documents = workspace.documents := by
  unfold build
  cases workspace.index <;> rfl

theorem snapshot_documents (workspace : Workspace) (now : Nat) :
    (workspace.snapshot now).2.documents = workspace.documents := by
  unfold snapshot
  cases workspace.index <;> rfl

theorem diagnose_documents (workspace : Workspace) (read : Yaml.TextReader) (now : Nat) (address : Address) (text : String) :
    (workspace.diagnose read now address text).2.documents = workspace.documents := by
  unfold diagnose
  cases workspace.assistant? address with
  | none => rfl
  | some assistant => exact snapshot_documents workspace now

theorem ask_documents (surroundings : Surroundings) (workspace : Workspace) (address : Address) (position : Position)
    (answer : Assistant → Option PropertyIndex → String → Nat → Json) :
    (Session.ask surroundings workspace address position answer).2.documents = workspace.documents := by
  unfold Session.ask
  cases Session.opened? workspace address with
  | none => rfl
  | some found => exact (snapshot_documents _ _).trans (build_documents workspace surroundings false)

end YamlDialects.Workspace

namespace YamlDialects

-- What was sent is kept with the workspace it was sent from, the latest first.
structure Service where
  workspace : Workspace
  handlers : List Handler := []
  sent : List (Publication × Workspace) := []
  opened : List Address := []

def Work.opened? : Work → Option Address
  | .insert address _ _ => some address
  | .change address _ _ => some address
  | _ => none

namespace Service

def start (files : Files) (settings : Settings) : Service :=
  { workspace := .ofSettings files settings }

def receive (service : Service) (notice : ClientNotice) : Service :=
  { service with handlers := service.handlers ++ [Session.handler service.workspace notice] }

def proceed (service : Service) (surroundings : Surroundings) (before after : List Handler) (work : Work)
    (rest : Handler) : Service :=
  let (next, published, workspace) := service.workspace.perform surroundings work
  { workspace
    handlers := before ++ (next ++ rest) :: after
    sent := published.toList.map (·, workspace) ++ service.sent
    opened := work.opened?.toList ++ service.opened }

-- Requests and the clock change nothing but the index.
inductive Step : Service → Service → Prop where
  | receive (service : Service) (notice : ClientNotice) : Step service (service.receive notice)
  | proceed (service : Service) (surroundings : Surroundings) (before after : List Handler) (work : Work)
      (rest : Handler) (taken : service.handlers = before ++ (work :: rest) :: after) :
      Step service (service.proceed surroundings before after work rest)
  | ask (service : Service) (surroundings : Surroundings) (address : Address) (position : Position)
      (answer : Assistant → Option PropertyIndex → String → Nat → Json) :
      Step service { service with workspace := (Session.ask surroundings service.workspace address position answer).2 }
  | evict (service : Service) (now : Nat) : Step service { service with workspace := service.workspace.evict now }

inductive Reachable (files : Files) (settings : Settings) : Service → Prop where
  | start : Reachable files settings (start files settings)
  | step (service next : Service) (reached : Reachable files settings service) (step : Step service next) :
      Reachable files settings next

def AtRest (service : Service) : Prop :=
  ∀ handler ∈ service.handlers, handler = []

def Pending (service : Service) (work : Work) : Prop :=
  ∃ handler ∈ service.handlers, work ∈ handler

def lastSent? (service : Service) (address : Address) : Option (Publication × Workspace) :=
  service.sent.find? (·.1.address == address)

end Service

namespace Work

def Leads (address : Address) : Work → Prop
  | .validate other => other = address
  | .begin other => other = address
  | .compute other _ => other = address
  | .finish other _ _ => other = address
  | _ => False

def Finishes (address : Address) (generation : Nat) : Work → Prop
  | .compute other snapshot => other = address ∧ snapshot.generation = generation
  | .finish other snapshot _ => other = address ∧ snapshot.generation = generation
  | _ => False

-- What has to come later in the same handler.
def Owes : Work → Handler → Prop
  | .insert address _ _, rest => .validate address ∈ rest
  | .change address _ _, rest => .validate address ∈ rest
  | .remove address, rest => ∃ publication, .publish publication ∈ rest ∧ publication.address = address
  | _, _ => True

end Work

namespace Handler

def Complete : Handler → Prop
  | [] => True
  | work :: rest => work.Owes rest ∧ Complete rest

theorem complete_append (next rest : Handler) (free : ∀ work ∈ next, ∀ after, work.Owes after) (complete : rest.Complete) :
    Complete (next ++ rest) := by
  induction next with
  | nil => exact complete
  | cons work next ih =>
      exact ⟨free work (by simp) _, ih fun each member => free each (by simp [member])⟩

theorem complete_of_notice (workspace : Workspace) (notice : ClientNotice) : (Session.handler workspace notice).Complete := by
  cases notice with
  | initialized => trivial
  | opened address text version => exact ⟨by simp [Work.Owes], trivial, trivial⟩
  | changed address texts version =>
      simp only [Session.handler]
      cases texts.getLast? with
      | none => trivial
      | some text => exact ⟨by simp [Work.Owes], trivial, trivial⟩
  | saved address =>
      simp only [Session.handler]
      split
      · exact ⟨trivial, trivial⟩
      · trivial
  | closed address => exact ⟨⟨⟨address, [], none⟩, by simp, rfl⟩, trivial, trivial⟩

end Handler

inductive Effect (address : Address) (before after : Option Document) (work : Work) (next : Handler) : Prop where
  | opens (document : Document) (opened : work.opened? = some address) (dirty : document.state = .dirty)
      (found : after = some document)
  | removes (isRemove : work = .remove address) (gone : after = none)
  | begins (document : Document) (snapshot : Snapshot) (found : before = some document)
      (taken : after = some { document with state := .reconciling }) (computes : .compute address snapshot ∈ next)
      (current : snapshot.generation = document.generation) (silent : work.opened? = none)
  | finishes (document : Document) (publication : Publication) (found : before = some document)
      (clean : after = some { document with state := .clean }) (publishes : .publish publication ∈ next)
      (named : publication.address = address) (silent : work.opened? = none)
  | invalidates (isInvalidate : work = .invalidate) (all : after = before.map Document.invalidate)
      (validates : ∀ document, before = some document → .validate address ∈ next)
  | leaves (same : after = before) (other : work.opened? ≠ some address)
      (leads : ∀ document, before = some document → document.state = .dirty → work.Leads address →
        ∃ later ∈ next, later.Leads address)
      (ends : ∀ document, before = some document → document.state = .reconciling →
        work.Finishes address document.generation → ∃ later ∈ next, later.Finishes address document.generation)

namespace Workspace

theorem perform_published (surroundings : Surroundings) (workspace : Workspace) (work : Work) (publication : Publication) :
    (workspace.perform surroundings work).2.1 = some publication ↔ work = .publish publication := by
  cases work with
  | publish other => simp [perform]
  | change address text version =>
      simp only [perform]
      cases workspace.document? address <;> simp
  | begin address =>
      simp only [perform]
      split <;> simp
  | finish address snapshot diagnostics =>
      simp only [perform]
      split <;> simp
  | _ => simp [perform]

theorem perform_free (surroundings : Surroundings) (workspace : Workspace) (work : Work) :
    ∀ later ∈ (workspace.perform surroundings work).1, ∀ after, later.Owes after := by
  cases work with
  | change address text version =>
      simp only [perform]
      cases workspace.document? address <;> simp
  | begin address =>
      simp only [perform]
      split <;> simp [Work.Owes]
  | finish address snapshot diagnostics =>
      simp only [perform]
      split <;> simp [Work.Owes]
  | reload =>
      simp only [perform]
      split <;> simp [Work.Owes]
  | invalidate =>
      intro later member after
      obtain ⟨each, _, rfl⟩ := List.mem_map.mp member
      trivial
  | _ => simp [perform, Work.Owes]

theorem begin_cases (surroundings : Surroundings) (workspace : Workspace) (address : Address) :
    (∃ document, workspace.document? address = some document ∧
      workspace.perform surroundings (.begin address) =
        ([.compute address ⟨document.generation, document.version, document.text⟩], none,
          workspace.update address { document with state := .reconciling })) ∨
    ((∀ document, workspace.document? address = some document → document.state ≠ .dirty) ∧
      workspace.perform surroundings (.begin address) = ([], none, workspace)) := by
  cases found : workspace.document? address with
  | none => exact .inr ⟨by simp, by simp [perform, found]⟩
  | some document =>
      by_cases dirty : document.state = .dirty
      · exact .inl ⟨document, rfl, by simp [perform, found, Document.begin, dirty]⟩
      · exact .inr ⟨by simpa using dirty, by simp [perform, found, Document.begin, dirty]⟩

theorem finish_cases (surroundings : Surroundings) (workspace : Workspace) (address : Address) (snapshot : Snapshot)
    (diagnostics : List Diagnostic) :
    (∃ document, workspace.document? address = some document ∧
      workspace.perform surroundings (.finish address snapshot diagnostics) =
        ([.publish ⟨address, diagnostics, some snapshot.version⟩], none,
          workspace.update address { document with state := .clean })) ∨
    ((∀ document, workspace.document? address = some document → snapshot.generation ≠ document.generation) ∧
      workspace.perform surroundings (.finish address snapshot diagnostics) = ([.begin address], none, workspace)) := by
  cases found : workspace.document? address with
  | none => exact .inr ⟨by simp, by simp [perform, found]⟩
  | some document =>
      by_cases current : snapshot.generation = document.generation
      · exact .inl ⟨document, rfl, by simp [perform, found, Document.finish, current]⟩
      · exact .inr ⟨by simpa using current, by simp [perform, found, Document.finish, current]⟩

theorem begin_effect (surroundings : Surroundings) (workspace : Workspace) (other address : Address) :
    Effect address (workspace.document? address) ((workspace.perform surroundings (.begin other)).2.2.document? address)
      (.begin other) (workspace.perform surroundings (.begin other)).1 := by
  rcases begin_cases surroundings workspace other with ⟨document, found, result⟩ | ⟨notDirty, result⟩
  · rw [result]
    dsimp only
    rw [document_update workspace other address document _ found]
    by_cases same : address = other
    · rw [if_pos same, same]
      exact .begins document _ found rfl (List.mem_singleton.mpr rfl) rfl rfl
    · rw [if_neg same]
      exact .leaves rfl (by simp [Work.opened?]) (fun _ _ _ leads => absurd leads (Ne.symm same)) (by simp [Work.Finishes])
  · rw [result]
    refine .leaves rfl (by simp [Work.opened?]) ?_ (by simp [Work.Finishes])
    intro document found dirty leads
    exact absurd dirty (notDirty document (leads ▸ found))

theorem finish_effect (surroundings : Surroundings) (workspace : Workspace) (other address : Address) (snapshot : Snapshot)
    (diagnostics : List Diagnostic) :
    Effect address (workspace.document? address)
      ((workspace.perform surroundings (.finish other snapshot diagnostics)).2.2.document? address)
      (.finish other snapshot diagnostics) (workspace.perform surroundings (.finish other snapshot diagnostics)).1 := by
  rcases finish_cases surroundings workspace other snapshot diagnostics with ⟨document, found, result⟩ | ⟨stale, result⟩
  · rw [result]
    dsimp only
    rw [document_update workspace other address document _ found]
    by_cases same : address = other
    · rw [if_pos same, same]
      exact .finishes document ⟨other, diagnostics, some snapshot.version⟩ found rfl (List.mem_singleton.mpr rfl) rfl rfl
    · rw [if_neg same]
      exact .leaves rfl (by simp [Work.opened?]) (fun _ _ _ leads => absurd leads (Ne.symm same))
        (fun _ _ _ ends => absurd ends.1 (Ne.symm same))
  · rw [result]
    refine .leaves rfl (by simp [Work.opened?]) ?_ ?_
    · intro _ _ _ leads
      exact ⟨.begin other, by simp, leads⟩
    · intro document found _ ends
      exact absurd ends.2 (stale document (ends.1 ▸ found))

theorem perform_effect (surroundings : Surroundings) (workspace : Workspace) (work : Work) (address : Address) :
    Effect address (workspace.document? address) ((workspace.perform surroundings work).2.2.document? address) work
      (workspace.perform surroundings work).1 := by
  cases work with
  | insert other text version =>
      simp only [perform, document_insert]
      by_cases same : address = other
      · rw [if_pos same]
        exact .opens _ (by rw [same]; rfl) rfl rfl
      · rw [if_neg same]
        exact .leaves rfl (by simpa [Work.opened?] using Ne.symm same) (by simp [Work.Leads]) (by simp [Work.Finishes])
  | change other text version =>
      have after : (workspace.perform surroundings (.change other text version)).2.2.document? address =
          if address = other then some (((workspace.document? other).map (·.update text version)).getD (.opened text version))
          else workspace.document? address := by
        simp only [perform]
        cases found : workspace.document? other with
        | none => exact document_insert workspace other address _
        | some document => exact document_update workspace other address document _ found
      rw [after]
      by_cases same : address = other
      · rw [if_pos same]
        refine .opens _ (by rw [same]; rfl) ?_ rfl
        cases workspace.document? other <;> rfl
      · rw [if_neg same]
        exact .leaves rfl (by simpa [Work.opened?] using Ne.symm same) (by simp [Work.Leads]) (by simp [Work.Finishes])
  | remove other =>
      simp only [perform, document_erase]
      by_cases same : address = other
      · rw [if_pos same]
        exact .removes (by rw [same]) rfl
      · rw [if_neg same]
        exact .leaves rfl (by simp [Work.opened?]) (by simp [Work.Leads]) (by simp [Work.Finishes])
  | validate other =>
      have same := document_of_documents _ _ (build_documents workspace surroundings false) address
      refine .leaves same (by simp [Work.opened?]) ?_ (by simp [Work.Finishes])
      intro _ _ _ leads
      exact ⟨.begin other, by simp [perform], leads⟩
  | begin other => exact begin_effect surroundings workspace other address
  | compute other snapshot =>
      have same := document_of_documents _ _
        (diagnose_documents workspace surroundings.read surroundings.now other snapshot.text) address
      refine .leaves same (by simp [Work.opened?]) ?_ ?_
      · intro _ _ _ leads
        exact ⟨_, List.mem_singleton.mpr rfl, leads⟩
      · intro _ _ _ ends
        exact ⟨_, List.mem_singleton.mpr rfl, ends⟩
  | finish other snapshot diagnostics => exact finish_effect surroundings workspace other address snapshot diagnostics
  | publish publication =>
      exact .leaves rfl (by simp [Work.opened?]) (by simp [Work.Leads]) (by simp [Work.Finishes])
  | reload =>
      have same := document_of_documents _ _ (build_documents workspace surroundings true) address
      exact .leaves same (by simp [Work.opened?]) (by simp [Work.Leads]) (by simp [Work.Finishes])
  | invalidate =>
      refine .invalidates rfl (document_invalidate workspace address) ?_
      intro document found
      exact List.mem_map.mpr ⟨_, mem_of_document workspace address document found, rfl⟩

end Workspace
end YamlDialects
