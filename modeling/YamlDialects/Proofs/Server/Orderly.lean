import Mathlib.Data.List.Chain
import YamlDialects.Proofs.Server.AtRest

/-!
Schedules that settle. A publication is in order if the text of its document is not touched between the reconcile or the
closing that it is for and its sending. If all are in order, no document is opened anew while a reconcile for it is in
progress, and what is found in a text stays the same, then every publication is right when it is sent. Handlers that
run one after the other are in order.
-/

set_option autoImplicit false

namespace YamlDialects

namespace Work

def edits? : Work → Option Address
  | .insert address _ _ => some address
  | .change address _ _ => some address
  | .remove address => some address
  | _ => none

def Restarts (workspace : Workspace) (address : Address) : Work → Prop
  | .insert other _ _ => other = address
  | .change other _ _ => other = address ∧ workspace.document? address = none
  | _ => False

def snapshot? : Work → Option (Address × Snapshot)
  | .compute address snapshot => some (address, snapshot)
  | .finish address snapshot _ => some (address, snapshot)
  | _ => none

-- Of the works behind the first one of a handler only the publication of a closing is one, and none holds a snapshot.
def Precedes (work : Work) : Work → Prop
  | .publish publication => work = .remove publication.address ∧ publication.diagnostics = []
  | later => later.snapshot? = none

theorem edits_of_opened (work : Work) (address : Address) (opened : work.opened? = some address) :
    work.edits? = some address := by
  cases work <;> simp_all [opened?, edits?]

theorem precedes_of_other (work first later : Work) (precedes : work.Precedes later) (stays : ∀ address, work ≠ .remove address) :
    first.Precedes later := by
  cases later with
  | publish publication => exact absurd precedes.1 (stays _)
  | _ => exact precedes

theorem chained_tail (work : Work) (rest : Handler) (chained : (work :: rest).IsChain Precedes) :
    ∀ later ∈ rest, later.snapshot? = none := by
  induction rest generalizing work with
  | nil => simp
  | cons next rest ih =>
      obtain ⟨first, remaining⟩ := List.isChain_cons_cons.mp chained
      refine List.forall_mem_cons.mpr ⟨?_, ih next remaining⟩
      cases next with
      | publish publication => rfl
      | _ => exact first

end Work

namespace Workspace

def Holds (workspace : Workspace) (address : Address) (snapshot : Snapshot) : Prop :=
  ∀ document, workspace.document? address = some document → snapshot.generation ≤ document.generation ∧
    (snapshot.generation = document.generation → snapshot.text = document.text ∧ snapshot.version = document.version)

theorem perform_content (surroundings : Surroundings) (workspace : Workspace) (work : Work) (address : Address)
    (other : work.edits? ≠ some address) :
    (workspace.perform surroundings work).2.2.contentAt? address = workspace.contentAt? address := by
  have effect := workspace.perform_effect surroundings work address
  rw [contentAt?, contentAt?]
  generalize (workspace.perform surroundings work).2.2.document? address = reached at effect ⊢
  cases effect with
  | opens _ opened => exact absurd (work.edits_of_opened address opened) other
  | removes isRemove => exact absurd (by rw [isRemove]; rfl) other
  | begins _ _ found taken => rw [taken, found]; rfl
  | finishes _ _ found clean => rw [clean, found]; rfl
  | invalidates _ all => rw [all, Option.map_map]; rfl
  | leaves same => rw [same]

theorem perform_holds (surroundings : Surroundings) (workspace : Workspace) (work : Work) (address : Address)
    (snapshot : Snapshot) (holds : workspace.Holds address snapshot) (goesOn : ¬ work.Restarts workspace address) :
    (workspace.perform surroundings work).2.2.Holds address snapshot := by
  intro document found
  have effect := workspace.perform_effect surroundings work address
  rw [found] at effect
  cases effect with
  | opens _ opened =>
      cases work with
      | insert other text version => exact absurd (Option.some.inj opened) goesOn
      | change other text version =>
          obtain rfl : other = address := Option.some.inj opened
          cases was : workspace.document? other with
          | none => exact absurd ⟨rfl, was⟩ goesOn
          | some old =>
              obtain ⟨le, _⟩ := holds old was
              simp only [perform, was, document_update workspace other other old _ was, if_pos, Option.some.injEq] at found
              subst found
              exact ⟨Nat.le_succ_of_le le, fun same => absurd same (Nat.ne_of_lt (Nat.lt_succ_of_le le))⟩
      | _ => cases opened
  | removes _ gone => cases gone
  | begins old _ was same =>
      obtain rfl := Option.some.inj same
      exact holds old was
  | finishes old _ was same =>
      obtain rfl := Option.some.inj same
      exact holds old was
  | invalidates _ all =>
      obtain ⟨old, was, rfl⟩ := Option.map_eq_some_iff.mp all.symm
      obtain ⟨le, _⟩ := holds old was
      exact ⟨Nat.le_succ_of_le le, fun same => absurd same (Nat.ne_of_lt (Nat.lt_succ_of_le le))⟩
  | leaves same => exact holds document same.symm

theorem perform_chained (surroundings : Surroundings) (workspace : Workspace) (work : Work) :
    (workspace.perform surroundings work).1.IsChain Work.Precedes := by
  cases work with
  | change address text version =>
      simp only [perform]
      cases workspace.document? address <;> simp
  | begin address =>
      simp only [perform]
      split <;> simp
  | finish address snapshot diagnostics =>
      simp only [perform]
      split <;> simp
  | reload =>
      simp only [perform]
      split <;> simp
  | invalidate =>
      refine List.Pairwise.isChain (List.pairwise_map.mpr ?_)
      exact List.pairwise_of_forall fun _ _ => rfl
  | _ => simp [perform]

theorem perform_snapshot (surroundings : Surroundings) (workspace : Workspace) (work later : Work) (address : Address)
    (snapshot : Snapshot) (member : later ∈ (workspace.perform surroundings work).1)
    (holds : later.snapshot? = some (address, snapshot)) :
    (work = .begin address ∧ later = .compute address snapshot ∧ ∃ document, workspace.document? address = some document ∧
      snapshot = ⟨document.generation, document.version, document.text⟩) ∨
    (work = .compute address snapshot ∧
      later = .finish address snapshot (workspace.diagnose surroundings.read surroundings.now address snapshot.text).1) := by
  cases work with
  | begin other =>
      rcases begin_cases surroundings workspace other with ⟨document, found, result⟩ | ⟨_, result⟩
      · rw [result] at member
        obtain rfl := List.mem_singleton.mp member
        obtain ⟨rfl, rfl⟩ := Prod.mk.inj (Option.some.inj holds)
        exact .inl ⟨rfl, rfl, document, found, rfl⟩
      · rw [result] at member
        cases member
  | compute other own =>
      obtain rfl := List.mem_singleton.mp member
      obtain ⟨rfl, rfl⟩ := Prod.mk.inj (Option.some.inj holds)
      exact .inr ⟨rfl, rfl⟩
  | change other text version =>
      simp only [perform] at member
      cases found : workspace.document? other <;> simp [found] at member
  | finish other own diagnostics =>
      rcases finish_cases surroundings workspace other own diagnostics with ⟨_, _, result⟩ | ⟨_, result⟩
      · rw [result] at member
        obtain rfl := List.mem_singleton.mp member
        cases holds
      · rw [result] at member
        obtain rfl := List.mem_singleton.mp member
        cases holds
  | validate other =>
      obtain rfl := List.mem_singleton.mp member
      cases holds
  | reload =>
      simp only [perform] at member
      split at member
      · obtain rfl := List.mem_singleton.mp member
        cases holds
      · cases member
  | invalidate =>
      obtain ⟨each, _, rfl⟩ := List.mem_map.mp member
      cases holds
  | insert | remove | publish => cases member

theorem perform_publishes (surroundings : Surroundings) (workspace : Workspace) (work : Work) (publication : Publication)
    (first : (workspace.perform surroundings work).1.head? = some (.publish publication)) :
    ∃ snapshot diagnostics document, work = .finish publication.address snapshot diagnostics ∧
      workspace.document? publication.address = some document ∧ snapshot.generation = document.generation ∧
        publication = ⟨publication.address, diagnostics, some snapshot.version⟩ := by
  cases work with
  | begin other =>
      rcases begin_cases surroundings workspace other with ⟨document, found, result⟩ | ⟨_, result⟩ <;>
        simp [result] at first
  | change other text version =>
      simp only [perform] at first
      cases found : workspace.document? other <;> simp [found] at first
  | finish other own diagnostics =>
      simp only [perform] at first
      cases found : workspace.document? other with
      | none => simp [found] at first
      | some document =>
          by_cases current : own.generation = document.generation
          · simp only [found, Option.map_some, Document.finish, current, if_pos, List.head?_cons, Option.some.injEq,
              Work.publish.injEq] at first
            subst first
            exact ⟨own, diagnostics, document, rfl, found, current, rfl⟩
          · simp [found, Document.finish, current] at first
  | reload =>
      simp only [perform] at first
      split at first <;> simp at first
  | invalidate =>
      simp only [perform, List.head?_map, Option.map_eq_some_iff] at first
      obtain ⟨_, _, same⟩ := first
      cases same
  | _ => simp [perform] at first

end Workspace

namespace Service

def Due (service : Service) (publication : Publication) : Prop :=
  ∃ handler ∈ service.handlers, handler.head? = some (.publish publication)

variable (judge : Address → String → List Diagnostic)

structure InOrder (service : Service) (surroundings : Surroundings) (work : Work) : Prop where
  sent : ∀ address, work.edits? = some address → ∀ publication, service.Due publication → publication.address ≠ address
  fresh : ∀ address, work.Restarts service.workspace address → ∀ other snapshot, service.Pending other →
    other.snapshot? ≠ some (address, snapshot)
  alike : ∀ address snapshot, work = .compute address snapshot →
    (service.workspace.diagnose surroundings.read surroundings.now address snapshot.text).1 = judge address snapshot.text

-- Steps that do no work of a handler are always in order.
inductive Orderly (files : Files) (settings : Settings) : Service → Prop where
  | start : Orderly files settings (start files settings)
  | proceed (service : Service) (orderly : Orderly files settings service) (surroundings : Surroundings)
      (before after : List Handler) (work : Work) (rest : Handler) (taken : service.handlers = before ++ (work :: rest) :: after)
      (inOrder : service.InOrder judge surroundings work) :
      Orderly files settings (service.proceed surroundings before after work rest)
  | receive (service : Service) (orderly : Orderly files settings service) (notice : ClientNotice) :
      Orderly files settings (service.receive notice)
  | ask (service : Service) (orderly : Orderly files settings service) (surroundings : Surroundings) (address : Address)
      (position : Position) (answer : Assistant → Option PropertyIndex → String → Nat → Json) :
      Orderly files settings
        { service with workspace := (Session.ask surroundings service.workspace address position answer).2 }
  | evict (service : Service) (orderly : Orderly files settings service) (now : Nat) :
      Orderly files settings { service with workspace := service.workspace.evict now }

def Fits (publication : Publication) : Option (String × Int) → Prop
  | some (text, version) => publication.diagnostics = judge publication.address text ∧ publication.version = some version
  | none => publication.diagnostics = []

structure Timely (service : Service) : Prop where
  chained : ∀ handler ∈ service.handlers, handler.IsChain Work.Precedes
  held : ∀ work address snapshot, service.Pending work → work.snapshot? = some (address, snapshot) →
    service.workspace.Holds address snapshot
  judged : ∀ address snapshot diagnostics, service.Pending (.finish address snapshot diagnostics) →
    diagnostics = judge address snapshot.text
  due : ∀ publication, service.Due publication → Fits judge publication (service.workspace.contentAt? publication.address)
  sent : ∀ publication workspace, (publication, workspace) ∈ service.sent →
    Fits judge publication (workspace.contentAt? publication.address)

theorem timely_mono (service next : Service) (documents : next.workspace.documents = service.workspace.documents)
    (sent : next.sent = service.sent) (added : ∀ handler ∈ next.handlers, handler ∈ service.handlers ∨
      (handler.IsChain Work.Precedes ∧ (∀ work ∈ handler, work.snapshot? = none) ∧
        ∀ publication, handler.head? ≠ some (.publish publication))) (timely : Timely judge service) : Timely judge next := by
  have found := Workspace.document_of_documents _ _ documents
  have content (address : Address) : next.workspace.contentAt? address = service.workspace.contentAt? address := by
    rw [Workspace.contentAt?, found, Workspace.contentAt?]
  have pending (work : Work) (waits : next.Pending work) : service.Pending work ∨ work.snapshot? = none := by
    obtain ⟨handler, member, inside⟩ := waits
    exact (added handler member).imp (fun old => ⟨handler, old, inside⟩) fun fresh => fresh.2.1 work inside
  refine ⟨?_, ?_, ?_, ?_, ?_⟩
  · intro handler member
    exact (added handler member).elim (timely.chained handler) And.left
  · intro work address snapshot waits holds document present
    rw [found] at present
    rcases pending work waits with old | none
    · exact timely.held work address snapshot old holds document present
    · rw [none] at holds
      cases holds
  · intro address snapshot diagnostics waits
    rcases pending _ waits with old | none
    · exact timely.judged address snapshot diagnostics old
    · cases none
  · rintro publication ⟨handler, member, first⟩
    rw [content]
    rcases added handler member with old | ⟨_, _, unsent⟩
    · exact timely.due publication ⟨handler, old, first⟩
    · exact absurd first (unsent publication)
  · rw [sent]
    exact timely.sent

section Proceed

variable (service : Service) (surroundings : Surroundings) (before after : List Handler) (work : Work) (rest : Handler)
variable (taken : service.handlers = before ++ (work :: rest) :: after)

include taken

theorem taken_pending : service.Pending work :=
  ⟨work :: rest, by simp [taken], List.mem_cons_self⟩

theorem pending_before (other : Work) (pending : (service.proceed surroundings before after work rest).Pending other) :
    other ∈ (service.workspace.perform surroundings work).1 ∨ service.Pending other := by
  obtain ⟨handler, member, inside⟩ := pending
  have placed : handler ∈ before ∨ handler = (service.workspace.perform surroundings work).1 ++ rest ∨ handler ∈ after := by
    simpa [proceed] using member
  rcases placed with earlier | rfl | later
  · exact .inr ⟨handler, by simp [taken, earlier], inside⟩
  · exact (List.mem_append.mp inside).imp_right fun further => ⟨work :: rest, by simp [taken], List.mem_cons_of_mem _ further⟩
  · exact .inr ⟨handler, by simp [taken, later], inside⟩

theorem due_before (publication : Publication) (due : (service.proceed surroundings before after work rest).Due publication) :
    ((service.workspace.perform surroundings work).1 ++ rest).head? = some (.publish publication) ∨ service.Due publication := by
  obtain ⟨handler, member, first⟩ := due
  have placed : handler ∈ before ∨ handler = (service.workspace.perform surroundings work).1 ++ rest ∨ handler ∈ after := by
    simpa [proceed] using member
  rcases placed with earlier | rfl | later
  · exact .inr ⟨handler, by simp [taken, earlier], first⟩
  · exact .inl first
  · exact .inr ⟨handler, by simp [taken, later], first⟩

variable (inOrder : service.InOrder judge surroundings work) (timely : Timely judge service)

include timely

theorem proceed_chained : ((service.workspace.perform surroundings work).1 ++ rest).IsChain Work.Precedes := by
  obtain ⟨first, remaining⟩ := List.isChain_cons.mp (timely.chained (work :: rest) (by simp [taken]))
  refine List.isChain_append.mpr ⟨service.workspace.perform_chained surroundings work, remaining, fun last ends later begins => ?_⟩
  refine work.precedes_of_other last later (first later begins) ?_
  rintro address rfl
  cases ends

include inOrder

theorem proceed_held (other : Work) (address : Address) (snapshot : Snapshot)
    (pending : (service.proceed surroundings before after work rest).Pending other)
    (holds : other.snapshot? = some (address, snapshot)) :
    (service.workspace.perform surroundings work).2.2.Holds address snapshot := by
  have goesOn (waiting : Work) (waits : service.Pending waiting) (own : waiting.snapshot? = some (address, snapshot)) :
      (service.workspace.perform surroundings work).2.2.Holds address snapshot :=
    service.workspace.perform_holds surroundings work address snapshot (timely.held waiting address snapshot waits own)
      fun restarts => inOrder.fresh address restarts waiting snapshot waits own
  rcases pending_before service surroundings before after work rest taken other pending with next | old
  · rcases service.workspace.perform_snapshot surroundings work other address snapshot next holds with
      ⟨rfl, _, document, found, rfl⟩ | ⟨rfl, _⟩
    · refine service.workspace.perform_holds surroundings _ address _ (fun now present => ?_) id
      obtain rfl := Option.some.inj (found.symm.trans present)
      exact ⟨Nat.le_refl _, fun _ => ⟨rfl, rfl⟩⟩
    · exact goesOn _ (taken_pending service before after _ rest taken) rfl
  · exact goesOn other old holds

theorem proceed_judged (address : Address) (snapshot : Snapshot) (diagnostics : List Diagnostic)
    (pending : (service.proceed surroundings before after work rest).Pending (.finish address snapshot diagnostics)) :
    diagnostics = judge address snapshot.text := by
  rcases pending_before service surroundings before after work rest taken _ pending with next | old
  · rcases service.workspace.perform_snapshot surroundings work _ address snapshot next rfl with ⟨_, same, _⟩ | ⟨rfl, same⟩
    · cases same
    · obtain ⟨_, _, rfl⟩ := Work.finish.inj same
      exact inOrder.alike address snapshot rfl
  · exact timely.judged address snapshot diagnostics old

theorem proceed_due (publication : Publication)
    (due : (service.proceed surroundings before after work rest).Due publication) :
    Fits judge publication ((service.workspace.perform surroundings work).2.2.contentAt? publication.address) := by
  rcases due_before service surroundings before after work rest taken publication due with first | old
  · cases next : (service.workspace.perform surroundings work).1 with
    | nil =>
        -- Behind a work that is done for good only a closing is followed by a publication.
        rw [next, List.nil_append] at first
        obtain ⟨rfl, empty⟩ := (List.isChain_cons.mp (timely.chained (work :: rest) (by simp [taken]))).1 _ first
        rw [Workspace.contentAt?, show (service.workspace.perform surroundings (.remove publication.address)).2.2 =
          service.workspace.erase publication.address from rfl, Workspace.document_erase, if_pos rfl]
        exact empty
    | cons own others =>
        rw [next, List.cons_append, List.head?_cons] at first
        obtain ⟨snapshot, diagnostics, document, rfl, found, current, made⟩ :=
          service.workspace.perform_publishes surroundings work publication (by rw [next, List.head?_cons, first])
        have waits := taken_pending service before after _ rest taken
        obtain ⟨text, version⟩ := (timely.held _ _ _ waits rfl document found).2 current
        rw [service.workspace.perform_content surroundings _ publication.address (by simp [Work.edits?]), Workspace.contentAt?,
          found, Option.map_some]
        refine ⟨?_, ?_⟩
        · rw [made, ← text]
          exact timely.judged _ _ _ waits
        · rw [made, ← version]
  · rw [service.workspace.perform_content surroundings work publication.address
      fun edits => inOrder.sent _ edits publication old rfl]
    exact timely.due publication old

theorem proceed_timely : Timely judge (service.proceed surroundings before after work rest) where
  chained := by
    intro handler member
    have placed : handler ∈ before ∨ handler = (service.workspace.perform surroundings work).1 ++ rest ∨ handler ∈ after := by
      simpa [proceed] using member
    rcases placed with earlier | rfl | later
    · exact timely.chained handler (by simp [taken, earlier])
    · exact proceed_chained judge service surroundings before after work rest taken timely
    · exact timely.chained handler (by simp [taken, later])
  held := proceed_held judge service surroundings before after work rest taken inOrder timely
  judged := proceed_judged judge service surroundings before after work rest taken inOrder timely
  due := proceed_due judge service surroundings before after work rest taken inOrder timely
  sent := by
    intro publication workspace member
    rcases List.mem_append.mp member with fresh | old
    · obtain ⟨published, listed, same⟩ := List.mem_map.mp fresh
      obtain ⟨rfl, rfl⟩ := Prod.mk.inj same
      obtain rfl := (service.workspace.perform_published surroundings work published).mp (Option.mem_toList.mp listed)
      exact timely.due published ⟨_ :: rest, by simp [taken], rfl⟩
    · exact timely.sent publication workspace old

end Proceed

theorem handler_fresh (workspace : Workspace) (notice : ClientNotice) :
    (Session.handler workspace notice).IsChain Work.Precedes ∧
      (∀ work ∈ Session.handler workspace notice, work.snapshot? = none) ∧
        ∀ publication, (Session.handler workspace notice).head? ≠ some (.publish publication) := by
  cases notice with
  | initialized => simp [Session.handler]
  | opened address text version => simp [Session.handler, Handler.opened, Work.Precedes, Work.snapshot?]
  | changed address texts version =>
      simp only [Session.handler]
      cases texts.getLast? with
      | none => simp
      | some text => simp [Handler.changed, Work.Precedes, Work.snapshot?]
  | saved address =>
      simp only [Session.handler]
      split <;> simp [Handler.saved, Work.snapshot?]
  | closed address => simp [Session.handler, Handler.closed, Work.Precedes, Work.snapshot?]

theorem orderly_timely (files : Files) (settings : Settings) (service : Service) (orderly : Orderly judge files settings service) :
    Timely judge service := by
  induction orderly with
  | start => exact ⟨by simp [start], by simp [start, Pending], by simp [start, Pending], by simp [start, Due], by simp [start]⟩
  | proceed service _ surroundings before after work rest taken inOrder ih =>
      exact proceed_timely judge service surroundings before after work rest taken inOrder ih
  | receive service _ notice ih =>
      refine timely_mono judge service _ rfl rfl (fun handler member => ?_) ih
      refine (List.mem_append.mp member).imp_right fun fresh => ?_
      rw [List.mem_singleton.mp fresh]
      exact handler_fresh service.workspace notice
  | ask service _ surroundings address position answer ih =>
      exact timely_mono judge service _ (Workspace.ask_documents surroundings service.workspace address position answer) rfl
        (fun handler member => .inl member) ih
  | evict service _ now ih => exact timely_mono judge service _ rfl rfl (fun handler member => .inl member) ih

theorem orderly_reachable (files : Files) (settings : Settings) (service : Service) (orderly : Orderly judge files settings service) :
    Reachable files settings service := by
  induction orderly with
  | start => exact .start
  | proceed service _ surroundings before after work rest taken _ ih => exact .step _ _ ih (.proceed _ surroundings before after work rest taken)
  | receive service _ notice ih => exact .step _ _ ih (.receive _ notice)
  | ask service _ surroundings address position answer ih => exact .step _ _ ih (.ask _ surroundings address position answer)
  | evict service _ now ih => exact .step _ _ ih (.evict _ now)

theorem orderly_settled (files : Files) (settings : Settings) (service : Service) (orderly : Orderly judge files settings service)
    (rest : service.AtRest) (read : Yaml.TextReader) (now : Nat)
    (alike : ∀ address text, (service.workspace.diagnose read now address text).1 = judge address text) :
    service.Settled read now := by
  have consistent := reachable_consistent files settings service (orderly_reachable judge files settings service orderly)
  have timely := orderly_timely judge files settings service orderly
  rw [settled_iff_suits service read now consistent]
  intro address opened
  obtain ⟨publication, workspace, last, same⟩ := at_rest_sent service consistent rest address opened
  obtain rfl : publication.address = address := by simpa using List.find?_some last
  refine ⟨publication, workspace, last, ?_⟩
  have fits := timely.sent publication workspace (List.mem_of_find?_eq_some last)
  rw [← same]
  cases content : workspace.contentAt? publication.address with
  | none =>
      rw [content] at fits
      exact fits
  | some content =>
      rw [content] at fits
      exact ⟨fits.1.trans (alike _ _).symm, fits.2⟩

theorem in_order_of_alone (service : Service) (surroundings : Surroundings) (before after : List Handler) (work : Work)
    (rest : Handler) (taken : service.handlers = before ++ (work :: rest) :: after)
    (alone : ∀ handler ∈ before ++ after, handler = []) (timely : Timely judge service)
    (alike : ∀ address snapshot, work = .compute address snapshot →
      (service.workspace.diagnose surroundings.read surroundings.now address snapshot.text).1 = judge address snapshot.text) :
    service.InOrder judge surroundings work := by
  have eq_or_own (handler : Handler) (member : handler ∈ service.handlers) : handler = [] ∨ handler = work :: rest := by
    rw [taken] at member
    simp only [List.mem_append, List.mem_cons] at member
    rcases member with earlier | same | later
    · exact .inl (alone handler (by simp [earlier]))
    · exact .inr same
    · exact .inl (alone handler (by simp [later]))
  refine ⟨?_, ?_, alike⟩
  · rintro address edits publication ⟨handler, member, first⟩ -
    rcases eq_or_own handler member with rfl | rfl
    · cases first
    · obtain rfl := Option.some.inj first
      cases edits
  · rintro address restarts other snapshot ⟨handler, member, inside⟩ holds
    rcases eq_or_own handler member with rfl | rfl
    · cases inside
    · rcases List.mem_cons.mp inside with rfl | further
      · cases other <;> simp_all [Work.Restarts, Work.snapshot?]
      · rw [Work.chained_tail work rest (timely.chained _ member) other further] at holds
        cases holds

end Service
end YamlDialects
