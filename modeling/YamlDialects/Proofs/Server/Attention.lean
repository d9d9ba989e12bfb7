import YamlDialects.Proofs.Server.Interleaving

set_option autoImplicit false

namespace YamlDialects

def Workspace.contentAt? (workspace : Workspace) (address : Address) : Option (String × Int) :=
  (workspace.document? address).map fun document => (document.text, document.version)

namespace Service

structure Attends (service : Service) (address : Address) (document : Document) : Prop where
  dirty : document.state = .dirty → ∃ work, service.Pending work ∧ work.Leads address
  reconciling : document.state = .reconciling →
    ∃ work, service.Pending work ∧ work.Finishes address document.generation

-- Nothing was edited since the last publication, or another one will come.
inductive Answered (service : Service) (address : Address) : Prop where
  | sent (publication : Publication) (workspace : Workspace)
      (last : service.lastSent? address = some (publication, workspace))
      (same : workspace.contentAt? address = service.workspace.contentAt? address)
  | pending (publication : Publication) (pending : service.Pending (.publish publication))
      (named : publication.address = address)
  | unclean (document : Document) (found : service.workspace.document? address = some document)
      (unclean : document.state ≠ .clean)

structure Consistent (service : Service) : Prop where
  complete : ∀ handler ∈ service.handlers, handler.Complete
  known : ∀ address document, service.workspace.document? address = some document → address ∈ service.opened
  attends : ∀ address document, service.workspace.document? address = some document → service.Attends address document
  answered : ∀ address ∈ service.opened, service.Answered address

theorem consistent_mono (service next : Service) (documents : next.workspace.documents = service.workspace.documents)
    (sent : next.sent = service.sent) (opened : next.opened = service.opened)
    (complete : ∀ handler ∈ next.handlers, handler.Complete)
    (kept : ∀ handler ∈ service.handlers, handler ∈ next.handlers) (consistent : Consistent service) : Consistent next := by
  have found := Workspace.document_of_documents _ _ documents
  have pending : ∀ work, service.Pending work → next.Pending work := by
    rintro work ⟨handler, member, inside⟩
    exact ⟨handler, kept handler member, inside⟩
  refine ⟨complete, ?_, ?_, ?_⟩
  · intro address document present
    rw [found] at present
    rw [opened]
    exact consistent.known address document present
  · intro address document present
    rw [found] at present
    obtain ⟨dirty, reconciling⟩ := consistent.attends address document present
    refine ⟨?_, ?_⟩
    · intro isDirty
      obtain ⟨work, waits, leads⟩ := dirty isDirty
      exact ⟨work, pending work waits, leads⟩
    · intro isReconciling
      obtain ⟨work, waits, ends⟩ := reconciling isReconciling
      exact ⟨work, pending work waits, ends⟩
  · intro address member
    rw [opened] at member
    cases consistent.answered address member with
    | sent publication workspace last same =>
        refine .sent publication workspace (by rw [lastSent?, sent]; exact last) ?_
        rw [same, Workspace.contentAt?, Workspace.contentAt?, found]
    | pending publication waits named => exact .pending publication (pending _ waits) named
    | unclean document present unclean => exact .unclean document (by rw [found]; exact present) unclean

section Proceed

variable (service : Service) (surroundings : Surroundings) (before after : List Handler) (work : Work) (rest : Handler)

theorem proceed_document (address : Address) :
    (service.proceed surroundings before after work rest).workspace.document? address =
      (service.workspace.perform surroundings work).2.2.document? address := rfl

theorem proceed_own (later : Work) (member : later ∈ (service.workspace.perform surroundings work).1 ++ rest) :
    (service.proceed surroundings before after work rest).Pending later :=
  ⟨(service.workspace.perform surroundings work).1 ++ rest, by simp [proceed], member⟩

theorem proceed_pending (taken : service.handlers = before ++ (work :: rest) :: after) (other : Work)
    (pending : service.Pending other) : other = work ∨ (service.proceed surroundings before after work rest).Pending other := by
  obtain ⟨handler, member, inside⟩ := pending
  rw [taken] at member
  simp only [List.mem_append, List.mem_cons] at member
  rcases member with earlier | rfl | later
  · exact .inr ⟨handler, by simp [proceed, earlier], inside⟩
  · rcases List.mem_cons.mp inside with same | further
    · exact .inl same
    · exact .inr (proceed_own service surroundings before after work rest other (List.mem_append_right _ further))
  · exact .inr ⟨handler, by simp [proceed, later], inside⟩

theorem proceed_sent (publication : Publication) (isPublish : work = .publish publication) :
    (service.proceed surroundings before after work rest).lastSent? publication.address =
      some (publication, service.workspace) := by
  subst isPublish
  simp [proceed, lastSent?, Workspace.perform]

theorem proceed_unsent (address : Address)
    (other : ∀ publication, work = .publish publication → publication.address ≠ address) :
    (service.proceed surroundings before after work rest).lastSent? address = service.lastSent? address := by
  cases published : (service.workspace.perform surroundings work).2.1 with
  | none => simp [proceed, lastSent?, published]
  | some publication =>
      have isPublish := (Workspace.perform_published surroundings service.workspace work publication).mp published
      have different := other publication isPublish
      simp [proceed, lastSent?, published, different]

theorem owes_opened (address : Address) (owes : work.Owes rest) (opened : work.opened? = some address) :
    .validate address ∈ rest := by
  cases work with
  | insert other text version => exact Option.some.inj opened ▸ owes
  | change other text version => exact Option.some.inj opened ▸ owes
  | _ => simp [Work.opened?] at opened

theorem proceed_attends (taken : service.handlers = before ++ (work :: rest) :: after) (owes : work.Owes rest)
    (consistent : Consistent service) (address : Address) (document : Document)
    (found : (service.workspace.perform surroundings work).2.2.document? address = some document) :
    (service.proceed surroundings before after work rest).Attends address document := by
  have own := proceed_own service surroundings before after work rest
  have effect := service.workspace.perform_effect surroundings work address
  rw [found] at effect
  cases effect with
  | opens opened isOpened dirty same =>
      obtain rfl := Option.some.inj same
      refine ⟨fun _ => ⟨.validate address, own _ (List.mem_append_right _ ?_), rfl⟩, by simp [dirty]⟩
      exact owes_opened work rest address owes isOpened
  | removes _ gone => simp at gone
  | begins old snapshot _ same computes current =>
      obtain rfl := Option.some.inj same
      exact ⟨by simp, fun _ => ⟨.compute address snapshot, own _ (List.mem_append_left _ computes), rfl, current⟩⟩
  | finishes old publication _ same =>
      obtain rfl := Option.some.inj same
      exact ⟨by simp, by simp⟩
  | invalidates _ all validates =>
      obtain ⟨old, present, rfl⟩ := Option.map_eq_some_iff.mp all.symm
      exact ⟨fun _ => ⟨.validate address, own _ (List.mem_append_left _ (validates old present)), rfl⟩,
        by simp [Document.invalidate]⟩
  | leaves same _ leads ends =>
      -- The work that the document relied on may be the one that is done; then another one takes its place.
      obtain ⟨dirty, reconciling⟩ := consistent.attends address document same.symm
      refine ⟨?_, ?_⟩
      · intro isDirty
        obtain ⟨other, pending, leadsOther⟩ := dirty isDirty
        rcases proceed_pending service surroundings before after work rest taken other pending with rfl | kept
        · obtain ⟨later, member, leadsLater⟩ := leads document same.symm isDirty leadsOther
          exact ⟨later, own later (List.mem_append_left _ member), leadsLater⟩
        · exact ⟨other, kept, leadsOther⟩
      · intro isReconciling
        obtain ⟨other, pending, endsOther⟩ := reconciling isReconciling
        rcases proceed_pending service surroundings before after work rest taken other pending with rfl | kept
        · obtain ⟨later, member, endsLater⟩ := ends document same.symm isReconciling endsOther
          exact ⟨later, own later (List.mem_append_left _ member), endsLater⟩
        · exact ⟨other, kept, endsOther⟩

theorem proceed_known (consistent : Consistent service) (address : Address) (document : Document)
    (found : (service.workspace.perform surroundings work).2.2.document? address = some document) :
    address ∈ (service.proceed surroundings before after work rest).opened := by
  have old : ∀ present, service.workspace.document? address = some present →
      address ∈ (service.proceed surroundings before after work rest).opened :=
    fun present was => List.mem_append_right _ (consistent.known address present was)
  have effect := service.workspace.perform_effect surroundings work address
  rw [found] at effect
  cases effect with
  | opens _ isOpened => exact List.mem_append_left _ (by simp [isOpened])
  | removes _ gone => simp at gone
  | begins present _ was => exact old present was
  | finishes present _ was => exact old present was
  | invalidates _ all =>
      obtain ⟨present, was, _⟩ := Option.map_eq_some_iff.mp all.symm
      exact old present was
  | leaves same => exact old document same.symm

theorem proceed_answered (taken : service.handlers = before ++ (work :: rest) :: after) (owes : work.Owes rest)
    (consistent : Consistent service) (address : Address)
    (member : address ∈ (service.proceed surroundings before after work rest).opened) :
    (service.proceed surroundings before after work rest).Answered address := by
  have own := proceed_own service surroundings before after work rest
  have effect := service.workspace.perform_effect surroundings work address
  have earlier : work.opened? ≠ some address → address ∈ service.opened := by
    intro other
    rcases List.mem_append.mp member with fresh | old
    · exact absurd (Option.mem_toList.mp fresh) other
    · exact old
  generalize reached : (service.workspace.perform surroundings work).2.2.document? address = document at effect
  cases effect with
  | opens opened _ dirty same => exact .unclean opened (reached.trans same) (by simp [dirty])
  | removes isRemove =>
      subst isRemove
      obtain ⟨publication, later, named⟩ := owes
      exact .pending publication (own _ (List.mem_append_right _ later)) named
  | begins old _ _ same => exact .unclean { old with state := .reconciling } (reached.trans same) (by simp)
  | finishes _ publication _ _ publishes named => exact .pending publication (own _ (List.mem_append_left _ publishes)) named
  | invalidates isInvalidate all =>
      subst isInvalidate
      have unsent := proceed_unsent service surroundings before after .invalidate rest address (by simp)
      cases consistent.answered address (earlier (by simp [Work.opened?])) with
      | sent publication workspace last same =>
          refine .sent publication workspace (unsent.trans last) ?_
          have content : (service.proceed surroundings before after .invalidate rest).workspace.contentAt? address =
              service.workspace.contentAt? address := by
            rw [Workspace.contentAt?, proceed_document, reached, all, Option.map_map]
            rfl
          rw [content, same]
      | pending publication waits named =>
          rcases proceed_pending service surroundings before after _ rest taken _ waits with same | kept
          · simp at same
          · exact .pending publication kept named
      | unclean old found _ => exact .unclean old.invalidate (reached.trans (by rw [all, found]; rfl)) (by simp [Document.invalidate])
  | leaves same other =>
      have content : (service.proceed surroundings before after work rest).workspace.contentAt? address =
          service.workspace.contentAt? address := by
        rw [Workspace.contentAt?, proceed_document, reached, same]
        rfl
      -- A publication for the address is the last one from now on; any other work leaves the last one in place.
      by_cases publishes : ∃ publication, work = .publish publication ∧ publication.address = address
      · obtain ⟨publication, isPublish, rfl⟩ := publishes
        exact .sent publication service.workspace
          (proceed_sent service surroundings before after work rest publication isPublish) content.symm
      · have unsent := proceed_unsent service surroundings before after work rest address fun publication isPublish named =>
          publishes ⟨publication, isPublish, named⟩
        cases consistent.answered address (earlier other) with
        | sent publication workspace last equal =>
            exact .sent publication workspace (unsent.trans last) (equal.trans content.symm)
        | pending publication waits named =>
            rcases proceed_pending service surroundings before after work rest taken _ waits with isPublish | kept
            · exact absurd ⟨publication, isPublish.symm, named⟩ publishes
            · exact .pending publication kept named
        | unclean old found unclean => exact .unclean old (reached.trans (same.trans found)) unclean

theorem proceed_consistent (taken : service.handlers = before ++ (work :: rest) :: after)
    (consistent : Consistent service) : Consistent (service.proceed surroundings before after work rest) := by
  obtain ⟨owes, remaining⟩ : Handler.Complete (work :: rest) := consistent.complete (work :: rest) (by simp [taken])
  refine ⟨?_, ?_, ?_, ?_⟩
  · intro handler member
    have placed : handler ∈ before ∨ handler = (service.workspace.perform surroundings work).1 ++ rest ∨ handler ∈ after := by
      simpa [proceed] using member
    rcases placed with earlier | rfl | later
    · exact consistent.complete handler (by simp [taken, earlier])
    · exact Handler.complete_append _ rest (service.workspace.perform_free surroundings work) remaining
    · exact consistent.complete handler (by simp [taken, later])
  · exact proceed_known service surroundings before after work rest consistent
  · exact proceed_attends service surroundings before after work rest taken owes consistent
  · exact proceed_answered service surroundings before after work rest taken owes consistent

end Proceed

theorem step_consistent (service next : Service) (step : Step service next) (consistent : Consistent service) :
    Consistent next := by
  cases step with
  | receive notice =>
      refine consistent_mono service _ rfl rfl rfl ?_ (fun handler member => List.mem_append_left _ member) consistent
      intro handler member
      rcases List.mem_append.mp member with old | fresh
      · exact consistent.complete handler old
      · rw [List.mem_singleton.mp fresh]
        exact Handler.complete_of_notice service.workspace notice
  | proceed surroundings before after work rest taken =>
      exact proceed_consistent service surroundings before after work rest taken consistent
  | ask surroundings address position answer =>
      exact consistent_mono service _ (Workspace.ask_documents surroundings service.workspace address position answer) rfl rfl
        consistent.complete (fun _ member => member) consistent
  | evict now => exact consistent_mono service _ rfl rfl rfl consistent.complete (fun _ member => member) consistent

theorem reachable_consistent (files : Files) (settings : Settings) (service : Service)
    (reached : Reachable files settings service) : Consistent service := by
  induction reached with
  | start =>
      refine ⟨?_, ?_, ?_, ?_⟩
      · intro handler member
        simp [start] at member
      · intro address document found
        simp [start, Workspace.ofSettings, Workspace.document?] at found
      · intro address document found
        simp [start, Workspace.ofSettings, Workspace.document?] at found
      · intro address member
        simp [start] at member
  | step service next _ step ih => exact step_consistent service next step ih

end Service
end YamlDialects
