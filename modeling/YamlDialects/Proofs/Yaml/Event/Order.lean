import YamlDialects.Proofs.Yaml.Event.Collection
import YamlDialects.Proofs.Yaml.Reading

set_option autoImplicit false

namespace YamlDialects.Yaml

namespace Source

def offsetAt (source : Source) (index : Nat) : Nat :=
  Text.floorBoundary source.shown (byteOf source.read index)

theorem offset_at_mono (source : Source) (first second : Nat) (le : first ≤ second) :
    source.offsetAt first ≤ source.offsetAt second := by
  refine Text.floor_boundary_mono source.shown _ _ ?_
  have split : source.read.take first ++ (source.read.take second).drop first = source.read.take second := by
    rw [← Nat.min_eq_left le, ← List.take_take, Nat.min_eq_left le]
    exact List.take_append_drop first _
  unfold byteOf
  rw [← split, Text.byte_length_append]
  exact Nat.le_add_right _ _

theorem inside_le (source : Source) (same : Text.byteLength source.read = Text.byteLength source.shown) (mark : Mark) :
    source.inside (source.offset mark) ≤ source.offsetAt (mark.index + 1) := by
  have floor_le := Text.floor_boundary_le source.shown (byteOf source.read mark.index)
  by_cases inText : mark.index < source.read.length
  · refine Text.floor_boundary_mono source.shown _ _ ?_
    have width := (source.read.get ⟨mark.index, inText⟩).utf8Size_pos
    have bytes : byteOf source.read (mark.index + 1) =
        byteOf source.read mark.index + (source.read.get ⟨mark.index, inText⟩).utf8Size := by
      unfold byteOf
      rw [List.take_succ_eq_append_getElem inText, Text.byte_length_append]
      rfl
    unfold offset
    omega
  · have whole : byteOf source.read (mark.index + 1) = Text.byteLength source.shown := by
      rw [byteOf, List.take_of_length_le (by omega), same]
    rw [offsetAt, whole]
    exact Text.floor_boundary_le_whole source.shown _

theorem absent_spec (source : Source) (located : LocatedEvent) (events : List LocatedEvent)
    (absent : source.isAbsent located = true) : source.isPresent located = false ∧ source.reach located events = 0 := by
  obtain ⟨event, span⟩ := located
  cases event with
  | scalar text style properties => exact ⟨by simp [isPresent, absent], if_pos absent⟩
  | _ => cases absent

end Source

namespace Reader

open Lexer

section

variable (source : Source) (limit : Nat)

theorem taken_spec (token : Token) (lexer : Lexer) (at_ : At source.read lexer token) (limit_le : limit ≤ token.place source.read) :
    Steady source.read lexer.take ∧ limit ≤ lexer.take.passed source.read := by
  obtain ⟨after, -, passed⟩ := at_.take
  exact ⟨after, passed ▸ Nat.le_trans limit_le (Token.place_le_finish source.read token at_.fits)⟩

theorem skip_document_ends_spec (fuel : Nat) (reader next : Reader) (token : Token)
    (waits : Waits source limit (Token.place source.read) reader)
    (skips : skipDocumentEnds fuel reader = .ok (token, next)) :
    At source.read next.lexer token ∧ limit ≤ token.place source.read ∧ next.stack = reader.stack := by
  induction fuel generalizing reader with
  | zero =>
      obtain ⟨lexer, rfl, at_, limit_le⟩ := look_place source limit reader next token waits skips
      exact ⟨at_, limit_le, rfl⟩
  | succ fuel ih =>
      rw [skipDocumentEnds] at skips
      split at skips
      next => cases skips
      next front peeked peeks =>
        obtain ⟨lexer, rfl, at_, limit_le⟩ := look_place source limit reader peeked front waits peeks
        split at skips
        next =>
          obtain ⟨steady, passed⟩ := taken_spec source limit front lexer at_ limit_le
          exact ih { reader with lexer := lexer.take } ⟨steady, waits.stacked, .inl passed⟩ skips
        next =>
          obtain ⟨rfl, rfl⟩ := Prod.mk.inj (Except.ok.inj skips)
          exact ⟨at_, limit_le, rfl⟩

theorem directives_spec (fuel : Nat) (versionSeen : Bool) (reader next : Reader) (token : Token)
    (waits : Waits source limit (Token.place source.read) reader)
    (takes : directives fuel versionSeen reader = .ok (token, next)) :
    At source.read next.lexer token ∧ limit ≤ token.place source.read ∧ next.stack = reader.stack := by
  induction fuel generalizing versionSeen reader with
  | zero =>
      obtain ⟨lexer, rfl, at_, limit_le⟩ := look_place source limit reader next token waits takes
      exact ⟨at_, limit_le, rfl⟩
  | succ fuel ih =>
      rw [directives] at takes
      split at takes
      next => cases takes
      next front peeked peeks =>
        obtain ⟨lexer, rfl, at_, limit_le⟩ := look_place source limit reader peeked front waits peeks
        obtain ⟨steady, passed⟩ := taken_spec source limit front lexer at_ limit_le
        split at takes
        next =>
          split at takes
          next => cases takes
          next =>
            exact ih true { reader with lexer := lexer.take, tags := [] } ⟨steady, waits.stacked, .inl passed⟩ takes
        next handle start _ =>
          exact ih versionSeen { reader with lexer := lexer.take, tags := [(handle, start)] }
            ⟨steady, waits.stacked, .inl passed⟩ takes
        next =>
          obtain ⟨rfl, rfl⟩ := Prod.mk.inj (Except.ok.inj takes)
          exact ⟨at_, limit_le, rfl⟩

theorem border_advances (event : Event) (span : Span) (reader : Reader) (placed : Placed source.read limit reader)
    (border : event = .documentStart ∨ event = .documentEnd) : Advances source limit ⟨event, span⟩ reader limit := by
  rcases border with rfl | rfl
  · exact ⟨fun present => (by cases present), Nat.le_refl _, trivial, placed⟩
  · exact ⟨fun present => (by cases present), Nat.le_refl _, trivial, placed⟩

theorem explicit_document_advances (reader next : Reader) (located : LocatedEvent)
    (waits : Waits source limit (Token.place source.read) reader)
    (found : reader.explicitDocument = .ok (some located, next)) : ∃ further, Advances source limit located next further := by
  unfold explicitDocument at found
  obtain ⟨⟨token, begun⟩, takes, rest⟩ := Fault.bind_ok _ _ _ found
  obtain ⟨at_, limit_le, stack⟩ := directives_spec source limit _ _ reader begun token waits takes
  have stacked : Stacked limit begun.stack := stack ▸ waits.stacked
  simp only at rest
  split at rest
  next =>
    obtain ⟨rfl, rfl⟩ := emit_ok rest
    obtain ⟨steady, passed⟩ := taken_spec source limit token begun.lexer at_ limit_le
    exact ⟨limit, border_advances source limit _ _ _
      ⟨steady, stacked_cons (stacked_cons stacked rfl) rfl, .inl passed⟩ (.inl rfl)⟩
  next => cases rest

theorem document_advances (implicit : Bool) (reader next : Reader) (located : LocatedEvent)
    (waits : Waits source limit (Token.place source.read) reader)
    (found : reader.document implicit = .ok (some located, next)) : ∃ further, Advances source limit located next further := by
  unfold document at found
  obtain ⟨⟨token, begun⟩, skips, rest⟩ := Fault.bind_ok _ _ _ found
  obtain ⟨at_, limit_le, stack⟩ := skip_document_ends_spec source limit _ reader begun token waits skips
  have stacked : Stacked limit begun.stack := stack ▸ waits.stacked
  have explicit (starts : begun.explicitDocument = .ok (some located, next)) :
      ∃ further, Advances source limit located next further :=
    explicit_document_advances source limit begun next located ⟨at_.steady, stacked, at_.behind limit_le⟩ starts
  simp only at rest
  split at rest
  next => cases rest
  next => exact explicit rest
  next => exact explicit rest
  next => exact explicit rest
  next =>
    split at rest
    next =>
      obtain ⟨rfl, rfl⟩ := emit_ok rest
      exact ⟨limit, border_advances source limit _ _ _
        ⟨at_.steady, stacked_cons (stacked_cons stacked rfl) rfl, at_.behind limit_le⟩ (.inl rfl)⟩
    next => exact explicit rest

theorem document_content_advances (faithful : Faithful source) (reader next : Reader) (located : LocatedEvent)
    (waits : Waits source limit (Token.place source.read) reader)
    (found : reader.documentContent = .ok (some located, next)) : ∃ further, Advances source limit located next further := by
  unfold documentContent at found
  obtain ⟨⟨token, peeked⟩, peeks, rest⟩ := Fault.bind_ok _ _ _ found
  obtain ⟨lexer, rfl, at_, limit_le⟩ := look_place source limit reader peeked token waits peeks
  have place_le := token.place_le_edge source.read at_.fits
  have left (noScalar : token.kind.isScalar = false)
      (omits : ({ reader with lexer := lexer } : Reader).leave.omitted token.span = .ok (some located, next)) :
      ∃ further, Advances source limit located next further :=
    ⟨_, omitted_before source limit faithful (reader.stack.headD .ended) token
      { reader with lexer := lexer, stack := reader.stack.tail } next located at_ noScalar (by omega) _ limit_le (Nat.le_refl _)
      (ReaderState.place_le_allowance source.read _ token at_.fits) (stacked_leave waits.stacked) omits⟩
  simp only at rest
  split at rest
  next kind => exact left (by rw [kind]; rfl) rest
  next kind => exact left (by rw [kind]; rfl) rest
  next kind => exact left (by rw [kind]; rfl) rest
  next kind => exact left (by rw [kind]; rfl) rest
  next kind => exact left (by rw [kind]; rfl) rest
  next =>
    exact root_node_advances source limit { reader with lexer := lexer } next located
      ⟨at_.steady, waits.stacked, at_.behind limit_le⟩ rest

theorem document_end_advances (reader next : Reader) (located : LocatedEvent)
    (waits : Waits source limit (Token.place source.read) reader)
    (found : reader.documentEnd = .ok (some located, next)) : ∃ further, Advances source limit located next further := by
  unfold Reader.documentEnd at found
  obtain ⟨⟨token, peeked⟩, peeks, rest⟩ := Fault.bind_ok _ _ _ found
  obtain ⟨lexer, rfl, at_, limit_le⟩ := look_place source limit reader peeked token waits peeks
  simp only at rest
  split at rest
  next =>
    obtain ⟨rfl, rfl⟩ := emit_ok rest
    obtain ⟨steady, passed⟩ := taken_spec source limit token lexer at_ limit_le
    exact ⟨limit, border_advances source limit _ _ _ ⟨steady, stacked_cons waits.stacked rfl, .inl passed⟩ (.inr rfl)⟩
  next => cases rest
  next => cases rest
  next =>
    obtain ⟨rfl, rfl⟩ := emit_ok rest
    exact ⟨limit, border_advances source limit _ _ _
      ⟨at_.steady, stacked_cons waits.stacked rfl, at_.behind limit_le⟩ (.inr rfl)⟩

theorem opened_spec (reader : Reader) (begin : Reader → Step) (result : Option LocatedEvent × Reader)
    (waits : Waits source limit (Token.finish source.read) reader) (opens : (reader.opened >>= begin) = .ok result) :
    ∃ inner, Steady source.read inner.lexer ∧ limit ≤ inner.lexer.passed source.read ∧ Stacked limit inner.stack ∧
      begin inner = .ok result := by
  obtain ⟨inner, opened, begins⟩ := Fault.bind_ok _ _ _ opens
  unfold Reader.opened at opened
  obtain ⟨⟨token, peeked⟩, peeks, rest⟩ := Fault.bind_ok _ _ _ opened
  obtain rfl := Except.ok.inj rest
  obtain ⟨lexer, rfl, at_, limit_le⟩ := look source limit _ reader peeked token waits (Token.place_le_finish source.read) peeks
  obtain ⟨after, -, passed⟩ := at_.take
  exact ⟨{ reader with lexer := lexer.take }, after, Nat.le_trans limit_le (Nat.le_of_eq passed.symm), waits.stacked, begins⟩

-- One step that gives an event. Whether a value may be left out before a scalar only shows in the step after it.
theorem step_advances (faithful : Faithful source) (reader next : Reader) (located : LocatedEvent)
    (placed : Placed source.read limit reader) (steps : reader.step = .ok (some located, next))
    (onward : ∃ result, next.step = .ok result) : ∃ further, Advances source limit located next further := by
  have stacked := placed.stacked
  have waits : Waits source limit (reader.state.allowance source.read) reader :=
    ⟨placed.steady, stacked_tail stacked, placed.behind⟩
  unfold step at steps
  cases state : reader.state <;> rw [state] at steps stacked waits
  case implicitDocument => exact document_advances source limit true reader next located waits steps
  case explicitDocument => exact document_advances source limit false reader next located waits steps
  case documentContent => exact document_content_advances source limit faithful reader next located waits steps
  case documentEnd => exact document_end_advances source limit reader next located waits steps
  case blockNode => exact root_node_advances source limit reader next located waits steps
  case blockMappingStart =>
    obtain ⟨inner, steady, passed, stacked, begins⟩ := opened_spec source limit reader _ _ waits steps
    exact block_mapping_key_advances source limit faithful inner next located ⟨steady, stacked, .inl passed⟩ begins
  case blockMappingKey => exact block_mapping_key_advances source limit faithful reader next located waits steps
  case blockMappingValue => exact block_mapping_value_advances source limit faithful reader next located waits steps onward
  case blockSequenceStart =>
    obtain ⟨inner, steady, passed, stacked, begins⟩ := opened_spec source limit reader _ _ waits steps
    exact block_sequence_entry_advances source limit faithful inner next located ⟨steady, stacked, .inl passed⟩ begins
  case blockSequenceEntry => exact block_sequence_entry_advances source limit faithful reader next located waits steps
  case indentlessEntry => exact indentless_entry_advances source limit faithful reader next located waits stacked steps
  case flowSequenceStart =>
    obtain ⟨inner, steady, passed, stacked, begins⟩ := opened_spec source limit reader _ _ waits steps
    exact flow_sequence_item_advances source limit inner next located steady stacked (.inl passed) begins
  case flowSequenceEntry => exact flow_sequence_entry_advances source limit reader next located waits steps
  case flowMappingStart =>
    obtain ⟨inner, steady, passed, stacked, begins⟩ := opened_spec source limit reader _ _ waits steps
    exact flow_mapping_key_advances source limit faithful true inner next located ⟨steady, stacked, .inl passed⟩
      (fun _ => passed) begins
  case flowMappingKey =>
    exact flow_mapping_key_advances source limit faithful false reader next located waits (fun first => by cases first) steps
  case flowMappingValue => exact flow_mapping_value_advances source limit faithful reader next located waits steps
  case flowMappingNoValue => exact flow_mapping_no_value_advances source limit faithful reader next located waits steps
  case pairKey => exact pair_key_advances source limit faithful reader next located waits steps
  case pairValue => exact pair_value_advances source limit faithful reader next located waits steps
  case pairEnd mark => exact pair_end_advances source limit mark reader next located placed state steps
  case ended => cases steps

end

inductive Run : Reader → List LocatedEvent → Prop
  | stop (reader : Reader) (result : Option LocatedEvent × Reader) (steps : reader.step = .ok result) : Run reader []
  | step (reader next : Reader) (located : LocatedEvent) (events : List LocatedEvent)
      (steps : reader.step = .ok (some located, next)) (rest : Run next events) : Run reader (located :: events)

theorem run_steps (reader : Reader) (events : List LocatedEvent) (run : Run reader events) :
    ∃ result, reader.step = .ok result := by
  cases run with
  | stop _ result steps => exact ⟨result, steps⟩
  | step _ next located events steps => exact ⟨(some located, next), steps⟩

theorem collect_run (fuel : Nat) (earlier found : List LocatedEvent) (reader : Reader)
    (collects : collect fuel earlier reader = (found, none)) :
    ∃ events, found = events.reverse ++ earlier ∧ Run reader events := by
  induction fuel generalizing earlier reader with
  | zero =>
      rw [collect] at collects
      split at collects
      next => cases collects
      next result steps =>
        obtain ⟨rfl, -⟩ := Prod.mk.inj collects
        exact ⟨[], rfl, .stop reader result steps⟩
  | succ fuel ih =>
      rw [collect] at collects
      split at collects
      next => cases collects
      next next steps =>
        obtain ⟨rfl, -⟩ := Prod.mk.inj collects
        exact ⟨[], rfl, .stop reader _ steps⟩
      next located next steps =>
        obtain ⟨events, rfl, run⟩ := ih (located :: earlier) next collects
        exact ⟨located :: events, by simp, .step reader next located events steps run⟩

-- What is known before more events: the nodes so far are within the limit. Only the first item of a sequence without
-- indentation may be put behind a dash that is not within it.
def Bounded (source : Source) (bound limit : Nat) (reader : Reader) (events : List LocatedEvent) : Prop :=
  bound ≤ source.offsetAt limit ∨ (source.nextAbsent events = true ∧
    ∃ span dash, AtDash source.read span reader dash ∧ bound ≤ source.offsetAt (span.start.index + 1))

theorem advances_bounded (source : Source) (same : Text.byteLength source.read = Text.byteLength source.shown)
    (bound limit further : Nat) (located : LocatedEvent) (next : Reader) (events : List LocatedEvent)
    (within_ : bound ≤ source.offsetAt limit) (advances : Advances source limit located next further) :
    Bounded source (max bound (source.reach located events)) further next events := by
  have before : bound ≤ source.offsetAt further := Nat.le_trans within_ (source.offset_at_mono limit further advances.le)
  have up {index : Nat} (le : index ≤ further) := source.offset_at_mono index further le
  have reaches := advances.reaches
  obtain ⟨event, span⟩ := located
  cases event with
  | documentStart => exact .inl (Nat.max_le.mpr ⟨before, Nat.zero_le _⟩)
  | documentEnd => exact .inl (Nat.max_le.mpr ⟨before, Nat.zero_le _⟩)
  | reference name => exact .inl (Nat.max_le.mpr ⟨before, Nat.max_le.mpr ⟨up reaches.1, up reaches.2⟩⟩)
  | scalar text style properties =>
      refine .inl (Nat.max_le.mpr ⟨before, ?_⟩)
      simp only [Source.reach]
      split
      next => exact Nat.zero_le _
      next present =>
        obtain ⟨start, stop⟩ := reaches.resolve_left present
        exact Nat.max_le.mpr ⟨up start, up stop⟩
  | sequenceStart properties =>
      simp only [Source.reach]
      split
      next absent =>
        have beyond : max (source.offset span.start) (source.inside (source.offset span.start)) ≤
            source.offsetAt (span.start.index + 1) :=
          Nat.max_le.mpr ⟨source.offset_at_mono _ _ (Nat.le_succ _), source.inside_le same span.start⟩
        rcases reaches with le | ⟨-, dash, fresh⟩
        · exact .inl (Nat.max_le.mpr ⟨before, Nat.le_trans beyond (up le)⟩)
        · refine .inr ⟨absent, span, dash, fresh, Nat.max_le.mpr ⟨Nat.le_trans within_ ?_, beyond⟩⟩
          exact source.offset_at_mono _ _ (Nat.le_succ_of_le (advances.present rfl))
      next =>
        have start : span.start.index ≤ further := reaches.elim (Nat.le_trans (Nat.le_succ _)) And.left
        exact .inl (Nat.max_le.mpr ⟨before, up start⟩)
  | sequenceEnd => exact .inl (Nat.max_le.mpr ⟨before, up reaches⟩)
  | mappingStart properties => exact .inl (Nat.max_le.mpr ⟨before, up reaches⟩)
  | mappingEnd => exact .inl (Nat.max_le.mpr ⟨before, up reaches⟩)

theorem run_in_order (source : Source) (faithful : Faithful source)
    (same : Text.byteLength source.read = Text.byteLength source.shown) (reader : Reader) (events : List LocatedEvent)
    (run : Run reader events) (bound limit : Nat) (placed : Placed source.read limit reader)
    (bounded : Bounded source bound limit reader events) : source.InOrder bound events := by
  induction run generalizing bound limit with
  | stop => trivial
  | step reader next located events steps rest ih =>
      rcases bounded with within_ | ⟨absent, span, dash, fresh, within_⟩
      · obtain ⟨further, advances⟩ :=
          step_advances source limit faithful reader next located placed steps (run_steps next events rest)
        refine ⟨fun present => ?_, ih _ further advances.placed
          (advances_bounded source same bound limit further located next events within_ advances)⟩
        exact Nat.le_trans within_ (source.offset_at_mono limit _ (advances.present present))
      · obtain ⟨further, beyond, onward⟩ :=
          first_item_passes source limit span dash reader next located placed fresh absent steps
        obtain ⟨unseen, nowhere⟩ := source.absent_spec located events absent
        refine ⟨fun present => by simp [unseen] at present, ih _ further onward (.inl ?_)⟩
        rw [nowhere, Nat.max_zero]
        exact Nat.le_trans within_ (source.offset_at_mono _ _ beyond)

end Reader

theorem read_text_run (chars : List Char) (events : List LocatedEvent) (reads : readText chars = .ok events) :
    Reader.Run { lexer := Lexer.start chars } events := by
  unfold readText readEvents at reads
  cases collected : Reader.collect (16 * chars.length + 64) [] { lexer := Lexer.start chars } with
  | mk found fault =>
      rw [collected] at reads
      cases fault with
      | some fault => cases reads
      | none =>
          obtain ⟨run, rfl, runs⟩ := Reader.collect_run _ [] found _ collected
          obtain rfl : events = run := by simpa using (Except.ok.inj reads).symm
          exact runs

theorem plain_faithful (chars : List Char) : Reader.Faithful ⟨chars, chars⟩ := by
  intro properties span seen
  have split := Text.drop_bytes_append (chars.take span.start.index) (chars.drop span.start.index)
  rw [List.take_append_drop, ← byteOf] at split
  have tilde : ((Text.dropBytes? chars ((Source.mk chars chars).offset span.start)).getD []).head? = some '~' := by
    simpa [Source.isAbsent, Source.isImplicit, Source.onward] using seen
  rwa [Source.plain_offset, split, Option.getD_some, List.head?_drop] at tilde

theorem read_text_ordered : TextReader.Ordered readText := by
  intro chars events reads
  exact Reader.run_in_order ⟨chars, chars⟩ (plain_faithful chars) rfl _ _ (read_text_run chars events reads) 0 0
    ⟨Lexer.start_steady chars, ⟨by simp, List.isChain_singleton _⟩, .inl (Nat.zero_le _)⟩ (.inl (Nat.zero_le _))

end YamlDialects.Yaml
