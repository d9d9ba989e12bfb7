import YamlDialects.Proofs.Yaml.Event.Node

/-!
The events of collections are in order: one lemma for each state of the reader inside a collection, first those of blocks
and then those between brackets. A pair inside a flow sequence is a mapping of its own, which ends with the first token of
its value.
-/

set_option autoImplicit false

namespace YamlDialects.Yaml.Reader

open Lexer

section

variable (source : Source) (limit : Nat)

theorem ends_block_part_hollow (token : Token) (ends : endsBlockPart token.kind = true) : token.kind.isScalar = false := by
  cases known : token.kind <;> simp_all [endsBlockPart, TokenKind.isScalar]

theorem ends_block_part_item (kind : TokenKind) (ends : endsBlockPart kind = true) : kind.endsItem = true := by
  cases kind with
  | key => rfl
  | value => rfl
  | blockEnd => rfl
  | _ => cases ends

theorem block_mapping_key_advances (faithful : Faithful source) (reader next : Reader) (located : LocatedEvent)
    (waits : Waits source limit (Token.edge source.read) reader) (found : reader.blockMappingKey = .ok (some located, next)) :
    ∃ further, Advances source limit located next further := by
  unfold blockMappingKey at found
  obtain ⟨⟨token, peeked⟩, peeks, rest⟩ := Fault.bind_ok _ _ _ found
  obtain ⟨lexer, rfl, at_, limit_le⟩ := look source limit _ reader peeked token waits (Token.place_le_edge source.read) peeks
  obtain ⟨place_le, edge_le, stop_le⟩ := token.edge_spec source.read at_.fits
  have stacked := waits.stacked
  simp only at rest
  split at rest
  next kind =>
    obtain ⟨⟨following, after⟩, peeksAgain, ends⟩ := Fault.bind_ok _ _ _ rest
    obtain ⟨later, rfl, at_later, passed, follows⟩ := peek_after source.read lexer token following _ after at_ rfl peeksAgain
    simp only at ends
    split at ends
    next isEnd =>
      have onward : limit ≤ following.place source.read := by
        unfold Token.Follows at follows
        omega
      have onward_le := following.place_le_edge source.read at_later.fits
      exact ⟨_, omitted_before source limit faithful .blockMappingValue following { reader with lexer := later } next located
        at_later (ends_block_part_hollow following isEnd) (Nat.le_trans onward onward_le) _ onward (Nat.le_refl _) onward_le
        (stacked_cons stacked rfl) ends⟩
    next =>
      exact inner_node_advances source limit true true .blockMappingValue { reader with lexer := later } next located
        ⟨at_later.steady, stacked, .inl (by rw [passed]; omega)⟩ rfl (fun _ => ⟨rfl, .inr rfl⟩) ends
  next kind =>
    exact ⟨_, omitted_before source limit faithful .blockMappingValue token { reader with lexer := lexer } next located at_
      (by rw [kind]; rfl) limit_le _ limit_le place_le (Nat.le_refl _) (stacked_cons stacked rfl) rest⟩
  next kind =>
    obtain ⟨rfl, rfl⟩ := emit_ok rest
    exact ⟨_, closing_advances source limit .mappingEnd token lexer { reader with lexer := lexer.take } at_ rfl (by omega)
      stacked token.span (by omega) (.inr rfl)⟩
  next => cases rest

theorem key_rejects_scalar (reader : Reader) (token : Token) (isKey : reader.state = .blockMappingKey)
    (at_ : At source.read reader.lexer token) (isScalar : token.kind.isScalar = true)
    (result : Option LocatedEvent × Reader) (steps : reader.step = .ok result) : False := by
  unfold step at steps
  rw [isKey] at steps
  simp only [blockMappingKey] at steps
  obtain ⟨⟨first, peeked⟩, peeks, rest⟩ := Fault.bind_ok _ _ _ steps
  obtain rfl := peek_again source.read reader peeked token first at_ peeks
  simp only at rest
  split at rest
  next kind => simp [kind, TokenKind.isScalar] at isScalar
  next kind => simp [kind, TokenKind.isScalar] at isScalar
  next kind => simp [kind, TokenKind.isScalar] at isScalar
  next => cases rest

theorem block_mapping_value_advances (faithful : Faithful source) (reader next : Reader) (located : LocatedEvent)
    (waits : Waits source limit (Token.edge source.read) reader)
    (found : reader.blockMappingValue = .ok (some located, next)) (onward : ∃ result, next.step = .ok result) :
    ∃ further, Advances source limit located next further := by
  unfold blockMappingValue at found
  obtain ⟨⟨token, peeked⟩, peeks, rest⟩ := Fault.bind_ok _ _ _ found
  obtain ⟨lexer, rfl, at_, limit_le⟩ := look source limit _ reader peeked token waits (Token.place_le_edge source.read) peeks
  obtain ⟨place_le, edge_le, -⟩ := token.edge_spec source.read at_.fits
  have stacked := waits.stacked
  simp only at rest
  split at rest
  next kind =>
    obtain ⟨⟨following, after⟩, peeksAgain, ends⟩ := Fault.bind_ok _ _ _ rest
    obtain ⟨later, rfl, at_later, passed, -⟩ := peek_after source.read lexer token following _ after at_ rfl peeksAgain
    simp only at ends
    split at ends
    next =>
      exact ⟨_, omitted_behind source limit faithful .blockMappingKey token lexer { reader with lexer := later } next located at_
        (by rw [kind]; rfl) limit_le at_later.steady passed (stacked_cons stacked rfl) ends⟩
    next =>
      exact inner_node_advances source limit true true .blockMappingKey { reader with lexer := later } next located
        ⟨at_later.steady, stacked, .inl (by rw [passed]; omega)⟩ rfl (fun _ => ⟨rfl, .inl rfl⟩) ends
  next =>
    -- a scalar here would be rejected by the next step
    have noScalar : token.kind.isScalar = false := by
      obtain ⟨result, steps⟩ := onward
      obtain ⟨-, rfl⟩ := emit_ok rest
      by_contra scalar
      exact key_rejects_scalar source _ token rfl at_ (by simpa using scalar) result steps
    exact ⟨_, omitted_before source limit faithful .blockMappingKey token { reader with lexer := lexer } next located at_
      noScalar limit_le _ limit_le place_le (Nat.le_refl _) (stacked_cons stacked rfl) rest⟩

theorem block_sequence_entry_advances (faithful : Faithful source) (reader next : Reader) (located : LocatedEvent)
    (waits : Waits source limit (Token.place source.read) reader)
    (found : reader.blockSequenceEntry = .ok (some located, next)) : ∃ further, Advances source limit located next further := by
  unfold blockSequenceEntry at found
  obtain ⟨⟨token, peeked⟩, peeks, rest⟩ := Fault.bind_ok _ _ _ found
  obtain ⟨lexer, rfl, at_, limit_le⟩ := look_place source limit reader peeked token waits peeks
  obtain ⟨place_le, edge_le, stop_le⟩ := token.edge_spec source.read at_.fits
  have stacked := waits.stacked
  simp only at rest
  split at rest
  next kind =>
    obtain ⟨rfl, rfl⟩ := emit_ok rest
    exact ⟨_, closing_advances source limit .sequenceEnd token lexer { reader with lexer := lexer.take } at_ rfl (by omega)
      stacked token.span (by omega) (.inl rfl)⟩
  next kind =>
    obtain ⟨⟨following, after⟩, peeksAgain, ends⟩ := Fault.bind_ok _ _ _ rest
    obtain ⟨later, rfl, at_later, passed, -⟩ := peek_after source.read lexer token following _ after at_ rfl peeksAgain
    simp only at ends
    split at ends
    next =>
      exact ⟨_, omitted_behind source limit faithful .blockSequenceEntry token lexer { reader with lexer := later } next located
        at_ (by rw [kind]; rfl) (by omega) at_later.steady passed (stacked_cons stacked rfl) ends⟩
    next =>
      exact inner_node_advances source limit true false .blockSequenceEntry { reader with lexer := later } next located
        ⟨at_later.steady, stacked, .inl (by rw [passed]; omega)⟩ rfl (fun dashes => by cases dashes) ends
  next => cases rest

theorem indentless_end_advances (token : Token) (reader : Reader) (at_ : At source.read reader.lexer token)
    (limit_le : limit ≤ token.edge source.read) (stacked : Stacked limit (.indentlessEntry :: reader.stack)) :
    Advances source limit ⟨.sequenceEnd, token.span⟩ reader.leave (token.edge source.read) := by
  have wider := stacked_mono (stacked_tail stacked) limit_le
  have allowed : (reader.stack.headD .ended).allowance source.read token = token.edge source.read := by
    have nested := stacked.nested
    cases states : reader.stack with
    | nil => rfl
    | cons outer rest =>
        rw [states] at nested
        rcases (List.isChain_cons_cons.mp nested).1 rfl with rfl | rfl <;> rfl
  exact ⟨fun present => (by cases present), limit_le, (token.edge_spec source.read at_.fits).2.2, at_.steady,
    stacked_leave wider, at_.behind (Nat.le_of_eq allowed.symm)⟩

theorem indentless_entry_advances (faithful : Faithful source) (reader next : Reader) (located : LocatedEvent)
    (waits : Waits source limit (Token.place source.read) reader) (stacked : Stacked limit (.indentlessEntry :: reader.stack))
    (found : reader.indentlessEntry = .ok (some located, next)) : ∃ further, Advances source limit located next further := by
  unfold Reader.indentlessEntry at found
  obtain ⟨⟨token, peeked⟩, peeks, rest⟩ := Fault.bind_ok _ _ _ found
  obtain ⟨lexer, rfl, at_, limit_le⟩ := look_place source limit reader peeked token waits peeks
  obtain ⟨place_le, edge_le, -⟩ := token.edge_spec source.read at_.fits
  simp only at rest
  split at rest
  next kind =>
    obtain ⟨⟨following, after⟩, peeksAgain, ends⟩ := Fault.bind_ok _ _ _ rest
    obtain ⟨later, rfl, at_later, passed, -⟩ := peek_after source.read lexer token following _ after at_ rfl peeksAgain
    simp only at ends
    split at ends
    next =>
      exact ⟨_, omitted_behind source limit faithful .indentlessEntry token lexer { reader with lexer := later } next located
        at_ (by rw [kind]; rfl) (by omega) at_later.steady passed stacked ends⟩
    next =>
      obtain ⟨further, advances, -⟩ := node_advances source limit true false _ next located
        (entering_push source limit true false .indentlessEntry { reader with lexer := later } at_later.steady
          (.inl (by rw [passed]; omega)) stacked (fun dashes => by cases dashes)) ends
      exact ⟨further, advances⟩
  next =>
    obtain ⟨rfl, rfl⟩ := emit_ok rest
    exact ⟨_, indentless_end_advances source limit token { reader with lexer := lexer } at_ (by omega) stacked⟩

theorem first_item_passes (span : Span) (dash : Token) (reader next : Reader) (located : LocatedEvent)
    (placed : Placed source.read limit reader) (fresh : AtDash source.read span reader dash)
    (absent : source.isAbsent located = true) (steps : reader.step = .ok (some located, next)) :
    ∃ further, span.start.index + 1 ≤ further ∧ Placed source.read further next := by
  obtain ⟨inSequence, at_, isDash, rfl⟩ := fresh
  obtain ⟨steady, stacked, behind⟩ := placed
  rw [inSequence] at stacked behind
  simp only [step, inSequence, Reader.indentlessEntry] at steps
  obtain ⟨⟨token, peeked⟩, peeks, rest⟩ := Fault.bind_ok _ _ _ steps
  obtain ⟨lexer, rfl, at_token, limit_le⟩ := look_place source limit reader peeked token ⟨steady, stacked_tail stacked, behind⟩ peeks
  obtain rfl := peek_again source.read reader _ dash token at_ peeks
  have start := token.place_of_not_closing source.read (by rw [isDash]; rfl)
  have finish_le := Token.place_le_finish source.read token at_.fits
  simp only [isDash, if_true] at rest
  obtain ⟨⟨following, after⟩, peeksAgain, ends⟩ := Fault.bind_ok _ _ _ rest
  obtain ⟨later, rfl, at_later, passed, follows⟩ := peek_after source.read lexer token following _ after at_token rfl peeksAgain
  simp only at ends
  split at ends
  next closes =>
    obtain ⟨rfl, rfl⟩ := emit_ok ends
    have endsItem : following.kind.endsItem = true := by
      rcases closes with is | is
      · rw [is]
        rfl
      · exact ends_block_part_item following.kind is
    have room : token.finish source.read + 1 ≤ following.place source.read := by
      rw [Token.Follows, Token.room, if_pos ⟨isDash, endsItem⟩] at follows
      exact follows
    refine ⟨following.place source.read, by omega, ?_⟩
    exact placed_front source _ .indentlessEntry following { reader with lexer := later } at_later (Nat.le_refl _)
      (stacked_mono stacked (by omega))
  next =>
    obtain ⟨further, advances, passes⟩ := node_advances source (token.finish source.read) true false _ next located
      (entering_push source _ true false .indentlessEntry { reader with lexer := later } at_later.steady
        (.inl (Nat.le_of_eq passed.symm)) (stacked_mono stacked (by omega)) (fun dashes => by cases dashes)) ends
    have beyond := passes absent
    exact ⟨further, by omega, advances.placed⟩

def Between (bracket : TokenKind) (lexer : Lexer) : Prop :=
  limit ≤ lexer.passed source.read ∨
    ∃ token, At source.read lexer token ∧ token.kind = bracket ∧ limit ≤ token.edge source.read

theorem look_between (bracket : TokenKind) (reader next : Reader) (token : Token) (steady : Steady source.read reader.lexer)
    (between : Between source limit bracket reader.lexer) (peeks : reader.peek = .ok (token, next)) :
    ∃ lexer, next = { reader with lexer := lexer } ∧ At source.read lexer token ∧ limit ≤ token.edge source.read ∧
      (token.kind ≠ bracket → limit ≤ token.place source.read) := by
  obtain ⟨lexer, rfl, at_, last, -⟩ := peek_spec source.read reader next token steady peeks
  have place_le := token.place_le_edge source.read at_.fits
  refine ⟨lexer, rfl, at_, ?_⟩
  rcases between with before | ⟨front, at_front, isBracket, limit_le⟩
  · have passed_le := at_.passed_le
    rw [Lexer.passed, last, ← Lexer.passed] at passed_le
    exact ⟨by omega, fun _ => by omega⟩
  · obtain rfl := peek_again source.read reader _ front token at_front peeks
    exact ⟨limit_le, fun other => absurd isBracket other⟩

theorem flow_sequence_item_advances (reader next : Reader) (located : LocatedEvent) (steady : Steady source.read reader.lexer)
    (stacked : Stacked limit reader.stack) (between : Between source limit .flowSequenceEnd reader.lexer)
    (found : reader.flowSequenceItem = .ok (some located, next)) : ∃ further, Advances source limit located next further := by
  unfold flowSequenceItem at found
  obtain ⟨⟨token, peeked⟩, peeks, rest⟩ := Fault.bind_ok _ _ _ found
  obtain ⟨lexer, rfl, at_, over_limit, place_limit⟩ := look_between source limit _ reader peeked token steady between peeks
  obtain ⟨place_le, edge_le, stop_le⟩ := token.edge_spec source.read at_.fits
  simp only at rest
  split at rest
  next kind =>
    obtain ⟨rfl, rfl⟩ := emit_ok rest
    exact ⟨_, closing_advances source limit .sequenceEnd token lexer { reader with lexer := lexer.take } at_ rfl (by omega)
      stacked token.span (by omega) (.inl rfl)⟩
  next kind =>
    obtain ⟨rfl, rfl⟩ := emit_ok rest
    have start := token.place_of_not_closing source.read (by rw [kind]; rfl)
    have limit_le := place_limit (by rw [kind]; simp)
    obtain ⟨after, -, passed⟩ := at_.take
    refine ⟨token.finish source.read, fun _ => start ▸ limit_le, by omega, ?_, after,
      stacked_mono (stacked_cons stacked rfl) (by omega), .inl (Nat.le_of_eq passed.symm)⟩
    change token.span.start.index ≤ _
    omega
  next noEnd noKey =>
    exact inner_node_advances source limit false false .flowSequenceEntry { reader with lexer := lexer } next located
      ⟨at_.steady, stacked, at_.behind (place_limit noEnd)⟩ rfl (fun dashes => by cases dashes) rest

theorem flow_sequence_entry_advances (reader next : Reader) (located : LocatedEvent)
    (waits : Waits source limit (Token.edge source.read) reader)
    (found : reader.flowSequenceEntry = .ok (some located, next)) : ∃ further, Advances source limit located next further := by
  unfold flowSequenceEntry at found
  obtain ⟨⟨token, peeked⟩, peeks, rest⟩ := Fault.bind_ok _ _ _ found
  obtain ⟨lexer, rfl, at_, limit_le⟩ := look source limit _ reader peeked token waits (Token.place_le_edge source.read) peeks
  have edge_le := (token.edge_spec source.read at_.fits).2.1
  simp only at rest
  split at rest
  next kind =>
    exact flow_sequence_item_advances source limit { reader with lexer := lexer } next located at_.steady waits.stacked
      (.inr ⟨token, at_, kind, limit_le⟩) rest
  next kind =>
    obtain ⟨after, -, passed⟩ := at_.take
    exact flow_sequence_item_advances source limit { reader with lexer := lexer.take } next located after waits.stacked
      (.inl (by rw [passed]; omega)) rest
  next => cases rest

theorem pair_key_advances (faithful : Faithful source) (reader next : Reader) (located : LocatedEvent)
    (waits : Waits source limit (Token.place source.read) reader) (found : reader.pairKey = .ok (some located, next)) :
    ∃ further, Advances source limit located next further := by
  unfold pairKey at found
  obtain ⟨⟨token, peeked⟩, peeks, rest⟩ := Fault.bind_ok _ _ _ found
  obtain ⟨lexer, rfl, at_, limit_le⟩ := look_place source limit reader peeked token waits peeks
  have place_le := token.place_le_edge source.read at_.fits
  have left (noScalar : token.kind.isScalar = false)
      (omits : ((({ reader with lexer := lexer } : Reader).enter .pairValue).take).omitted token.span = .ok (some located, next)) :
      ∃ further, Advances source limit located next further := by
    obtain ⟨after, -, passed⟩ := at_.take
    exact ⟨_, omitted_behind source limit faithful .pairValue token lexer { reader with lexer := lexer.take } next located at_
      noScalar (by omega) after passed (stacked_cons waits.stacked rfl) omits⟩
  simp only at rest
  split at rest
  next kind => exact left (by rw [kind]; rfl) rest
  next kind => exact left (by rw [kind]; rfl) rest
  next kind => exact left (by rw [kind]; rfl) rest
  next =>
    exact inner_node_advances source limit false false .pairValue { reader with lexer := lexer } next located
      ⟨at_.steady, waits.stacked, at_.behind limit_le⟩ rfl (fun dashes => by cases dashes) rest

theorem stacked_pair_end (mark : Mark) (states : List ReaderState) (stacked : Stacked limit states) (further : Nat)
    (le : limit ≤ further) (within_ : mark.index ≤ further) : Stacked further (.pairEnd mark :: states) := by
  refine ⟨fun other member => ?_, ?_⟩
  · rcases List.mem_cons.mp member with same | among
    · cases same
      exact within_
    · exact Nat.le_trans (stacked.marks other among) le
  · cases states with
    | nil => exact List.isChain_singleton _
    | cons state rest => exact List.isChain_cons_cons.mpr ⟨fun same => (by cases same), stacked.nested⟩

theorem pair_value_omitted (faithful : Faithful source) (token : Token) (reader next : Reader) (located : LocatedEvent)
    (at_ : At source.read reader.lexer token) (limit_le : limit ≤ token.place source.read) (stacked : Stacked limit reader.stack)
    (omits : (reader.enter (.pairEnd token.span.stop)).omitted token.span = .ok (some located, next)) :
    Advances source limit located next (token.edge source.read) := by
  obtain ⟨place_le, -, stop_le⟩ := token.edge_spec source.read at_.fits
  exact omitted_over source limit faithful _ token reader next located at_ limit_le rfl
    (stacked_pair_end limit _ _ stacked _ (Nat.le_trans limit_le place_le) stop_le) omits

theorem entering_pair_value (token : Token) (reader : Reader) (at_ : At source.read reader.lexer token)
    (before : limit ≤ reader.lexer.passed source.read) (stacked : Stacked limit reader.stack) :
    Entering source limit false false (reader.push (.pairEnd token.span.stop)) := by
  refine ⟨at_.steady, .inl before, fun mark member => ?_, ?_, fun dashes => (by cases dashes)⟩
  · rcases List.mem_cons.mp member with same | among
    · cases same
      exact .inr ⟨rfl, at_.behind (token.edge_spec source.read at_.fits).2.2⟩
    · exact .inl (stacked.marks mark among)
  · exact (stacked_pair_end limit token.span.stop _ stacked _ (Nat.le_max_left _ _) (Nat.le_max_right limit _)).nested

theorem pair_value_advances (faithful : Faithful source) (reader next : Reader) (located : LocatedEvent)
    (waits : Waits source limit (Token.place source.read) reader) (found : reader.pairValue = .ok (some located, next)) :
    ∃ further, Advances source limit located next further := by
  unfold pairValue at found
  obtain ⟨⟨token, peeked⟩, peeks, rest⟩ := Fault.bind_ok _ _ _ found
  obtain ⟨lexer, rfl, at_, limit_le⟩ := look_place source limit reader peeked token waits peeks
  have finish_le := Token.place_le_finish source.read token at_.fits
  simp only at rest
  split at rest
  next kind =>
    obtain ⟨⟨following, after⟩, peeksAgain, ends⟩ := Fault.bind_ok _ _ _ rest
    obtain ⟨later, rfl, at_later, passed, follows⟩ := peek_after source.read lexer token following _ after at_ rfl peeksAgain
    have onward : limit ≤ following.place source.read := by
      unfold Token.Follows at follows
      omega
    simp only at ends
    split at ends
    next =>
      exact ⟨_, pair_value_omitted source limit faithful following { reader with lexer := later } next located at_later onward
        waits.stacked ends⟩
    next =>
      have before : limit ≤ later.passed source.read := by
        rw [passed]
        omega
      obtain ⟨further, advances, -⟩ := node_advances source limit false false _ next located
        (entering_pair_value source limit following { reader with lexer := later } at_later before waits.stacked) ends
      exact ⟨further, advances⟩
  next =>
    exact ⟨_, pair_value_omitted source limit faithful token { reader with lexer := lexer } next located at_ limit_le
      waits.stacked rest⟩

theorem pair_end_advances (mark : Mark) (reader next : Reader) (located : LocatedEvent)
    (placed : Placed source.read limit reader) (isEnd : reader.state = .pairEnd mark)
    (found : reader.pairEnd mark = .ok (some located, next)) : ∃ further, Advances source limit located next further := by
  unfold Reader.pairEnd at found
  obtain ⟨rfl, rfl⟩ := emit_ok found
  obtain ⟨steady, stacked, behind⟩ := placed
  rw [isEnd] at stacked behind
  exact ⟨limit, fun present => (by cases present), Nat.le_refl _, stacked.marks mark List.mem_cons_self, steady,
    stacked_cons (stacked_tail stacked) rfl, behind⟩

theorem flow_mapping_entry_advances (faithful : Faithful source) (span : Span) (reader next : Reader) (located : LocatedEvent)
    (steady : Steady source.read reader.lexer) (stacked : Stacked limit reader.stack)
    (between : Between source limit .flowMappingEnd reader.lexer)
    (spanned : span.stop.index ≤ reader.lexer.passed source.read ∨
      ∃ token, At source.read reader.lexer token ∧ span = token.span)
    (found : reader.flowMappingEntry span = .ok (some located, next)) : ∃ further, Advances source limit located next further := by
  unfold flowMappingEntry at found
  obtain ⟨⟨token, peeked⟩, peeks, rest⟩ := Fault.bind_ok _ _ _ found
  obtain ⟨lexer, rfl, at_, over_limit, place_limit⟩ := look_between source limit _ reader peeked token steady between peeks
  obtain ⟨place_le, edge_le, stop_le⟩ := token.edge_spec source.read at_.fits
  have span_le : span.stop.index ≤ token.finish source.read := by
    rcases spanned with before | ⟨front, at_front, rfl⟩
    · exact peek_behind source.read reader _ token steady peeks _ _ (.inl before) (Token.place_le_finish source.read token at_.fits)
    · obtain rfl := peek_again source.read reader _ front token at_front peeks
      omega
  simp only at rest
  split at rest
  next kind =>
    have limit_le := place_limit (by rw [kind]; simp)
    obtain ⟨⟨following, after⟩, peeksAgain, ends⟩ := Fault.bind_ok _ _ _ rest
    obtain ⟨later, rfl, at_later, passed, follows⟩ := peek_after source.read lexer token following _ after at_ rfl peeksAgain
    have left (noScalar : following.kind.isScalar = false)
        (omits : (({ reader with lexer := later } : Reader).enter .flowMappingValue).omitted following.span = .ok (some located, next)) :
        ∃ further, Advances source limit located next further := by
      have onward : limit ≤ following.place source.read := by
        unfold Token.Follows at follows
        omega
      exact ⟨_, omitted_before source limit faithful .flowMappingValue following { reader with lexer := later } next located at_later
        noScalar (Nat.le_trans onward (following.place_le_edge source.read at_later.fits)) _ onward (Nat.le_refl _) (Nat.le_refl _)
        (stacked_cons stacked rfl) omits⟩
    simp only at ends
    split at ends
    next kind => exact left (by rw [kind]; rfl) ends
    next kind => exact left (by rw [kind]; rfl) ends
    next kind => exact left (by rw [kind]; rfl) ends
    next =>
      exact inner_node_advances source limit false false .flowMappingValue { reader with lexer := later } next located
        ⟨at_later.steady, stacked, .inl (by rw [passed]; omega)⟩ rfl (fun dashes => by cases dashes) ends
  next kind =>
    have limit_le := place_limit (by rw [kind]; simp)
    exact ⟨_, omitted_before source limit faithful .flowMappingValue token { reader with lexer := lexer } next located at_
      (by rw [kind]; rfl) over_limit _ limit_le (Nat.le_refl _) (Nat.le_refl _) (stacked_cons stacked rfl) rest⟩
  next kind =>
    obtain ⟨rfl, rfl⟩ := emit_ok rest
    exact ⟨_, closing_advances source limit .mappingEnd token lexer { reader with lexer := lexer.take } at_ rfl (by omega)
      stacked span span_le (.inr rfl)⟩
  next noKey noValue noEnd =>
    exact inner_node_advances source limit false false .flowMappingNoValue { reader with lexer := lexer } next located
      ⟨at_.steady, stacked, at_.behind (place_limit noEnd)⟩ rfl (fun dashes => by cases dashes) rest

theorem flow_mapping_key_advances (faithful : Faithful source) (isFirst : Bool) (reader next : Reader) (located : LocatedEvent)
    (waits : Waits source limit (Token.edge source.read) reader)
    (opened : isFirst = true → limit ≤ reader.lexer.passed source.read)
    (found : reader.flowMappingKey isFirst = .ok (some located, next)) : ∃ further, Advances source limit located next further := by
  unfold flowMappingKey at found
  obtain ⟨⟨token, peeked⟩, peeks, rest⟩ := Fault.bind_ok _ _ _ found
  obtain ⟨lexer, rfl, at_, last, -⟩ := peek_spec source.read reader peeked token waits.steady peeks
  obtain ⟨place_le, edge_le, stop_le⟩ := token.edge_spec source.read at_.fits
  have limit_le := peek_behind source.read reader _ token waits.steady peeks limit _ waits.behind place_le
  simp only at rest
  split at rest
  next begins =>
    have between : Between source limit .flowMappingEnd lexer := by
      rcases begins with closes | first
      · exact .inr ⟨token, at_, closes, limit_le⟩
      · refine .inl ?_
        rw [Lexer.passed, last, ← Lexer.passed]
        exact opened first
    exact flow_mapping_entry_advances source limit faithful token.span { reader with lexer := lexer } next located at_.steady
      waits.stacked between (.inr ⟨token, at_, rfl⟩) rest
  next =>
    split at rest
    next =>
      obtain ⟨after, -, passed⟩ := at_.take
      have spanned : token.span.stop.index ≤ lexer.take.passed source.read := by
        rw [passed]
        omega
      exact flow_mapping_entry_advances source limit faithful token.span { reader with lexer := lexer.take } next located after
        waits.stacked (.inl (by rw [passed]; omega)) (.inl spanned) rest
    next => cases rest

theorem flow_mapping_value_advances (faithful : Faithful source) (reader next : Reader) (located : LocatedEvent)
    (waits : Waits source limit (Token.place source.read) reader)
    (found : reader.flowMappingValue = .ok (some located, next)) : ∃ further, Advances source limit located next further := by
  unfold flowMappingValue at found
  obtain ⟨⟨token, peeked⟩, peeks, rest⟩ := Fault.bind_ok _ _ _ found
  obtain ⟨lexer, rfl, at_, limit_le⟩ := look_place source limit reader peeked token waits peeks
  obtain ⟨place_le, edge_le, -⟩ := token.edge_spec source.read at_.fits
  have stacked := waits.stacked
  simp only at rest
  split at rest
  next kind =>
    obtain ⟨⟨following, after⟩, peeksAgain, ends⟩ := Fault.bind_ok _ _ _ rest
    obtain ⟨later, rfl, at_later, passed, -⟩ := peek_after source.read lexer token following _ after at_ rfl peeksAgain
    simp only at ends
    split at ends
    next =>
      exact ⟨_, omitted_behind source limit faithful .flowMappingKey token lexer { reader with lexer := later } next located at_
        (by rw [kind]; rfl) (by omega) at_later.steady passed (stacked_cons stacked rfl) ends⟩
    next =>
      exact inner_node_advances source limit false false .flowMappingKey { reader with lexer := later } next located
        ⟨at_later.steady, stacked, .inl (by rw [passed]; omega)⟩ rfl (fun dashes => by cases dashes) ends
  next =>
    exact ⟨_, omitted_over source limit faithful .flowMappingKey token { reader with lexer := lexer } next located at_ limit_le
      rfl (stacked_cons (stacked_mono stacked (by omega)) rfl) rest⟩

theorem flow_mapping_no_value_advances (faithful : Faithful source) (reader next : Reader) (located : LocatedEvent)
    (waits : Waits source limit (Token.place source.read) reader)
    (found : reader.flowMappingNoValue = .ok (some located, next)) : ∃ further, Advances source limit located next further := by
  unfold flowMappingNoValue at found
  obtain ⟨⟨token, peeked⟩, peeks, rest⟩ := Fault.bind_ok _ _ _ found
  obtain ⟨lexer, rfl, at_, limit_le⟩ := look_place source limit reader peeked token waits peeks
  have le := Nat.le_trans limit_le (token.place_le_edge source.read at_.fits)
  exact ⟨_, omitted_over source limit faithful .flowMappingKey token { reader with lexer := lexer } next located at_ limit_le
    rfl (stacked_cons (stacked_mono waits.stacked le) rfl) rest⟩

end

end YamlDialects.Yaml.Reader
