import YamlDialects.Proofs.Yaml.Event.Node
import YamlDialects.Proofs.Yaml.Reading
import YamlDialects.Proofs.Yaml.Token.Blocks

/-!
What a step of the reader can do. A node is read where a state waits for one: either it is complete with its event, or a
collection has been opened, and the state that comes after the node waits on the stack. Blocks are opened and closed with
the tokens that have been taken, so their columns are known.
-/

set_option autoImplicit false

namespace YamlDialects.Yaml

namespace Event

def opensSequence : Event → Bool
  | .sequenceStart _ => true
  | _ => false

def opensMapping : Event → Bool
  | .mappingStart _ => true
  | _ => false

end Event

def Told (chars : List Char) (located : LocatedEvent) : Prop :=
  ∀ text style properties, located.event = .scalar text style properties →
    (style = .plain ∧ (text = "" ∨ text = "~")) ∨ Spelled chars located.span style text

theorem told_missing (chars : List Char) (text : String) (properties : NodeProperties) (span : Span)
    (missing : text = "" ∨ text = "~") : Told chars ⟨.scalar text .plain properties, span⟩ := by
  rintro _ _ _ ⟨⟩
  exact .inl ⟨rfl, missing⟩

namespace ReaderState

def opens : ReaderState → Bool
  | .blockMappingStart => true
  | .blockSequenceStart => true
  | .flowMappingStart => true
  | .flowSequenceStart => true
  | _ => false

def inBlock : ReaderState → Bool
  | .documentContent => true
  | .blockNode => true
  | .blockMappingStart => true
  | .blockMappingKey => true
  | .blockMappingValue => true
  | .blockSequenceStart => true
  | .blockSequenceEntry => true
  | .indentlessEntry => true
  | _ => false

def inMapping : ReaderState → Bool
  | .blockMappingStart => true
  | .blockMappingKey => true
  | .blockMappingValue => true
  | _ => false

def onward : ReaderState → ReaderState → Bool
  | .blockMappingStart, .blockMappingValue => true
  | .blockMappingKey, .blockMappingValue => true
  | .blockMappingValue, .blockMappingKey => true
  | .blockSequenceStart, .blockSequenceEntry => true
  | .blockSequenceEntry, .blockSequenceEntry => true
  | .indentlessEntry, .indentlessEntry => true
  | .flowSequenceStart, .flowSequenceEntry => true
  | .flowSequenceEntry, .flowSequenceEntry => true
  | .flowMappingStart, .flowMappingValue => true
  | .flowMappingStart, .flowMappingNoValue => true
  | .flowMappingKey, .flowMappingValue => true
  | .flowMappingKey, .flowMappingNoValue => true
  | .flowMappingValue, .flowMappingKey => true
  | .flowMappingNoValue, .flowMappingKey => true
  | .pairKey, .pairValue => true
  | .pairValue, .pairEnd _ => true
  | _, _ => false

def closesBlock : ReaderState → Event → Bool
  | .blockMappingStart, .mappingEnd => true
  | .blockMappingKey, .mappingEnd => true
  | .blockSequenceStart, .sequenceEnd => true
  | .blockSequenceEntry, .sequenceEnd => true
  | _, _ => false

def closesOther : ReaderState → Event → Bool
  | .indentlessEntry, .sequenceEnd => true
  | .flowSequenceStart, .sequenceEnd => true
  | .flowSequenceEntry, .sequenceEnd => true
  | .flowMappingStart, .mappingEnd => true
  | .flowMappingKey, .mappingEnd => true
  | _, _ => false

end ReaderState

namespace Reader

open Lexer

def unwind (stack : List ReaderState) : List ReaderState :=
  stack.headD .ended :: stack.tail

def control (reader : Reader) : List ReaderState :=
  reader.state :: reader.stack

inductive Waiting (state : ReaderState) (stack : List ReaderState) : List ReaderState → Prop where
  | root (isRoot : state = .blockNode ∨ state = .documentContent) : Waiting state stack stack
  | inner (next : ReaderState) (follows : state.onward next = true) : Waiting state stack (next :: stack)

-- What reading a node comes to. A block is deeper than the blocks around it.
inductive NodeTurn (chars : List Char) (inBlock inMapping : Bool) (waiting : List ReaderState) (columns : List Int)
    (located : LocatedEvent) : List ReaderState → List Int → Prop where
  | leaf (isLeaf : located.event.isLeaf = true) (told : Told chars located) :
      NodeTurn chars inBlock inMapping waiting columns located (unwind waiting) columns
  | flowSequence (opens : located.event.opensSequence = true) :
      NodeTurn chars inBlock inMapping waiting columns located (.flowSequenceStart :: waiting) columns
  | flowMapping (opens : located.event.opensMapping = true) :
      NodeTurn chars inBlock inMapping waiting columns located (.flowMappingStart :: waiting) columns
  | dash (opens : located.event.opensSequence = true) (allowed : inMapping = true) :
      NodeTurn chars inBlock inMapping waiting columns located (.indentlessEntry :: waiting) columns
  | blockSequence (opens : located.event.opensSequence = true) (allowed : inBlock = true)
      (deeper : columns.headD (-1) < located.span.start.column) :
      NodeTurn chars inBlock inMapping waiting columns located (.blockSequenceStart :: waiting) (located.span.start.column :: columns)
  | blockMapping (opens : located.event.opensMapping = true) (allowed : inBlock = true)
      (deeper : columns.headD (-1) < located.span.start.column) :
      NodeTurn chars inBlock inMapping waiting columns located (.blockMappingStart :: waiting) (located.span.start.column :: columns)

inductive Turn (chars : List Char) (state : ReaderState) (stack : List ReaderState) (columns : List Int)
    (located : LocatedEvent) : List ReaderState → List Int → Prop where
  | start (root : ReaderState) (outside : state = .implicitDocument ∨ state = .explicitDocument)
      (begins : located.event = .documentStart) (isRoot : root = .blockNode ∨ root = .documentContent) :
      Turn chars state stack columns located (root :: .documentEnd :: stack) columns
  | finish (next : ReaderState) (read : state = .documentEnd) (ends : located.event = .documentEnd)
      (outside : next = .implicitDocument ∨ next = .explicitDocument) : Turn chars state stack columns located (next :: stack) columns
  | node (waiting control : List ReaderState) (inner : List Int) (waits : Waiting state stack waiting)
      (reads : NodeTurn chars state.inBlock state.inMapping waiting columns located control inner) :
      Turn chars state stack columns located control inner
  | pair (inSequence : state = .flowSequenceStart ∨ state = .flowSequenceEntry) (opens : located.event.opensMapping = true) :
      Turn chars state stack columns located (.pairKey :: stack) columns
  | closeBlock (column : Int) (outer : List Int) (innermost : columns = column :: outer)
      (closes : state.closesBlock located.event = true) : Turn chars state stack columns located (unwind stack) outer
  | close (closes : state.closesOther located.event = true) : Turn chars state stack columns located (unwind stack) columns
  | pairEnd (mark : Mark) (atEnd : state = .pairEnd mark) (ends : located.event = .mappingEnd) :
      Turn chars state stack columns located (.flowSequenceEntry :: stack) columns

-- The columns of the blocks that the tokens taken so far have opened.
structure Past (chars : List Char) (lexer : Lexer) (columns : List Int) : Prop where
  steady : Steady chars lexer
  nested : Lexer.Nested lexer
  opened : (lexer.tokens.toList.take lexer.taken).foldlM Token.nest? [] = some columns

theorem next_past (chars : List Char) (lexer after : Lexer) (token : Token) (columns : List Int) (past : Past chars lexer columns)
    (finds : lexer.next = .ok (token, after)) : Past chars after columns := by
  unfold next at finds
  cases fills : fill (lexer.rest.length + 2) lexer with
  | error fault => simp [fills] at finds
  | ok filled =>
      obtain ⟨kept, keeps, -⟩ := fill_spec chars _ lexer filled past.steady (.inl (Nat.le_refl _)) fills
      simp only [fills, Except.ok.injEq, Prod.mk.injEq] at finds
      obtain ⟨-, rfl⟩ := finds
      refine ⟨kept, fill_nested chars _ lexer filled past.steady past.nested fills, ?_⟩
      rw [keeps.taken, keeps.past]
      exact past.opened

theorem front_nests (chars : List Char) (lexer : Lexer) (token : Token) (columns : List Int) (past : Past chars lexer columns)
    (front : lexer.front? = some token) : ∃ inner, token.nest? columns = some inner := by
  have all := past.nested.opened
  rw [← List.take_append_drop lexer.taken lexer.tokens.toList, List.foldlM_append, past.opened,
    List.drop_eq_getElem?_toList_append, show lexer.tokens.toList[lexer.taken]? = some token from front] at all
  simp only [Option.bind_eq_bind, Option.bind_some, Option.toList_some, List.singleton_append, List.foldlM_cons] at all
  obtain ⟨inner, first, -⟩ := Option.bind_eq_some_iff.mp all
  exact ⟨inner, first⟩

theorem take_past (chars : List Char) (lexer : Lexer) (token : Token) (columns inner : List Int) (past : Past chars lexer columns)
    (at_ : At chars lexer token) (nests : token.nest? columns = some inner) : Past chars lexer.take inner := by
  refine ⟨at_.take.1, ⟨past.nested.opened, past.nested.plain, past.nested.deep⟩, ?_⟩
  change (lexer.tokens.toList.take (lexer.taken + 1)).foldlM Token.nest? [] = some inner
  rw [List.take_add_one, show lexer.tokens.toList[lexer.taken]? = some token from at_.front, List.foldlM_append, past.opened]
  simpa using nests

theorem take_plain (chars : List Char) (lexer : Lexer) (token : Token) (columns : List Int) (past : Past chars lexer columns)
    (at_ : At chars lexer token) (plain : token.kind.isBorder = false) : Past chars lexer.take columns :=
  take_past chars lexer token columns columns past at_ (token.nest_plain columns plain)

theorem peek_past (chars : List Char) (reader next : Reader) (token : Token) (columns : List Int)
    (past : Past chars reader.lexer columns) (peeks : reader.peek = .ok (token, next)) :
    ∃ lexer, next = { reader with lexer := lexer } ∧ At chars lexer token ∧ Past chars lexer columns := by
  unfold peek at peeks
  obtain ⟨⟨found, lexer⟩, finds, same⟩ := Fault.bind_ok _ _ _ peeks
  obtain ⟨rfl, rfl⟩ := Prod.mk.inj (Except.ok.inj same)
  obtain ⟨kept, full, front, -⟩ := next_spec chars reader.lexer lexer found past.steady finds
  exact ⟨lexer, rfl, ⟨kept, full, front⟩, next_past chars reader.lexer lexer found columns past finds⟩

structure Sited (chars : List Char) (reader : Reader) (columns : List Int) : Prop where
  stacked : ∀ state ∈ reader.stack, state.opens = false
  still : reader.state.opens = false → Past chars reader.lexer columns
  opening : reader.state.opens = true →
    ∃ outer token, Past chars reader.lexer outer ∧ At chars reader.lexer token ∧ token.nest? outer = some columns

theorem sited_still (chars : List Char) (reader : Reader) (columns : List Int)
    (stacked : ∀ state ∈ reader.stack, state.opens = false) (closed : reader.state.opens = false)
    (past : Past chars reader.lexer columns) : Sited chars reader columns :=
  ⟨stacked, fun _ => past, fun opens => by simp [closed] at opens⟩

theorem sited_opening (chars : List Char) (reader : Reader) (columns inner : List Int) (token : Token)
    (stacked : ∀ state ∈ reader.stack, state.opens = false) (opens : reader.state.opens = true)
    (past : Past chars reader.lexer columns) (at_ : At chars reader.lexer token) (nests : token.nest? columns = some inner) :
    Sited chars reader inner :=
  ⟨stacked, fun closed => by simp [opens] at closed, fun _ => ⟨columns, token, past, at_, nests⟩⟩

theorem sited_left (chars : List Char) (reader : Reader) (columns : List Int)
    (stacked : ∀ state ∈ reader.stack, state.opens = false) (past : Past chars reader.lexer columns) :
    Sited chars reader.leave columns := by
  refine sited_still chars reader.leave columns (fun state member => stacked state (List.mem_of_mem_tail member)) ?_ past
  change (reader.stack.headD .ended).opens = false
  cases known : reader.stack with
  | nil => rfl
  | cons first rest => exact stacked first (by rw [known]; exact List.mem_cons_self)

theorem start_sited (chars : List Char) : Sited chars { lexer := Lexer.start chars } [] := by
  have nested : Lexer.Nested (Lexer.start chars) :=
    ⟨by simp [Lexer.start, Lexer.columns, Lexer.columnsOf], by simp [Lexer.start], by simp [Lexer.start]⟩
  exact sited_still chars _ [] (by simp) rfl ⟨Lexer.start_steady chars, nested, by simp [Lexer.start]⟩

theorem nest_opens (columns inner : List Int) (token : Token) (opens : token.kind.opensBlock = true)
    (nests : token.nest? columns = some inner) :
    columns.headD (-1) < token.span.start.column ∧ inner = (token.span.start.column : Int) :: columns := by
  simp only [Token.nest?, opens, if_true] at nests
  split at nests
  next deeper => exact ⟨deeper, (Option.some.inj nests).symm⟩
  next => cases nests

theorem nest_closes (columns inner : List Int) (token : Token) (closes : token.kind = .blockEnd)
    (nests : token.nest? columns = some inner) : ∃ column, columns = column :: inner := by
  simp only [Token.nest?, closes, TokenKind.opensBlock, Bool.false_eq_true, if_false, if_true] at nests
  cases columns with
  | nil => cases nests
  | cons column outer => exact ⟨column, congrArg _ (Option.some.inj nests)⟩

section

variable (chars : List Char) (columns : List Int)

theorem content_turns (inBlock indentless : Bool) (properties : NodeProperties) (reader next : Reader) (located : LocatedEvent)
    (stacked : ∀ state ∈ reader.stack, state.opens = false) (past : Past chars reader.lexer columns)
    (found : reader.content inBlock indentless properties = .ok (some located, next)) :
    ∃ inner, Sited chars next inner ∧ NodeTurn chars inBlock indentless reader.stack columns located next.control inner := by
  unfold content at found
  obtain ⟨⟨token, peeked⟩, peeks, rest⟩ := Fault.bind_ok _ _ _ found
  obtain ⟨lexer, rfl, at_, kept⟩ := peek_past chars reader peeked token columns past peeks
  obtain ⟨inner, nests⟩ := front_nests chars lexer token columns kept at_.front
  simp only at rest
  split at rest
  next style text kind =>
    obtain ⟨rfl, rfl⟩ := emit_ok rest
    have taken := take_plain chars lexer token columns kept at_ (by rw [kind]; rfl)
    refine ⟨columns, sited_left chars { reader with lexer := lexer.take } columns stacked taken, .leaf rfl ?_⟩
    rintro _ _ _ ⟨⟩
    exact .inr (at_.fits.spelled style text kind)
  next kind =>
    obtain ⟨rfl, rfl⟩ := emit_ok rest
    exact ⟨columns, sited_opening chars _ columns columns token stacked rfl kept at_
      (token.nest_plain columns (by rw [kind]; rfl)), .flowSequence rfl⟩
  next kind =>
    obtain ⟨rfl, rfl⟩ := emit_ok rest
    exact ⟨columns, sited_opening chars _ columns columns token stacked rfl kept at_
      (token.nest_plain columns (by rw [kind]; rfl)), .flowMapping rfl⟩
  next =>
    split at rest
    next dash =>
      obtain ⟨rfl, rfl⟩ := emit_ok rest
      exact ⟨columns, sited_still chars _ columns stacked rfl kept, .dash rfl dash.2⟩
    next =>
      split at rest
      next isSequence =>
        obtain ⟨rfl, rfl⟩ := emit_ok rest
        obtain ⟨deeper, rfl⟩ := nest_opens columns inner token (by rw [isSequence.1]; rfl) nests
        exact ⟨_, sited_opening chars _ columns _ token stacked rfl kept at_ nests, .blockSequence rfl isSequence.2 deeper⟩
      next =>
        split at rest
        next isMapping =>
          obtain ⟨rfl, rfl⟩ := emit_ok rest
          obtain ⟨deeper, rfl⟩ := nest_opens columns inner token (by rw [isMapping.1]; rfl) nests
          exact ⟨_, sited_opening chars _ columns _ token stacked rfl kept at_ nests, .blockMapping rfl isMapping.2 deeper⟩
        next =>
          split at rest
          next =>
            obtain ⟨rfl, rfl⟩ := emit_ok rest
            exact ⟨columns, sited_left chars { reader with lexer := lexer } columns stacked kept,
              .leaf rfl (told_missing chars _ _ _ (.inl rfl))⟩
          next => cases rest

theorem properties_past (reader next : Reader) (properties : NodeProperties) (past : Past chars reader.lexer columns)
    (found : reader.properties = .ok (properties, next)) : next.stack = reader.stack ∧ Past chars next.lexer columns := by
  unfold Reader.properties at found
  obtain ⟨⟨token, peeked⟩, peeks, rest⟩ := Fault.bind_ok _ _ _ found
  obtain ⟨lexer, rfl, at_, kept⟩ := peek_past chars reader peeked token columns past peeks
  simp only at rest
  split at rest
  next name kind =>
    have taken := take_plain chars lexer token columns kept at_ (by rw [kind]; rfl)
    obtain ⟨⟨following, after⟩, peeksAgain, ends⟩ := Fault.bind_ok _ _ _ rest
    obtain ⟨later, rfl, at_later, keptLater⟩ := peek_past chars _ after following columns taken peeksAgain
    simp only at ends
    split at ends
    next handle rest second =>
      obtain ⟨tag, -, last⟩ := Fault.bind_ok _ _ _ ends
      obtain ⟨-, rfl⟩ := Prod.mk.inj (Except.ok.inj last)
      exact ⟨rfl, take_plain chars later following columns keptLater at_later (by rw [second]; rfl)⟩
    next =>
      obtain ⟨-, rfl⟩ := Prod.mk.inj (Except.ok.inj ends)
      exact ⟨rfl, keptLater⟩
  next handle name kind =>
    have taken := take_plain chars lexer token columns kept at_ (by rw [kind]; rfl)
    obtain ⟨tag, -, last⟩ := Fault.bind_ok _ _ _ rest
    obtain ⟨⟨following, after⟩, peeksAgain, ends⟩ := Fault.bind_ok _ _ _ last
    obtain ⟨later, rfl, at_later, keptLater⟩ := peek_past chars _ after following columns taken peeksAgain
    simp only at ends
    split at ends
    next anchor second =>
      obtain ⟨-, rfl⟩ := Prod.mk.inj (Except.ok.inj ends)
      exact ⟨rfl, take_plain chars later following columns keptLater at_later (by rw [second]; rfl)⟩
    next =>
      obtain ⟨-, rfl⟩ := Prod.mk.inj (Except.ok.inj ends)
      exact ⟨rfl, keptLater⟩
  next =>
    obtain ⟨-, rfl⟩ := Prod.mk.inj (Except.ok.inj rest)
    exact ⟨rfl, kept⟩

theorem node_turns (inBlock indentless : Bool) (reader next : Reader) (located : LocatedEvent)
    (stacked : ∀ state ∈ reader.stack, state.opens = false) (past : Past chars reader.lexer columns)
    (found : reader.node inBlock indentless = .ok (some located, next)) :
    ∃ inner, Sited chars next inner ∧ NodeTurn chars inBlock indentless reader.stack columns located next.control inner := by
  unfold node at found
  obtain ⟨⟨token, peeked⟩, peeks, rest⟩ := Fault.bind_ok _ _ _ found
  obtain ⟨lexer, rfl, at_, kept⟩ := peek_past chars reader peeked token columns past peeks
  simp only at rest
  split at rest
  next name kind =>
    split at rest
    next =>
      obtain ⟨rfl, rfl⟩ := emit_ok rest
      have taken := take_plain chars lexer token columns kept at_ (by rw [kind]; rfl)
      exact ⟨columns, sited_left chars { reader with lexer := lexer.take } columns stacked taken, .leaf rfl nofun⟩
    next => cases rest
  next =>
    obtain ⟨⟨properties, prepared⟩, gathers, contents⟩ := Fault.bind_ok _ _ _ rest
    obtain ⟨same, keptPrepared⟩ := properties_past chars columns _ prepared properties kept gathers
    have reads := content_turns chars columns inBlock indentless properties prepared next located (by rw [same]; exact stacked)
      keptPrepared contents
    rwa [same] at reads

def Leads (state : ReaderState) (stack : List ReaderState) (located : LocatedEvent) (next : Reader) : Prop :=
  ∃ inner, Sited chars next inner ∧ Turn chars state stack columns located next.control inner

theorem onward_closed (state next : ReaderState) (follows : state.onward next = true) : next.opens = false := by
  cases next <;> first | rfl | (cases state <;> cases follows)

variable (state : ReaderState) (reader next : Reader) (located : LocatedEvent)
  (stacked : ∀ state ∈ reader.stack, state.opens = false) (past : Past chars reader.lexer columns)

include stacked past

theorem omitted_leads (onward : ReaderState) (follows : state.onward onward = true) (span : Span)
    (omits : (reader.enter onward).omitted span = .ok (some located, next)) :
    Leads chars columns state reader.stack located next := by
  obtain ⟨rfl, rfl⟩ := emit_ok omits
  exact ⟨columns, sited_still chars _ columns stacked (onward_closed state onward follows) past,
    .node (onward :: reader.stack) _ _ (.inner onward follows) (.leaf rfl (told_missing chars _ _ _ (.inr rfl)))⟩

theorem inner_leads (onward : ReaderState) (follows : state.onward onward = true)
    (reads : (reader.push onward).node state.inBlock state.inMapping = .ok (some located, next)) :
    Leads chars columns state reader.stack located next := by
  have pushed : ∀ other ∈ (reader.push onward).stack, other.opens = false :=
    List.forall_mem_cons.mpr ⟨onward_closed state onward follows, stacked⟩
  obtain ⟨inner, sited, turn⟩ := node_turns chars columns _ _ (reader.push onward) next located pushed past reads
  exact ⟨inner, sited, .node (onward :: reader.stack) _ _ (.inner onward follows) turn⟩

theorem root_leads (isRoot : state = .blockNode ∨ state = .documentContent)
    (reads : reader.node true false = .ok (some located, next)) : Leads chars columns state reader.stack located next := by
  obtain ⟨inner, sited, turn⟩ := node_turns chars columns true false reader next located stacked past reads
  refine ⟨inner, sited, .node reader.stack _ _ (.root isRoot) ?_⟩
  rcases isRoot with rfl | rfl <;> exact turn

theorem close_block_leads (token : Token) (at_ : At chars reader.lexer token) (isEnd : token.kind = .blockEnd) (event : Event)
    (closes : state.closesBlock event = true) (emits : reader.leave.take.emit event token.span = .ok (some located, next)) :
    Leads chars columns state reader.stack located next := by
  obtain ⟨rfl, rfl⟩ := emit_ok emits
  obtain ⟨inner, nests⟩ := front_nests chars reader.lexer token columns past at_.front
  obtain ⟨column, innermost⟩ := nest_closes columns inner token isEnd nests
  have taken := take_past chars reader.lexer token columns inner past at_ nests
  exact ⟨inner, sited_left chars { reader with lexer := reader.lexer.take } inner stacked taken,
    .closeBlock column inner innermost closes⟩

theorem block_mapping_key_leads (isKey : state = .blockMappingStart ∨ state = .blockMappingKey)
    (found : reader.blockMappingKey = .ok (some located, next)) : Leads chars columns state reader.stack located next := by
  have follows : state.onward .blockMappingValue = true := by rcases isKey with rfl | rfl <;> rfl
  unfold blockMappingKey at found
  obtain ⟨⟨token, peeked⟩, peeks, rest⟩ := Fault.bind_ok _ _ _ found
  obtain ⟨lexer, rfl, at_, kept⟩ := peek_past chars reader peeked token columns past peeks
  simp only at rest
  split at rest
  next kind =>
    have taken := take_plain chars lexer token columns kept at_ (by rw [kind]; rfl)
    obtain ⟨⟨following, after⟩, peeksAgain, ends⟩ := Fault.bind_ok _ _ _ rest
    obtain ⟨later, rfl, -, keptLater⟩ := peek_past chars _ after following columns taken peeksAgain
    simp only at ends
    split at ends
    next => exact omitted_leads chars columns state { reader with lexer := later } next located stacked keptLater _ follows _ ends
    next =>
      refine inner_leads chars columns state { reader with lexer := later } next located stacked keptLater _ follows ?_
      rcases isKey with rfl | rfl <;> exact ends
  next => exact omitted_leads chars columns state { reader with lexer := lexer } next located stacked kept _ follows _ rest
  next kind =>
    exact close_block_leads chars columns state { reader with lexer := lexer } next located stacked kept token at_ kind .mappingEnd
      (by rcases isKey with rfl | rfl <;> rfl) rest
  next => cases rest

theorem block_mapping_value_leads (found : reader.blockMappingValue = .ok (some located, next)) :
    Leads chars columns .blockMappingValue reader.stack located next := by
  unfold blockMappingValue at found
  obtain ⟨⟨token, peeked⟩, peeks, rest⟩ := Fault.bind_ok _ _ _ found
  obtain ⟨lexer, rfl, at_, kept⟩ := peek_past chars reader peeked token columns past peeks
  simp only at rest
  split at rest
  next kind =>
    have taken := take_plain chars lexer token columns kept at_ (by rw [kind]; rfl)
    obtain ⟨⟨following, after⟩, peeksAgain, ends⟩ := Fault.bind_ok _ _ _ rest
    obtain ⟨later, rfl, -, keptLater⟩ := peek_past chars _ after following columns taken peeksAgain
    simp only at ends
    split at ends
    next => exact omitted_leads chars columns _ { reader with lexer := later } next located stacked keptLater _ rfl _ ends
    next => exact inner_leads chars columns _ { reader with lexer := later } next located stacked keptLater _ rfl ends
  next => exact omitted_leads chars columns _ { reader with lexer := lexer } next located stacked kept _ rfl _ rest

theorem block_sequence_entry_leads (isEntry : state = .blockSequenceStart ∨ state = .blockSequenceEntry)
    (found : reader.blockSequenceEntry = .ok (some located, next)) : Leads chars columns state reader.stack located next := by
  have follows : state.onward .blockSequenceEntry = true := by rcases isEntry with rfl | rfl <;> rfl
  unfold blockSequenceEntry at found
  obtain ⟨⟨token, peeked⟩, peeks, rest⟩ := Fault.bind_ok _ _ _ found
  obtain ⟨lexer, rfl, at_, kept⟩ := peek_past chars reader peeked token columns past peeks
  simp only at rest
  split at rest
  next kind =>
    exact close_block_leads chars columns state { reader with lexer := lexer } next located stacked kept token at_ kind .sequenceEnd
      (by rcases isEntry with rfl | rfl <;> rfl) rest
  next kind =>
    have taken := take_plain chars lexer token columns kept at_ (by rw [kind]; rfl)
    obtain ⟨⟨following, after⟩, peeksAgain, ends⟩ := Fault.bind_ok _ _ _ rest
    obtain ⟨later, rfl, -, keptLater⟩ := peek_past chars _ after following columns taken peeksAgain
    simp only at ends
    split at ends
    next => exact omitted_leads chars columns state { reader with lexer := later } next located stacked keptLater _ follows _ ends
    next =>
      refine inner_leads chars columns state { reader with lexer := later } next located stacked keptLater _ follows ?_
      rcases isEntry with rfl | rfl <;> exact ends
  next => cases rest

theorem indentless_entry_leads (found : reader.indentlessEntry = .ok (some located, next)) :
    Leads chars columns .indentlessEntry reader.stack located next := by
  unfold Reader.indentlessEntry at found
  obtain ⟨⟨token, peeked⟩, peeks, rest⟩ := Fault.bind_ok _ _ _ found
  obtain ⟨lexer, rfl, at_, kept⟩ := peek_past chars reader peeked token columns past peeks
  simp only at rest
  split at rest
  next kind =>
    have taken := take_plain chars lexer token columns kept at_ (by rw [kind]; rfl)
    obtain ⟨⟨following, after⟩, peeksAgain, ends⟩ := Fault.bind_ok _ _ _ rest
    obtain ⟨later, rfl, -, keptLater⟩ := peek_past chars _ after following columns taken peeksAgain
    simp only at ends
    split at ends
    next => exact omitted_leads chars columns _ { reader with lexer := later } next located stacked keptLater _ rfl _ ends
    next => exact inner_leads chars columns _ { reader with lexer := later } next located stacked keptLater _ rfl ends
  next =>
    obtain ⟨rfl, rfl⟩ := emit_ok rest
    exact ⟨columns, sited_left chars { reader with lexer := lexer } columns stacked kept, .close rfl⟩

theorem close_flow_leads (token : Token) (at_ : At chars reader.lexer token) (plain : token.kind.isBorder = false) (event : Event)
    (span : Span) (closes : state.closesOther event = true)
    (emits : reader.leave.take.emit event span = .ok (some located, next)) : Leads chars columns state reader.stack located next := by
  obtain ⟨rfl, rfl⟩ := emit_ok emits
  have taken := take_plain chars reader.lexer token columns past at_ plain
  exact ⟨columns, sited_left chars { reader with lexer := reader.lexer.take } columns stacked taken, .close closes⟩

theorem flow_sequence_item_leads (isEntry : state = .flowSequenceStart ∨ state = .flowSequenceEntry)
    (found : reader.flowSequenceItem = .ok (some located, next)) : Leads chars columns state reader.stack located next := by
  unfold flowSequenceItem at found
  obtain ⟨⟨token, peeked⟩, peeks, rest⟩ := Fault.bind_ok _ _ _ found
  obtain ⟨lexer, rfl, at_, kept⟩ := peek_past chars reader peeked token columns past peeks
  simp only at rest
  split at rest
  next kind =>
    exact close_flow_leads chars columns state { reader with lexer := lexer } next located stacked kept token at_ (by rw [kind]; rfl)
      .sequenceEnd token.span (by rcases isEntry with rfl | rfl <;> rfl) rest
  next kind =>
    obtain ⟨rfl, rfl⟩ := emit_ok rest
    have taken := take_plain chars lexer token columns kept at_ (by rw [kind]; rfl)
    exact ⟨columns, sited_still chars _ columns stacked rfl taken, .pair isEntry rfl⟩
  next =>
    refine inner_leads chars columns state { reader with lexer := lexer } next located stacked kept .flowSequenceEntry ?_ ?_
    · rcases isEntry with rfl | rfl <;> rfl
    · rcases isEntry with rfl | rfl <;> exact rest

theorem flow_sequence_entry_leads (found : reader.flowSequenceEntry = .ok (some located, next)) :
    Leads chars columns .flowSequenceEntry reader.stack located next := by
  unfold flowSequenceEntry at found
  obtain ⟨⟨token, peeked⟩, peeks, rest⟩ := Fault.bind_ok _ _ _ found
  obtain ⟨lexer, rfl, at_, kept⟩ := peek_past chars reader peeked token columns past peeks
  simp only at rest
  split at rest
  next => exact flow_sequence_item_leads chars columns _ { reader with lexer := lexer } next located stacked kept (.inr rfl) rest
  next kind =>
    have taken := take_plain chars lexer token columns kept at_ (by rw [kind]; rfl)
    exact flow_sequence_item_leads chars columns _ { reader with lexer := lexer.take } next located stacked taken (.inr rfl) rest
  next => cases rest

theorem pair_key_leads (found : reader.pairKey = .ok (some located, next)) :
    Leads chars columns .pairKey reader.stack located next := by
  unfold pairKey at found
  obtain ⟨⟨token, peeked⟩, peeks, rest⟩ := Fault.bind_ok _ _ _ found
  obtain ⟨lexer, rfl, at_, kept⟩ := peek_past chars reader peeked token columns past peeks
  have left (plain : token.kind.isBorder = false)
      (omits : ((({ reader with lexer := lexer } : Reader).enter .pairValue).take).omitted token.span = .ok (some located, next)) :
      Leads chars columns .pairKey reader.stack located next :=
    omitted_leads chars columns .pairKey { reader with lexer := lexer.take } next located stacked
      (take_plain chars lexer token columns kept at_ plain) .pairValue rfl token.span omits
  simp only at rest
  split at rest
  next kind => exact left (by rw [kind]; rfl) rest
  next kind => exact left (by rw [kind]; rfl) rest
  next kind => exact left (by rw [kind]; rfl) rest
  next => exact inner_leads chars columns _ { reader with lexer := lexer } next located stacked kept .pairValue rfl rest

theorem pair_value_leads (found : reader.pairValue = .ok (some located, next)) :
    Leads chars columns .pairValue reader.stack located next := by
  unfold pairValue at found
  obtain ⟨⟨token, peeked⟩, peeks, rest⟩ := Fault.bind_ok _ _ _ found
  obtain ⟨lexer, rfl, at_, kept⟩ := peek_past chars reader peeked token columns past peeks
  simp only at rest
  split at rest
  next kind =>
    have taken := take_plain chars lexer token columns kept at_ (by rw [kind]; rfl)
    obtain ⟨⟨following, after⟩, peeksAgain, ends⟩ := Fault.bind_ok _ _ _ rest
    obtain ⟨later, rfl, -, keptLater⟩ := peek_past chars _ after following columns taken peeksAgain
    simp only at ends
    split at ends
    next => exact omitted_leads chars columns _ { reader with lexer := later } next located stacked keptLater _ rfl _ ends
    next => exact inner_leads chars columns _ { reader with lexer := later } next located stacked keptLater _ rfl ends
  next => exact omitted_leads chars columns _ { reader with lexer := lexer } next located stacked kept _ rfl _ rest

theorem flow_mapping_entry_leads (isKey : state = .flowMappingStart ∨ state = .flowMappingKey) (span : Span)
    (found : reader.flowMappingEntry span = .ok (some located, next)) : Leads chars columns state reader.stack located next := by
  have follows : state.onward .flowMappingValue = true := by rcases isKey with rfl | rfl <;> rfl
  have alone : state.onward .flowMappingNoValue = true := by rcases isKey with rfl | rfl <;> rfl
  unfold flowMappingEntry at found
  obtain ⟨⟨token, peeked⟩, peeks, rest⟩ := Fault.bind_ok _ _ _ found
  obtain ⟨lexer, rfl, at_, kept⟩ := peek_past chars reader peeked token columns past peeks
  simp only at rest
  split at rest
  next kind =>
    have taken := take_plain chars lexer token columns kept at_ (by rw [kind]; rfl)
    obtain ⟨⟨following, after⟩, peeksAgain, ends⟩ := Fault.bind_ok _ _ _ rest
    obtain ⟨later, rfl, -, keptLater⟩ := peek_past chars _ after following columns taken peeksAgain
    have left := omitted_leads chars columns state { reader with lexer := later } next located stacked keptLater _ follows
      following.span
    simp only at ends
    split at ends
    next => exact left ends
    next => exact left ends
    next => exact left ends
    next =>
      refine inner_leads chars columns state { reader with lexer := later } next located stacked keptLater _ follows ?_
      rcases isKey with rfl | rfl <;> exact ends
  next => exact omitted_leads chars columns state { reader with lexer := lexer } next located stacked kept _ follows _ rest
  next kind =>
    exact close_flow_leads chars columns state { reader with lexer := lexer } next located stacked kept token at_ (by rw [kind]; rfl)
      .mappingEnd span (by rcases isKey with rfl | rfl <;> rfl) rest
  next =>
    refine inner_leads chars columns state { reader with lexer := lexer } next located stacked kept _ alone ?_
    rcases isKey with rfl | rfl <;> exact rest

theorem flow_mapping_key_leads (isFirst : Bool) (isKey : state = .flowMappingStart ∨ state = .flowMappingKey)
    (found : reader.flowMappingKey isFirst = .ok (some located, next)) : Leads chars columns state reader.stack located next := by
  unfold flowMappingKey at found
  obtain ⟨⟨token, peeked⟩, peeks, rest⟩ := Fault.bind_ok _ _ _ found
  obtain ⟨lexer, rfl, at_, kept⟩ := peek_past chars reader peeked token columns past peeks
  simp only at rest
  split at rest
  next =>
    exact flow_mapping_entry_leads chars columns state { reader with lexer := lexer } next located stacked kept isKey _ rest
  next =>
    split at rest
    next kind =>
      have taken := take_plain chars lexer token columns kept at_ (by rw [kind]; rfl)
      exact flow_mapping_entry_leads chars columns state { reader with lexer := lexer.take } next located stacked taken isKey _ rest
    next => cases rest

theorem flow_mapping_value_leads (found : reader.flowMappingValue = .ok (some located, next)) :
    Leads chars columns .flowMappingValue reader.stack located next := by
  unfold flowMappingValue at found
  obtain ⟨⟨token, peeked⟩, peeks, rest⟩ := Fault.bind_ok _ _ _ found
  obtain ⟨lexer, rfl, at_, kept⟩ := peek_past chars reader peeked token columns past peeks
  simp only at rest
  split at rest
  next kind =>
    have taken := take_plain chars lexer token columns kept at_ (by rw [kind]; rfl)
    obtain ⟨⟨following, after⟩, peeksAgain, ends⟩ := Fault.bind_ok _ _ _ rest
    obtain ⟨later, rfl, -, keptLater⟩ := peek_past chars _ after following columns taken peeksAgain
    simp only at ends
    split at ends
    next => exact omitted_leads chars columns _ { reader with lexer := later } next located stacked keptLater _ rfl _ ends
    next => exact inner_leads chars columns _ { reader with lexer := later } next located stacked keptLater _ rfl ends
  next => exact omitted_leads chars columns _ { reader with lexer := lexer } next located stacked kept _ rfl _ rest

theorem flow_mapping_no_value_leads (found : reader.flowMappingNoValue = .ok (some located, next)) :
    Leads chars columns .flowMappingNoValue reader.stack located next := by
  unfold flowMappingNoValue at found
  obtain ⟨⟨token, peeked⟩, peeks, rest⟩ := Fault.bind_ok _ _ _ found
  obtain ⟨lexer, rfl, -, kept⟩ := peek_past chars reader peeked token columns past peeks
  exact omitted_leads chars columns _ { reader with lexer := lexer } next located stacked kept _ rfl _ rest

theorem document_content_leads (found : reader.documentContent = .ok (some located, next)) :
    Leads chars columns .documentContent reader.stack located next := by
  unfold documentContent at found
  obtain ⟨⟨token, peeked⟩, peeks, rest⟩ := Fault.bind_ok _ _ _ found
  obtain ⟨lexer, rfl, -, kept⟩ := peek_past chars reader peeked token columns past peeks
  have left (omits : ({ reader with lexer := lexer } : Reader).leave.omitted token.span = .ok (some located, next)) :
      Leads chars columns .documentContent reader.stack located next := by
    obtain ⟨rfl, rfl⟩ := emit_ok omits
    exact ⟨columns, sited_left chars { reader with lexer := lexer } columns stacked kept,
      .node reader.stack _ _ (.root (.inr rfl)) (.leaf rfl (told_missing chars _ _ _ (.inr rfl)))⟩
  simp only at rest
  split at rest
  next => exact left rest
  next => exact left rest
  next => exact left rest
  next => exact left rest
  next => exact left rest
  next => exact root_leads chars columns _ { reader with lexer := lexer } next located stacked kept (.inr rfl) rest

theorem document_end_leads (found : reader.documentEnd = .ok (some located, next)) :
    Leads chars columns .documentEnd reader.stack located next := by
  unfold Reader.documentEnd at found
  obtain ⟨⟨token, peeked⟩, peeks, rest⟩ := Fault.bind_ok _ _ _ found
  obtain ⟨lexer, rfl, at_, kept⟩ := peek_past chars reader peeked token columns past peeks
  simp only at rest
  split at rest
  next kind =>
    obtain ⟨rfl, rfl⟩ := emit_ok rest
    have taken := take_plain chars lexer token columns kept at_ (by rw [kind]; rfl)
    exact ⟨columns, sited_still chars _ columns stacked rfl taken, .finish _ rfl rfl (.inl rfl)⟩
  next => cases rest
  next => cases rest
  next =>
    obtain ⟨rfl, rfl⟩ := emit_ok rest
    exact ⟨columns, sited_still chars _ columns stacked rfl kept, .finish _ rfl rfl (.inr rfl)⟩

omit stacked in
theorem skip_document_ends_past (fuel : Nat) (token : Token) (skips : skipDocumentEnds fuel reader = .ok (token, next)) :
    next.stack = reader.stack ∧ At chars next.lexer token ∧ Past chars next.lexer columns := by
  induction fuel generalizing reader with
  | zero =>
      obtain ⟨lexer, rfl, at_, kept⟩ := peek_past chars reader next token columns past skips
      exact ⟨rfl, at_, kept⟩
  | succ fuel ih =>
      rw [skipDocumentEnds] at skips
      split at skips
      next => cases skips
      next front peeked peeks =>
        obtain ⟨lexer, rfl, at_, kept⟩ := peek_past chars reader peeked front columns past peeks
        split at skips
        next kind =>
          exact ih { reader with lexer := lexer.take } (take_plain chars lexer front columns kept at_ (by rw [kind]; rfl)) skips
        next =>
          obtain ⟨rfl, rfl⟩ := Prod.mk.inj (Except.ok.inj skips)
          exact ⟨rfl, at_, kept⟩

omit stacked in
theorem directives_past (fuel : Nat) (versionSeen : Bool) (token : Token)
    (takes : directives fuel versionSeen reader = .ok (token, next)) :
    next.stack = reader.stack ∧ At chars next.lexer token ∧ Past chars next.lexer columns := by
  induction fuel generalizing versionSeen reader with
  | zero =>
      obtain ⟨lexer, rfl, at_, kept⟩ := peek_past chars reader next token columns past takes
      exact ⟨rfl, at_, kept⟩
  | succ fuel ih =>
      rw [directives] at takes
      split at takes
      next => cases takes
      next front peeked peeks =>
        obtain ⟨lexer, rfl, at_, kept⟩ := peek_past chars reader peeked front columns past peeks
        split at takes
        next kind =>
          split at takes
          next => cases takes
          next =>
            exact ih { reader with lexer := lexer.take, tags := [] }
              (take_plain chars lexer front columns kept at_ (by rw [kind]; rfl)) true takes
        next handle start kind =>
          exact ih { reader with lexer := lexer.take, tags := [(handle, start)] }
            (take_plain chars lexer front columns kept at_ (by rw [kind]; rfl)) versionSeen takes
        next =>
          obtain ⟨rfl, rfl⟩ := Prod.mk.inj (Except.ok.inj takes)
          exact ⟨rfl, at_, kept⟩

theorem explicit_document_leads (outside : state = .implicitDocument ∨ state = .explicitDocument)
    (found : reader.explicitDocument = .ok (some located, next)) : Leads chars columns state reader.stack located next := by
  unfold explicitDocument at found
  obtain ⟨⟨token, begun⟩, takes, rest⟩ := Fault.bind_ok _ _ _ found
  obtain ⟨same, at_, kept⟩ := directives_past chars columns reader begun past _ _ token takes
  simp only at rest
  split at rest
  next kind =>
    obtain ⟨rfl, rfl⟩ := emit_ok rest
    have taken := take_plain chars begun.lexer token columns kept at_ (by rw [kind]; rfl)
    rw [← same] at stacked ⊢
    exact ⟨columns, sited_still chars _ columns (List.forall_mem_cons.mpr ⟨rfl, stacked⟩) rfl taken,
      .start _ outside rfl (.inr rfl)⟩
  next => cases rest

theorem document_leads (implicit : Bool) (outside : state = .implicitDocument ∨ state = .explicitDocument)
    (found : reader.document implicit = .ok (some located, next)) : Leads chars columns state reader.stack located next := by
  unfold document at found
  obtain ⟨⟨token, begun⟩, skips, rest⟩ := Fault.bind_ok _ _ _ found
  obtain ⟨same, -, kept⟩ := skip_document_ends_past chars columns reader begun past _ token skips
  rw [← same] at stacked ⊢
  have explicit (starts : begun.explicitDocument = .ok (some located, next)) :
      Leads chars columns state begun.stack located next :=
    explicit_document_leads chars columns state begun next located stacked kept outside starts
  simp only at rest
  split at rest
  next => cases rest
  next => exact explicit rest
  next => exact explicit rest
  next => exact explicit rest
  next =>
    split at rest
    next =>
      obtain ⟨rfl, rfl⟩ := emit_ok rest
      exact ⟨columns, sited_still chars _ columns (List.forall_mem_cons.mpr ⟨rfl, stacked⟩) rfl kept,
        .start _ outside rfl (.inl rfl)⟩
    next => exact explicit rest

end

theorem opened_past (chars : List Char) (columns : List Int) (reader : Reader) (begin : Reader → Step)
    (result : Option LocatedEvent × Reader) (sited : Sited chars reader columns) (opens : reader.state.opens = true)
    (steps : (reader.opened >>= begin) = .ok result) :
    ∃ inner, inner.stack = reader.stack ∧ Past chars inner.lexer columns ∧ begin inner = .ok result := by
  obtain ⟨outer, front, past, at_front, nests⟩ := sited.opening opens
  obtain ⟨inner, opened, begins⟩ := Fault.bind_ok _ _ _ steps
  unfold Reader.opened at opened
  obtain ⟨⟨token, peeked⟩, peeks, rest⟩ := Fault.bind_ok _ _ _ opened
  obtain rfl := Except.ok.inj rest
  obtain rfl := peek_again chars reader peeked front token at_front peeks
  obtain ⟨lexer, rfl, at_, kept⟩ := peek_past chars reader peeked token outer past peeks
  exact ⟨{ reader with lexer := lexer.take }, rfl, take_past chars lexer token outer columns kept at_ nests, begins⟩

theorem step_leads (chars : List Char) (columns : List Int) (reader next : Reader) (located : LocatedEvent)
    (sited : Sited chars reader columns) (steps : reader.step = .ok (some located, next)) :
    Leads chars columns reader.state reader.stack located next := by
  have stacked := sited.stacked
  have still := sited.still
  have entered (opens : reader.state.opens = true) (begin : Reader → Step)
      (begins : (reader.opened >>= begin) = .ok (some located, next)) :=
    opened_past chars columns reader begin _ sited opens begins
  unfold step at steps
  cases state : reader.state <;> rw [state] at steps still entered
  case implicitDocument => exact document_leads chars columns _ reader next located stacked (still rfl) true (.inl rfl) steps
  case explicitDocument => exact document_leads chars columns _ reader next located stacked (still rfl) false (.inr rfl) steps
  case documentContent => exact document_content_leads chars columns reader next located stacked (still rfl) steps
  case documentEnd => exact document_end_leads chars columns reader next located stacked (still rfl) steps
  case blockNode => exact root_leads chars columns _ reader next located stacked (still rfl) (.inl rfl) steps
  case blockMappingStart =>
    obtain ⟨inner, same, past, begins⟩ := entered rfl _ steps
    rw [← same] at stacked ⊢
    exact block_mapping_key_leads chars columns _ inner next located stacked past (.inl rfl) begins
  case blockMappingKey => exact block_mapping_key_leads chars columns _ reader next located stacked (still rfl) (.inr rfl) steps
  case blockMappingValue => exact block_mapping_value_leads chars columns reader next located stacked (still rfl) steps
  case blockSequenceStart =>
    obtain ⟨inner, same, past, begins⟩ := entered rfl _ steps
    rw [← same] at stacked ⊢
    exact block_sequence_entry_leads chars columns _ inner next located stacked past (.inl rfl) begins
  case blockSequenceEntry => exact block_sequence_entry_leads chars columns _ reader next located stacked (still rfl) (.inr rfl) steps
  case indentlessEntry => exact indentless_entry_leads chars columns reader next located stacked (still rfl) steps
  case flowSequenceStart =>
    obtain ⟨inner, same, past, begins⟩ := entered rfl _ steps
    rw [← same] at stacked ⊢
    exact flow_sequence_item_leads chars columns _ inner next located stacked past (.inl rfl) begins
  case flowSequenceEntry => exact flow_sequence_entry_leads chars columns reader next located stacked (still rfl) steps
  case flowMappingStart =>
    obtain ⟨inner, same, past, begins⟩ := entered rfl _ steps
    rw [← same] at stacked ⊢
    exact flow_mapping_key_leads chars columns _ inner next located stacked past true (.inl rfl) begins
  case flowMappingKey => exact flow_mapping_key_leads chars columns _ reader next located stacked (still rfl) false (.inr rfl) steps
  case flowMappingValue => exact flow_mapping_value_leads chars columns reader next located stacked (still rfl) steps
  case flowMappingNoValue => exact flow_mapping_no_value_leads chars columns reader next located stacked (still rfl) steps
  case pairKey => exact pair_key_leads chars columns reader next located stacked (still rfl) steps
  case pairValue => exact pair_value_leads chars columns reader next located stacked (still rfl) steps
  case pairEnd mark =>
    obtain ⟨rfl, rfl⟩ := emit_ok steps
    exact ⟨columns, sited_still chars _ columns stacked rfl (still rfl), .pairEnd mark rfl rfl⟩
  case ended => cases steps

end Reader
end YamlDialects.Yaml
