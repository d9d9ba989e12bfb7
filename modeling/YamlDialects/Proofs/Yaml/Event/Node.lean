import YamlDialects.Proofs.Yaml.Composition
import YamlDialects.Proofs.Yaml.Token.Next
import YamlDialects.Yaml.Event.Reader

set_option autoImplicit false

namespace YamlDialects.Yaml

namespace Token

variable (chars : List Char) (token : Token)

def edge : Nat :=
  token.span.stop.index + token.shift chars

theorem edge_spec (fits : token.Fits chars) :
    token.place chars ≤ token.edge chars ∧ token.edge chars ≤ token.finish chars ∧ token.span.stop.index ≤ token.edge chars := by
  have forward := fits.forward
  unfold place edge finish
  omega

theorem place_le_edge (fits : token.Fits chars) : token.place chars ≤ token.edge chars :=
  (token.edge_spec chars fits).1

end Token

namespace Lexer

def passed (chars : List Char) (lexer : Lexer) : Nat :=
  (lexer.last?.map (Token.finish chars)).getD 0

structure At (chars : List Char) (lexer : Lexer) (token : Token) : Prop where
  steady : Steady chars lexer
  full : lexer.Filled
  front : lexer.front? = some token

namespace At

variable {chars : List Char} {lexer : Lexer} {token : Token}

theorem fits (at_ : At chars lexer token) : token.Fits chars :=
  (front_spec chars lexer token at_.steady at_.front).1

theorem passed_le (at_ : At chars lexer token) : lexer.passed chars ≤ token.place chars := by
  have follows := (front_spec chars lexer token at_.steady at_.front).2
  unfold passed
  cases known : lexer.last? with
  | none => exact Nat.zero_le _
  | some last => exact Nat.le_trans (Nat.le_add_right _ _) (follows last known)

theorem take (at_ : At chars lexer token) :
    Steady chars lexer.take ∧ lexer.take.last? = some token ∧ lexer.take.passed chars = token.finish chars := by
  obtain ⟨steady, last⟩ := take_spec chars lexer token at_.steady at_.full at_.front
  exact ⟨steady, last, by rw [passed, last]; rfl⟩

end At

def Behind (chars : List Char) (limit : Nat) (allowed : Token → Nat) (lexer : Lexer) : Prop :=
  limit ≤ lexer.passed chars ∨ (lexer.Filled ∧ ∀ token ∈ lexer.front?, limit ≤ allowed token)

theorem At.behind {chars : List Char} {lexer : Lexer} {token : Token} (at_ : At chars lexer token) {limit : Nat}
    {allowed : Token → Nat} (le : limit ≤ allowed token) : Behind chars limit allowed lexer := by
  refine .inr ⟨at_.full, fun front member => ?_⟩
  obtain rfl := Option.mem_unique member at_.front
  exact le

end Lexer

open Lexer

-- How far the next token reaches over what has been read: a state that is sure to take it has been put at its end.
def ReaderState.allowance (chars : List Char) (state : ReaderState) (token : Token) : Nat :=
  match state with
  | .blockMappingStart => token.finish chars
  | .blockSequenceStart => token.finish chars
  | .flowSequenceStart => token.finish chars
  | .flowMappingStart => token.finish chars
  | .blockMappingKey => token.edge chars
  | .blockMappingValue => token.edge chars
  | .flowSequenceEntry => token.edge chars
  | .flowMappingKey => token.edge chars
  | .pairEnd _ => token.edge chars
  | .ended => token.edge chars
  | _ => token.place chars

theorem ReaderState.place_le_allowance (chars : List Char) (state : ReaderState) (token : Token) (fits : token.Fits chars) :
    token.place chars ≤ state.allowance chars token := by
  obtain ⟨place_le, edge_le, -⟩ := token.edge_spec chars fits
  unfold allowance
  split <;> omega

namespace Reader

-- A sequence without indentation ends with the entry of the mapping around it.
def Nested (inner outer : ReaderState) : Prop :=
  inner = .indentlessEntry → outer = .blockMappingKey ∨ outer = .blockMappingValue

structure Stacked (limit : Nat) (states : List ReaderState) : Prop where
  marks : ∀ mark, .pairEnd mark ∈ states → mark.index ≤ limit
  nested : states.IsChain Nested

structure Placed (chars : List Char) (limit : Nat) (reader : Reader) : Prop where
  steady : Steady chars reader.lexer
  stacked : Stacked limit (reader.state :: reader.stack)
  behind : Behind chars limit (reader.state.allowance chars) reader.lexer

theorem stacked_mono {limit further : Nat} {states : List ReaderState} (stacked : Stacked limit states) (le : limit ≤ further) :
    Stacked further states :=
  ⟨fun mark member => Nat.le_trans (stacked.marks mark member) le, stacked.nested⟩

theorem stacked_tail {limit : Nat} {state : ReaderState} {states : List ReaderState} (stacked : Stacked limit (state :: states)) :
    Stacked limit states :=
  ⟨fun mark member => stacked.marks mark (List.mem_cons_of_mem _ member), stacked.nested.tail⟩

def isPlain : ReaderState → Bool
  | .indentlessEntry => false
  | .pairEnd _ => false
  | _ => true

theorem stacked_cons {limit : Nat} {state : ReaderState} {states : List ReaderState} (stacked : Stacked limit states)
    (plain : isPlain state = true) : Stacked limit (state :: states) := by
  refine ⟨fun mark member => ?_, ?_⟩
  · rcases List.mem_cons.mp member with same | among
    · rw [← same] at plain
      cases plain
    · exact stacked.marks mark among
  · cases states with
    | nil => exact List.isChain_singleton _
    | cons outer rest =>
        refine List.isChain_cons_cons.mpr ⟨fun same => ?_, stacked.nested⟩
        rw [same] at plain
        cases plain

theorem stacked_leave {limit : Nat} {states : List ReaderState} (stacked : Stacked limit states) :
    Stacked limit (states.headD .ended :: states.tail) := by
  cases states with
  | nil => exact ⟨by simp, List.isChain_singleton _⟩
  | cons state rest => exact stacked

theorem emit_ok {reader next : Reader} {event : Event} {span : Span} {located : LocatedEvent}
    (emits : reader.emit event span = .ok (some located, next)) : located = ⟨event, span⟩ ∧ next = reader := by
  obtain ⟨same, rfl⟩ := Prod.mk.inj (Except.ok.inj emits)
  exact ⟨(Option.some.inj same).symm, rfl⟩

theorem peek_spec (chars : List Char) (reader next : Reader) (token : Token) (steady : Steady chars reader.lexer)
    (peeks : reader.peek = .ok (token, next)) :
    ∃ lexer, next = { reader with lexer := lexer } ∧ At chars lexer token ∧ lexer.last? = reader.lexer.last? ∧
      (reader.lexer.Filled → reader.lexer.front? = some token) := by
  unfold peek at peeks
  obtain ⟨⟨found, lexer⟩, finds, same⟩ := Fault.bind_ok _ _ _ peeks
  obtain ⟨rfl, rfl⟩ := Prod.mk.inj (Except.ok.inj same)
  obtain ⟨kept, full, front, last⟩ := next_spec chars reader.lexer lexer found steady finds
  exact ⟨lexer, rfl, ⟨kept, full, front⟩, last, fun filled => next_filled reader.lexer lexer found filled finds⟩

theorem peek_again (chars : List Char) (reader next : Reader) (front token : Token) (at_ : At chars reader.lexer front)
    (peeks : reader.peek = .ok (token, next)) : token = front := by
  obtain ⟨-, -, -, -, same⟩ := peek_spec chars reader next token at_.steady peeks
  exact Option.some.inj ((same at_.full).symm.trans at_.front)

theorem peek_after (chars : List Char) (lexer : Lexer) (token following : Token) (reader next : Reader)
    (at_ : At chars lexer token) (same : reader.lexer = lexer.take) (peeks : reader.peek = .ok (following, next)) :
    ∃ later, next = { reader with lexer := later } ∧ At chars later following ∧ later.passed chars = token.finish chars ∧
      Token.Follows chars token following := by
  obtain ⟨steady, last, passed⟩ := at_.take
  obtain ⟨later, rfl, at_later, kept, -⟩ := peek_spec chars reader next following (by rw [same]; exact steady) peeks
  rw [same] at kept
  refine ⟨later, rfl, at_later, by rw [Lexer.passed, kept, ← Lexer.passed, passed], ?_⟩
  exact (front_spec chars later following at_later.steady at_later.front).2 token (kept.trans last)

theorem peek_behind (chars : List Char) (reader next : Reader) (token : Token) (steady : Steady chars reader.lexer)
    (peeks : reader.peek = .ok (token, next)) (limit : Nat) (allowed : Token → Nat)
    (behind : Behind chars limit allowed reader.lexer) (wide : token.place chars ≤ allowed token) : limit ≤ allowed token := by
  obtain ⟨lexer, -, at_, last, same⟩ := peek_spec chars reader next token steady peeks
  rcases behind with before | ⟨full, bound⟩
  · have passed_le := at_.passed_le
    rw [passed, last, ← passed] at passed_le
    omega
  · exact bound token (same full)

structure AtDash (chars : List Char) (span : Span) (reader : Reader) (dash : Token) : Prop where
  inSequence : reader.state = .indentlessEntry
  at_ : At chars reader.lexer dash
  isDash : dash.kind = .blockEntry
  same : dash.span = span

def Reaches (source : Source) (located : LocatedEvent) (next : Reader) (limit : Nat) : Prop :=
  match located.event with
  | .scalar _ _ _ => source.isAbsent located = true ∨ (located.span.start.index ≤ limit ∧ located.span.stop.index ≤ limit)
  | .reference _ => located.span.start.index ≤ limit ∧ located.span.stop.index ≤ limit
  | .mappingStart _ => located.span.start.index ≤ limit
  | .sequenceStart _ => located.span.start.index + 1 ≤ limit ∨
      (located.span.start.index ≤ limit ∧ ∃ dash, AtDash source.read located.span next dash)
  | .sequenceEnd => located.span.stop.index ≤ limit
  | .mappingEnd => located.span.stop.index ≤ limit
  | _ => True

structure Advances (source : Source) (limit : Nat) (located : LocatedEvent) (next : Reader) (further : Nat) : Prop where
  present : source.isPresent located = true → limit ≤ located.span.start.index
  le : limit ≤ further
  reaches : Reaches source located next further
  placed : Placed source.read further next

-- A scalar that stands for a node that was left out is only taken for one in the text at a tilde.
def Faithful (source : Source) : Prop :=
  ∀ properties span, source.isAbsent ⟨.scalar "~" .plain properties, span⟩ = false → source.read[span.start.index]? = some '~'

section

variable (source : Source) (limit : Nat)

structure Waits (allowed : Token → Nat) (reader : Reader) : Prop where
  steady : Steady source.read reader.lexer
  stacked : Stacked limit reader.stack
  behind : Behind source.read limit allowed reader.lexer

theorem look (allowed : Token → Nat) (reader next : Reader) (token : Token) (waits : Waits source limit allowed reader)
    (wide : ∀ token, Token.Fits source.read token → token.place source.read ≤ allowed token)
    (peeks : reader.peek = .ok (token, next)) :
    ∃ lexer, next = { reader with lexer := lexer } ∧ At source.read lexer token ∧ limit ≤ allowed token := by
  obtain ⟨lexer, rfl, at_, -, -⟩ := peek_spec source.read reader next token waits.steady peeks
  exact ⟨lexer, rfl, at_,
    peek_behind source.read reader _ token waits.steady peeks limit allowed waits.behind (wide token at_.fits)⟩

theorem look_place (reader next : Reader) (token : Token) (waits : Waits source limit (Token.place source.read) reader)
    (peeks : reader.peek = .ok (token, next)) :
    ∃ lexer, next = { reader with lexer := lexer } ∧ At source.read lexer token ∧ limit ≤ token.place source.read :=
  look source limit _ reader next token waits (fun _ _ => Nat.le_refl _) peeks

theorem placed_front (state : ReaderState) (token : Token) (reader : Reader) (at_ : At source.read reader.lexer token)
    (le : limit ≤ state.allowance source.read token) (stacked : Stacked limit (state :: reader.stack)) :
    Placed source.read limit (reader.enter state) :=
  ⟨at_.steady, stacked, at_.behind le⟩

theorem placed_left (lexer : Lexer) (token : Token) (at_ : At source.read lexer token) (reader : Reader)
    (same : reader.lexer = lexer.take) (stacked : Stacked (token.finish source.read) reader.stack) :
    Placed source.read (token.finish source.read) reader.leave := by
  obtain ⟨steady, -, passed⟩ := at_.take
  refine ⟨?_, stacked_leave stacked, .inl ?_⟩
  · change Steady source.read reader.lexer
    rw [same]
    exact steady
  · change _ ≤ reader.lexer.passed source.read
    rw [same, passed]

theorem closing_advances (event : Event) (token : Token) (lexer : Lexer) (reader : Reader) (at_ : At source.read lexer token)
    (same : reader.lexer = lexer.take) (limit_le : limit ≤ token.finish source.read) (stacked : Stacked limit reader.stack)
    (span : Span) (within_ : span.stop.index ≤ token.finish source.read)
    (closes : event = .sequenceEnd ∨ event = .mappingEnd) :
    Advances source limit ⟨event, span⟩ reader.leave (token.finish source.read) := by
  have placed := placed_left source lexer token at_ reader same (stacked_mono stacked limit_le)
  rcases closes with rfl | rfl
  · exact ⟨fun present => (by cases present), limit_le, within_, placed⟩
  · exact ⟨fun present => (by cases present), limit_le, within_, placed⟩

theorem omitted_advances (faithful : Faithful source) (span : Span) (further : Nat) (reader next : Reader) (located : LocatedEvent)
    (le : limit ≤ further) (atTilde : source.read[span.start.index]? = some '~' →
      limit ≤ span.start.index ∧ span.start.index ≤ further ∧ span.stop.index ≤ further)
    (placed : Placed source.read further reader) (omits : reader.omitted span = .ok (some located, next)) :
    Advances source limit located next further := by
  obtain ⟨rfl, rfl⟩ := emit_ok omits
  cases absent : source.isAbsent ⟨.scalar "~" .plain {}, span⟩ with
  | true => exact ⟨fun present => by simp [Source.isPresent, absent] at present, le, .inl absent, placed⟩
  | false =>
      obtain ⟨start, reach⟩ := atTilde (faithful _ _ absent)
      exact ⟨fun _ => start, le, .inr reach, placed⟩

theorem tilde_hollow (token : Token) (fits : token.Fits source.read) (noScalar : token.kind.isScalar = false)
    (within_ : limit ≤ token.edge source.read) (further : Nat) (place_le : token.place source.read ≤ further)
    (tilde : source.read[token.span.start.index]? = some '~') :
    limit ≤ token.span.start.index ∧ token.span.start.index ≤ further ∧ token.span.stop.index ≤ further := by
  have stop := fits.tilde tilde noScalar
  have shift := token.shift_of_tilde source.read tilde
  unfold Token.edge at within_
  unfold Token.place at place_le
  omega

theorem tilde_any (token : Token) (fits : token.Fits source.read) (within_ : limit ≤ token.place source.read)
    (further : Nat) (edge_le : token.edge source.read ≤ further) (tilde : source.read[token.span.start.index]? = some '~') :
    limit ≤ token.span.start.index ∧ token.span.start.index ≤ further ∧ token.span.stop.index ≤ further := by
  have forward := fits.forward
  have shift := token.shift_of_tilde source.read tilde
  unfold Token.edge at edge_le
  unfold Token.place at within_
  omega

theorem omitted_before (faithful : Faithful source) (state : ReaderState) (token : Token) (reader next : Reader)
    (located : LocatedEvent) (at_ : At source.read reader.lexer token) (noScalar : token.kind.isScalar = false)
    (within_ : limit ≤ token.edge source.read) (further : Nat) (le : limit ≤ further)
    (place_le : token.place source.read ≤ further) (allowed : further ≤ state.allowance source.read token)
    (stacked : Stacked limit (state :: reader.stack))
    (omits : (reader.enter state).omitted token.span = .ok (some located, next)) : Advances source limit located next further :=
  omitted_advances source limit faithful _ _ _ _ _ le (tilde_hollow source limit token at_.fits noScalar within_ _ place_le)
    (placed_front source further state token reader at_ allowed (stacked_mono stacked le)) omits

theorem omitted_behind (faithful : Faithful source) (state : ReaderState) (token : Token) (lexer : Lexer) (reader next : Reader)
    (located : LocatedEvent) (at_ : At source.read lexer token) (noScalar : token.kind.isScalar = false)
    (within_ : limit ≤ token.edge source.read) (steady : Steady source.read reader.lexer)
    (passed : reader.lexer.passed source.read = token.finish source.read) (stacked : Stacked limit (state :: reader.stack))
    (omits : (reader.enter state).omitted token.span = .ok (some located, next)) :
    Advances source limit located next (token.finish source.read) := by
  obtain ⟨place_le, edge_le, -⟩ := token.edge_spec source.read at_.fits
  have le := Nat.le_trans within_ edge_le
  refine omitted_advances source limit faithful _ _ _ _ _ le
    (tilde_hollow source limit token at_.fits noScalar within_ _ (Nat.le_trans place_le edge_le)) ?_ omits
  exact ⟨steady, stacked_mono stacked le, .inl (Nat.le_of_eq passed.symm)⟩

theorem omitted_over (faithful : Faithful source) (state : ReaderState) (token : Token) (reader next : Reader)
    (located : LocatedEvent) (at_ : At source.read reader.lexer token) (limit_le : limit ≤ token.place source.read)
    (wide : state.allowance source.read token = token.edge source.read)
    (stacked : Stacked (token.edge source.read) (state :: reader.stack))
    (omits : (reader.enter state).omitted token.span = .ok (some located, next)) :
    Advances source limit located next (token.edge source.read) :=
  omitted_advances source limit faithful _ _ _ _ _ (Nat.le_trans limit_le (token.place_le_edge source.read at_.fits))
    (tilde_any source limit token at_.fits limit_le _ (Nat.le_refl _))
    (placed_front source _ state token reader at_ (Nat.le_of_eq wide.symm) stacked) omits

structure Entering (inBlock indentless : Bool) (reader : Reader) : Prop where
  steady : Steady source.read reader.lexer
  behind : Behind source.read limit (Token.place source.read) reader.lexer
  marks : ∀ mark, .pairEnd mark ∈ reader.stack →
    mark.index ≤ limit ∨ (inBlock = false ∧ Behind source.read mark.index (Token.edge source.read) reader.lexer)
  nested : reader.stack.IsChain Nested
  host : indentless = true → inBlock = true ∧
    (reader.stack.head? = some .blockMappingKey ∨ reader.stack.head? = some .blockMappingValue)

theorem nested_dash (states : List ReaderState)
    (host : states.head? = some .blockMappingKey ∨ states.head? = some .blockMappingValue) (nested : states.IsChain Nested) :
    (.indentlessEntry :: states).IsChain Nested := by
  cases states with
  | nil => exact List.isChain_singleton _
  | cons state rest =>
      refine List.isChain_cons_cons.mpr ⟨fun _ => ?_, nested⟩
      simpa using host

theorem leaf_advances (event : Event) (token : Token) (lexer : Lexer) (reader : Reader) (at_ : At source.read lexer token)
    (same : reader.lexer = lexer.take) (open_ : token.kind.isClosing = false) (limit_le : limit ≤ token.place source.read)
    (stacked : Stacked (token.finish source.read) reader.stack)
    (reaches : token.span.start.index ≤ token.finish source.read → token.span.stop.index ≤ token.finish source.read →
      Reaches source ⟨event, token.span⟩ reader.leave (token.finish source.read)) :
    Advances source limit ⟨event, token.span⟩ reader.leave (token.finish source.read) := by
  obtain ⟨place_le, edge_le, stop_le⟩ := token.edge_spec source.read at_.fits
  have start := token.place_of_not_closing source.read open_
  exact ⟨fun _ => start ▸ limit_le, by omega, reaches (by omega) (by omega),
    placed_left source lexer token at_ reader same stacked⟩

theorem opening_advances (state : ReaderState) (event : Event) (token : Token) (reader : Reader)
    (at_ : At source.read reader.lexer token) (open_ : token.kind.isClosing = false) (limit_le : limit ≤ token.place source.read)
    (plain : isPlain state = true) (wide : state.allowance source.read token = token.finish source.read)
    (stacked : Stacked (token.finish source.read) reader.stack)
    (reaches : token.span.start.index ≤ token.finish source.read →
      Reaches source ⟨event, token.span⟩ (reader.enter state) (token.finish source.read)) :
    Advances source limit ⟨event, token.span⟩ (reader.enter state) (token.finish source.read) := by
  have finish_le := Token.place_le_finish source.read token at_.fits
  have start := token.place_of_not_closing source.read open_
  exact ⟨fun _ => start ▸ limit_le, by omega, reaches (by omega),
    placed_front source _ state token reader at_ (Nat.le_of_eq wide.symm) (stacked_cons stacked plain)⟩

theorem dash_advances (properties : NodeProperties) (token : Token) (reader : Reader) (at_ : At source.read reader.lexer token)
    (isDash : token.kind = .blockEntry) (limit_le : limit ≤ token.place source.read) (stacked : Stacked limit reader.stack)
    (host : reader.stack.head? = some .blockMappingKey ∨ reader.stack.head? = some .blockMappingValue) :
    Advances source limit ⟨.sequenceStart properties, token.span⟩ (reader.enter .indentlessEntry) (token.place source.read) := by
  have start := token.place_of_not_closing source.read (by rw [isDash]; rfl)
  refine ⟨fun _ => start ▸ limit_le, limit_le, .inr ⟨Nat.le_of_eq start.symm, token, rfl, at_, isDash, rfl⟩,
    placed_front source _ .indentlessEntry token reader at_ (Nat.le_refl _) ⟨fun mark member => ?_, ?_⟩⟩
  · rcases List.mem_cons.mp member with same | among
    · cases same
    · exact Nat.le_trans (stacked.marks mark among) limit_le
  · exact nested_dash reader.stack host stacked.nested

theorem content_advances (inBlock indentless : Bool) (properties : NodeProperties) (reader next : Reader) (located : LocatedEvent)
    (entering : Entering source limit inBlock indentless reader)
    (settled : (properties.anchor.isSome || properties.tag.isSome) = true →
      ∀ mark, .pairEnd mark ∈ reader.stack → mark.index ≤ limit)
    (found : reader.content inBlock indentless properties = .ok (some located, next)) :
    ∃ further, Advances source limit located next further ∧
      (source.isAbsent located = true → limit + 1 ≤ further ∨ (properties.anchor.isSome || properties.tag.isSome) = true) := by
  unfold content at found
  obtain ⟨⟨token, peeked⟩, peeks, rest⟩ := Fault.bind_ok _ _ _ found
  obtain ⟨lexer, rfl, at_, -, -⟩ := peek_spec source.read reader peeked token entering.steady peeks
  obtain ⟨place_le, edge_le, stop_le⟩ := token.edge_spec source.read at_.fits
  have limit_le := peek_behind source.read reader _ token entering.steady peeks limit _ entering.behind (Nat.le_refl _)
  -- the ends of all pairs are within the token
  have stacked : Stacked (token.finish source.read) reader.stack := by
    refine ⟨fun mark member => ?_, entering.nested⟩
    rcases entering.marks mark member with within_ | ⟨-, behind⟩
    · omega
    · have within_ := peek_behind source.read reader _ token entering.steady peeks _ _ behind place_le
      omega
  simp only at rest
  split at rest
  next style text kind =>
    obtain ⟨rfl, rfl⟩ := emit_ok rest
    refine ⟨_, leaf_advances source limit _ token lexer { reader with lexer := lexer.take } at_ rfl (by rw [kind]; rfl) limit_le
      stacked fun start stop => .inr ⟨start, stop⟩, fun absent => .inl ?_⟩
    -- a plain scalar has characters, also if it looks like one that is left out
    have isPlain : style = .plain := by
      simp only [Source.isAbsent, Source.isImplicit, Bool.and_eq_true, beq_iff_eq] at absent
      exact absent.1
    have solid := at_.fits.solid (by rw [kind, isPlain]; rfl)
    have start := token.place_of_not_closing source.read (by rw [kind]; rfl)
    omega
  next kind =>
    obtain ⟨rfl, rfl⟩ := emit_ok rest
    have solid := at_.fits.solid (by rw [kind]; rfl)
    exact ⟨_, opening_advances source limit _ _ token { reader with lexer := lexer } at_ (by rw [kind]; rfl) limit_le rfl rfl
      stacked fun _ => .inl (by simp only; omega), fun absent => by cases absent⟩
  next kind =>
    obtain ⟨rfl, rfl⟩ := emit_ok rest
    exact ⟨_, opening_advances source limit _ _ token { reader with lexer := lexer } at_ (by rw [kind]; rfl) limit_le rfl rfl
      stacked id, fun absent => by cases absent⟩
  next kind noScalar noSequence noMapping =>
    split at rest
    next dash =>
      obtain ⟨rfl, rfl⟩ := emit_ok rest
      obtain ⟨isBlock, host⟩ := entering.host dash.2
      have inner (mark : Mark) (member : .pairEnd mark ∈ reader.stack) : mark.index ≤ limit :=
        (entering.marks mark member).resolve_right fun flow => by simp [isBlock] at flow
      exact ⟨_, dash_advances source limit properties token { reader with lexer := lexer } at_ dash.1 limit_le
        ⟨inner, entering.nested⟩ host, fun absent => by cases absent⟩
    next =>
      split at rest
      next isSequence =>
        obtain ⟨rfl, rfl⟩ := emit_ok rest
        have dash : token.finish source.read = token.span.stop.index + token.shift source.read + 1 := by
          rw [Token.finish, isSequence.1]
          rfl
        have forward := at_.fits.forward
        exact ⟨_, opening_advances source limit _ _ token { reader with lexer := lexer } at_ (by rw [isSequence.1]; rfl) limit_le
          rfl rfl stacked fun _ => .inl (by simp only; omega), fun absent => by cases absent⟩
      next =>
        split at rest
        next isMapping =>
          obtain ⟨rfl, rfl⟩ := emit_ok rest
          exact ⟨_, opening_advances source limit _ _ token { reader with lexer := lexer } at_ (by rw [isMapping.1]; rfl) limit_le
            rfl rfl stacked id, fun absent => by cases absent⟩
        next =>
          split at rest
          next some_ =>
            obtain ⟨rfl, rfl⟩ := emit_ok rest
            have allowed := ReaderState.place_le_allowance source.read (reader.stack.headD .ended) token at_.fits
            exact ⟨limit, ⟨fun present => by simp [Source.isPresent, Source.isAbsent, Source.isImplicit] at present,
              Nat.le_refl _, .inl (by simp [Source.isAbsent, Source.isImplicit]), at_.steady,
              stacked_leave ⟨settled some_, entering.nested⟩, at_.behind (Nat.le_trans limit_le allowed)⟩, fun _ => .inr some_⟩
          next => cases rest

theorem properties_spec (chars : List Char) (reader next : Reader) (token : Token) (properties : NodeProperties)
    (at_ : At chars reader.lexer token) (found : reader.properties = .ok (properties, next)) :
    ∃ lexer anchors, next = { reader with lexer := lexer, anchors := anchors } ∧
      ((At chars lexer token ∧ properties = {}) ∨
        (Steady chars lexer ∧ token.finish chars ≤ lexer.passed chars ∧ token.kind.isSolid = true)) := by
  unfold Reader.properties at found
  obtain ⟨⟨first, peeked⟩, peeks, rest⟩ := Fault.bind_ok _ _ _ found
  obtain rfl := peek_again chars reader peeked token first at_ peeks
  obtain ⟨lexer, rfl, at_first, -, -⟩ := peek_spec chars reader peeked first at_.steady peeks
  -- what follows the first property
  have second (other : Reader) (lexed : other.lexer = lexer.take) (following : Token) (after : Reader)
      (peeks : other.peek = .ok (following, after)) : ∃ later, after = { other with lexer := later } ∧ Steady chars later ∧
        first.finish chars ≤ later.passed chars ∧ Steady chars later.take ∧ first.finish chars ≤ later.take.passed chars := by
    obtain ⟨later, rfl, at_second, passed, -⟩ := peek_after chars lexer first following other after at_first lexed peeks
    have passed_le := at_second.passed_le
    have place_le := Token.place_le_finish chars following at_second.fits
    obtain ⟨steadyAfter, -, passedAfter⟩ := at_second.take
    exact ⟨later, rfl, at_second.steady, Nat.le_of_eq passed.symm, steadyAfter, by omega⟩
  simp only at rest
  split at rest
  next name kind =>
    obtain ⟨⟨following, after⟩, peeksAgain, ends⟩ := Fault.bind_ok _ _ _ rest
    obtain ⟨later, rfl, kept, reached, keptAfter, reachedAfter⟩ := second _ rfl following after peeksAgain
    simp only at ends
    split at ends
    next =>
      obtain ⟨tag, -, last⟩ := Fault.bind_ok _ _ _ ends
      obtain ⟨-, rfl⟩ := Prod.mk.inj (Except.ok.inj last)
      exact ⟨_, _, rfl, .inr ⟨keptAfter, reachedAfter, by rw [kind]; rfl⟩⟩
    next =>
      obtain ⟨-, rfl⟩ := Prod.mk.inj (Except.ok.inj ends)
      exact ⟨_, _, rfl, .inr ⟨kept, reached, by rw [kind]; rfl⟩⟩
  next handle name kind =>
    obtain ⟨tag, -, last⟩ := Fault.bind_ok _ _ _ rest
    obtain ⟨⟨following, after⟩, peeksAgain, ends⟩ := Fault.bind_ok _ _ _ last
    obtain ⟨later, rfl, kept, reached, keptAfter, reachedAfter⟩ := second _ rfl following after peeksAgain
    simp only at ends
    split at ends
    next =>
      obtain ⟨-, rfl⟩ := Prod.mk.inj (Except.ok.inj ends)
      exact ⟨_, _, rfl, .inr ⟨keptAfter, reachedAfter, by rw [kind]; rfl⟩⟩
    next =>
      obtain ⟨-, rfl⟩ := Prod.mk.inj (Except.ok.inj ends)
      exact ⟨_, _, rfl, .inr ⟨kept, reached, by rw [kind]; rfl⟩⟩
  next =>
    obtain ⟨rfl, rfl⟩ := Prod.mk.inj (Except.ok.inj rest)
    exact ⟨_, _, rfl, .inl ⟨at_first, rfl⟩⟩

theorem solid_not_closing (kind : TokenKind) (solid : kind.isSolid = true) : kind.isClosing = false := by
  cases kind <;> simp_all [TokenKind.isSolid, TokenKind.isClosing]

theorem node_advances (inBlock indentless : Bool) (reader next : Reader) (located : LocatedEvent)
    (entering : Entering source limit inBlock indentless reader)
    (found : reader.node inBlock indentless = .ok (some located, next)) :
    ∃ further, Advances source limit located next further ∧ (source.isAbsent located = true → limit + 1 ≤ further) := by
  unfold node at found
  obtain ⟨⟨token, peeked⟩, peeks, rest⟩ := Fault.bind_ok _ _ _ found
  obtain ⟨lexer, rfl, at_, -, -⟩ := peek_spec source.read reader peeked token entering.steady peeks
  obtain ⟨place_le, edge_le, stop_le⟩ := token.edge_spec source.read at_.fits
  have limit_le := peek_behind source.read reader _ token entering.steady peeks limit _ entering.behind (Nat.le_refl _)
  have marks (mark : Mark) (member : .pairEnd mark ∈ reader.stack) :
      mark.index ≤ limit ∨ (inBlock = false ∧ mark.index ≤ token.edge source.read) :=
    (entering.marks mark member).imp_right fun flow =>
      ⟨flow.1, peek_behind source.read reader _ token entering.steady peeks _ _ flow.2 place_le⟩
  have stacked : Stacked (token.finish source.read) reader.stack := by
    refine ⟨fun mark member => ?_, entering.nested⟩
    rcases marks mark member with within_ | ⟨-, within_⟩ <;> omega
  simp only at rest
  split at rest
  next name kind =>
    split at rest
    next =>
      obtain ⟨rfl, rfl⟩ := emit_ok rest
      exact ⟨_, leaf_advances source limit _ token lexer { reader with lexer := lexer.take } at_ rfl (by rw [kind]; rfl) limit_le
        stacked fun start stop => ⟨start, stop⟩, fun absent => by cases absent⟩
    next => cases rest
  next =>
    obtain ⟨⟨properties, prepared⟩, gathers, contents⟩ := Fault.bind_ok _ _ _ rest
    obtain ⟨later, anchors, rfl, cases_⟩ :=
      properties_spec source.read { reader with lexer := lexer } prepared token properties at_ gathers
    rcases cases_ with ⟨at_later, rfl⟩ | ⟨steady, passed, solid⟩
    · obtain ⟨further, advances, absents⟩ := content_advances source limit inBlock indentless {}
        { reader with lexer := later, anchors := anchors } next located
        ⟨at_later.steady, at_later.behind limit_le,
          fun mark member => (marks mark member).imp_right fun flow => ⟨flow.1, at_later.behind flow.2⟩,
          entering.nested, entering.host⟩ (fun some_ => by cases some_) contents
      exact ⟨further, advances, fun absent => (absents absent).resolve_right (by simp)⟩
    · -- behind properties, everything starts further on
      obtain ⟨further, advances, -⟩ := content_advances source (token.finish source.read) inBlock indentless properties
        { reader with lexer := later, anchors := anchors } next located
        ⟨steady, .inl passed, fun mark member => .inl (stacked.marks mark member), entering.nested, entering.host⟩
        (fun _ => stacked.marks) contents
      have le := advances.le
      have characters := at_.fits.solid solid
      have start := token.place_of_not_closing source.read (solid_not_closing token.kind solid)
      refine ⟨further, ⟨fun present => ?_, by omega, advances.reaches, advances.placed⟩, fun _ => by omega⟩
      have behind := advances.present present
      omega

theorem entering_push (inBlock indentless : Bool) (state : ReaderState) (reader : Reader)
    (steady : Steady source.read reader.lexer) (behind : Behind source.read limit (Token.place source.read) reader.lexer)
    (stacked : Stacked limit (state :: reader.stack))
    (host : indentless = true → inBlock = true ∧ (state = .blockMappingKey ∨ state = .blockMappingValue)) :
    Entering source limit inBlock indentless (reader.push state) :=
  ⟨steady, behind, fun mark member => .inl (stacked.marks mark member), stacked.nested, fun dashes =>
    (host dashes).imp_right fun known => known.imp (congrArg some) (congrArg some)⟩

theorem inner_node_advances (inBlock indentless : Bool) (state : ReaderState) (reader next : Reader) (located : LocatedEvent)
    (waits : Waits source limit (Token.place source.read) reader) (plain : isPlain state = true)
    (host : indentless = true → inBlock = true ∧ (state = .blockMappingKey ∨ state = .blockMappingValue))
    (found : (reader.push state).node inBlock indentless = .ok (some located, next)) :
    ∃ further, Advances source limit located next further := by
  obtain ⟨further, advances, -⟩ := node_advances source limit inBlock indentless _ next located
    (entering_push source limit inBlock indentless state reader waits.steady waits.behind (stacked_cons waits.stacked plain) host)
    found
  exact ⟨further, advances⟩

theorem root_node_advances (reader next : Reader) (located : LocatedEvent)
    (waits : Waits source limit (Token.place source.read) reader)
    (found : reader.node true false = .ok (some located, next)) : ∃ further, Advances source limit located next further := by
  obtain ⟨further, advances, -⟩ := node_advances source limit true false reader next located
    ⟨waits.steady, waits.behind, fun mark member => .inl (waits.stacked.marks mark member), waits.stacked.nested,
      fun dashes => by cases dashes⟩ found
  exact ⟨further, advances⟩

end

end Reader
end YamlDialects.Yaml
