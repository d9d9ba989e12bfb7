import YamlDialects.Yaml.Event.Basic
import YamlDialects.Yaml.Token.Next

/-!
Reading events from tokens. The reader is a stack of states, each of which tells what may come next.
A node that is left out is an empty plain scalar `~` at the place of some token.
-/

set_option autoImplicit false

namespace YamlDialects.Yaml

inductive ReaderState where
  | implicitDocument
  | explicitDocument
  | documentContent
  | documentEnd
  | blockNode
  | blockMappingStart
  | blockMappingKey
  | blockMappingValue
  | blockSequenceStart
  | blockSequenceEntry
  | indentlessEntry
  | flowSequenceStart
  | flowSequenceEntry
  | flowMappingStart
  | flowMappingKey
  | flowMappingValue
  | flowMappingNoValue
  | pairKey
  | pairValue
  | pairEnd (mark : Mark)
  | ended
deriving DecidableEq, Inhabited

structure Reader where
  lexer : Lexer
  state : ReaderState := .implicitDocument
  stack : List ReaderState := []
  anchors : List String := []
  tags : List (String × String) := []

namespace Reader

abbrev Step := Except Fault (Option LocatedEvent × Reader)

def peek (reader : Reader) : Except Fault (Token × Reader) := do
  let (token, lexer) ← reader.lexer.next
  return (token, { reader with lexer := lexer })

def take (reader : Reader) : Reader :=
  { reader with lexer := reader.lexer.take }

def push (reader : Reader) (state : ReaderState) : Reader :=
  { reader with stack := state :: reader.stack }

def enter (reader : Reader) (state : ReaderState) : Reader :=
  { reader with state := state }

def leave (reader : Reader) : Reader :=
  { reader with state := reader.stack.headD .ended, stack := reader.stack.tail }

def emit (reader : Reader) (event : Event) (span : Span) : Step :=
  .ok (some ⟨event, span⟩, reader)

def omitted (reader : Reader) (span : Span) : Step :=
  reader.emit (.scalar "~" .plain {}) span

def reject {α : Type} (token : Token) (cause : Cause) : Except Fault α :=
  .error ⟨cause, token.span.start⟩

def tagStart? (reader : Reader) (handle : String) : Option String :=
  (reader.tags.find? (·.1 == handle)).map (·.2)

def resolveTag (reader : Reader) (span : Span) (handle rest : String) : Except Fault Tag :=
  match reader.tagStart? handle with
  | some start => .ok ⟨start, rest⟩
  | none =>
      if handle == "!!" then .ok ⟨"tag:yaml.org,2002:", rest⟩
      else if handle.length ≥ 2 && handle.startsWith "!" && handle.endsWith "!" then
        .error ⟨.undeclaredHandle, span.start⟩
      else .ok ⟨handle, rest⟩

def addAnchor (reader : Reader) (name : String) : Reader :=
  { reader with anchors := name :: reader.anchors }

def properties (reader : Reader) : Except Fault (NodeProperties × Reader) := do
  let (token, reader) ← reader.peek
  match token.kind with
  | .anchor name =>
      let reader := reader.take.addAnchor name
      let (second, reader) ← reader.peek
      match second.kind with
      | .tag handle rest =>
          let tag ← reader.resolveTag token.span handle rest
          return (⟨some name, some tag⟩, reader.take)
      | _ => return (⟨some name, none⟩, reader)
  | .tag handle rest =>
      let tag ← reader.resolveTag token.span handle rest
      let (second, reader) ← reader.take.peek
      match second.kind with
      | .anchor name => return (⟨some name, some tag⟩, reader.take.addAnchor name)
      | _ => return (⟨none, some tag⟩, reader)
  | _ => return ({}, reader)

def content (inBlock indentless : Bool) (properties : NodeProperties) (reader : Reader) : Step := do
  let (token, reader) ← reader.peek
  match token.kind with
  | .scalar style text => reader.leave.take.emit (.scalar text style properties) token.span
  | .flowSequenceStart => (reader.enter .flowSequenceStart).emit (.sequenceStart properties) token.span
  | .flowMappingStart => (reader.enter .flowMappingStart).emit (.mappingStart properties) token.span
  | kind =>
      if kind = .blockEntry ∧ indentless then
        (reader.enter .indentlessEntry).emit (.sequenceStart properties) token.span
      else if kind = .blockSequenceStart ∧ inBlock then
        (reader.enter .blockSequenceStart).emit (.sequenceStart properties) token.span
      else if kind = .blockMappingStart ∧ inBlock then
        (reader.enter .blockMappingStart).emit (.mappingStart properties) token.span
      else if properties.anchor.isSome || properties.tag.isSome then
        reader.leave.emit (.scalar "" .plain properties) token.span
      else reject token .nodeContent

def node (inBlock indentless : Bool) (reader : Reader) : Step := do
  let (token, reader) ← reader.peek
  match token.kind with
  | .reference name =>
      if reader.anchors.contains name then reader.leave.take.emit (.reference name) token.span
      else reject token .unknownAnchor
  | _ =>
      let (properties, reader) ← reader.properties
      reader.content inBlock indentless properties

def skipDocumentEnds : Nat → Reader → Except Fault (Token × Reader)
  | 0, reader => reader.peek
  | fuel + 1, reader =>
      match reader.peek with
      | .error fault => .error fault
      | .ok (token, reader) =>
          if token.kind = .documentEnd then skipDocumentEnds fuel reader.take else .ok (token, reader)

/-- Takes the directives before a document. Each of them replaces all tags declared before it. -/
def directives : Nat → Bool → Reader → Except Fault (Token × Reader)
  | 0, _, reader => reader.peek
  | fuel + 1, versionSeen, reader =>
      match reader.peek with
      | .error fault => .error fault
      | .ok (token, reader) =>
          match token.kind with
          | .versionDirective =>
              if versionSeen then reject token .secondVersion
              else directives fuel true { reader with tags := [] }.take
          | .tagDirective handle start =>
              directives fuel versionSeen { reader with tags := [(handle, start)] }.take
          | _ => .ok (token, reader)

def fuel (reader : Reader) : Nat :=
  reader.lexer.rest.length + reader.lexer.tokens.size + 2

def explicitDocument (reader : Reader) : Step := do
  let (token, reader) ← directives reader.fuel false reader
  if token.kind = .documentStart then
    ((reader.push .documentEnd).enter .documentContent).take.emit .documentStart token.span
  else reject token .documentStart

def document (implicit : Bool) (reader : Reader) : Step := do
  let (token, reader) ← skipDocumentEnds reader.fuel reader
  match token.kind with
  | .streamEnd => return (none, reader.take.enter .ended)
  | .versionDirective => reader.explicitDocument
  | .tagDirective _ _ => reader.explicitDocument
  | .documentStart => reader.explicitDocument
  | _ =>
      if implicit then ((reader.push .documentEnd).enter .blockNode).emit .documentStart token.span
      else reader.explicitDocument

def documentContent (reader : Reader) : Step := do
  let (token, reader) ← reader.peek
  match token.kind with
  | .versionDirective => reader.leave.omitted token.span
  | .tagDirective _ _ => reader.leave.omitted token.span
  | .documentStart => reader.leave.omitted token.span
  | .documentEnd => reader.leave.omitted token.span
  | .streamEnd => reader.leave.omitted token.span
  | _ => reader.node true false

def documentEnd (reader : Reader) : Step := do
  let (token, reader) ← reader.peek
  let reader := { reader with tags := [] }
  match token.kind with
  | .documentEnd => (reader.take.enter .implicitDocument).emit .documentEnd token.span
  | .versionDirective => reject token .directiveInDocument
  | .tagDirective _ _ => reject token .directiveInDocument
  | _ => (reader.enter .explicitDocument).emit .documentEnd token.span

def endsBlockPart : TokenKind → Bool
  | .key => true
  | .value => true
  | .blockEnd => true
  | _ => false

def blockMappingKey (reader : Reader) : Step := do
  let (token, reader) ← reader.peek
  match token.kind with
  | .key =>
      let (next, reader) ← reader.take.peek
      if endsBlockPart next.kind then (reader.enter .blockMappingValue).omitted next.span
      else (reader.push .blockMappingValue).node true true
  | .value => (reader.enter .blockMappingValue).omitted token.span
  | .blockEnd => reader.leave.take.emit .mappingEnd token.span
  | _ => reject token .mappingKey

def blockMappingValue (reader : Reader) : Step := do
  let (token, reader) ← reader.peek
  if token.kind = .value then
    let (next, reader) ← reader.take.peek
    if endsBlockPart next.kind then (reader.enter .blockMappingKey).omitted token.span
    else (reader.push .blockMappingKey).node true true
  else (reader.enter .blockMappingKey).omitted token.span

def blockSequenceEntry (reader : Reader) : Step := do
  let (token, reader) ← reader.peek
  match token.kind with
  | .blockEnd => reader.leave.take.emit .sequenceEnd token.span
  | .blockEntry =>
      let (next, reader) ← reader.take.peek
      if next.kind = .blockEntry ∨ next.kind = .blockEnd then (reader.enter .blockSequenceEntry).omitted token.span
      else (reader.push .blockSequenceEntry).node true false
  | _ => reject token .sequenceDash

def indentlessEntry (reader : Reader) : Step := do
  let (token, reader) ← reader.peek
  if token.kind = .blockEntry then
    let (next, reader) ← reader.take.peek
    if next.kind = .blockEntry ∨ endsBlockPart next.kind then (reader.enter .indentlessEntry).omitted token.span
    else (reader.push .indentlessEntry).node true false
  else reader.leave.emit .sequenceEnd token.span

def flowSequenceItem (reader : Reader) : Step := do
  let (token, reader) ← reader.peek
  match token.kind with
  | .flowSequenceEnd => reader.leave.take.emit .sequenceEnd token.span
  | .key => (reader.enter .pairKey).take.emit (.mappingStart {}) token.span
  | _ => (reader.push .flowSequenceEntry).node false false

def flowSequenceEntry (reader : Reader) : Step := do
  let (token, reader) ← reader.peek
  match token.kind with
  | .flowSequenceEnd => reader.flowSequenceItem
  | .flowEntry => reader.take.flowSequenceItem
  | _ => reject token .flowSequenceEntry

def pairKey (reader : Reader) : Step := do
  let (token, reader) ← reader.peek
  match token.kind with
  | .value => (reader.enter .pairValue).take.omitted token.span
  | .flowEntry => (reader.enter .pairValue).take.omitted token.span
  | .flowSequenceEnd => (reader.enter .pairValue).take.omitted token.span
  | _ => (reader.push .pairValue).node false false

def pairValue (reader : Reader) : Step := do
  let (token, reader) ← reader.peek
  if token.kind = .value then
    let (next, reader) ← reader.take.peek
    if next.kind = .flowEntry ∨ next.kind = .flowSequenceEnd then
      (reader.enter (.pairEnd next.span.stop)).omitted next.span
    else (reader.push (.pairEnd next.span.stop)).node false false
  else (reader.enter (.pairEnd token.span.stop)).omitted token.span

def pairEnd (mark : Mark) (reader : Reader) : Step :=
  (reader.enter .flowSequenceEntry).emit .mappingEnd (.empty mark)

def flowMappingEntry (span : Span) (reader : Reader) : Step := do
  let (token, reader) ← reader.peek
  match token.kind with
  | .key =>
      let (next, reader) ← reader.take.peek
      match next.kind with
      | .value => (reader.enter .flowMappingValue).omitted next.span
      | .flowEntry => (reader.enter .flowMappingValue).omitted next.span
      | .flowMappingEnd => (reader.enter .flowMappingValue).omitted next.span
      | _ => (reader.push .flowMappingValue).node false false
  | .value => (reader.enter .flowMappingValue).omitted token.span
  | .flowMappingEnd => reader.leave.take.emit .mappingEnd span
  | _ => (reader.push .flowMappingNoValue).node false false

def flowMappingKey (isFirst : Bool) (reader : Reader) : Step := do
  let (token, reader) ← reader.peek
  if token.kind = .flowMappingEnd ∨ isFirst then reader.flowMappingEntry token.span
  else if token.kind = .flowEntry then reader.take.flowMappingEntry token.span
  else reject token .flowMappingEntry

def flowMappingValue (reader : Reader) : Step := do
  let (token, reader) ← reader.peek
  if token.kind = .value then
    let (next, reader) ← reader.take.peek
    if next.kind = .flowEntry ∨ next.kind = .flowMappingEnd then (reader.enter .flowMappingKey).omitted token.span
    else (reader.push .flowMappingKey).node false false
  else (reader.enter .flowMappingKey).omitted token.span

def flowMappingNoValue (reader : Reader) : Step := do
  let (token, reader) ← reader.peek
  (reader.enter .flowMappingKey).omitted token.span

def opened (reader : Reader) : Except Fault Reader := do
  let (_, reader) ← reader.peek
  return reader.take

def step (reader : Reader) : Step :=
  match reader.state with
  | .implicitDocument => reader.document true
  | .explicitDocument => reader.document false
  | .documentContent => reader.documentContent
  | .documentEnd => reader.documentEnd
  | .blockNode => reader.node true false
  | .blockMappingStart => do (← reader.opened).blockMappingKey
  | .blockMappingKey => reader.blockMappingKey
  | .blockMappingValue => reader.blockMappingValue
  | .blockSequenceStart => do (← reader.opened).blockSequenceEntry
  | .blockSequenceEntry => reader.blockSequenceEntry
  | .indentlessEntry => reader.indentlessEntry
  | .flowSequenceStart => do (← reader.opened).flowSequenceItem
  | .flowSequenceEntry => reader.flowSequenceEntry
  | .flowMappingStart => do (← reader.opened).flowMappingKey true
  | .flowMappingKey => reader.flowMappingKey false
  | .flowMappingValue => reader.flowMappingValue
  | .flowMappingNoValue => reader.flowMappingNoValue
  | .pairKey => reader.pairKey
  | .pairValue => reader.pairValue
  | .pairEnd mark => reader.pairEnd mark
  | .ended => .ok (none, reader)

def collect : Nat → List LocatedEvent → Reader → List LocatedEvent × Option Fault
  | 0, found, reader =>
      match reader.step with
      | .error fault => (found, some fault)
      | .ok _ => (found, none)
  | fuel + 1, found, reader =>
      match reader.step with
      | .error fault => (found, some fault)
      | .ok (none, _) => (found, none)
      | .ok (some event, reader) => collect fuel (event :: found) reader

end Reader

/-- The events of a text before its first fault, and that fault. No token gives rise to more than a
few events, so the fuel is never used up. -/
def readEvents (chars : List Char) : List LocatedEvent × Option Fault :=
  let (found, fault) := Reader.collect (16 * chars.length + 64) [] { lexer := Lexer.start chars }
  (found.reverse, fault)

end YamlDialects.Yaml
