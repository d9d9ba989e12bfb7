import YamlDialects.Yaml.Data.Content
import YamlDialects.Yaml.Data.Lexer

set_option autoImplicit false

namespace YamlDialects.Yaml.Data

structure Reader where
  tokens : List Token
  handles : List (String × Bytes) := []
  anchors : List (String × Nat) := []

namespace Reader

def next (reader : Reader) : Token :=
  reader.tokens.headD .streamEnd

def take (reader : Reader) : Reader :=
  { reader with tokens := reader.tokens.tail }

def expect? (reader : Reader) (token : Token) : Option Reader :=
  if reader.next == token then some reader.take else none

def withAnchor (reader : Reader) (name : String) : Nat × Reader :=
  let number := reader.anchors.length
  let others := reader.anchors.filter (·.1 != name)
  (number, { reader with anchors := (name, number) :: others })

def expanded? (reader : Reader) (handle : String) (rest : Bytes) : Option Bytes :=
  if handle.isEmpty then some rest
  else (reader.handles.find? (·.1 == handle)).map (·.2 ++ rest)

def anchor? (reader : Reader) : Option Nat × Reader :=
  match reader.next with
  | .anchor name =>
      let (number, after) := reader.take.withAnchor name
      (some number, after)
  | _ => (none, reader)

def tag? (reader : Reader) : Option (Option Bytes × Reader) :=
  match reader.next with
  | .tag handle rest => (reader.expanded? handle rest).map fun tag => (some tag, reader.take)
  | _ => some (none, reader)

def properties? (reader : Reader) : Option (Properties × Reader) := do
  let (before, reader) := reader.anchor?
  let (tag, reader) ← reader.tag?
  match before with
  | some _ => return (⟨before, tag⟩, reader)
  | none =>
      if tag.isSome then
        let (anchor, reader) := reader.anchor?
        return (⟨anchor, tag⟩, reader)
      else return (⟨none, none⟩, reader)

inductive Place where
  | blockItem
  | looseItem
  | blockEntry
  | flowItem
  | flowEntry
deriving DecidableEq, Inhabited

def isOmitted (place : Place) (token : Token) : Bool :=
  match place, token with
  | .blockItem, .blockEntry => true
  | .blockItem, .blockEnd => true
  | .looseItem, .blockEntry => true
  | .looseItem, .key => true
  | .looseItem, .value => true
  | .looseItem, .blockEnd => true
  | .blockEntry, .key => true
  | .blockEntry, .value => true
  | .blockEntry, .blockEnd => true
  | .flowItem, .flowEntry => true
  | .flowItem, .flowSequenceEnd => true
  | .flowEntry, .flowEntry => true
  | .flowEntry, .flowMappingEnd => true
  | _, _ => false

def inBlock : Place → Bool
  | .blockItem => true
  | .looseItem => true
  | .blockEntry => true
  | _ => false

mutual

def nodeOrNone? : Nat → Place → Reader → Option (Content × Reader)
  | 0, _, _ => none
  | fuel + 1, place, reader =>
      if isOmitted place reader.next then some (.omitted {}, reader) else node? fuel place reader

/-- A node. Only in a mapping may the items of a sequence stand at the column of the key. -/
def node? : Nat → Place → Reader → Option (Content × Reader)
  | 0, _, _ => none
  | fuel + 1, place, reader =>
      match reader.next with
      | .reference name =>
          (reader.anchors.find? (·.1 == name)).map fun found => (.reference found.2, reader.take)
      | _ => do
          let (properties, reader) ← reader.properties?
          match reader.next with
          | .scalar isPlain text => return (.scalar text isPlain properties, reader.take)
          | .flowSequenceStart =>
              let (items, reader) ← flowItems? fuel true reader.take
              return (.sequence items properties, reader)
          | .flowMappingStart =>
              let (entries, reader) ← flowEntries? fuel true reader.take
              return (.mapping entries properties, reader)
          | .blockEntry =>
              if place == .blockEntry then
                let (items, reader) ← looseItems? fuel reader
                return (.sequence items properties, reader)
              else if properties == {} then failure
              else return (.omitted properties, reader)
          | .blockSequenceStart =>
              if inBlock place then
                let (items, reader) ← blockItems? fuel reader.take
                return (.sequence items properties, reader)
              else if properties == {} then failure
              else return (.omitted properties, reader)
          | .blockMappingStart =>
              if inBlock place then
                let (entries, reader) ← blockEntries? fuel reader.take
                return (.mapping entries properties, reader)
              else if properties == {} then failure
              else return (.omitted properties, reader)
          | _ => if properties == {} then failure else return (.omitted properties, reader)

def blockItems? : Nat → Reader → Option (List Content × Reader)
  | 0, _ => none
  | fuel + 1, reader =>
      match reader.next with
      | .blockEnd => some ([], reader.take)
      | .blockEntry => do
          let (item, reader) ← nodeOrNone? fuel .blockItem reader.take
          let (others, reader) ← blockItems? fuel reader
          return (item :: others, reader)
      | _ => none

def looseItems? : Nat → Reader → Option (List Content × Reader)
  | 0, _ => none
  | fuel + 1, reader =>
      match reader.next with
      | .blockEntry => do
          let (item, reader) ← nodeOrNone? fuel .looseItem reader.take
          let (others, reader) ← looseItems? fuel reader
          return (item :: others, reader)
      | _ => some ([], reader)

def blockEntries? : Nat → Reader → Option (List (Content × Content) × Reader)
  | 0, _ => none
  | fuel + 1, reader =>
      match reader.next with
      | .blockEnd => some ([], reader.take)
      | .key => do
          let (key, reader) ← nodeOrNone? fuel .blockEntry reader.take
          let (value, reader) ← valueOrNone? fuel .blockEntry reader
          let (others, reader) ← blockEntries? fuel reader
          return ((key, value) :: others, reader)
      | _ => none

def valueOrNone? : Nat → Place → Reader → Option (Content × Reader)
  | 0, _, _ => none
  | fuel + 1, place, reader =>
      match reader.next with
      | .value => nodeOrNone? fuel place reader.take
      | _ => some (.omitted {}, reader)

def flowItems? : Nat → Bool → Reader → Option (List Content × Reader)
  | 0, _, _ => none
  | fuel + 1, isFirst, reader =>
      match reader.next with
      | .flowSequenceEnd => some ([], reader.take)
      | _ => do
          let reader ← if isFirst then some reader else reader.expect? .flowEntry
          match reader.next with
          | .flowSequenceEnd => return ([], reader.take)
          | .key =>
              let (pair, reader) ← flowPair? fuel reader.take
              let (others, reader) ← flowItems? fuel false reader
              return (.mapping [pair] {} :: others, reader)
          | _ =>
              let (item, reader) ← node? fuel .flowItem reader
              let (others, reader) ← flowItems? fuel false reader
              return (item :: others, reader)

/-- A pair without braces in a flow sequence. After a key that was left out one token is passed over. -/
def flowPair? : Nat → Reader → Option ((Content × Content) × Reader)
  | 0, _ => none
  | fuel + 1, reader => do
      let isKeyOmitted := reader.next == .value || isOmitted .flowItem reader.next
      let (key, reader) ← if isKeyOmitted then some (.omitted {}, reader.take) else node? fuel .flowItem reader
      let (value, reader) ← valueOrNone? fuel .flowItem reader
      return ((key, value), reader)

def flowEntries? : Nat → Bool → Reader → Option (List (Content × Content) × Reader)
  | 0, _, _ => none
  | fuel + 1, isFirst, reader =>
      match reader.next with
      | .flowMappingEnd => some ([], reader.take)
      | _ => do
          let reader ← if isFirst then some reader else reader.expect? .flowEntry
          match reader.next with
          | .flowMappingEnd => return ([], reader.take)
          | .key =>
              let reader := reader.take
              let (key, reader) ←
                if reader.next == .value then some (.omitted {}, reader) else nodeOrNone? fuel .flowEntry reader
              let (value, reader) ← valueOrNone? fuel .flowEntry reader
              let (others, reader) ← flowEntries? fuel false reader
              return ((key, value) :: others, reader)
          | _ =>
              let (key, reader) ← node? fuel .flowEntry reader
              let (others, reader) ← flowEntries? fuel false reader
              return ((key, .omitted {}) :: others, reader)

end

def coreHandles : List (String × Bytes) :=
  [("!", bytesOf [ '!']), ("!!", bytesOf "tag:yaml.org,2002:".toList)]

def isKnownVersion (major minor : Nat) : Bool :=
  major == 1 && (minor == 1 || minor == 2)

def directives? (versioned : Bool) : List Token → Reader → Option Reader
  | .versionDirective major minor :: rest, reader =>
      if versioned || !isKnownVersion major minor then none
      else directives? true rest { reader with tokens := rest }
  | .tagDirective handle start :: rest, reader =>
      if reader.handles.any (·.1 == handle) then none
      else directives? versioned rest { reader with tokens := rest, handles := (handle, start) :: reader.handles }
  | _, reader => some reader

def endsDocument : Token → Bool
  | .streamEnd => true
  | .documentStart => true
  | .documentEnd => true
  | .versionDirective _ _ => true
  | .tagDirective _ _ => true
  | _ => false

def skipDocumentEnds : List Token → List Token
  | .documentEnd :: rest => skipDocumentEnds rest
  | tokens => tokens

def document? (fuel : Nat) (reader : Reader) : Option (Content × Reader) := do
  let start ← directives? false reader.tokens reader
  let isMarked := start.tokens.length < reader.tokens.length || start.next == .documentStart
  let opened := { start with handles := start.handles ++ coreHandles }
  if isMarked then
    let inner ← opened.expect? .documentStart
    if endsDocument inner.next then return (.omitted {}, inner) else node? fuel .blockItem inner
  else if opened.next == .streamEnd then return (.omitted {}, opened)
  else node? fuel .blockItem opened

end Reader

def Content.ofText? (text : String) : Option Content := do
  let tokens ← tokens? text
  let (content, reader) ← Reader.document? (4 * tokens.length + 4) { tokens }
  if Reader.skipDocumentEnds reader.tokens == [.streamEnd] then return content else failure

def maxDepth : Nat := 128

structure Document where
  root : Content
  anchored : List (Nat × Content)
  maxFollowed : Nat

def Document.ofText? (text : String) : Option Document :=
  (Content.ofText? text).map fun root => ⟨root, root.anchored.reverse, 100 * root.size⟩

abbrev Reading := ReaderT Document (StateT Nat Option)

namespace Reading

def follow : Content → Reading Content
  | .reference number => do
      let document ← read
      let followed := (← get) + 1
      set followed
      if followed > document.maxFollowed then failure
      (document.anchored.lookup number : Option Content)
  | content => return content

def run? {α : Type} (document : Document) (reading : Content → Reading α) : Option α :=
  (((reading document.root).run document).run 0).map (·.1)

end Reading
end YamlDialects.Yaml.Data
