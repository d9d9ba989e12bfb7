import YamlDialects.Assist.Context
import YamlDialects.Assist.Proposal
import YamlDialects.Text.Case

/-!
Proposals at a cursor. Only the outline of the text is needed, so that it need not be valid. On a line
that is no key and no item yet, every block around it may own the line: each is tried, with proposals
moved to where they belong and ranked lower the farther out the block is.

A query is scored against a proposal as a subsequence, whatever the case. Fewer characters skipped and a
larger part of the proposal covered make a better match.
-/

set_option autoImplicit false

namespace YamlDialects.Score

structure Alignment where
  matched : Nat
  skipped : Nat
deriving DecidableEq

/-- Each wanted character is matched with its first occurrence after the one before. -/
def align : Alignment → List Char → List Char → Option Alignment
  | so_far, [], _ => some so_far
  | _, _ :: _, [] => none
  | so_far, wanted :: pattern, c :: data =>
      if c = wanted then align ⟨so_far.matched + 1, so_far.skipped⟩ pattern data
      else align ⟨so_far.matched, so_far.skipped + 1⟩ (wanted :: pattern) data

def align? (pattern data : String) : Option Alignment :=
  align ⟨0, 0⟩ (Text.lowerAll pattern.toList) (Text.lowerAll data.toList)

def ofEmptyQuery : Float :=
  Float.ofBits 0x0010000000000000

def rate? (pattern data : String) : Option Float :=
  if pattern.isEmpty then some ofEmptyQuery
  else
    (align? pattern data).map fun alignment =>
      let length := max (Text.lowerAll data.toList).length 1
      let coverage := Float.ofNat alignment.matched / Float.ofNat length
      coverage / (1 + Float.ofNat alignment.skipped)

def score (pattern data : String) : Float :=
  (rate? pattern data).getD 0

end YamlDialects.Score

namespace YamlDialects

structure Completion where
  schema : Schema
  root : TypeId
  cursor : Cursor
  mayDedent : Bool := true

namespace Completion

def text (completion : Completion) : String :=
  completion.cursor.text

def query (completion : Completion) (current : Block) : String :=
  String.ofList (completion.cursor.query current)

def typed (completion : Completion) (query : String) : Region :=
  ⟨completion.cursor.offset - Text.byteLength query.toList, completion.cursor.offset⟩

def blankBefore (completion : Completion) (offset : Nat) : String :=
  if Cursor.followsBlank completion.text offset then "" else " "

def hintIndent (context : SchemaContext) (current : Block) : Nat :=
  let around := match context.source with
    | .block block => block.indent
    | _ => none
  (around.or current.indent).getD 0

def ofHint? (completion : Completion) (query : String) (type : TypeId) (context : SchemaContext)
    (current : Block) (hint : Hint) : Option Proposal :=
  let replaced := completion.typed query
  if hint.value == query then none
  else
    (Score.rate? query hint.value).map fun score => {
      label := hint.label
      insertion := completion.blankBefore replaced.start ++ Snippet.escape hint.value ++
        (hint.continuation.map (Snippet.indent · (hintIndent context current))).getD ""
      detail := completion.schema.niceName type
      documentation := hint.documentation
      replaced
      score
      kind := .value }

def values (completion : Completion) (query : String) (type : TypeId) (context : SchemaContext)
    (current : Block) : List Proposal :=
  (completion.schema.hints type context).filterMap (completion.ofHint? query type context current)

/-- The properties of a bean, or for a map one for each hint on its keys. -/
def offered (schema : Schema) (type : TypeId) (context : SchemaContext) : List Property :=
  if schema.isBean type then schema.properties type
  else if schema.isMap type && !schema.isAny type then
    match schema.keyType? type, schema.domain? type with
    | some key, some value => (schema.hints key context).map fun hint =>
        { name := hint.value, type := value, description := hint.documentation.getD .empty }
    | _, _ => []
  else []

def tiers (tiered : Bool) (properties : List Property) : List (List Property) :=
  let second := fun (property : Property) => !tiered || property.required
  [properties.filter (·.primary), properties.filter fun property => !property.primary && second property,
    properties.filter fun property => !property.primary && !second property]

def isDefined (schema : Schema) (defined : List String) (property : Property) : Bool :=
  defined.any fun key => property.isNamed key ||
    (schema.options.relaxedNames && Names.canonical key == Names.canonical property.name)

def addable (schema : Schema) (defined : List String) (tier : List Property) : List Property :=
  tier.filter fun property => !isDefined schema defined property &&
    (schema.options.suggestDeprecated || !property.deprecated)

/-- The tiers up to the first that lacks a required property. -/
def openTiers (schema : Schema) (defined : List String) : List (List Property) → List Property
  | [] => []
  | tier :: rest =>
      let left := addable schema defined tier
      if left.any (·.required) then left else left ++ openTiers schema defined rest

/-- The better one of the best spelling so far and another; one without a match does not count. -/
def better (query : String) (best : Option (Float × String)) (spelling : String) : Option (Float × String) :=
  match Score.rate? query spelling with
  | some score => if best.all fun known => score > known.1 then some (score, spelling) else best
  | none => best

def bestSpelling? (query : String) (spellings : List String) : Option (Float × String) :=
  spellings.foldl (better query) none

def spellings (schema : Schema) (property : Property) : List String :=
  if schema.options.relaxedNames then property.spellings else [property.name]

def continuation (schema : Schema) (type : TypeId) : String :=
  if schema.isAtomic type then " $1"
  else if schema.isSequence type then "\n- $1"
  else if schema.isBean type || schema.isMap type then "\n  $1"
  else " $1"

/-- The insertion for a key; after the colon of another key it starts a line of its own. -/
def keyInsertion (completion : Completion) (query : String) (current : Block) (name : String) (type : TypeId) :
    String :=
  let start := (completion.typed query).start
  let column := Cursor.column completion.text start
  let key := Snippet.escape name ++ ":" ++ continuation completion.schema type
  if current.kind == .key && current.isInValue completion.cursor.offset then
    Snippet.indent ("\n" ++ key) (current.indent.getD 0 + Proposal.indentWidth)
  else if Cursor.followsBlank completion.text start then Snippet.indent key column
  else Snippet.indent (" " ++ key) (column + 1)

def ofProperty? (completion : Completion) (query : String) (owner : TypeId) (current : Block)
    (property : Property) : Option Proposal :=
  let schema := completion.schema
  (bestSpelling? query (spellings schema property)).map fun (score, spelling) =>
    let proposal : Proposal := {
      label := spelling
      insertion := completion.keyInsertion query current spelling property.type
      detail := schema.niceName property.type
      documentation := some (property.documentation schema owner)
      replaced := completion.typed query
      score
      kind := .property
      deprecated := property.deprecated }
    if property.deprecated then proposal.lowered Proposal.Penalty.deprecation else proposal

def keys (completion : Completion) (query : String) (type : TypeId) (context : SchemaContext)
    (current : Block) : List Proposal :=
  let schema := completion.schema
  let ordered := tiers schema.options.tieredProposals (offered schema type context)
  (openTiers schema context.definedKeys ordered).filterMap (completion.ofProperty? query type current)

def own (completion : Completion) (context : AssistContext) (current : Block) (type : TypeId) : List Proposal :=
  let surroundings := context.surroundings
  let query := completion.query current
  match completion.values query type surroundings current with
  | [] => completion.keys query type surroundings current
  | values => values

/-- Every member of an undecided union is still possible. -/
def possible (schema : Schema) (type : TypeId) : List TypeId :=
  if schema.isUnion type then schema.members type else [type]

def items (completion : Completion) (context : AssistContext) (current : Block) (type : TypeId) : List Proposal :=
  let schema := completion.schema
  if schema.isSequence type && !schema.isAny type then
    match schema.domain? type with
    | some item =>
        ((possible schema item).flatMap (completion.own context current)).map fun proposal =>
          (proposal.withDash completion.text current).lowered Proposal.Penalty.dash
    | none => []
  else []

def inContext (completion : Completion) (current : Block) (context : AssistContext) : List Proposal :=
  match context.type? with
  | none => []
  | some type => (possible completion.schema type).flatMap fun type =>
      completion.own context current type ++ completion.items context current type

def contextsAt (completion : Completion) (block : Block) : List AssistContext :=
  block.path.results (AssistContext.top completion.schema (.outline completion.cursor.outline) completion.root)

def inBlock (completion : Completion) (current around : Block) : List Proposal :=
  let contexts := completion.contextsAt around
  if contexts.isEmpty && completion.cursor.isAfterColon around then
    match current.parent?, around.parent? with
    | some current, some around => (completion.contextsAt around).flatMap (completion.inContext current)
    | _, _ => []
  else contexts.flatMap (completion.inContext current)

def isBarren (block : Block) : Bool :=
  match block.kind with
  | .key => block.simpleValue?.all (·.isEmpty)
  | .item => Text.trimmed block.text == "-"
  | _ => false

def childColumn (around current : Block) (dash : Bool) : Nat :=
  match ((around.children.filter (·.id != current.id)).filterMap Block.indent).max? with
  | some column => column
  | none =>
      let own := around.indent.getD 0
      if dash || around.kind == .document then own else own + Proposal.indentWidth

def endsHere (current around : Block) : Bool :=
  let between := (current.ancestry.dropLast.reverse).takeWhile (·.id != around.id)
  between.all fun block => block.lastRealChild?.all (·.start < current.stop)

def moved? (completion : Completion) (current around : Block) (column : Nat) (proposal : Proposal) :
    Option Proposal :=
  let wanted := childColumn around current proposal.hasDash
  if wanted = column then some proposal
  else if column < wanted then
    if isBarren around then some (proposal.indented (wanted - column)) else none
  else if completion.mayDedent && endsHere current around then
    proposal.dedented? (column - wanted) completion.text
  else none

def inBlocks (completion : Completion) (current : Block) (column : Nat) : Float → List Block → List Proposal
  | _, [] => []
  | penalty, around :: rest =>
      let here := (completion.inBlock current around).filterMap (completion.moved? current around column)
      here.map (·.lowered penalty) ++
        inBlocks completion current column (penalty + Proposal.Penalty.nextContext) rest

/-- The blocks whose content the cursor may be part of, the nearest first. -/
def candidates (cursor : Cursor) (current : Block) (column : Nat) : List Block :=
  match current.kind with
  | .key | .item => if current.isInValue cursor.offset then [current] else current.parent?.toList
  | .document => [current]
  | .raw => current.ancestry.reverse.filter fun block => block.segment?.isSome && block.indent.any (· ≤ column)
  | .root => []

def proposals (completion : Completion) : List Proposal :=
  let cursor := completion.cursor
  if Cursor.isInComment completion.text cursor.offset then []
  else
    match cursor.outline.find? cursor.offset with
    | none => []
    | some current =>
        let cursorColumn := Cursor.column completion.text cursor.offset
        let column := (current.indent.map (min · cursorColumn)).getD cursorColumn
        let around := candidates cursor current column
        Proposal.ranked
          (if current.kind == .raw then completion.inBlocks current column 0 around
          else (around.take 1).flatMap (completion.inBlock current))

def find (schema : Schema) (root : TypeId) (mayDedent : Bool) (text : String) (offset : Nat) : List Proposal :=
  let outline := Outline.ofText text schema.options.relaxedNames
  proposals ⟨schema, root, ⟨outline, Text.floorBoundary text.toList offset⟩, mayDedent⟩

end Completion
end YamlDialects
