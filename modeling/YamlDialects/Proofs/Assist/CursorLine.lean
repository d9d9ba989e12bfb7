import YamlDialects.Proofs.Assist.Cutting
import YamlDialects.Proofs.Assist.Keeping

set_option autoImplicit false

namespace YamlDialects

structure Region.EndsLine (text : String) (offset : Nat) (region : Region) : Prop where
  stop : region.stop = offset
  forward : region.start ≤ region.stop
  startBoundary : Text.IsBoundary text.toList region.start
  stopBoundary : Text.IsBoundary text.toList region.stop
  single : '\n' ∉ (region.text text).toList

namespace Region

theorem ends_line_of_slice (text : String) (start stop : Nat) (chars : List Char)
    (cut : Text.slice? text.toList start stop = some chars) (single : '\n' ∉ chars) : EndsLine text stop ⟨start, stop⟩ := by
  obtain ⟨before, after, split, length, width⟩ := Text.slice_split _ _ _ _ cut
  refine ⟨rfl, by rw [← width]; exact Nat.le_add_right _ _, ?_, ?_, ?_⟩
  · exact (Text.boundary_iff_split _ _).mpr ⟨before, chars ++ after, split, length⟩
  · refine (Text.boundary_iff_split _ _).mpr ⟨before ++ chars, after, by simpa using split, ?_⟩
    rw [Text.byte_length_append, length, width]
  · rw [Region.text, Text.slice, cut]
    simpa using single

theorem ends_line_suffix (text : String) (offset : Nat) (boundary : Text.IsBoundary text.toList offset) (typed : List Char)
    (suffix : typed <:+ Cursor.lineBefore text offset) :
    Text.byteLength typed ≤ offset ∧ EndsLine text offset ⟨offset - Text.byteLength typed, offset⟩ := by
  obtain ⟨head, line, reads⟩ := Cursor.reads_line text offset boundary
  obtain ⟨after, split⟩ := reads.split
  rw [reads.held] at suffix
  obtain ⟨lead, rfl⟩ := suffix
  have width := reads.width
  rw [Text.byte_length_append] at width
  have cut := Text.slice_append (head ++ lead) typed after
  rw [Text.byte_length_append, Nat.add_assoc, width, show head ++ lead ++ (typed ++ after) = text.toList by rw [split]; simp,
    show Text.byteLength head + Text.byteLength lead = offset - Text.byteLength typed by omega] at cut
  exact ⟨by omega, ends_line_of_slice text _ offset typed cut fun member => reads.single (List.mem_append_right lead member)⟩

theorem ends_line_extended (text : String) (offset amount : Nat) (region : Region) (ends : EndsLine text offset region)
    (chars : List Char) (cut : Text.slice? text.toList (region.start - amount) region.start = some chars) (spaces : chars.all (· == ' ') = true) :
    EndsLine text offset ⟨region.start - amount, region.stop⟩ := by
  obtain ⟨_, held, _, _, _, _, own⟩ := Text.slice_between _ _ _ ends.startBoundary ends.stopBoundary ends.forward
  have single := ends.single
  rw [Region.text, Text.slice, own, Option.getD_some, String.toList_ofList] at single
  rw [← ends.stop]
  refine ends_line_of_slice text _ _ (chars ++ held) (Text.slice_join _ _ _ _ _ _ cut own) fun member => ?_
  rcases List.mem_append.mp member with space | later
  · exact absurd (List.all_eq_true.mp spaces _ space) (by decide)
  · exact single later

end Region

namespace Proposal

def dashInsertionChecked (proposal : Proposal) (text : String) (block : Block) : Option String := do
  let (blank, rest) ← Snippet.splitBlankChecked proposal.insertion
  let before ← Cursor.lineBeforeChecked text proposal.replaced.start
  if proposal.kind == .value && before.any fun c => !Text.isBlank c then
    return blank ++ "\n" ++ Snippet.spaces (block.indent.getD 0) ++ "- " ++ Snippet.indent rest indentWidth
  else if blank.utf8ByteSize > 2 && blank.endsWith "  " then
    let shorter ← Text.takeBytes? blank.toList (blank.utf8ByteSize - 2)
    return String.ofList shorter ++ "- " ++ rest
  else return blank ++ "- " ++ Snippet.indent rest indentWidth

def withDashChecked (proposal : Proposal) (text : String) (block : Block) : Option Proposal := do
  return { proposal with
    insertion := ← proposal.dashInsertionChecked text block
    label := "- " ++ proposal.label }

def indentedChecked (proposal : Proposal) (amount : Nat) : Option Proposal := do
  let arrows := (amount + 1) / 2
  let (blank, rest) ← Snippet.splitBlankChecked proposal.insertion
  return lowered { proposal with
    insertion := blank ++ Snippet.spaces amount ++ Snippet.indent rest amount
    label := repeated "→ " arrows ++ proposal.label } (Float.ofNat arrows * Penalty.indented)

def dedentedChecked (proposal : Proposal) (amount : Nat) (text : String) : Option (Option Proposal) :=
  let stop := proposal.replaced.start
  if stop < amount then some none
  else
    match Text.slice? text.toList (stop - amount) stop with
    | none => some none
    | some before =>
        if before.all (· == ' ') then do
          let arrows := amount / 2
          let (blank, rest) ← Snippet.splitBlankChecked proposal.insertion
          let shortened ← Snippet.dedentChecked rest amount
          return some (lowered { proposal with
            insertion := blank ++ shortened
            replaced := ⟨stop - amount, proposal.replaced.stop⟩
            label := repeated "← " arrows ++ proposal.label } (Float.ofNat arrows * Penalty.dedented))
        else some none

section

variable (proposal : Proposal) (text : String) (block : Block) (amount : Nat)

theorem shorter_blank (blank : String) (ends : blank.endsWith "  " = true) :
    Text.takeBytes? blank.toList (blank.utf8ByteSize - 2) = some blank.toList.dropLast.dropLast := by
  rw [← String.endsWith_toSlice, String.Slice.endsWith_string_iff] at ends
  obtain ⟨shorter, split⟩ : [ ' ', ' '] <:+ blank.toList := by simpa using ends
  have taken := Text.take_bytes_append shorter [ ' ', ' ']
  have width : blank.utf8ByteSize - 2 = Text.byteLength shorter := by
    rw [← Text.byte_length_to_list, ← split, Text.byte_length_append]
    rfl
  rw [width, ← split, taken]
  simp

theorem dash_insertion_checked (starts : Text.IsBoundary text.toList proposal.replaced.start) :
    proposal.dashInsertionChecked text block = some (proposal.dashInsertion text block) := by
  unfold dashInsertionChecked dashInsertion
  rw [Snippet.split_blank_checked, Cursor.line_before_checked text _ starts]
  simp only [Option.bind_eq_bind, Option.bind_some]
  split
  · rfl
  · split
    next ending =>
      rw [shorter_blank _ (Bool.and_eq_true_iff.mp ending).2]
      rfl
    next => rfl

theorem with_dash_checked (starts : Text.IsBoundary text.toList proposal.replaced.start) :
    proposal.withDashChecked text block = some (proposal.withDash text block) := by
  rw [withDashChecked, dash_insertion_checked proposal text block starts]
  rfl

theorem indented_checked : proposal.indentedChecked amount = some (proposal.indented amount) := by
  rw [indentedChecked, Snippet.split_blank_checked]
  rfl

theorem dedented_checked : proposal.dedentedChecked amount text = some (proposal.dedented? amount text) := by
  unfold dedentedChecked dedented?
  simp only [Snippet.split_blank_checked, Snippet.dedent_checked, Option.bind_eq_bind, Option.bind_some]
  split
  · rfl
  · cases Text.slice? text.toList (proposal.replaced.start - amount) proposal.replaced.start with
    | none => rfl
    | some before =>
        dsimp only
        split <;> rfl

end

end Proposal

namespace Completion

def queryChecked (completion : Completion) (current : Block) : Option String :=
  (completion.cursor.queryChecked current).map String.ofList

def typedChecked (completion : Completion) (query : String) : Option Region :=
  if Text.byteLength query.toList ≤ completion.cursor.offset then some (completion.typed query) else none

def blankBeforeChecked (completion : Completion) (offset : Nat) : Option String :=
  (Cursor.followsBlankChecked completion.text offset).map fun blank => if blank then "" else " "

def ofHintChecked (completion : Completion) (query : String) (type : TypeId) (context : SchemaContext)
    (current : Block) (hint : Hint) : Option (Option Proposal) := do
  let replaced ← completion.typedChecked query
  if hint.value == query then return none
  else
    match ← Score.rateChecked query hint.value with
    | none => return none
    | some score => return some {
        label := hint.label
        insertion := (← completion.blankBeforeChecked replaced.start) ++ Snippet.escape hint.value ++
          (hint.continuation.map (Snippet.indent · (hintIndent context current))).getD ""
        detail := completion.schema.niceName type
        documentation := hint.documentation
        replaced
        score
        kind := .value }

def valuesChecked (completion : Completion) (query : String) (type : TypeId) (context : SchemaContext)
    (current : Block) : Option (List Proposal) :=
  ((completion.schema.hints type context).mapM (completion.ofHintChecked query type context current)).map List.reduceOption

def betterChecked (query : String) (best : Option (Float × String)) (spelling : String) : Option (Option (Float × String)) := do
  match ← Score.rateChecked query spelling with
  | some score => return if best.all fun known => score > known.1 then some (score, spelling) else best
  | none => return best

def bestSpellingChecked (query : String) (spellings : List String) : Option (Option (Float × String)) :=
  spellings.foldlM (betterChecked query) none

-- For a key the line is not looked at to tell whether the cursor is in its value.
def keyInsertionChecked (completion : Completion) (query : String) (current : Block) (name : String) (type : TypeId) :
    Option String := do
  let start := (← completion.typedChecked query).start
  let column ← Cursor.columnChecked completion.text start
  let key := Snippet.escape name ++ ":" ++ continuation completion.schema type
  if current.kind == .key && current.isInValue completion.cursor.offset then
    return Snippet.indent ("\n" ++ key) (current.indent.getD 0 + Proposal.indentWidth)
  else if ← Cursor.followsBlankChecked completion.text start then return Snippet.indent key column
  else return Snippet.indent (" " ++ key) (column + 1)

def ofPropertyChecked (completion : Completion) (query : String) (owner : TypeId) (current : Block)
    (property : Property) : Option (Option Proposal) := do
  let schema := completion.schema
  match ← bestSpellingChecked query (spellings schema property) with
  | none => return none
  | some (score, spelling) =>
      let proposal : Proposal := {
        label := spelling
        insertion := ← completion.keyInsertionChecked query current spelling property.type
        detail := schema.niceName property.type
        documentation := some (property.documentation schema owner)
        replaced := ← completion.typedChecked query
        score
        kind := .property
        deprecated := property.deprecated }
      return some (if property.deprecated then proposal.lowered Proposal.Penalty.deprecation else proposal)

def keysChecked (completion : Completion) (query : String) (type : TypeId) (context : SchemaContext)
    (current : Block) : Option (List Proposal) :=
  let schema := completion.schema
  let ordered := tiers schema.options.tieredProposals (offered schema type context)
  ((openTiers schema context.definedKeys ordered).mapM (completion.ofPropertyChecked query type current)).map List.reduceOption

def ownChecked (completion : Completion) (context : AssistContext) (current : Block) (type : TypeId) : Option (List Proposal) := do
  let surroundings := context.surroundings
  let query ← completion.queryChecked current
  match ← completion.valuesChecked query type surroundings current with
  | [] => completion.keysChecked query type surroundings current
  | values => return values

def itemsChecked (completion : Completion) (context : AssistContext) (current : Block) (type : TypeId) : Option (List Proposal) :=
  let schema := completion.schema
  if schema.isSequence type && !schema.isAny type then
    match schema.domain? type with
    | some item => do
        let undashed ← ((possible schema item).mapM (completion.ownChecked context current)).map List.flatten
        undashed.mapM fun proposal => (proposal.withDashChecked completion.text current).map (·.lowered Proposal.Penalty.dash)
    | none => some []
  else some []

def inContextChecked (completion : Completion) (current : Block) (context : AssistContext) : Option (List Proposal) :=
  match context.type? with
  | none => some []
  | some type => ((possible completion.schema type).mapM fun type => do
      return (← completion.ownChecked context current type) ++ (← completion.itemsChecked context current type)).map List.flatten

def inBlockChecked (completion : Completion) (current around : Block) : Option (List Proposal) :=
  let contexts := completion.contextsAt around
  if contexts.isEmpty && completion.cursor.isAfterColon around then
    match current.parent?, around.parent? with
    | some current, some around => ((completion.contextsAt around).mapM (completion.inContextChecked current)).map List.flatten
    | _, _ => some []
  else (contexts.mapM (completion.inContextChecked current)).map List.flatten

def isBarrenChecked (block : Block) : Option Bool :=
  match block.kind with
  | .item => block.textChecked.map fun text => Text.trimmed text == "-"
  | _ => some (isBarren block)

def movedChecked (completion : Completion) (current around : Block) (column : Nat) (proposal : Proposal) :
    Option (Option Proposal) := do
  let wanted := childColumn around current proposal.hasDash
  if wanted = column then return some proposal
  else if column < wanted then
    if ← isBarrenChecked around then return some (← proposal.indentedChecked (wanted - column)) else return none
  else if completion.mayDedent && endsHere current around then
    proposal.dedentedChecked (column - wanted) completion.text
  else return none

def inBlocksChecked (completion : Completion) (current : Block) (column : Nat) : Float → List Block → Option (List Proposal)
  | _, [] => some []
  | penalty, around :: rest => do
      let made ← completion.inBlockChecked current around
      let here ← (made.mapM (completion.movedChecked current around column)).map List.reduceOption
      return here.map (·.lowered penalty) ++
        (← inBlocksChecked completion current column (penalty + Proposal.Penalty.nextContext) rest)

def candidatesChecked (cursor : Cursor) (current : Block) (column : Nat) : Option (List Block) :=
  match current.kind with
  | .key | .item => do
      if ← current.isInValueChecked cursor.offset then return [current] else return current.parent?.toList
  | _ => some (candidates cursor current column)

def proposalsChecked (completion : Completion) : Option (List Proposal) := do
  let cursor := completion.cursor
  if ← Cursor.isInCommentChecked completion.text cursor.offset then return []
  else
    match cursor.outline.find? cursor.offset with
    | none => return []
    | some current =>
        let cursorColumn ← Cursor.columnChecked completion.text cursor.offset
        let column := (current.indent.map (min · cursorColumn)).getD cursorColumn
        let around ← candidatesChecked cursor current column
        let _ ← (current :: around).mapM Block.textChecked
        (if current.kind == .raw then completion.inBlocksChecked current column 0 around
          else ((around.take 1).mapM (completion.inBlockChecked current)).map List.flatten).map Proposal.ranked

def findChecked (schema : Schema) (root : TypeId) (mayDedent : Bool) (text : String) (offset : Nat) : Option (List Proposal) := do
  let outline ← Outline.ofTextChecked text schema.options.relaxedNames
  proposalsChecked ⟨schema, root, ⟨outline, Text.floorBoundary text.toList offset⟩, mayDedent⟩

theorem candidates_belong (cursor : Cursor) (current : Block) (column : Nat) :
    ∀ around ∈ candidates cursor current column, around.outline = current.outline := by
  intro around member
  have nearest (among : around ∈ if current.isInValue cursor.offset then [current] else current.parent?.toList) :
      around.outline = current.outline := by
    split at among
    · rw [List.mem_singleton.mp among]
    · exact current.parent_outline around (Option.mem_toList.mp among)
  unfold candidates at member
  split at member
  · exact nearest member
  · exact nearest member
  · rw [List.mem_singleton.mp member]
  · exact current.ancestry_outline around (List.mem_reverse.mp (List.mem_filter.mp member).1)
  · cases member

theorem better_checked (query : String) (best : Option (Float × String)) (spelling : String) :
    betterChecked query best spelling = some (better query best spelling) := by
  rw [betterChecked, better, Score.rate_checked, Option.bind_eq_bind, Option.bind_some]
  cases Score.rate? query spelling <;> rfl

theorem best_spelling_checked (query : String) (spellings : List String) :
    bestSpellingChecked query spellings = some (bestSpelling? query spellings) :=
  folds_checked _ _ _ _ fun spelling _ best => better_checked query best spelling

structure Placed (completion : Completion) : Prop where
  outlined : completion.cursor.outline = Outline.ofText completion.text completion.schema.options.relaxedNames
  boundary : Text.IsBoundary completion.text.toList completion.cursor.offset

section

variable (completion : Completion) (placed : completion.Placed) (current : Block)
variable (inside : current.outline = completion.cursor.outline)

include placed inside

theorem query_checked : completion.queryChecked current = some (completion.query current) := by
  rw [queryChecked, completion.cursor.query_checked current _ (inside.trans placed.outlined) placed.boundary]
  rfl

theorem typed_ends_line :
    completion.typedChecked (completion.query current) = some (completion.typed (completion.query current)) ∧
      (completion.typed (completion.query current)).EndsLine completion.text completion.cursor.offset := by
  have suffix := completion.cursor.query_suffix current _ (inside.trans placed.outlined) placed.boundary
  obtain ⟨fits, ends⟩ := Region.ends_line_suffix completion.text _ placed.boundary _ suffix
  have same : (completion.query current).toList = completion.cursor.query current := String.toList_ofList
  rw [typedChecked, typed, same, if_pos fits]
  exact ⟨rfl, ends⟩

theorem of_hint_checked (type : TypeId) (context : SchemaContext) (hint : Hint) :
    completion.ofHintChecked (completion.query current) type context current hint =
      some (completion.ofHint? (completion.query current) type context current hint) := by
  obtain ⟨typed, ends⟩ := typed_ends_line completion placed current inside
  have blank := Cursor.follows_blank_checked completion.text _ ends.startBoundary
  rw [ofHintChecked, ofHint?, typed, Score.rate_checked]
  simp only [Option.bind_eq_bind, Option.bind_some, blankBeforeChecked, blank, Option.map_some]
  split
  · rfl
  · cases Score.rate? (completion.query current) hint.value <;> rfl

theorem values_checked (type : TypeId) (context : SchemaContext) :
    completion.valuesChecked (completion.query current) type context current =
      some (completion.values (completion.query current) type context current) :=
  selects_checked _ _ _ fun hint _ => of_hint_checked completion placed current inside type context hint

theorem key_insertion_checked (name : String) (type : TypeId) :
    completion.keyInsertionChecked (completion.query current) current name type =
      some (completion.keyInsertion (completion.query current) current name type) := by
  obtain ⟨typed, ends⟩ := typed_ends_line completion placed current inside
  rw [keyInsertionChecked, keyInsertion, typed]
  simp only [Option.bind_eq_bind, Option.bind_some, Cursor.column_checked _ _ ends.startBoundary,
    Cursor.follows_blank_checked _ _ ends.startBoundary]
  split
  · rfl
  · split <;> rfl

theorem of_property_checked (owner : TypeId) (property : Property) :
    completion.ofPropertyChecked (completion.query current) owner current property =
      some (completion.ofProperty? (completion.query current) owner current property) := by
  obtain ⟨typed, -⟩ := typed_ends_line completion placed current inside
  rw [ofPropertyChecked, ofProperty?, best_spelling_checked]
  simp only [Option.bind_eq_bind, Option.bind_some, typed, key_insertion_checked completion placed current inside]
  cases bestSpelling? (completion.query current) (spellings completion.schema property) <;> rfl

theorem keys_checked (type : TypeId) (context : SchemaContext) :
    completion.keysChecked (completion.query current) type context current =
      some (completion.keys (completion.query current) type context current) :=
  selects_checked _ _ _ fun property _ => of_property_checked completion placed current inside type property

theorem own_checked (context : AssistContext) (type : TypeId) :
    completion.ownChecked context current type = some (completion.own context current type) := by
  rw [ownChecked, own, query_checked completion placed current inside]
  simp only [Option.bind_eq_bind, Option.bind_some, values_checked completion placed current inside,
    keys_checked completion placed current inside]
  cases completion.values (completion.query current) type context.surroundings current <;> rfl

theorem own_ends_line (context : AssistContext) (type : TypeId) : ∀ proposal ∈ completion.own context current type,
    proposal.replaced.EndsLine completion.text completion.cursor.offset := by
  intro proposal member
  have typed : proposal.replaced = completion.typed (completion.query current) := by
    unfold own at member
    dsimp only at member
    split at member
    · obtain ⟨property, _, made⟩ := List.mem_filterMap.mp member
      exact (of_property_spec completion current _ type property proposal made).2
    · obtain ⟨hint, _, made⟩ := List.mem_filterMap.mp member
      exact (of_hint_spec completion current type _ hint proposal _ made).2
  rw [typed]
  exact (typed_ends_line completion placed current inside).2

theorem items_checked (context : AssistContext) (type : TypeId) :
    completion.itemsChecked context current type = some (completion.items context current type) := by
  unfold itemsChecked items
  dsimp only
  split
  · cases completion.schema.domain? type with
    | none => rfl
    | some item =>
        dsimp only
        rw [gathers_checked _ _ _ fun type _ => own_checked completion placed current inside context type, Option.bind_eq_bind,
          Option.bind_some]
        refine maps_checked _ _ _ fun proposal member => ?_
        obtain ⟨type, _, own⟩ := List.mem_flatMap.mp member
        have starts := (own_ends_line completion placed current inside context type proposal own).startBoundary
        rw [proposal.with_dash_checked completion.text current starts, Option.map_some]
  · rfl

theorem items_end_line (context : AssistContext) (type : TypeId) : ∀ proposal ∈ completion.items context current type,
    proposal.replaced.EndsLine completion.text completion.cursor.offset := by
  intro proposal member
  unfold items at member
  dsimp only at member
  split at member
  · split at member
    · obtain ⟨inner, among, rfl⟩ := List.mem_map.mp member
      obtain ⟨type, _, own⟩ := List.mem_flatMap.mp among
      exact own_ends_line completion placed current inside context type inner own
    · cases member
  · cases member

theorem in_context_checked (context : AssistContext) :
    completion.inContextChecked current context = some (completion.inContext current context) := by
  unfold inContextChecked inContext
  cases context.type? with
  | none => rfl
  | some type =>
      refine gathers_checked _ _ _ fun type _ => ?_
      rw [own_checked completion placed current inside, items_checked completion placed current inside]
      rfl

theorem in_context_ends_line (context : AssistContext) : ∀ proposal ∈ completion.inContext current context,
    proposal.replaced.EndsLine completion.text completion.cursor.offset := by
  intro proposal member
  unfold inContext at member
  split at member
  · cases member
  · obtain ⟨type, _, offered⟩ := List.mem_flatMap.mp member
    rcases List.mem_append.mp offered with own | item
    · exact own_ends_line completion placed current inside context type proposal own
    · exact items_end_line completion placed current inside context type proposal item

theorem in_block_checked (around : Block) :
    completion.inBlockChecked current around = some (completion.inBlock current around) := by
  unfold inBlockChecked inBlock
  dsimp only
  split
  · cases hangs : current.parent? with
    | none => rfl
    | some parent =>
        cases around.parent? with
        | none => rfl
        | some outer =>
            have above := (Block.parent_outline current parent hangs).trans inside
            exact gathers_checked _ _ _ fun context _ => in_context_checked completion placed parent above context
  · exact gathers_checked _ _ _ fun context _ => in_context_checked completion placed current inside context

theorem in_block_ends_line (around : Block) : ∀ proposal ∈ completion.inBlock current around,
    proposal.replaced.EndsLine completion.text completion.cursor.offset := by
  intro proposal member
  unfold inBlock at member
  dsimp only at member
  split at member
  · split at member
    next parent outer hangs _ =>
      obtain ⟨context, _, offered⟩ := List.mem_flatMap.mp member
      have above := (Block.parent_outline current parent hangs).trans inside
      exact in_context_ends_line completion placed parent above context proposal offered
    next => cases member
  · obtain ⟨context, _, offered⟩ := List.mem_flatMap.mp member
    exact in_context_ends_line completion placed current inside context proposal offered

end

section

variable (completion : Completion) (current around : Block) (column : Nat)

theorem moved_ends_line (proposal result : Proposal) (moved : completion.moved? current around column proposal = some result)
    (ends : proposal.replaced.EndsLine completion.text completion.cursor.offset) :
    result.replaced.EndsLine completion.text completion.cursor.offset := by
  rcases moved_cases completion current around column proposal result _ rfl moved with
    ⟨_, rfl⟩ | ⟨_, rfl⟩ | ⟨_, dedented⟩
  · exact ends
  · exact ends
  · obtain ⟨_, _, replaced, _, before, cut, spaces⟩ := Proposal.dedented_spec proposal result _ _ dedented
    rw [replaced]
    exact Region.ends_line_extended completion.text _ _ _ ends before cut spaces

variable (placed : completion.Placed) (belongs : around.outline = completion.cursor.outline)

include placed belongs

theorem barren_checked : isBarrenChecked around = some (isBarren around) := by
  unfold isBarrenChecked
  split
  next isItem =>
    rw [around.text_checked _ _ (belongs.trans placed.outlined), Option.map_some, isBarren, isItem]
  next => rfl

theorem moved_checked (proposal : Proposal) :
    completion.movedChecked current around column proposal = some (completion.moved? current around column proposal) := by
  unfold movedChecked moved?
  dsimp only
  split
  · rfl
  · split
    · rw [barren_checked completion around placed belongs, Proposal.indented_checked]
      simp only [Option.bind_eq_bind, Option.bind_some]
      split <;> rfl
    · split
      · exact Proposal.dedented_checked proposal _ _
      · rfl

end

section

variable (completion : Completion) (placed : completion.Placed) (current : Block)
variable (inside : current.outline = completion.cursor.outline)

include placed inside

theorem in_blocks_checked (column : Nat) (penalty : Float) (blocks : List Block)
    (belong : ∀ around ∈ blocks, around.outline = completion.cursor.outline) :
    completion.inBlocksChecked current column penalty blocks = some (completion.inBlocks current column penalty blocks) := by
  induction blocks generalizing penalty with
  | nil => rfl
  | cons around rest ih =>
      obtain ⟨here, others⟩ := List.forall_mem_cons.mp belong
      have moved := selects_checked (completion.inBlock current around) _ _ fun proposal _ =>
        moved_checked completion current around column placed here proposal
      rw [inBlocksChecked, inBlocks, in_block_checked completion placed current inside around]
      simp only [Option.bind_eq_bind, Option.bind_some, moved, ih _ others]
      rfl

theorem candidates_checked (column : Nat) :
    candidatesChecked completion.cursor current column = some (candidates completion.cursor current column) := by
  have asked := current.in_value_checked _ _ (inside.trans placed.outlined) completion.cursor.offset
  unfold candidatesChecked candidates
  rw [asked, Option.bind_eq_bind, Option.bind_some]
  cases current.kind <;> cases current.isInValue completion.cursor.offset <;> rfl

end

theorem proposals_checked (completion : Completion) (placed : completion.Placed) :
    completion.proposalsChecked = some completion.proposals := by
  unfold proposalsChecked proposals
  dsimp only
  rw [Cursor.in_comment_checked _ _ placed.boundary, Cursor.column_checked _ _ placed.boundary]
  simp only [Option.bind_eq_bind, Option.bind_some]
  split
  · rfl
  · cases search : completion.cursor.outline.find? completion.cursor.offset with
    | none => rfl
    | some current =>
        have inside := Block.find_outline _ _ current search
        dsimp only
        generalize (current.indent.map _).getD _ = column
        have belong : ∀ around ∈ candidates completion.cursor current column, around.outline = completion.cursor.outline :=
          fun around member => (candidates_belong completion.cursor current column around member).trans inside
        have logged := maps_checked (current :: candidates completion.cursor current column) Block.textChecked Block.text
          (List.forall_mem_cons.mpr ⟨current.text_checked _ _ (inside.trans placed.outlined), fun around member =>
            around.text_checked _ _ ((belong around member).trans placed.outlined)⟩)
        have gathered := gathers_checked ((candidates completion.cursor current column).take 1) _ _ fun around _ =>
          in_block_checked completion placed current inside around
        rw [candidates_checked completion placed current inside column, Option.bind_some, logged, Option.bind_some,
          in_blocks_checked completion placed current inside column 0 _ belong, gathered]
        split <;> rfl

theorem proposals_end_line (completion : Completion) (placed : completion.Placed) : ∀ proposal ∈ completion.proposals,
    proposal.replaced.EndsLine completion.text completion.cursor.offset := by
  intro proposal member
  unfold proposals at member
  dsimp only at member
  split at member
  · cases member
  · split at member
    next => cases member
    next current search =>
      have inside := Block.find_outline _ _ current search
      have made := Proposal.mem_ranked _ proposal member
      split at made
      · obtain ⟨around, _, own, moved, amount, rfl⟩ := in_blocks_made completion current _ 0 _ proposal made
        obtain ⟨inner, offered, moved⟩ := List.mem_filterMap.mp moved
        exact moved_ends_line completion current around _ inner own moved
          (in_block_ends_line completion placed current inside around inner offered)
      · obtain ⟨around, _, offered⟩ := List.mem_flatMap.mp made
        exact in_block_ends_line completion placed current inside around proposal offered

theorem placed_between (schema : Schema) (root : TypeId) (mayDedent : Bool) (text : String) (offset : Nat) :
    (between schema root mayDedent text (Text.floorBoundary text.toList offset)).Placed :=
  ⟨rfl, Text.floor_boundary_boundary text.toList offset⟩

theorem find_cuts_on_line (schema : Schema) (root : TypeId) (mayDedent : Bool) (text : String) (offset : Nat) :
    findChecked schema root mayDedent text offset = some (find schema root mayDedent text offset) ∧
      ∀ proposal ∈ find schema root mayDedent text offset,
        proposal.replaced.EndsLine text (Text.floorBoundary text.toList offset) := by
  have placed := placed_between schema root mayDedent text offset
  rw [findChecked, Outline.of_text_checked, find]
  refine ⟨proposals_checked _ placed, fun proposal member => ?_⟩
  exact proposals_end_line _ placed proposal member

-- The cursor stands inside an accented letter, behind a word that is too far to the right.
def accentedText : String :=
  "a:\n    xé\n"

theorem find_cuts_on_line_accented : ∃ proposal ∈ find nestedSchema 3 true accentedText 9, proposal.label = "← x" ∧
    proposal.replaced = ⟨5, 8⟩ ∧ proposal.replaced.EndsLine accentedText 8 := by
  have offered : (find nestedSchema 3 true accentedText 9).any (fun proposal => proposal.label == "← x" &&
      proposal.replaced == ⟨5, 8⟩) = true := by decide +kernel
  obtain ⟨proposal, made, shown⟩ := List.any_eq_true.mp offered
  obtain ⟨label, replaced⟩ := Bool.and_eq_true_iff.mp shown
  have floor : Text.floorBoundary accentedText.toList 9 = 8 := by decide +kernel
  have ends := (find_cuts_on_line nestedSchema 3 true accentedText 9).2 proposal made
  rw [floor] at ends
  exact ⟨proposal, made, beq_iff_eq.mp label, beq_iff_eq.mp replaced, ends⟩

end Completion
end YamlDialects
