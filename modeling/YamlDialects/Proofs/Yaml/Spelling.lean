import YamlDialects.Yaml.Tree

set_option autoImplicit false

namespace YamlDialects

namespace Outline

def spelled (relaxedNames : Bool) (outline : Outline) : Outline :=
  { outline with relaxedNames }

end Outline

namespace Block

def spelled (relaxedNames : Bool) (block : Block) : Block :=
  ⟨block.outline.spelled relaxedNames, block.id⟩

variable (relaxedNames : Bool) (block : Block)

theorem spelled_children : (block.spelled relaxedNames).children = block.children.map (spelled relaxedNames) := by
  simp only [children, List.map_map]
  rfl

theorem spelled_parent : (block.spelled relaxedNames).parent? = block.parent?.map (spelled relaxedNames) := by
  simp only [parent?, Option.map_map]
  rfl

theorem spelled_last_descendant (fuel : Nat) :
    (block.spelled relaxedNames).lastDescendant fuel = (block.lastDescendant fuel).spelled relaxedNames := by
  induction fuel generalizing block with
  | zero => rfl
  | succ fuel ih =>
      rw [lastDescendant, lastDescendant, lastChild?, lastChild?, spelled_children, List.getLast?_map]
      cases block.children.getLast? with
      | none => rfl
      | some child => exact ih child

theorem spelled_tree_stop : (block.spelled relaxedNames).treeStop = block.treeStop := by
  have last : (block.spelled relaxedNames).lastDescendant (block.spelled relaxedNames).outline.size =
      (block.lastDescendant block.outline.size).spelled relaxedNames :=
    spelled_last_descendant relaxedNames block block.outline.size
  rw [treeStop, treeStop, last]
  rfl

theorem spelled_find_from (atEnd : Bool) (offset fuel : Nat) :
    findFrom atEnd offset fuel (block.spelled relaxedNames) =
      (findFrom atEnd offset fuel block).map (spelled relaxedNames) := by
  induction fuel generalizing block with
  | zero => rfl
  | succ fuel ih =>
      have reaches : (block.spelled relaxedNames).reaches offset atEnd = block.reaches offset atEnd := by
        rw [Block.reaches, Block.reaches, spelled_tree_stop]
        rfl
      have candidates : (if atEnd = true then (block.spelled relaxedNames).children.reverse
            else (block.spelled relaxedNames).children) =
          (if atEnd = true then block.children.reverse else block.children).map (spelled relaxedNames) := by
        rw [spelled_children]
        cases atEnd <;> simp
      have below : findFrom atEnd offset fuel ∘ spelled relaxedNames =
          Option.map (spelled relaxedNames) ∘ findFrom atEnd offset fuel := funext ih
      simp only [findFrom, reaches, candidates, List.findSome?_map, below]
      rw [← List.map_findSome?]
      generalize (if atEnd = true then block.children.reverse else block.children).findSome?
        (findFrom atEnd offset fuel) = deeper
      cases block.reaches offset atEnd <;> cases deeper <;> rfl

theorem spelled_climb (fuel : Nat) (below : List Block) :
    ancestry.climb fuel (block.spelled relaxedNames) (below.map (spelled relaxedNames)) =
      (ancestry.climb fuel block below).map (spelled relaxedNames) := by
  induction fuel generalizing block below with
  | zero => rfl
  | succ fuel ih =>
      rw [ancestry.climb, ancestry.climb, spelled_parent]
      cases block.parent? with
      | none => rfl
      | some parent => exact ih parent (block :: below)

theorem spelled_ancestry : (block.spelled relaxedNames).ancestry = block.ancestry.map (spelled relaxedNames) :=
  spelled_climb relaxedNames block block.outline.size []

theorem spelled_path : (block.spelled relaxedNames).path = block.path := by
  rw [path, spelled_ancestry, List.filterMap_map]
  rfl

theorem spelled_document : (block.spelled relaxedNames).document? = block.document?.map (spelled relaxedNames) := by
  rw [document?, spelled_ancestry, List.find?_map]
  rfl

end Block

theorem Outline.spelled_find (relaxedNames : Bool) (outline : Outline) (offset : Nat) :
    (outline.spelled relaxedNames).find? offset = (outline.find? offset).map (Block.spelled relaxedNames) :=
  outline.root.spelled_find_from relaxedNames _ offset _

namespace Yaml

variable (relaxedNames : Bool)

theorem spelled_blank_region (block : Block) : blankRegion (block.spelled relaxedNames) = blankRegion block := by
  simp only [blankRegion, Block.treeRegion, Block.spelled_tree_stop]
  rfl

theorem spelled_step_block (block : Block) :
    stepBlock? (block.spelled relaxedNames) = (stepBlock? block).map (Block.spelled relaxedNames) := by
  rw [stepBlock?, Block.spelled_ancestry, ← List.map_reverse, List.takeWhile_map, List.find?_map]
  rfl

theorem spelled_step_ancestors (block : Block) :
    stepAncestors (block.spelled relaxedNames) = (stepAncestors block).map (Block.spelled relaxedNames) := by
  rw [stepAncestors, Block.spelled_ancestry, ← List.map_reverse, ← List.map_tail, List.filter_map]
  rfl

theorem spelled_distinct_blocks (blocks : List Block) :
    distinctBlocks (blocks.map (Block.spelled relaxedNames)) = (distinctBlocks blocks).map (Block.spelled relaxedNames) := by
  have general : ∀ found : List Block, (blocks.map (Block.spelled relaxedNames)).foldl
      (fun found block => if found.any (·.id == block.id) then found else found ++ [block])
        (found.map (Block.spelled relaxedNames)) =
      (blocks.foldl (fun found block => if found.any (·.id == block.id) then found else found ++ [block]) found).map
        (Block.spelled relaxedNames) := by
    induction blocks with
    | nil => exact fun found => rfl
    | cons first rest ih =>
        intro found
        have known : (found.map (Block.spelled relaxedNames)).any (·.id == (first.spelled relaxedNames).id) =
            found.any (·.id == first.id) := by
          rw [List.any_map]
          rfl
        rw [List.map_cons, List.foldl_cons, List.foldl_cons, known, ← ih]
        cases found.any (·.id == first.id) <;> simp
  exact general []

theorem spelled_suspects (outline : Outline) (working : List Char) (failure : Failure) :
    suspects (outline.spelled relaxedNames) working failure =
      (suspects outline working failure).map (Block.spelled relaxedNames) := by
  have steps : ∀ place : Option Block, (place.map (Block.spelled relaxedNames)).bind stepBlock? =
      (place.bind stepBlock?).map (Block.spelled relaxedNames) := by
    intro place
    cases place with
    | none => rfl
    | some block => exact spelled_step_block relaxedNames block
  have above : ∀ place : Option Block, ((place.map (Block.spelled relaxedNames)).map stepAncestors).getD [] =
      ((place.map stepAncestors).getD []).map (Block.spelled relaxedNames) := by
    intro place
    cases place with
    | none => rfl
    | some block => exact spelled_step_ancestors relaxedNames block
  have here : ((outline.spelled relaxedNames).find? failure.offset).orElse
        (fun _ => (outline.spelled relaxedNames).find? (Text.byteLength working)) =
      ((outline.find? failure.offset).orElse fun _ => outline.find? (Text.byteLength working)).map
        (Block.spelled relaxedNames) := by
    rw [Outline.spelled_find, Outline.spelled_find]
    cases outline.find? failure.offset <;> rfl
  have opened : failure.openStart.bind (outline.spelled relaxedNames).find? =
      (failure.openStart.bind outline.find?).map (Block.spelled relaxedNames) := by
    cases failure.openStart with
    | none => rfl
    | some start => exact outline.spelled_find relaxedNames start
  have document : ∀ place : Option Block, ((place.map (Block.spelled relaxedNames)).bind Block.document?).toList =
      (place.bind Block.document?).toList.map (Block.spelled relaxedNames) := by
    intro place
    cases place with
    | none => rfl
    | some block => rw [Option.map_some, Option.bind_some, Block.spelled_document, Option.toList_map]; rfl
  simp only [suspects, here, opened, steps, above, document]
  generalize Text.byteLength (Text.trimRight _) = shown
  cases shown with
  | zero => simp only [Option.toList_map, ← List.map_append, ← spelled_distinct_blocks, Option.toList_none, List.append_nil]
  | succ length =>
      simp only [Outline.spelled_find, steps, Option.toList_map, ← List.map_append, ← spelled_distinct_blocks]

def Isolated.spelled (isolated : Isolated) : Isolated :=
  { isolated with block := isolated.block.spelled relaxedNames }

theorem spelled_isolated (working : List Char) (block : Block) :
    isolated? working (block.spelled relaxedNames) = (isolated? working block).map (Isolated.spelled relaxedNames) := by
  simp only [isolated?, spelled_blank_region]
  split <;> rfl

theorem spelled_choose (read : TextReader) (failure : Failure) (progress : Option Isolated) (candidates : List Isolated) :
    choose read failure (progress.map (Isolated.spelled relaxedNames)) (candidates.map (Isolated.spelled relaxedNames)) =
      (choose read failure progress candidates).map (Isolated.spelled relaxedNames) := by
  induction candidates generalizing progress with
  | nil => rfl
  | cons candidate rest ih =>
      have text : (candidate.spelled relaxedNames).text = candidate.text := rfl
      have kept : (progress.map (Isolated.spelled relaxedNames)).or (some (candidate.spelled relaxedNames)) =
          (progress.or (some candidate)).map (Isolated.spelled relaxedNames) := by
        cases progress <;> rfl
      rw [List.map_cons, choose, choose, text]
      cases read candidate.text with
      | ok events => rfl
      | error next =>
          dsimp only
          split
          · rw [kept, ih]
          · exact ih progress

theorem spelled_isolate (read : TextReader) (outline : Outline) (working : List Char) (failure : Failure) :
    isolate read (outline.spelled relaxedNames) working failure =
      (isolate read outline working failure).map (Isolated.spelled relaxedNames) := by
  have candidates : isolated? working ∘ Block.spelled relaxedNames =
      fun block => (isolated? working block).map (Isolated.spelled relaxedNames) :=
    funext (spelled_isolated relaxedNames working)
  rw [isolate, isolate, spelled_suspects, List.filterMap_map, candidates, ← List.map_filterMap]
  exact spelled_choose relaxedNames read failure none _

namespace Recovery

theorem spelled_blank_out (recovery : Recovery) (isolated : Isolated) :
    recovery.blankOut (isolated.spelled relaxedNames) = recovery.blankOut isolated := by
  have damage : Damage.ofBlock (isolated.spelled relaxedNames).block isolated.region =
      Damage.ofBlock isolated.block isolated.region := by
    change Damage.ofBlock (isolated.block.spelled relaxedNames) _ = _
    rw [Damage.ofBlock, Damage.ofBlock, Block.spelled_parent, Option.map_map]
    have paths : Block.path ∘ Block.spelled relaxedNames = Block.path := funext (Block.spelled_path relaxedNames)
    rw [paths]
    rfl
  rw [blankOut, blankOut, ← damage]
  rfl

theorem spelled_rounds (read : TextReader) (outline : Outline) (chars : List Char) (fuel : Nat) (recovery : Recovery) :
    rounds read (outline.spelled relaxedNames) chars fuel recovery = rounds read outline chars fuel recovery := by
  induction fuel generalizing recovery with
  | zero => rfl
  | succ fuel ih =>
      rw [rounds, rounds]
      cases read recovery.working with
      | ok events => rfl
      | error failure =>
          dsimp only
          rw [spelled_isolate]
          cases isolate read outline recovery.working failure with
          | none => rfl
          | some isolated =>
              rw [Option.map_some]
              dsimp only
              rw [spelled_blank_out, ih]

end Recovery

theorem Tree.parse_spelled (read : TextReader) (text : String) (relaxedNames : Bool) :
    Tree.parseBy read text relaxedNames =
      { Tree.parseBy read text with outline := (Tree.parseBy read text).outline.spelled relaxedNames } := by
  have recovery : Recovery.run read (Outline.ofText text relaxedNames) text.toList =
      Recovery.run read (Outline.ofText text) text.toList :=
    Recovery.spelled_rounds relaxedNames read (Outline.ofText text) text.toList _ _
  rw [Tree.parseBy, Tree.parseWith, recovery]
  rfl

end Yaml
end YamlDialects
