import Mathlib.Data.List.Basic
import YamlDialects.Proofs.Outline.Returns
import YamlDialects.Proofs.Outline.SameTree

set_option autoImplicit false

namespace YamlDialects

namespace Outline

open Text (byteLength moved)

def Entry.OnLine (chars : List Char) (entry : Entry) : Prop :=
  ∃ before middle after, chars = before ++ (middle ++ after) ∧ '\n' ∉ middle ∧ entry.start = byteLength before ∧
    entry.contentStop = byteLength before + byteLength middle ∧
      ∀ colon, entry.colon = some colon → ∃ length, colon = byteLength before + length ∧ length < byteLength middle

theorem spot_on_line (chars : List Char) (line : Line) (member : line ∈ lines chars) (indent : Nat) (body : List Char)
    (spot : Spot chars line indent body) (entry : Entry) (start : entry.start = line.start + indent)
    (stop : entry.contentStop = line.contentStop)
    (colon : ∀ colon, entry.colon = some colon → ∃ length, colon = entry.start + length ∧ length < byteLength body) :
    entry.OnLine chars := by
  obtain ⟨before, after, split, length, ends⟩ := spot_split chars line indent body spot
  obtain ⟨lead, content, -⟩ := spot.holds
  refine ⟨before, body, after, split, fun inside => ?_, start.trans length.symm, by omega, ?_⟩
  · refine lines_from_plain 0 [] chars List.not_mem_nil line member ?_
    rw [content]
    exact List.mem_append_right lead inside
  · rw [length, ← start]
    exact colon

theorem uncoloned_on_line (chars : List Char) (line : Line) (member : line ∈ lines chars) (indent : Nat) (body : List Char)
    (spot : Spot chars line indent body) (entry : Entry) (start : entry.start = line.start + indent)
    (stop : entry.contentStop = line.contentStop) (uncoloned : entry.colon = none) : entry.OnLine chars := by
  refine spot_on_line chars line member indent body spot entry start stop ?_
  intro colon placed
  rw [uncoloned] at placed
  cases placed

theorem opened_on_line (chars : List Char) (line : Line) (member : line ∈ lines chars) (indent : Nat) (body : List Char)
    (spot : Spot chars line indent body) : ∀ entry ∈ line.opened indent body, entry.OnLine chars := by
  fun_induction Line.opened line indent body with
  | case1 body indent length found =>
      refine List.forall_mem_singleton.mpr (spot_on_line chars line member indent body spot _ rfl rfl ?_)
      intro colon placed
      obtain ⟨key, rest, rfl, -, rfl⟩ := key_length_spec body length found
      refine ⟨_, (Option.some.inj placed).symm, ?_⟩
      have width := Char.utf8Size_pos ':'
      rw [Text.byte_length_append, Text.byte_length_cons]
      omega
  | case2 indent missing =>
      exact List.forall_mem_singleton.mpr (uncoloned_on_line chars line member indent _ spot _ rfl rfl rfl)
  | case3 indent rest missing ih =>
      refine List.forall_mem_cons.mpr ⟨uncoloned_on_line chars line member indent _ spot _ rfl rfl rfl, ?_⟩
      exact ih (spot_after_dash chars line indent rest spot)
  | case4 => exact List.forall_mem_nil _

theorem raw_on_line (chars : List Char) (line : Line) (member : line ∈ lines chars) : line.rawEntry.OnLine chars := by
  have within := lines_within chars line member
  cases indented : line.indent with
  | none =>
      exact uncoloned_on_line chars line member 0 line.chars (spot_zero chars line within) _
        (by simp [Line.rawEntry, indented]) rfl rfl
  | some indent =>
      exact uncoloned_on_line chars line member indent line.body (spot_body chars line indent within indented) _
        (by simp [Line.rawEntry, indented]) rfl rfl

theorem entries_on_line (chars : List Char) (line : Line) (member : line ∈ lines chars) :
    ∀ entry ∈ line.entries, entry.OnLine chars := by
  have within := lines_within chars line member
  refine line.entries_each _ (raw_on_line chars line member) ?_ fun indent indented => ?_
  · exact uncoloned_on_line chars line member 0 line.chars (spot_zero chars line within) _ rfl rfl rfl
  · exact opened_on_line chars line member indent line.body (spot_body chars line indent within indented)

theorem opening_on_line (chars : List Char) : ∀ entry ∈ opening (lines chars), entry.OnLine chars :=
  opening_each _ _ ⟨[], [], chars, rfl, List.not_mem_nil, rfl, rfl, by simp⟩ (raw_on_line chars) (entries_on_line chars)

def returned (outline : Outline) : Outline :=
  ⟨Text.returned outline.text, outline.table.move (moved outline.text.toList), outline.relaxedNames⟩

theorem of_text_returned (text : String) (relaxedNames : Bool) (bare : '\r' ∉ text.toList) :
    ofText (Text.returned text) relaxedNames = (ofText text relaxedNames).returned := by
  rw [ofText, Text.returned, String.toList_ofList, table_returns text.toList bare]
  rfl

theorem returned_same_tree (outline : Outline) : outline.SameTree outline.returned := by
  intro id
  change ((Array.map _ outline.table)[id]?).map _ = _
  rw [Array.getElem?_map, Option.map_map]
  rfl

end Outline

namespace Block

open Outline
open Text (byteLength moved)

def returned (text : String) (relaxedNames : Bool) (block : Block) : Block :=
  block.onto (ofText text relaxedNames).returned

section

variable (text : String) (relaxedNames : Bool) (block : Block) (belongs : block.outline = ofText text relaxedNames)

include belongs

theorem returned_entry : (block.returned text relaxedNames).entry = block.entry.move (moved text.toList) := by
  rw [entry, entry, belongs]
  change ((Array.map _ (ofText text relaxedNames).table)[block.id]?).getD _ = _
  rw [Array.getElem?_map]
  cases (ofText text relaxedNames).table[block.id]? with
  | none => simp [Entry.move, Table.rootOf, Text.moved_zero]
  | some entry => rfl

theorem entry_on_line (notRoot : block.kind ≠ .root) : block.entry.OnLine text.toList := by
  have read := block.read_entry (block.bound_of_kind notRoot)
  have positive := block.positive_of_kind text.toList (block_sound text relaxedNames block belongs) notRoot
  rw [belongs] at read
  -- What an entry shows does not depend on where it hangs.
  exact opening_on_line text.toList block.entry.bare (List.mem_of_getElem? (bare_after_root text relaxedNames block.id
    block.entry positive read))

theorem returned_text (notRoot : block.kind ≠ .root) : (block.returned text relaxedNames).text = block.text := by
  obtain ⟨before, middle, after, split, plain, start, stop, -⟩ := block.entry_on_line text relaxedNames belongs notRoot
  have same : block.outline.text = text := by rw [belongs]; rfl
  have outlined : (block.returned text relaxedNames).outline.text = Text.returned text := rfl
  have slices := Text.slice_returned text before middle after split plain 0 (byteLength middle) (Nat.le_refl _)
  have first := Text.moved_within before middle after 0 plain (Nat.zero_le _)
  have last := Text.moved_within before middle after _ plain (Nat.le_refl _)
  rw [Nat.add_zero, Nat.add_zero] at slices
  rw [Nat.add_zero, Nat.add_zero, ← split] at first
  rw [← split] at last
  rw [Block.text, Block.text, Block.start, Block.start, returned_entry text relaxedNames block belongs, outlined, same]
  simp only [Entry.move, start, stop, first, last]
  rw [Nat.max_eq_left (Nat.le_add_right _ _), Nat.max_eq_left (Nat.le_add_right _ _)]
  exact slices

theorem root_entry (isRoot : block.kind = .root) :
    block.entry = Table.rootOf (byteLength text.toList) ∨ block.entry = Table.rootOf 0 := by
  have sound := block_sound text relaxedNames block belongs
  rcases Nat.eq_zero_or_pos block.id with top | positive
  · have read : block.outline.table[block.id]? = some (Table.rootOf (byteLength text.toList)) := by rw [top]; exact sound.root
    exact .inl (block.entry_of_read _ read)
  · cases read : block.outline.table[block.id]? with
    | none =>
        right
        rw [Block.entry, read]
        rfl
    | some entry => exact absurd ((block.kind_of_read entry read).symm.trans isRoot) (sound.shaped block.id entry positive read).notRoot

theorem root_without_colon (isRoot : block.kind = .root) : block.colon? = none := by
  rw [colon?]
  rcases block.root_entry text relaxedNames belongs isRoot with whole | empty
  · rw [whole]
    rfl
  · rw [empty]
    rfl

theorem returned_colon (colon : Nat) (placed : block.colon? = some colon) :
    (block.returned text relaxedNames).colon? = some (moved text.toList colon) ∧
      Text.slice (Text.returned text) (block.returned text relaxedNames).start (moved text.toList colon) = Text.slice text block.start colon ∧
        Text.slice (Text.returned text) (moved text.toList colon + 1)
            (max (block.returned text relaxedNames).entry.contentStop (moved text.toList colon + 1)) =
          Text.slice text (colon + 1) (max block.entry.contentStop (colon + 1)) := by
  have notRoot : block.kind ≠ .root := by
    intro isRoot
    rw [block.root_without_colon text relaxedNames belongs isRoot] at placed
    cases placed
  obtain ⟨before, middle, after, split, plain, start, stop, inside⟩ := block.entry_on_line text relaxedNames belongs notRoot
  obtain ⟨length, rfl, short⟩ := inside colon placed
  have first := Text.moved_within before middle after 0 plain (Nat.zero_le _)
  have last := Text.moved_within before middle after _ plain (Nat.le_refl _)
  have between := Text.moved_within before middle after length plain (Nat.le_of_lt short)
  rw [Nat.add_zero, Nat.add_zero, ← split] at first
  rw [← split] at last between
  have own := Text.slice_returned text before middle after split plain 0 length (Nat.le_of_lt short)
  have value := Text.slice_returned text before middle after split plain (length + 1) (byteLength middle) (Nat.le_refl _)
  rw [Nat.add_zero, Nat.add_zero] at own
  refine ⟨?_, ?_, ?_⟩
  · rw [colon?, returned_entry text relaxedNames block belongs]
    exact congrArg (Option.map _) placed
  · rw [Block.start, Block.start, returned_entry text relaxedNames block belongs, Entry.move]
    simp only [start, first, between]
    exact own
  · rw [returned_entry text relaxedNames block belongs, Entry.move]
    simp only [stop, last, between]
    rw [Nat.max_eq_left (by omega), Nat.max_eq_left (by omega)]
    exact value

theorem returned_no_colon (absent : block.colon? = none) : (block.returned text relaxedNames).colon? = none := by
  rw [colon?, returned_entry text relaxedNames block belongs]
  exact congrArg (Option.map _) absent

theorem returned_key : (block.returned text relaxedNames).key? = block.key? := by
  have same : block.outline.text = text := by rw [belongs]; rfl
  have outlined : (block.returned text relaxedNames).outline.text = Text.returned text := rfl
  rw [key?, key?, outlined, same]
  cases placed : block.colon? with
  | none => rw [block.returned_no_colon text relaxedNames belongs placed, Option.map_none, Option.map_none]
  | some colon =>
      obtain ⟨moves, own, -⟩ := block.returned_colon text relaxedNames belongs colon placed
      rw [moves, Option.map_some, Option.map_some, own]

theorem returned_simple_value : (block.returned text relaxedNames).simpleValue? = block.simpleValue? := by
  have same : block.outline.text = text := by rw [belongs]; rfl
  have outlined : (block.returned text relaxedNames).outline.text = Text.returned text := rfl
  rw [simpleValue?, simpleValue?, outlined, same]
  cases placed : block.colon? with
  | none => rw [block.returned_no_colon text relaxedNames belongs placed, Option.map_none, Option.map_none]
  | some colon =>
      obtain ⟨moves, -, value⟩ := block.returned_colon text relaxedNames belongs colon placed
      rw [moves, Option.map_some, Option.map_some, value]

theorem returned_position : (block.returned text relaxedNames).position = block.position := by
  rw [position, position, returned_entry text relaxedNames block belongs]
  rfl

theorem returned_kind : (block.returned text relaxedNames).kind = block.kind := by
  rw [kind, kind, returned_entry text relaxedNames block belongs]
  rfl

theorem returned_indent : (block.returned text relaxedNames).indent = block.indent := by
  rw [indent, indent, returned_entry text relaxedNames block belongs]
  rfl

theorem returned_start : (block.returned text relaxedNames).start = moved text.toList block.start := by
  rw [start, start, returned_entry text relaxedNames block belongs]
  rfl

theorem returned_stop : (block.returned text relaxedNames).stop = moved text.toList block.stop := by
  rw [stop, stop, returned_entry text relaxedNames block belongs]
  rfl

theorem returned_same : block.outline.SameTree (ofText text relaxedNames).returned :=
  belongs ▸ returned_same_tree _

theorem returned_children : (block.returned text relaxedNames).children = block.children.map (returned text relaxedNames) :=
  onto_children _ block (block.returned_same text relaxedNames belongs)

theorem returned_tree_stop : (block.returned text relaxedNames).treeStop = moved text.toList block.treeStop := by
  have same := block.returned_same text relaxedNames belongs
  have last := onto_last_descendant _ block same block.outline.size
  have inside := (last_descendant_outline block.outline.size block).trans belongs
  have ends := returned_stop text relaxedNames (block.lastDescendant block.outline.size) inside
  rw [treeStop, treeStop, returned_kind text relaxedNames block belongs, returned_stop text relaxedNames block belongs,
    show (block.returned text relaxedNames).outline.size = block.outline.size from block.outline.same_tree_size _ same,
    show (block.returned text relaxedNames).lastDescendant block.outline.size = _ from last,
    show ((block.lastDescendant block.outline.size).onto _).stop = _ from ends]
  split
  · rfl
  · exact ((Text.moved_strict_mono text.toList).monotone.map_max).symm

theorem returned_path : (block.returned text relaxedNames).path = block.path := by
  have same := block.returned_same text relaxedNames belongs
  rw [path, path, show (block.returned text relaxedNames).ancestry = _ from onto_ancestry _ block same, List.filterMap_map]
  refine List.filterMap_congr fun other member => ?_
  have inside := (block.ancestry_outline other member).trans belongs
  change (other.returned text relaxedNames).segment? = _
  rw [segment?, segment?, returned_kind text relaxedNames other inside, returned_key text relaxedNames other inside,
    returned_position text relaxedNames other inside]

theorem returned_reaches (offset : Nat) (atEnd : Bool) :
    (block.returned text relaxedNames).reaches (moved text.toList offset) atEnd = block.reaches offset atEnd := by
  have mono := Text.moved_strict_mono text.toList
  rw [Block.reaches, Block.reaches, returned_start text relaxedNames block belongs,
    returned_tree_stop text relaxedNames block belongs]
  simp only [mono.le_iff_le, mono.lt_iff_lt, beq_eq_decide, mono.injective.eq_iff]

theorem returned_find_from (atEnd : Bool) (offset fuel : Nat) :
    findFrom atEnd (moved text.toList offset) fuel (block.returned text relaxedNames) =
      (findFrom atEnd offset fuel block).map (returned text relaxedNames) := by
  induction fuel generalizing block with
  | zero => rfl
  | succ fuel ih =>
      obtain ⟨ids, listed⟩ : ∃ ids : List Nat,
          (if atEnd = true then block.children.reverse else block.children) = ids.map block.withId := by
        cases atEnd with
        | true => exact ⟨_, List.map_reverse.symm⟩
        | false => exact ⟨_, rfl⟩
      have candidates : (if atEnd = true then (block.returned text relaxedNames).children.reverse
            else (block.returned text relaxedNames).children) = (ids.map block.withId).map (returned text relaxedNames) := by
        rw [← listed, returned_children text relaxedNames block belongs]
        cases atEnd <;> simp
      have below : (findFrom atEnd (moved text.toList offset) fuel ∘ returned text relaxedNames) ∘ block.withId =
          (Option.map (returned text relaxedNames) ∘ findFrom atEnd offset fuel) ∘ block.withId :=
        funext fun id => ih (block.withId id) belongs
      simp only [findFrom, returned_reaches text relaxedNames block belongs, candidates, listed, List.findSome?_map, below]
      rw [Function.comp_assoc, ← List.map_findSome?]
      generalize ids.findSome? _ = deeper
      cases block.reaches offset atEnd <;> cases deeper <;> rfl

theorem returned_dump_from (fuel depth : Nat) :
    dumpFrom fuel depth (block.returned text relaxedNames) = dumpFrom fuel depth block := by
  induction fuel generalizing block depth with
  | zero => rfl
  | succ fuel ih =>
      have shown : (if (block.returned text relaxedNames).kind = .root then "" else (block.returned text relaxedNames).text) =
          if block.kind = .root then "" else block.text := by
        rw [returned_kind text relaxedNames block belongs]
        split
        · rfl
        next notRoot => exact returned_text text relaxedNames block belongs notRoot
      have below : (block.returned text relaxedNames).children.map (dumpFrom fuel (depth + 1)) =
          block.children.map (dumpFrom fuel (depth + 1)) := by
        rw [returned_children text relaxedNames block belongs, List.map_map]
        refine List.map_congr_left fun child member => ?_
        exact ih child ((block.children_outline child member).trans belongs) (depth + 1)
      rw [dumpFrom, dumpFrom, shown, below, returned_kind text relaxedNames block belongs,
        returned_indent text relaxedNames block belongs]

end

structure Corresponds (place : Nat → Nat) (block other : Block) : Prop where
  kind : other.kind = block.kind
  parent : other.parent?.map Block.id = block.parent?.map Block.id
  children : other.children.map Block.id = block.children.map Block.id
  indent : other.indent = block.indent
  position : other.position = block.position
  path : other.path = block.path
  key : other.key? = block.key?
  value : other.simpleValue? = block.simpleValue?
  dump : other.dump = block.dump
  start : other.start = place block.start
  colon : other.colon? = block.colon?.map place
  stop : other.stop = place block.stop
  contentStop : other.entry.contentStop = place block.entry.contentStop
  treeStop : other.treeStop = place block.treeStop

theorem returned_corresponds (text : String) (relaxedNames : Bool) (block : Block)
    (belongs : block.outline = ofText text relaxedNames) :
    Corresponds (moved text.toList) block (block.returned text relaxedNames) where
  kind := returned_kind text relaxedNames block belongs
  parent := by
    rw [show (block.returned text relaxedNames).parent? = _ from
      onto_parent _ block (block.returned_same text relaxedNames belongs), Option.map_map]
    rfl
  children := by
    rw [returned_children text relaxedNames block belongs, List.map_map]
    rfl
  indent := returned_indent text relaxedNames block belongs
  position := returned_position text relaxedNames block belongs
  path := returned_path text relaxedNames block belongs
  key := returned_key text relaxedNames block belongs
  value := returned_simple_value text relaxedNames block belongs
  dump := by
    have size : (block.returned text relaxedNames).outline.size = block.outline.size :=
      block.outline.same_tree_size _ (block.returned_same text relaxedNames belongs)
    rw [dump, dump, size]
    exact returned_dump_from text relaxedNames block belongs _ 0
  start := returned_start text relaxedNames block belongs
  colon := by
    rw [colon?, returned_entry text relaxedNames block belongs]
    rfl
  stop := returned_stop text relaxedNames block belongs
  contentStop := by
    rw [returned_entry text relaxedNames block belongs]
    rfl
  treeStop := returned_tree_stop text relaxedNames block belongs

end Block

namespace Outline

open Text (moved)

theorem returned_find (text : String) (relaxedNames : Bool) (offset : Nat) :
    (ofText text relaxedNames).returned.find? (moved text.toList offset) =
      ((ofText text relaxedNames).find? offset).map (Block.returned text relaxedNames) := by
  have size : (ofText text relaxedNames).returned.size = (ofText text relaxedNames).size :=
    Outline.same_tree_size _ _ (returned_same_tree _)
  have atEnd : (moved text.toList offset == (Text.returned text).utf8ByteSize) = (offset == text.utf8ByteSize) := by
    rw [← Text.byte_length_to_list text, ← Text.byte_length_to_list (Text.returned text), Text.returned,
      String.toList_ofList, ← Text.moved_whole, beq_eq_decide, beq_eq_decide,
      decide_eq_decide]
    exact (Text.moved_strict_mono text.toList).injective.eq_iff
  rw [Outline.find?, Outline.find?, Block.find?, Block.find?]
  rw [show (ofText text relaxedNames).returned.root.outline.text = Text.returned text from rfl, atEnd,
    show (ofText text relaxedNames).returned.root.outline.size = _ from size]
  exact Block.returned_find_from text relaxedNames (ofText text relaxedNames).root rfl _ offset _

-- Carriage returns before the line feeds of a text change nothing in its outline but the places of the blocks.
theorem returns_keep_outline (text : String) (relaxedNames : Bool) (bare : '\r' ∉ text.toList) :
    (ofText (Text.returned text) relaxedNames).size = (ofText text relaxedNames).size ∧
      (∀ id < (ofText text relaxedNames).size, Block.Corresponds (moved text.toList) ⟨ofText text relaxedNames, id⟩
        ⟨ofText (Text.returned text) relaxedNames, id⟩) ∧
      ∀ offset ≤ text.utf8ByteSize, ((ofText (Text.returned text) relaxedNames).find? (moved text.toList offset)).map Block.id =
        ((ofText text relaxedNames).find? offset).map Block.id := by
  rw [of_text_returned text relaxedNames bare]
  refine ⟨Outline.same_tree_size _ _ (returned_same_tree _), fun id _ => ?_, fun offset _ => ?_⟩
  · exact Block.returned_corresponds text relaxedNames ⟨ofText text relaxedNames, id⟩ rfl
  · rw [returned_find text relaxedNames offset, Option.map_map]
    rfl

theorem nested_items_with_returns :
    '\r' ∉ "a:\n- b: 1\n  # c\n".toList ∧
      (Block.mk (ofText "a:\r\n- b: 1\r\n  # c\r\n") 4).simpleValue? = some "1" ∧
        ((ofText "a:\r\n- b: 1\r\n  # c\r\n").find? 15).map Block.id = some 5 := by
  have bare : '\r' ∉ "a:\n- b: 1\n  # c\n".toList := by decide
  obtain ⟨-, same, found⟩ := returns_keep_outline "a:\n- b: 1\n  # c\n" false bare
  refine ⟨bare, ?_, ?_⟩
  · exact (same 4 (by decide +kernel)).value.trans (by decide +kernel)
  · have comment : ((ofText "a:\n- b: 1\n  # c\n").find? 13).map Block.id = some 5 := by decide +kernel
    exact (found 13 (by decide +kernel)).trans comment

end Outline
end YamlDialects
