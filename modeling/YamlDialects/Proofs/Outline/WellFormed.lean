import YamlDialects.Proofs.Outline.Order
import YamlDialects.Proofs.Text.Offset

set_option autoImplicit false

namespace YamlDialects.Outline

def blocks (outline : Outline) : List Block :=
  (List.range outline.size).map (⟨outline, ·⟩)

theorem mem_blocks (outline : Outline) (block : Block) :
    block ∈ outline.blocks ↔ block.outline = outline ∧ block.id < outline.size := by
  constructor
  · intro member
    obtain ⟨id, found, rfl⟩ := List.mem_map.mp member
    exact ⟨rfl, List.mem_range.mp found⟩
  · rintro ⟨rfl, bound⟩
    exact List.mem_map.mpr ⟨block.id, List.mem_range.mpr bound, rfl⟩

theorem eq_root_iff (outline : Outline) (block : Block) :
    block = outline.root ↔ block.outline = outline ∧ block.id = 0 := by
  constructor
  · rintro rfl
    exact ⟨rfl, rfl⟩
  · rintro ⟨rfl, zero⟩
    rw [root, ← zero]

structure WellFormed (outline : Outline) : Prop where
  root : outline.root.kind = .root ∧ outline.root.treeRegion = ⟨0, outline.text.utf8ByteSize⟩
  rootOnly : ∀ block ∈ outline.blocks, block.kind = .root → block = outline.root
  documents : ∀ block, block ∈ outline.root.children ↔ block ∈ outline.blocks ∧ block.kind = .document
  rawChildless : ∀ block ∈ outline.blocks, block.kind = .raw → block.children = []
  parents : ∀ block ∈ outline.blocks, block ≠ outline.root → ∃ parent ∈ outline.blocks,
    block.parent? = some parent ∧ parent.id < block.id ∧ block ∈ parent.children ∧
      parent.treeRegion.encloses block.treeRegion = true
  siblings : ∀ block ∈ outline.blocks, block.children.Pairwise fun first second =>
    first.id < second.id ∧ first.treeStop ≤ second.start
  itemPosition : ∀ block ∈ outline.blocks, block.kind = .item → ∀ parent, block.parent? = some parent →
    block.position = (parent.children.filter fun other => other.kind == .item && decide (other.id < block.id)).length
  documentPosition : ∀ block ∈ outline.blocks, block.kind = .document →
    outline.root.children[block.position]? = some block
  keys : ∀ block ∈ outline.blocks, block.kind = .key → ∃ colon key, block.colon? = some colon ∧
    block.region.contains colon = true ∧ colon < block.entry.contentStop ∧
      Text.slice outline.text colon (colon + 1) = ":" ∧ block.key? = some key ∧ IsSimpleKey key.toList

end YamlDialects.Outline

namespace YamlDialects.Block

open Outline

theorem position_eq (chars : List Char) (block parent : Block) (sound : Sound chars block.outline.table)
    (counted : block.kind = .item ∨ block.kind = .document) (hangs : block.parent? = some parent) :
    block.position =
      (parent.children.filter fun other => other.kind == block.kind && decide (other.id < block.id)).length := by
  have notRoot : block.kind ≠ .root := by rcases counted with isItem | isDocument <;> simp [*]
  have bound := block.bound_of_kind notRoot
  have read := block.read_entry bound
  have positive := block.positive_of_kind chars sound notRoot
  obtain ⟨id, child, rfl⟩ := Option.map_eq_some_iff.mp hangs
  have count : block.position = (block.outline.table.childrenBefore block.id id block.kind).length :=
    (sound.shaped block.id block.entry positive read).position counted id child
  have lengths : ∀ some : List Block, some.length = (some.map Block.id).length := fun some => (List.length_map _).symm
  rw [count, lengths]
  apply List.Perm.length_eq
  refine (List.perm_ext_iff_of_nodup (Table.children_before_nodup _ _ _ _) ?_).mpr ?_
  · exact (List.pairwise_map.mpr ((block.withId id).children_sorted.filter _)).imp Nat.ne_of_lt
  · intro each
    rw [Table.mem_children_before]
    constructor
    · rintro ⟨before, entry, readEach, childEach, kindEach⟩
      have member := (mem_children chars (block.withId id) (block.withId each) sound).mpr ⟨rfl, entry, readEach, childEach⟩
      have kindEq : (block.withId each).kind = block.kind := by
        rw [(block.withId each).kind_of_read entry readEach, kindEach]
      exact List.mem_map.mpr ⟨block.withId each, List.mem_filter.mpr ⟨member, by simp [kindEq, before]⟩, rfl⟩
    · intro member
      obtain ⟨other, found, rfl⟩ := List.mem_map.mp member
      obtain ⟨isChild, matching⟩ := List.mem_filter.mp found
      obtain ⟨same, entry, readOther, childOther⟩ := (mem_children chars (block.withId id) other sound).mp isChild
      simp only [Bool.and_eq_true, beq_iff_eq, decide_eq_true_eq] at matching
      refine ⟨matching.2, entry, readOther, childOther, ?_⟩
      rw [← matching.1, other.kind_of_read entry (by rw [same]; exact readOther)]

theorem sorted_index (sorted : List Block) (block : Block) (member : block ∈ sorted)
    (order : sorted.Pairwise fun first second => first.id < second.id) :
    sorted[(sorted.filter fun other => decide (other.id < block.id)).length]? = some block := by
  induction sorted with
  | nil => simp at member
  | cons first rest ih =>
      obtain ⟨before, orderRest⟩ := List.pairwise_cons.mp order
      rcases List.mem_cons.mp member with rfl | later
      · have none : (block :: rest).filter (fun other => decide (other.id < block.id)) = [] := by
          rw [List.filter_eq_nil_iff]
          intro other found
          rcases List.mem_cons.mp found with rfl | further
          · simp
          · simpa using Nat.le_of_lt (before other further)
        rw [none]
        rfl
      · rw [List.filter_cons_of_pos (by simpa using before block later), List.length_cons, List.getElem?_cons_succ]
        exact ih later orderRest

theorem key_spec (text : String) (block : Block) (textEq : block.outline.text = text)
    (keyText : KeyText text.toList block.entry) :
    ∃ colon key, block.colon? = some colon ∧ block.region.contains colon = true ∧ colon < block.entry.contentStop ∧
      Text.slice text colon (colon + 1) = ":" ∧ block.key? = some key ∧ IsSimpleKey key.toList := by
  obtain ⟨before, key, after, split, start, simple, colon, onLine, ends⟩ := keyText
  have colonEq : block.colon? = some (block.start + Text.byteLength key) := colon
  have startEq : Text.byteLength before = block.start := start
  refine ⟨block.start + Text.byteLength key, String.ofList key, colonEq, ?_, onLine, ?_, ?_, by simpa using simple⟩
  · have inside : block.start + Text.byteLength key < block.stop := Nat.lt_of_lt_of_le onLine ends
    exact (block.region.contains_iff _).mpr ⟨Nat.le_add_right _ _, inside⟩
  · refine Text.slice_of_split text (before ++ key) [ ':'] after _ _ (by simpa using split) ?_ rfl
    rw [Text.byte_length_append, startEq]
  · rw [key?, colonEq, Option.map_some, textEq,
      Text.slice_of_split text before key ( ':' :: after) block.start _ split startEq rfl]

end YamlDialects.Block

namespace YamlDialects.Outline

open Block

theorem of_text_sound (text : String) (relaxed : Bool) : Sound text.toList (ofText text relaxed).table :=
  table_of_sound text.toList

theorem block_sound (text : String) (relaxed : Bool) (block : Block) (same : block.outline = ofText text relaxed) :
    Sound text.toList block.outline.table := by
  rw [same]
  exact of_text_sound text relaxed

theorem root_spec (text : String) (relaxed : Bool) :
    (ofText text relaxed).root.kind = .root ∧ (ofText text relaxed).root.treeRegion = ⟨0, text.utf8ByteSize⟩ := by
  have entryEq : (ofText text relaxed).root.entry = Table.rootOf (Text.byteLength text.toList) :=
    entry_of_read _ _ (of_text_sound text relaxed).root
  have kindEq : (ofText text relaxed).root.kind = .root := by rw [kind, entryEq]; rfl
  refine ⟨kindEq, ?_⟩
  rw [treeRegion, treeStop, if_pos kindEq, start, stop, entryEq, ← Text.byte_length_to_list]
  rfl

theorem parent_spec (text : String) (relaxed : Bool) (block : Block) (same : block.outline = ofText text relaxed)
    (positive : 0 < block.id) (bound : block.id < block.outline.size) :
    ∃ parent ∈ (ofText text relaxed).blocks, block.parent? = some parent ∧ parent.id < block.id ∧
      block ∈ parent.children ∧ parent.treeRegion.encloses block.treeRegion = true := by
  have sound := block_sound text relaxed block same
  have read := block.read_entry bound
  obtain ⟨id, above, child, smaller, readAbove, _⟩ := (sound.shaped block.id block.entry positive read).hangs
  refine ⟨block.withId id, ?_, ?_, smaller, ?_, ?_⟩
  · rw [mem_blocks, ← same]
    exact ⟨rfl, block.outline.table.read_bound id above readAbove⟩
  · rw [parent?, child, Option.map_some]
  · exact (mem_children text.toList (block.withId id) block sound).mpr ⟨rfl, block.entry, read, child⟩
  · rw [Region.encloses_iff]
    rcases Nat.eq_zero_or_pos id with rfl | parentPositive
    · have region := (root_spec text relaxed).2
      rw [← same] at region
      rw [show (block.withId 0).treeRegion = ⟨0, text.utf8ByteSize⟩ from region, ← Text.byte_length_to_list]
      exact ⟨Nat.zero_le _, Text.boundary_le _ _ (tree_stop_boundary text.toList block sound positive bound)⟩
    · exact tree_stop_le text.toList (block.withId id) block rfl sound parentPositive bound
        (.step block.id id block.entry read child .here)

theorem document_iff_top (text : String) (relaxed : Bool) (block : Block) :
    block ∈ (ofText text relaxed).root.children ↔ block ∈ (ofText text relaxed).blocks ∧ block.kind = .document := by
  have sound := of_text_sound text relaxed
  rw [mem_children text.toList _ block sound, mem_blocks]
  constructor
  · rintro ⟨same, entry, read, child⟩
    have bound := Table.read_bound _ block.id entry read
    have positive : 0 < block.id := sound_descending _ _ sound block.id entry 0 read child
    obtain ⟨parent, _, childParent, _, _, _, top, _⟩ := (sound.shaped block.id entry positive read).hangs
    refine ⟨⟨same, bound⟩, ?_⟩
    rw [block.kind_of_read entry (by rw [same]; exact read)]
    exact top.mp (Option.some.inj (childParent.symm.trans child))
  · rintro ⟨⟨same, bound⟩, isDocument⟩
    have read := block.read_entry (by rw [same]; exact bound)
    have positive := block.positive_of_kind text.toList (by rw [same]; exact sound) (by simp [isDocument])
    rw [same] at read
    obtain ⟨parent, _, childParent, _, _, _, top, _⟩ := (sound.shaped block.id block.entry positive read).hangs
    exact ⟨same, block.entry, read, by rw [childParent, top.mpr isDocument]; rfl⟩

theorem raw_childless (text : String) (relaxed : Bool) (block : Block) (same : block.outline = ofText text relaxed)
    (isRaw : block.kind = .raw) : block.children = [] := by
  have sound := block_sound text relaxed block same
  have readBlock := block.read_entry (block.bound_of_kind (by simp [isRaw]))
  apply List.eq_nil_iff_forall_not_mem.mpr
  intro child member
  obtain ⟨_, entry, read, isChild⟩ := (mem_children text.toList block child sound).mp member
  have smaller := sound_descending _ _ sound child.id entry block.id read isChild
  exact under_not_raw text.toList _ sound block.id child.id (Nat.ne_of_lt smaller)
    (.step child.id block.id entry read isChild .here) block.entry readBlock isRaw

theorem siblings_apart (text : String) (relaxed : Bool) (block : Block) (same : block.outline = ofText text relaxed) :
    block.children.Pairwise fun first second => first.id < second.id ∧ first.treeStop ≤ second.start := by
  have sound := block_sound text relaxed block same
  refine block.children_sorted.imp_of_mem ?_
  intro first second firstMember secondMember order
  obtain ⟨firstSame, firstEntry, readFirst, firstChild⟩ := (mem_children text.toList block first sound).mp firstMember
  obtain ⟨secondSame, secondEntry, readSecond, secondChild⟩ :=
    (mem_children text.toList block second sound).mp secondMember
  have separate := siblings_separate text.toList _ sound block.id first.id second.id firstEntry secondEntry order
    readFirst readSecond firstChild secondChild
  have smaller := sound_descending _ _ sound first.id firstEntry block.id readFirst firstChild
  rw [← firstSame] at readSecond separate sound
  exact ⟨order, tree_stop_le_start text.toList first second (by rw [secondSame, firstSame]) sound (by omega) order
    (Table.read_bound _ second.id secondEntry readSecond) separate⟩

theorem document_position (text : String) (relaxed : Bool) (block : Block) (member : block ∈ (ofText text relaxed).blocks)
    (isDocument : block.kind = .document) : (ofText text relaxed).root.children[block.position]? = some block := by
  obtain ⟨same, bound⟩ := (mem_blocks _ block).mp member
  have sound := block_sound text relaxed block same
  have top := (document_iff_top text relaxed block).mpr ⟨member, isDocument⟩
  obtain ⟨_, entry, read, child⟩ := (mem_children text.toList _ block (of_text_sound text relaxed)).mp top
  have hangs : block.parent? = some (ofText text relaxed).root := by
    rw [parent?, block.entry_of_read entry (by rw [same]; exact read), child, Option.map_some, withId, same]
    rfl
  have position := position_eq text.toList block _ sound (.inr isDocument) hangs
  have all : (ofText text relaxed).root.children.filter (fun other => other.kind == block.kind && decide (other.id < block.id)) =
      (ofText text relaxed).root.children.filter fun other => decide (other.id < block.id) := by
    apply List.filter_congr
    intro other found
    have kindEq := ((document_iff_top text relaxed other).mp found).2
    simp [kindEq, isDocument]
  rw [position, all]
  exact sorted_index _ block top (children_sorted _)

theorem root_only (text : String) (relaxed : Bool) (block : Block) (member : block ∈ (ofText text relaxed).blocks)
    (isRoot : block.kind = .root) : block = (ofText text relaxed).root := by
  obtain ⟨same, bound⟩ := (mem_blocks _ block).mp member
  have sound := block_sound text relaxed block same
  have read := block.read_entry (by rw [same]; exact bound)
  rcases Nat.eq_zero_or_pos block.id with zero | positive
  · exact (eq_root_iff _ block).mpr ⟨same, zero⟩
  · exact absurd isRoot (sound.shaped block.id block.entry positive read).notRoot

theorem parent_listed (text : String) (relaxed : Bool) (block : Block) (member : block ∈ (ofText text relaxed).blocks)
    (notRoot : block ≠ (ofText text relaxed).root) : ∃ parent ∈ (ofText text relaxed).blocks,
      block.parent? = some parent ∧ parent.id < block.id ∧ block ∈ parent.children ∧
        parent.treeRegion.encloses block.treeRegion = true := by
  obtain ⟨same, bound⟩ := (mem_blocks _ block).mp member
  refine parent_spec text relaxed block same (Nat.pos_of_ne_zero ?_) (by rw [same]; exact bound)
  intro zero
  exact notRoot ((eq_root_iff _ block).mpr ⟨same, zero⟩)

theorem key_found (text : String) (relaxed : Bool) (block : Block) (member : block ∈ (ofText text relaxed).blocks)
    (isKey : block.kind = .key) : ∃ colon key, block.colon? = some colon ∧ block.region.contains colon = true ∧
      colon < block.entry.contentStop ∧ Text.slice text colon (colon + 1) = ":" ∧ block.key? = some key ∧
        IsSimpleKey key.toList := by
  have same := ((mem_blocks _ block).mp member).1
  have sound := block_sound text relaxed block same
  have notRoot : block.kind ≠ .root := by simp [isKey]
  have positive := block.positive_of_kind text.toList sound notRoot
  have read := block.read_entry (block.bound_of_kind notRoot)
  exact key_spec text block (by rw [same]; rfl) ((sound.shaped block.id block.entry positive read).keyText isKey)

theorem of_text_well_formed (text : String) (relaxed : Bool) : (ofText text relaxed).WellFormed where
  root := root_spec text relaxed
  rootOnly := root_only text relaxed
  documents := document_iff_top text relaxed
  rawChildless := by
    intro block member isRaw
    exact raw_childless text relaxed block ((mem_blocks _ block).mp member).1 isRaw
  parents := parent_listed text relaxed
  siblings := by
    intro block member
    exact siblings_apart text relaxed block ((mem_blocks _ block).mp member).1
  itemPosition := by
    intro block member isItem parent hangs
    have same := ((mem_blocks _ block).mp member).1
    have position := position_eq text.toList block parent (block_sound text relaxed block same) (.inl isItem) hangs
    rwa [isItem] at position
  documentPosition := document_position text relaxed
  keys := key_found text relaxed

end YamlDialects.Outline
