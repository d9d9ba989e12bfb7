import Mathlib.Data.List.Forall2
import YamlDialects.Proofs.Outline.Entries
import YamlDialects.Proofs.Path.Descent

set_option autoImplicit false

namespace YamlDialects

def Segment.isPlain : Segment → Bool
  | .value _ => true
  | .index _ => true
  | _ => false

-- What a path asks for at a step: the step itself, or any child.
def Segment.Admits (asked own : Segment) : Prop :=
  asked = own ∨ asked = .anyChild

-- With relaxed names a key is also reached by other spellings of it.
def Segment.IsAlike (relaxedNames : Bool) : Segment → Segment → Prop
  | .value own, .value name => own = name ∨ (relaxedNames = true ∧ Names.canonical own = Names.canonical name)
  | .index own, .index position => own = position
  | _, _ => False

theorem Segment.is_alike_self (relaxedNames : Bool) (segment : Segment) (plain : segment.isPlain = true) :
    segment.IsAlike relaxedNames segment := by
  cases segment with
  | value name => exact .inl rfl
  | index position => rfl
  | _ => cases plain

theorem Segment.is_alike_exact (own segment : Segment) (plain : segment.isPlain = true) :
    own.IsAlike false segment ↔ own = segment := by
  cases segment with
  | value name => cases own <;> simp [IsAlike]
  | index position => cases own <;> simp [IsAlike]
  | _ => cases plain

def Path.IsAlike (relaxedNames : Bool) : Path → Path → Prop :=
  List.Forall₂ (Segment.IsAlike relaxedNames)

theorem Path.is_alike_append (relaxedNames : Bool) (own : Path) (path : Path) (segment : Segment) :
    Path.IsAlike relaxedNames own (path ++ [segment]) ↔
      ∃ before last, own = before ++ [last] ∧ Path.IsAlike relaxedNames before path ∧ last.IsAlike relaxedNames segment := by
  unfold IsAlike
  constructor
  · intro alike
    rw [← List.forall₂_reverse_iff, List.reverse_append, List.reverse_singleton, List.singleton_append] at alike
    obtain ⟨last, before, same, rest, split⟩ := List.forall₂_cons_right_iff.mp alike
    refine ⟨before.reverse, last, ?_, ?_, same⟩
    · rw [← List.reverse_cons, ← split, List.reverse_reverse]
    · rwa [← List.forall₂_reverse_iff, List.reverse_reverse]
  · rintro ⟨before, last, rfl, alike, same⟩
    exact List.rel_append alike (.cons same .nil)

theorem Path.is_alike_exact (own path : Path) (plain : ∀ segment ∈ path, segment.isPlain = true) :
    Path.IsAlike false own path ↔ own = path := by
  induction path generalizing own with
  | nil => exact List.forall₂_nil_right_iff
  | cons segment rest ih =>
      obtain ⟨first, others⟩ := List.forall_mem_cons.mp plain
      rw [IsAlike, List.forall₂_cons_right_iff]
      constructor
      · rintro ⟨last, before, same, alike, rfl⟩
        rw [(Segment.is_alike_exact last segment first).mp same, (ih before others).mp alike]
      · rintro rfl
        exact ⟨segment, rest, (Segment.is_alike_exact segment segment first).mpr rfl, (ih rest others).mpr rfl, rfl⟩

namespace Block

open Outline

theorem to_list_sublist {α : Type} (found : Option α) (all : List α) (among : ∀ each, found = some each → each ∈ all) :
    found.toList.Sublist all := by
  cases found with
  | none => exact List.nil_sublist all
  | some each => exact List.singleton_sublist.mpr (among each rfl)

theorem step_sublist (segment : Segment) (block : Block) : (block.step segment).Sublist block.children := by
  unfold step
  split
  · exact List.nil_sublist _
  · exact to_list_sublist _ _ fun _ found => List.mem_of_getElem? found
  · exact List.nil_sublist _
  · exact List.filter_sublist
  · exact to_list_sublist _ _ fun _ found => List.mem_of_find?_eq_some found
  · exact List.filter_sublist
  · exact List.nil_sublist _

theorem path_of_child (chars : List Char) (block parent : Block) (sound : Sound chars block.outline.table)
    (hangs : block.parent? = some parent) : block.path = parent.path ++ block.segment?.toList := by
  rw [path, ancestry_parent chars block parent sound hangs, List.filterMap_append, ← path]
  cases own : block.segment? <;> simp [own]

theorem path_eq_iff (chars others : List Char) (block other parent above : Block) (sound : Sound chars block.outline.table)
    (otherSound : Sound others other.outline.table) (hangs : block.parent? = some parent) (otherHangs : other.parent? = some above)
    (steps : ∃ segment, block.segment? = some segment) (otherSteps : ∃ segment, other.segment? = some segment) :
    block.path = other.path ↔ parent.path = above.path ∧ block.segment? = other.segment? := by
  obtain ⟨segment, own⟩ := steps
  obtain ⟨otherSegment, otherOwn⟩ := otherSteps
  rw [path_of_child chars _ _ sound hangs, path_of_child others _ _ otherSound otherHangs, own, otherOwn]
  simp

section

variable (text : String) (relaxed : Bool)

theorem child_listed (block child : Block) (belongs : block.outline = ofText text relaxed) (member : child ∈ block.children) :
    child ∈ (ofText text relaxed).blocks ∧ child.parent? = some block := by
  have sound := block_sound text relaxed block belongs
  obtain ⟨same, entry, read, hangs⟩ := (mem_children text.toList block child sound).mp member
  refine ⟨(mem_blocks _ child).mpr ⟨same.trans belongs, ?_⟩, ?_⟩
  · rw [← belongs]
    exact Table.read_bound _ child.id entry read
  · rw [parent?, child.entry_of_read entry (by rw [same]; exact read), hangs, Option.map_some, withId, same]

theorem kind_of_colon (block : Block) (listed : block ∈ (ofText text relaxed).blocks) (colon : Nat)
    (placed : block.colon? = some colon) : block.kind = .key := by
  obtain ⟨same, bound⟩ := (mem_blocks _ block).mp listed
  have read := block.read_entry (by rw [same]; exact bound)
  rw [same] at read
  by_contra other
  rcases Nat.eq_zero_or_pos block.id with zero | positive
  · rw [zero, (of_text_sound text relaxed).root] at read
    rw [colon?, ← Option.some.inj read] at placed
    cases placed
  · have opened := bare_after_root text relaxed block.id block.entry positive read
    have uncoloned := opening_colons _ _ (List.mem_of_getElem? opened) other
    rw [colon?, show block.entry.colon = none from uncoloned] at placed
    cases placed

theorem segment_value_iff (block : Block) (listed : block ∈ (ofText text relaxed).blocks) (name : String) :
    block.segment? = some (.value name) ↔ block.key? = some name := by
  by_cases isKey : block.kind = .key
  · simp [segment?, isKey]
  · have keyless : block.key? = none := by
      cases placed : block.colon? with
      | none => rw [key?, placed, Option.map_none]
      | some colon => exact absurd (kind_of_colon text relaxed block listed colon placed) isKey
    rw [keyless]
    cases kind : block.kind <;> simp_all [segment?]

theorem segment_index_iff (block : Block) (position : Nat) :
    block.segment? = some (.index position) ↔ (block.kind = .item ∨ block.kind = .document) ∧ block.position = position := by
  cases kind : block.kind <;> simp [segment?, kind]

theorem segment_exists (block : Block) (listed : block ∈ (ofText text relaxed).blocks) (notRaw : block.kind ≠ .raw)
    (notRoot : block.kind ≠ .root) : ∃ segment, block.segment? = some segment := by
  cases kind : block.kind with
  | root => exact absurd kind notRoot
  | raw => exact absurd kind notRaw
  | key =>
      obtain ⟨_, key, _, _, _, _, named, _⟩ := key_found text relaxed block listed kind
      exact ⟨.value key, by simp [segment?, kind, named]⟩
  | item => exact ⟨.index block.position, by simp [segment?, kind]⟩
  | document => exact ⟨.index block.position, by simp [segment?, kind]⟩

theorem segment_of_read (id : Nat) (entry : Entry) (read : (ofText text relaxed).table[id]? = some entry) (notRaw : entry.kind ≠ .raw)
    (notRoot : entry.kind ≠ .root) : ∃ segment, (Block.mk (ofText text relaxed) id).segment? = some segment := by
  have kindEq := kind_of_read ⟨ofText text relaxed, id⟩ entry read
  exact segment_exists text relaxed _ ((mem_blocks _ _).mpr ⟨rfl, Table.read_bound _ id entry read⟩) (by rwa [kindEq]) (by rwa [kindEq])

theorem item_index (block child : Block) (belongs : block.outline = ofText text relaxed) (member : child ∈ block.children)
    (isItem : child.kind = .item) : (block.children.filter (·.kind == .item))[child.position]? = some child := by
  obtain ⟨listed, hangs⟩ := child_listed text relaxed block child belongs member
  have sound := block_sound text relaxed child ((mem_blocks _ child).mp listed).1
  have among : child ∈ block.children.filter (·.kind == .item) := List.mem_filter.mpr ⟨member, by simp [isItem]⟩
  have found := sorted_index _ child among (block.children_sorted.filter _)
  rw [List.filter_filter] at found
  rw [position_eq text.toList child block sound (.inl isItem) hangs, isItem]
  simpa only [Bool.and_comm] using found

theorem item_iff (block child : Block) (belongs : block.outline = ofText text relaxed) (position : Nat) :
    block.item? position = some child ↔ child ∈ block.children ∧ child.kind = .item ∧ child.position = position := by
  constructor
  · intro found
    have matching := List.find?_some found
    simp only [Bool.and_eq_true, beq_iff_eq] at matching
    exact ⟨List.mem_of_find?_eq_some found, matching⟩
  · rintro ⟨member, isItem, rfl⟩
    cases found : block.item? child.position with
    | none =>
        have missed := List.find?_eq_none.mp found child member
        simp [isItem] at missed
    | some other =>
        have otherMember := List.mem_of_find?_eq_some found
        have matching := List.find?_some found
        simp only [Bool.and_eq_true, beq_iff_eq] at matching
        have own := item_index text relaxed block child belongs member isItem
        have here := item_index text relaxed block other belongs otherMember matching.1
        rw [matching.2] at here
        exact here.symm.trans own

end

theorem document_below_root (text : String) (relaxed : Bool) (block child : Block)
    (listed : block ∈ (ofText text relaxed).blocks) (member : child ∈ block.children) :
    child.kind = .document ↔ block.kind = .root := by
  obtain ⟨childListed, hangs⟩ := child_listed text relaxed block child ((mem_blocks _ block).mp listed).1 member
  constructor
  · intro isDocument
    have top := (document_iff_top text relaxed child).mpr ⟨childListed, isDocument⟩
    have same := (child_listed text relaxed _ child rfl top).2.symm.trans hangs
    rw [← Option.some.inj same]
    exact (root_spec text relaxed).1
  · intro isRoot
    rw [root_only text relaxed block listed isRoot] at member
    exact ((document_iff_top text relaxed child).mp member).2

theorem step_value (block : Block) (notRaw : block.kind ≠ .raw) (notRoot : block.kind ≠ .root) (name : String) :
    block.step (.value name) = block.childrenWithKey name := by
  cases kind : block.kind <;> simp_all [step]

theorem step_index (block : Block) (notRaw : block.kind ≠ .raw) (notRoot : block.kind ≠ .root) (position : Nat) :
    block.step (.index position) = (block.item? position).toList := by
  cases kind : block.kind <;> simp_all [step]

theorem has_key_iff (block : Block) (name : String) : block.hasKey name = true ↔
    ∃ own, block.key? = some own ∧ (Segment.value own).IsAlike block.outline.relaxedNames (.value name) := by
  cases named : block.key? with
  | none => simp [hasKey, named]
  | some own => cases relaxed : block.outline.relaxedNames <;> simp [hasKey, named, relaxed, Names.relaxedEq, Segment.IsAlike]

theorem alike_index_iff (block : Block) (relaxed : Bool) (position : Nat) :
    (∃ own, block.segment? = some own ∧ own.IsAlike relaxed (.index position)) ↔ block.segment? = some (.index position) := by
  constructor
  · rintro ⟨own, own?, alike⟩
    cases own with
    | index other => rwa [show other = position from alike] at own?
    | _ => exact alike.elim
  · exact fun own? => ⟨_, own?, rfl⟩

section

variable (text : String) (relaxed : Bool)

theorem alike_value_iff (block : Block) (listed : block ∈ (ofText text relaxed).blocks) (name : String) :
    (∃ own, block.segment? = some own ∧ own.IsAlike relaxed (.value name)) ↔ block.hasKey name = true := by
  have same : block.outline.relaxedNames = relaxed := by
    rw [((mem_blocks _ block).mp listed).1]
    rfl
  rw [has_key_iff, same]
  constructor
  · rintro ⟨segment, own?, alike⟩
    cases segment with
    | value own => exact ⟨own, (segment_value_iff text relaxed block listed own).mp own?, alike⟩
    | _ => exact alike.elim
  · rintro ⟨own, named, alike⟩
    exact ⟨.value own, (segment_value_iff text relaxed block listed own).mpr named, alike⟩

theorem root_child_at (child : Block) (position : Nat) : (ofText text relaxed).root.children[position]? = some child ↔
    child ∈ (ofText text relaxed).root.children ∧ child.position = position := by
  have placed (member : child ∈ (ofText text relaxed).root.children) :
      (ofText text relaxed).root.children[child.position]? = some child :=
    document_position text relaxed child (child_listed text relaxed _ child rfl member).1
      ((document_iff_top text relaxed child).mp member).2
  constructor
  · intro found
    have member := List.mem_of_getElem? found
    have distinct := (children_sorted (ofText text relaxed).root).imp fun order same => Nat.ne_of_lt order (congrArg Block.id same)
    have inside := (List.getElem?_eq_some_iff.mp (placed member)).1
    exact ⟨member, (List.getElem?_inj inside distinct).mp ((placed member).trans found.symm)⟩
  · rintro ⟨member, rfl⟩
    exact placed member

theorem mem_step_root (child : Block) (segment : Segment) (plain : segment.isPlain = true) :
    child ∈ (ofText text relaxed).root.step segment ↔
      child ∈ (ofText text relaxed).root.children ∧ ∃ own, child.segment? = some own ∧ own.IsAlike relaxed segment := by
  have isRoot := (root_spec text relaxed).1
  have isDocument (member : child ∈ (ofText text relaxed).root.children) := ((document_iff_top text relaxed child).mp member).2
  cases segment with
  | index position =>
      rw [show Block.step _ _ = (ofText text relaxed).root.children[position]?.toList by simp [step, isRoot], Option.mem_toList,
        alike_index_iff, segment_index_iff, root_child_at]
      exact and_congr_right fun member => (and_iff_right (.inr (isDocument member))).symm
  | value name =>
      rw [show Block.step _ _ = ([] : List Block) by simp [step, isRoot]]
      refine iff_of_false List.not_mem_nil ?_
      rintro ⟨member, own, named, alike⟩
      rw [segment?, isDocument member] at named
      obtain rfl := Option.some.inj named
      exact alike
  | _ => cases plain

theorem mem_step (block child : Block) (listed : block ∈ (ofText text relaxed).blocks) (notRaw : block.kind ≠ .raw)
    (segment : Segment) (plain : segment.isPlain = true) :
    child ∈ block.step segment ↔
      child ∈ block.children ∧ ∃ own, child.segment? = some own ∧ own.IsAlike relaxed segment := by
  have belongs := ((mem_blocks _ block).mp listed).1
  by_cases isRoot : block.kind = .root
  · obtain rfl := root_only text relaxed block listed isRoot
    exact mem_step_root text relaxed child segment plain
  · cases segment with
    | index position =>
        rw [step_index block notRaw isRoot, Option.mem_toList, item_iff text relaxed block child belongs, alike_index_iff,
          segment_index_iff]
        refine and_congr_right fun member => and_congr_left fun _ => (or_iff_left fun isDocument => isRoot ?_).symm
        exact (document_below_root text relaxed block child listed member).mp isDocument
    | value name =>
        rw [step_value block notRaw isRoot, childrenWithKey, List.mem_filter]
        refine and_congr_right fun member => ?_
        exact (alike_value_iff text relaxed child (child_listed text relaxed block child belongs member).1 name).symm
    | _ => cases plain

end

theorem root_path (text : String) (relaxed : Bool) : (ofText text relaxed).root.path = [] := by
  obtain ⟨top, isRoot⟩ := root_above text.toList _ (of_text_sound text relaxed)
  rw [path, ancestry_root _ top]
  simp [segment?, isRoot]

theorem path_child (text : String) (relaxed : Bool) (block child : Block) (belongs : block.outline = ofText text relaxed)
    (member : child ∈ block.children) (segment : Segment) (own : child.segment? = some segment) :
    child.path = block.path ++ [segment] := by
  obtain ⟨listed, hangs⟩ := child_listed text relaxed block child belongs member
  rw [path_of_child text.toList child block (block_sound text relaxed child ((mem_blocks _ child).mp listed).1) hangs, own]
  rfl

theorem path_last (text : String) (relaxed : Bool) (block : Block) (listed : block ∈ (ofText text relaxed).blocks)
    (notRaw : block.kind ≠ .raw) (notRoot : block ≠ (ofText text relaxed).root) :
    ∃ parent ∈ (ofText text relaxed).blocks, ∃ segment, parent.kind ≠ .raw ∧ block ∈ parent.children ∧
      block.segment? = some segment ∧ block.path = parent.path ++ [segment] := by
  obtain ⟨parent, parentListed, _, _, member, _⟩ := parent_listed text relaxed block listed notRoot
  obtain ⟨segment, own⟩ := segment_exists text relaxed block listed notRaw fun isRoot => notRoot (root_only text relaxed block listed isRoot)
  refine ⟨parent, parentListed, segment, fun isRaw => ?_, member, own, ?_⟩
  · rw [raw_childless text relaxed parent ((mem_blocks _ parent).mp parentListed).1 isRaw] at member
    cases member
  · exact path_child text relaxed parent block ((mem_blocks _ parent).mp parentListed).1 member segment own

end Block

namespace Outline

section

variable (text : String) (relaxed : Bool)

theorem path_grows (top id : Nat) (under : (ofText text relaxed).table.Under top id) :
    (Block.mk (ofText text relaxed) top).path <+: (Block.mk (ofText text relaxed) id).path := by
  induction under with
  | here => exact List.prefix_rfl
  | step id parent entry read child _ ih =>
      rw [Block.path_of_child text.toList _ _ (of_text_sound text relaxed)
        (Block.parent_of_read ⟨ofText text relaxed, id⟩ entry read parent child)]
      exact ih.trans (List.prefix_append _ _)

theorem same_level_separate (first second : Block) (firstListed : first ∈ (ofText text relaxed).blocks)
    (secondListed : second ∈ (ofText text relaxed).blocks) (notRaw : second.kind ≠ .raw) (order : first.id < second.id)
    (same : first.path.length = second.path.length) : ¬ (ofText text relaxed).table.Under first.id second.id := by
  intro above
  have sound := of_text_sound text relaxed
  have notRoot : second ≠ (ofText text relaxed).root := by
    rintro rfl
    exact Nat.not_lt_zero _ order
  obtain ⟨parent, parentListed, segment, _, member, _, longer⟩ := Block.path_last text relaxed second secondListed notRaw notRoot
  obtain ⟨outline, top⟩ := first
  obtain ⟨rfl, _⟩ := (mem_blocks _ _).mp firstListed
  obtain ⟨outline, parent⟩ := parent
  obtain ⟨rfl, _⟩ := (mem_blocks _ _).mp parentListed
  obtain ⟨_, entry, read, child⟩ := (Block.mem_children text.toList _ second sound).mp member
  have higher := Table.under_parent _ top second.id parent entry read child (Nat.ne_of_lt order) above
  have grows := (path_grows text relaxed top parent higher).length_le
  rw [same, longer, List.length_append] at grows
  exact Nat.not_succ_le_self _ grows

theorem same_level_children (first second firstChild secondChild : Block) (firstListed : first ∈ (ofText text relaxed).blocks)
    (secondListed : second ∈ (ofText text relaxed).blocks) (notRaw : second.kind ≠ .raw) (order : first.id < second.id)
    (same : first.path.length = second.path.length) (firstMember : firstChild ∈ first.children)
    (secondMember : secondChild ∈ second.children) : firstChild.id < secondChild.id := by
  have separate := same_level_separate text relaxed first second firstListed secondListed notRaw order same
  have sound := of_text_sound text relaxed
  obtain ⟨outline, top⟩ := first
  obtain ⟨rfl, _⟩ := (mem_blocks _ _).mp firstListed
  obtain ⟨outline, other⟩ := second
  obtain ⟨rfl, _⟩ := (mem_blocks _ _).mp secondListed
  obtain ⟨_, entry, read, child⟩ := (Block.mem_children text.toList _ firstChild sound).mp firstMember
  obtain ⟨_, otherEntry, readOther, otherChild⟩ := (Block.mem_children text.toList _ secondChild sound).mp secondMember
  have before := below_before _ _ sound top other firstChild.id order separate (.step _ top entry read child .here)
  exact Nat.lt_trans before (sound_descending _ _ sound secondChild.id otherEntry other readOther otherChild)

end

theorem mem_alike_results (text : String) (relaxed : Bool) (path : Path) (plain : ∀ segment ∈ path, segment.isPlain = true)
    (block : Block) : block ∈ path.results (ofText text relaxed).root ↔
      block ∈ (ofText text relaxed).blocks ∧ block.kind ≠ .raw ∧ Path.IsAlike relaxed block.path path := by
  induction path using List.reverseRecOn generalizing block with
  | nil =>
      rw [show Path.results [] (ofText text relaxed).root = [(ofText text relaxed).root] from rfl, List.mem_singleton, Path.IsAlike,
        List.forall₂_nil_right_iff]
      constructor
      · rintro rfl
        refine ⟨(mem_blocks _ _).mpr ⟨rfl, ?_⟩, by simp [(root_spec text relaxed).1], Block.root_path text relaxed⟩
        exact Table.read_bound _ 0 _ (of_text_sound text relaxed).root
      · rintro ⟨listed, notRaw, empty⟩
        by_contra notRoot
        obtain ⟨_, _, _, _, _, _, longer⟩ := Block.path_last text relaxed block listed notRaw notRoot
        exact List.append_ne_nil_of_right_ne_nil _ (List.cons_ne_nil _ _) (longer.symm.trans empty)
  | append_singleton path segment ih =>
      obtain ⟨before, last⟩ := List.forall_mem_append.mp plain
      have isPlain := last segment (List.mem_singleton_self segment)
      rw [Path.results_append, List.mem_flatMap, Path.is_alike_append]
      constructor
      · rintro ⟨parent, reached, leads⟩
        obtain ⟨listed, notRaw, alike⟩ := (ih before parent).mp reached
        obtain ⟨member, own, own?, same⟩ := (Block.mem_step text relaxed parent block listed notRaw segment isPlain).mp leads
        have belongs := ((mem_blocks _ parent).mp listed).1
        refine ⟨(Block.child_listed text relaxed parent block belongs member).1, fun isRaw => ?_, parent.path, own,
          Block.path_child text relaxed parent block belongs member own own?, alike, same⟩
        simp [Block.segment?, isRaw] at own?
      · rintro ⟨listed, notRaw, above, own, ends, alike, same⟩
        have notRoot : block ≠ (ofText text relaxed).root := by
          rintro rfl
          rw [Block.root_path] at ends
          exact List.append_ne_nil_of_right_ne_nil _ (List.cons_ne_nil _ _) ends.symm
        obtain ⟨parent, parentListed, other, parentNotRaw, member, own?, longer⟩ :=
          Block.path_last text relaxed block listed notRaw notRoot
        obtain ⟨rfl, last⟩ := List.append_inj' (ends.symm.trans longer) rfl
        obtain rfl : own = other := List.head_eq_of_cons_eq last
        exact ⟨parent, (ih before parent).mpr ⟨parentListed, parentNotRaw, alike⟩,
          (Block.mem_step text relaxed parent block parentListed parentNotRaw segment isPlain).mpr ⟨member, own, own?, same⟩⟩

theorem mem_path_results (text : String) (path : Path) (plain : ∀ segment ∈ path, segment.isPlain = true) (block : Block) :
    block ∈ path.results (ofText text).root ↔ block ∈ (ofText text).blocks ∧ block.kind ≠ .raw ∧ block.path = path := by
  rw [mem_alike_results text false path plain block, Path.is_alike_exact block.path path plain]

theorem path_results_sorted (text : String) (relaxed : Bool) (path : Path)
    (plain : ∀ segment ∈ path, segment.isPlain = true) :
    (path.results (ofText text relaxed).root).Pairwise fun first second => first.id < second.id := by
  induction path using List.reverseRecOn with
  | nil => exact List.pairwise_singleton _ _
  | append_singleton path segment ih =>
      have before := (List.forall_mem_append.mp plain).1
      rw [Path.results_append]
      refine List.pairwise_flatMap.mpr ⟨fun block _ => block.children_sorted.sublist (Block.step_sublist segment block), ?_⟩
      refine (ih before).imp_of_mem fun {first second} firstReached secondReached order child leads other alsoLeads => ?_
      obtain ⟨firstListed, _, firstPath⟩ := (mem_alike_results text relaxed path before first).mp firstReached
      obtain ⟨secondListed, notRaw, secondPath⟩ := (mem_alike_results text relaxed path before second).mp secondReached
      exact same_level_children text relaxed first second child other firstListed secondListed notRaw order
        (firstPath.length_eq.trans secondPath.length_eq.symm) ((Block.step_sublist segment first).subset leads)
        ((Block.step_sublist segment second).subset alsoLeads)

theorem blocks_sorted (outline : Outline) : outline.blocks.Pairwise fun first second => first.id < second.id :=
  List.pairwise_map.mpr List.pairwise_lt_range

-- With relaxed names, a path would lead to other spellings of its keys, too.
theorem path_results (text : String) (path : Path) (plain : ∀ segment ∈ path, segment.isPlain = true) :
    path.results (ofText text).root =
      (ofText text).blocks.filter fun block => block.kind != .raw && block.path == path := by
  have sorted := path_results_sorted text false path plain
  have listed : ((ofText text).blocks.filter fun block => block.kind != .raw && block.path == path).Pairwise
      fun first second => first.id < second.id :=
    (blocks_sorted _).filter _
  have distinct (all : List Block) (order : all.Pairwise fun first second => first.id < second.id) : all.Nodup :=
    order.imp fun before same => Nat.ne_of_lt before (congrArg Block.id same)
  refine List.Perm.eq_of_pairwise (fun _ _ _ _ before after => absurd before (Nat.lt_asymm after)) sorted listed ?_
  refine (List.perm_ext_iff_of_nodup (distinct _ sorted) (distinct _ listed)).mpr fun block => ?_
  rw [mem_path_results text path plain block, List.mem_filter]
  simp

def nestedText : String :=
  "a:\n- b: 1\n  b: 2\n- b: 3\n\n  b: 4"

def nestedPath : Path :=
  [.index 0, .value "a", .index 1, .value "b"]

theorem path_results_nested : (∀ segment ∈ nestedPath, segment.isPlain = true) ∧ nestedPath.results (ofText nestedText).root =
    (ofText nestedText).blocks.filter fun block => block.kind != .raw && block.path == nestedPath :=
  ⟨by decide, path_results nestedText nestedPath (by decide)⟩

example : (nestedPath.results (ofText nestedText).root).map Block.id = [7, 9] := by decide +kernel

theorem step_no_key (block : Block) (key : String) : block.step (.key key) = [] := by
  cases kind : block.kind <;> simp [Block.step, kind]

theorem results_value (block : Block) (path : Path) (key : String) (asked : .key key ∈ path) : path.results block = [] := by
  induction path using List.reverseRecOn with
  | nil => cases asked
  | append_singleton path segment ih =>
      rw [Path.results_append]
      rcases List.mem_append.mp asked with before | last
      · rw [ih before, List.flatMap_nil]
      · rw [← List.mem_singleton.mp last]
        exact List.flatMap_eq_nil_iff.mpr fun place _ => step_no_key place key

theorem admitted_results (text : String) (relaxed : Bool) (position : Nat) (asked own : Path)
    (admits : List.Forall₂ Segment.Admits asked own) (block : Block) (listed : block ∈ (ofText text relaxed).blocks)
    (notRaw : block.kind ≠ .raw) (path : block.path = .index position :: own) :
    block ∈ Path.results (.index position :: asked) (ofText text relaxed).root := by
  induction asked using List.reverseRecOn generalizing own block with
  | nil =>
      obtain rfl := List.forall₂_nil_left_iff.mp admits
      refine (mem_alike_results text relaxed [.index position] (List.forall_mem_singleton.mpr rfl) block).mpr ⟨listed, notRaw, ?_⟩
      rw [path]
      exact .cons rfl .nil
  | append_singleton asked segment ih =>
      obtain ⟨above, last, rfl, before, ends⟩ : ∃ above last, own = above ++ [last] ∧ List.Forall₂ Segment.Admits asked above ∧
          segment.Admits last := by
        rw [← List.forall₂_reverse_iff, List.reverse_append, List.reverse_singleton, List.singleton_append] at admits
        obtain ⟨last, above, same, rest, split⟩ := List.forall₂_cons_left_iff.mp admits
        refine ⟨above.reverse, last, ?_, ?_, same⟩
        · rw [← List.reverse_cons, ← split, List.reverse_reverse]
        · rwa [← List.forall₂_reverse_iff, List.reverse_reverse]
      have notRoot : block ≠ (ofText text relaxed).root := by
        rintro rfl
        rw [Block.root_path] at path
        cases path
      obtain ⟨parent, parentListed, step, parentNotRaw, member, own?, longer⟩ :=
        Block.path_last text relaxed block listed notRaw notRoot
      rw [path, ← List.cons_append] at longer
      obtain ⟨same, equal⟩ := List.append_inj' longer rfl
      obtain rfl : last = step := List.head_eq_of_cons_eq equal
      rw [← List.cons_append, Path.results_append]
      refine List.mem_flatMap.mpr ⟨parent, ih above before parent parentListed parentNotRaw same.symm, ?_⟩
      rcases ends with rfl | rfl
      · have plain : segment.isPlain = true := by
          rw [Block.segment?] at own?
          cases kind : block.kind <;> simp only [kind] at own?
          case key =>
            obtain ⟨_, -, rfl⟩ := Option.map_eq_some_iff.mp own?
            rfl
          all_goals first | (cases own?; done) | (obtain rfl := Option.some.inj own?; rfl)
        exact (Block.mem_step text relaxed parent block parentListed parentNotRaw segment plain).mpr
          ⟨member, segment, own?, Segment.is_alike_self relaxed segment plain⟩
      · have inner : parent.kind ≠ .root := by
          intro isRoot
          obtain rfl := root_only text relaxed parent parentListed isRoot
          rw [Block.root_path] at same
          cases same
        have isStep : block.kind.isStep = true := by
          cases kind : block.kind with
          | root => exact absurd (root_only text relaxed block listed kind) notRoot
          | raw => exact absurd kind notRaw
          | document => exact absurd ((Block.document_below_root text relaxed parent block parentListed member).mp kind) inner
          | _ => rfl
        have all : parent.step .anyChild = parent.children.filter (·.kind.isStep) := by
          cases kind : parent.kind <;> simp_all [Block.step]
        change block ∈ parent.step .anyChild
        rw [all]
        exact List.mem_filter.mpr ⟨member, isStep⟩

end Outline
end YamlDialects
