import YamlDialects.Proofs.Outline.Marks
import YamlDialects.Proofs.Outline.WellFormed

/-!
What is written in block style is read back: the keys and items of the outline form the tree of the value. A node
hangs below the last one that may hold it, so the nodes of a value stay below its key or item, and the marks behind
the value close it.
-/

set_option autoImplicit false

namespace YamlDialects.Block

def steps (block : Block) : List Block :=
  block.children.filter (·.kind.isStep)

theorem mem_steps (chars : List Char) (block child : Block) (sound : Outline.Sound chars block.outline.table) :
    child ∈ block.steps ↔ child.outline = block.outline ∧ child.entry.parent = some block.id ∧ child.kind.isStep = true := by
  rw [steps, List.mem_filter, mem_children chars block child sound]
  constructor
  · rintro ⟨⟨same, entry, read, hangs⟩, isStep⟩
    exact ⟨same, by rw [child.entry_of_read entry (by rw [same]; exact read)]; exact hangs, isStep⟩
  · rintro ⟨same, hangs, isStep⟩
    have read := child.read_entry (child.bound_of_kind (step_ne_root child isStep))
    exact ⟨⟨same, child.entry, by rw [← same]; exact read, hangs⟩, isStep⟩

theorem steps_sorted (block : Block) : block.steps.Pairwise fun first second => first.id < second.id :=
  block.children_sorted.filter _

theorem sorted_nodup (sorted : List Block) (order : sorted.Pairwise fun first second => first.id < second.id) : sorted.Nodup :=
  order.imp fun before => ne_of_apply_ne Block.id (Nat.ne_of_lt before)

def stepsFrom (block : Block) (start : Nat) : List Block :=
  block.steps.filter fun child => decide (start ≤ child.id)

theorem sorted_from (sorted : List Block) (block : Block) (member : block ∈ sorted)
    (order : sorted.Pairwise fun first second => first.id < second.id) :
    sorted.filter (fun child => decide (block.id ≤ child.id)) =
      block :: sorted.filter fun child => decide (block.id + 1 ≤ child.id) := by
  induction sorted with
  | nil => cases member
  | cons first rest ih =>
      obtain ⟨before, orderRest⟩ := List.pairwise_cons.mp order
      rcases List.mem_cons.mp member with rfl | later
      · rw [List.filter_cons_of_pos (by simp), List.filter_cons_of_neg (by simp)]
        refine congrArg (block :: ·) (List.filter_congr fun child inRest => ?_)
        have after := before child inRest
        rw [decide_eq_decide]
        omega
      · have earlier := before block later
        rw [List.filter_cons_of_neg (by simpa using earlier), List.filter_cons_of_neg (by simpa using Nat.lt_succ_of_lt earlier)]
        exact ih later orderRest

end YamlDialects.Block

namespace YamlDialects.Outline

open Content

namespace Content

def text (final : Bool) (value : Content) : String :=
  String.ofList (joined final value.lines)

def held (column : Nat) : Content → Mark → Prop
  | .sequence _ => fun upper => upper.MayHold (.item column)
  | _ => fun upper => upper.column < column

end Content

mutual

def Reads (block : Block) : Content → Prop
  | .scalar _ => block.steps = []
  | .mapping entries => ReadsEntries block.steps entries
  | .sequence items => block.steps.map Block.position = List.range items.length ∧ ReadsItems block.steps items

def ReadsEntries : List Block → List (List Char × Bool × Content) → Prop
  | [], [] => True
  | key :: blocks, (name, _, value) :: rest => key.kind = .key ∧ key.key? = some (String.ofList name) ∧
      (∀ text, value = .scalar text → key.simpleValue? = some (Text.trimmed (String.ofList text))) ∧ Reads key value ∧
      ReadsEntries blocks rest
  | _, _ => False

def ReadsItems : List Block → List Content → Prop
  | [], [] => True
  | item :: blocks, value :: rest => item.kind = .item ∧ Reads item value ∧ ReadsItems blocks rest
  | _, _ => False

end

structure OpenAt (before : List Mark) (parent : Nat) (may : Mark → Prop) : Prop where
  above : 1 ≤ parent
  earlier : parent < before.length + 2
  holds : parent = 1 ∨ ∃ upper, before[parent - 2]? = some upper ∧ may upper
  passed : ∀ (between : Nat) (other : Mark), parent < between + 2 → before[between]? = some other → ¬ may other

theorem open_root (may : Mark → Prop) : OpenAt [] 1 may :=
  ⟨Nat.le_refl 1, by decide, .inl rfl, nofun⟩

theorem open_last (before : List Mark) (upper : Mark) (may : Mark → Prop) (holds : may upper) :
    OpenAt (before ++ [upper]) (before.length + 2) may := by
  refine ⟨by omega, by simp, .inr ⟨upper, by simp, holds⟩, ?_⟩
  intro between other beyond read
  have bound := (List.getElem?_eq_some_iff.mp read).1
  simp only [List.length_append, List.length_singleton] at bound
  omega

theorem open_behind (before segment : List Mark) (parent : Nat) (may : Mark → Prop) (opens : OpenAt before parent may)
    (others : ∀ other ∈ segment, ¬ may other) : OpenAt (before ++ segment) parent may := by
  obtain ⟨above, earlier, holds, passed⟩ := opens
  refine ⟨above, by rw [List.length_append]; omega, ?_, ?_⟩
  · rcases holds with top | ⟨upper, read, may⟩
    · exact .inl top
    · have bound := (List.getElem?_eq_some_iff.mp read).1
      exact .inr ⟨upper, by rw [List.getElem?_append_left bound]; exact read, may⟩
  · intro between other beyond read
    rcases Nat.lt_or_ge between before.length with inside | behind
    · rw [List.getElem?_append_left inside] at read
      exact passed between other beyond read
    · rw [List.getElem?_append_right behind] at read
      exact others other (List.mem_of_getElem? read)

-- What is put into the table from the start on hangs below the parent, or below something else put there.
def HangBelow (outline : Outline) (parent start count : Nat) : Prop :=
  ∀ id, start ≤ id → id < start + count →
    ∃ holder, (Block.mk outline id).entry.parent = some holder ∧ (holder = parent ∨ start ≤ holder)

def ClosedAt (outline : Outline) (parent stop : Nat) : Prop :=
  ∀ id holder, stop ≤ id → (Block.mk outline id).kind.isStep = true → (Block.mk outline id).entry.parent = some holder →
    holder < parent ∨ stop ≤ holder

theorem hang_cons (outline : Outline) (parent start inner rest : Nat)
    (first : (Block.mk outline start).entry.parent = some parent) (inside : HangBelow outline start (start + 1) inner)
    (behind : HangBelow outline parent (start + 1 + inner) rest) : HangBelow outline parent start (inner + rest + 1) := by
  intro id lower upper
  rcases Nat.eq_or_lt_of_le lower with rfl | later
  · exact ⟨parent, first, .inl rfl⟩
  · rcases Nat.lt_or_ge id (start + 1 + inner) with within | beyond
    · obtain ⟨holder, hangs, place⟩ := inside id later within
      exact ⟨holder, hangs, .inr (by omega)⟩
    · obtain ⟨holder, hangs, place⟩ := behind id beyond (by omega)
      exact ⟨holder, hangs, place.imp_right (by omega)⟩

theorem closed_first (outline : Outline) (parent start stop rest : Nat) (order : parent < start)
    (behind : HangBelow outline parent stop rest) (closed : ClosedAt outline parent (stop + rest)) : ClosedAt outline start stop := by
  intro id holder beyond isStep hangs
  rcases Nat.lt_or_ge id (stop + rest) with within | outside
  · obtain ⟨other, hangsOther, place⟩ := behind id beyond within
    obtain rfl := Option.some.inj (hangs.symm.trans hangsOther)
    omega
  · have place := closed id holder outside isStep hangs
    omega

section

variable (outline : Outline) (chars : List Char) (sound : Sound chars outline.table)

include sound

theorem steps_from_first (parent start inner : Nat) (order : parent < start)
    (first : (Block.mk outline start).entry.parent = some parent) (isStep : (Block.mk outline start).kind.isStep = true)
    (inside : HangBelow outline start (start + 1) inner) : (Block.mk outline parent).stepsFrom start =
      ⟨outline, start⟩ :: (Block.mk outline parent).stepsFrom (start + 1 + inner) := by
  have member : (⟨outline, start⟩ : Block) ∈ (Block.mk outline parent).steps :=
    (Block.mem_steps chars ⟨outline, parent⟩ _ sound).mpr ⟨rfl, first, isStep⟩
  rw [Block.stepsFrom, Block.sorted_from _ ⟨outline, start⟩ member (Block.steps_sorted _)]
  refine congrArg (Block.mk outline start :: ·) (List.filter_congr fun child listed => ?_)
  obtain ⟨same, hangs, -⟩ := (Block.mem_steps chars ⟨outline, parent⟩ child sound).mp listed
  obtain ⟨_, id⟩ := child
  subst same
  rw [decide_eq_decide]
  refine ⟨fun lower => Nat.le_of_not_lt fun within => ?_, fun beyond => Nat.le_trans (Nat.le_add_right _ _) beyond⟩
  obtain ⟨holder, hangsInside, place⟩ := inside id lower within
  have other := Option.some.inj (hangs.symm.trans hangsInside)
  simp only at other
  omega

theorem steps_from_closed (parent stop : Nat) (order : parent < stop) (closed : ClosedAt outline parent stop) :
    (Block.mk outline parent).stepsFrom stop = [] := by
  refine List.filter_eq_nil_iff.mpr fun child listed => ?_
  obtain ⟨same, hangs, isStep⟩ := (Block.mem_steps chars ⟨outline, parent⟩ child sound).mp listed
  obtain ⟨_, id⟩ := child
  subst same
  rw [decide_eq_true_eq]
  intro beyond
  have place := closed id parent beyond isStep hangs
  omega

theorem steps_from_next (parent : Nat) : (Block.mk outline parent).stepsFrom (parent + 1) = (Block.mk outline parent).steps := by
  refine List.filter_eq_self.mpr fun child listed => ?_
  obtain ⟨same, hangs, isStep⟩ := (Block.mem_steps chars ⟨outline, parent⟩ child sound).mp listed
  have read := child.read_entry (child.bound_of_kind (Block.step_ne_root child isStep))
  rw [same] at read
  exact decide_eq_true (sound_descending chars _ sound child.id _ parent read hangs)

end

theorem reads_items_length (blocks : List Block) (items : List Content) (reads : ReadsItems blocks items) :
    blocks.length = items.length ∧ ∀ block ∈ blocks, block.kind = .item := by
  induction blocks generalizing items with
  | nil =>
      cases items with
      | nil => exact ⟨rfl, List.forall_mem_nil _⟩
      | cons => exact reads.elim
  | cons block blocks ih =>
      cases items with
      | nil => exact reads.elim
      | cons value rest =>
          obtain ⟨isItem, -, others⟩ := reads
          obtain ⟨lengths, kinds⟩ := ih rest others
          exact ⟨congrArg (· + 1) lengths, List.forall_mem_cons.mpr ⟨isItem, kinds⟩⟩

theorem items_numbered (block : Block) (chars : List Char) (sound : Sound chars block.outline.table)
    (items : ∀ child ∈ block.steps, child.kind = .item) :
    block.steps.map Block.position = List.range block.steps.length := by
  have position : ∀ child ∈ block.steps,
      child.position = (block.steps.filter fun other => decide (other.id < child.id)).length := by
    intro child listed
    obtain ⟨same, hangs, -⟩ := (Block.mem_steps chars block child sound).mp listed
    have isItem := items child listed
    have hangsBlock : child.parent? = some block := by
      rw [Block.parent?, hangs, Option.map_some, Block.withId, same]
    rw [Block.position_eq chars child block (by rw [same]; exact sound) (.inl isItem) hangsBlock, isItem, Block.steps,
      List.filter_filter]
    refine congrArg List.length (List.filter_congr fun other member => ?_)
    cases isStep : other.kind.isStep with
    | true => simp [items other (List.mem_filter.mpr ⟨member, isStep⟩)]
    | false =>
        have notItem : other.kind ≠ .item := by
          intro isItem
          rw [isItem] at isStep
          cases isStep
        simp [notItem]
  have distinct := Block.sorted_nodup block.steps block.steps_sorted
  refine List.ext_getElem (by simp) fun index within _ => ?_
  rw [List.length_map] at within
  have found := Block.sorted_index block.steps block.steps[index] (List.getElem_mem within) block.steps_sorted
  rw [List.getElem_map, List.getElem_range, position _ (List.getElem_mem within)]
  exact ((List.getElem?_inj within distinct).mp ((List.getElem?_eq_getElem within).trans found.symm)).symm

theorem trimmed_after_space (text : List Char) :
    Text.trimmed (String.ofList ( ' ' :: text)) = Text.trimmed (String.ofList text) := by
  have blank : Text.isBlank ' ' = true := by decide
  simp [Text.trimmed, Text.trim, Text.trimLeft, blank]

namespace Content

theorem column_below (column : Nat) (deeper : Bool) (value : Content) : column ≤ value.columnBelow column deeper := by
  cases value with
  | sequence items =>
      rw [columnBelow]
      split
      · exact Nat.le_add_right column 2
      · exact Nat.le_refl column
  | _ => exact Nat.le_add_right column 2

mutual

theorem marks_column (column : Nat) (value : Content) : ∀ mark ∈ value.marks column, column ≤ mark.column := by
  match value with
  | .scalar text => exact List.forall_mem_nil _
  | .mapping entries => exact entry_marks_column column entries
  | .sequence items => exact item_marks_column column items

theorem entry_marks_column (column : Nat) (entries : List (List Char × Bool × Content)) :
    ∀ mark ∈ entryMarks column entries, column ≤ mark.column := by
  match entries with
  | [] => exact List.forall_mem_nil _
  | (name, deeper, value) :: rest =>
      refine List.forall_mem_cons.mpr ⟨Nat.le_refl column, List.forall_mem_append.mpr ⟨fun mark member => ?_, ?_⟩⟩
      · exact Nat.le_trans (column_below column deeper value) (marks_column _ value mark member)
      · exact entry_marks_column column rest

theorem item_marks_column (column : Nat) (items : List Content) : ∀ mark ∈ itemMarks column items, column ≤ mark.column := by
  match items with
  | [] => exact List.forall_mem_nil _
  | item :: rest =>
      refine List.forall_mem_cons.mpr ⟨Nat.le_refl column, List.forall_mem_append.mpr ⟨fun mark member => ?_, ?_⟩⟩
      · exact Nat.le_trans (Nat.le_add_right column 2) (marks_column (column + 2) item mark member)
      · exact item_marks_column column rest

end

theorem key_holds (column : Nat) (deeper : Bool) (name shown : String) (value : Content) :
    value.held (value.columnBelow column deeper) (.key column name shown) := by
  cases value with
  | sequence items => exact .inr ⟨rfl, column_below column deeper (.sequence items)⟩
  | _ => exact Nat.lt_add_of_pos_right (by decide)

theorem item_holds (column : Nat) (value : Content) : value.held (column + 2) (.item column) := by
  cases value with
  | sequence items => exact .inl (Nat.lt_add_of_pos_right (by decide))
  | _ => exact Nat.lt_add_of_pos_right (by decide)

theorem key_passes (column : Nat) (name shown : String) (deeper : Bool) (value : Content) :
    ∀ other ∈ Mark.key column name shown :: value.marks (value.columnBelow column deeper), ¬ other.column < column := by
  refine List.forall_mem_cons.mpr ⟨Nat.lt_irrefl column, fun other member => ?_⟩
  exact Nat.not_lt.mpr (Nat.le_trans (column_below column deeper value) (marks_column _ value other member))

theorem item_passes (column : Nat) (value : Content) :
    ∀ other ∈ Mark.item column :: value.marks (column + 2), ¬ other.MayHold (.item column) := by
  refine List.forall_mem_cons.mpr ⟨?_, fun other member => ?_⟩
  · simp [Mark.MayHold, Mark.column, Mark.isKey]
  · have right := marks_column (column + 2) value other member
    simp only [Mark.MayHold]
    omega

end Content

section

variable (outline : Outline) (marks : List Mark) (marked : Marked outline marks)

include marked

theorem hangs_next (before after : List Mark) (mark : Mark) (parent : Nat) (whole : marks = before ++ mark :: after)
    (opens : OpenAt before parent (·.MayHold mark)) :
    (Block.mk outline (before.length + 2)).entry.parent = some parent := by
  obtain ⟨above, earlier, holds, passed⟩ := opens
  have same : ∀ index, index < before.length → marks[index]? = before[index]? := by
    intro index within
    rw [whole, List.getElem?_append_left within]
  refine marked.hangs before.length mark (by simp [whole]) parent above earlier ?_ ?_
  · rcases holds with top | ⟨upper, read, may⟩
    · exact .inl top
    · exact .inr ⟨upper, by rw [same _ (List.getElem?_eq_some_iff.mp read).1]; exact read, may⟩
  · intro between other beyond within read
    exact passed between other beyond (by rw [← same _ within]; exact read)

end

def Stretch (outline : Outline) (parent start count : Nat) (known : Prop) : Prop :=
  HangBelow outline parent start count ∧ (ClosedAt outline parent (start + count) → known)

section

variable (outline : Outline) (chars : List Char) (sound : Sound chars outline.table) (marks : List Mark)

include sound

theorem stretch_empty (parent start : Nat) (order : parent < start) :
    Stretch outline parent start 0 ((Block.mk outline parent).stepsFrom start = []) :=
  ⟨fun id lower upper => by omega, steps_from_closed outline chars sound parent start order⟩

theorem stretch_first (marked : Marked outline marks) (before after : List Mark) (mark : Mark)
    (parent start inner rest : Nat) (whole : marks = before ++ mark :: after) (place : start = before.length + 2)
    (opens : OpenAt before parent (·.MayHold mark)) (own others : Prop)
    (inside : Stretch outline start (start + 1) inner own) (behind : Stretch outline parent (start + 1 + inner) rest others) :
    Stretch outline parent start (inner + rest + 1) (mark.Fits ⟨outline, start⟩ ∧ own ∧ others ∧
      (Block.mk outline parent).stepsFrom start = ⟨outline, start⟩ :: (Block.mk outline parent).stepsFrom (start + 1 + inner)) := by
  subst place
  have first := hangs_next outline marks marked before after mark parent whole opens
  have fits := marked.fits before.length mark (by simp [whole])
  have isStep : (Block.mk outline (before.length + 2)).kind.isStep = true := by
    cases mark with
    | key column name value => rw [fits.1]; rfl
    | item column => rw [fits.1]; rfl
  refine ⟨hang_cons outline parent _ inner rest first inside.1 behind.1, fun closed => ?_⟩
  rw [Nat.add_right_comm inner rest 1, Nat.add_comm inner 1, ← Nat.add_assoc, ← Nat.add_assoc] at closed
  exact ⟨fits, inside.2 (closed_first outline parent _ _ rest opens.earlier behind.1 closed), behind.2 closed,
    steps_from_first outline chars sound parent _ inner opens.earlier first isStep inside.1⟩

mutual

theorem value_stretch (marked : Marked outline marks) (column : Nat) (value : Content) (before after : List Mark)
    (parent : Nat) (whole : marks = before ++ (value.marks column ++ after)) (place : parent = before.length + 1)
    (opens : OpenAt before parent (value.held column)) :
    Stretch outline parent (parent + 1) (value.marks column).length (Reads ⟨outline, parent⟩ value) := by
  have all := steps_from_next outline chars sound parent
  match value with
  | .scalar text =>
      obtain ⟨hangs, none⟩ := stretch_empty outline chars sound parent (parent + 1) (Nat.lt_succ_self parent)
      exact ⟨hangs, fun closed => all.symm.trans (none closed)⟩
  | .mapping entries =>
      obtain ⟨hangs, reads⟩ := entry_stretch marked column entries before after parent (parent + 1) whole (by omega) opens
      refine ⟨hangs, fun closed => ?_⟩
      rw [Reads, ← all]
      exact reads closed
  | .sequence items =>
      obtain ⟨hangs, reads⟩ := item_stretch marked column items before after parent (parent + 1) whole (by omega) opens
      refine ⟨hangs, fun closed => ?_⟩
      have listed := reads closed
      rw [all] at listed
      obtain ⟨lengths, kinds⟩ := reads_items_length _ items listed
      exact ⟨by rw [items_numbered _ chars sound kinds, lengths], listed⟩

theorem entry_stretch (marked : Marked outline marks) (column : Nat) (entries : List (List Char × Bool × Content))
    (before after : List Mark) (parent start : Nat) (whole : marks = before ++ (entryMarks column entries ++ after))
    (place : start = before.length + 2) (opens : OpenAt before parent (·.column < column)) :
    Stretch outline parent start (entryMarks column entries).length
      (ReadsEntries ((Block.mk outline parent).stepsFrom start) entries) := by
  match entries with
  | [] =>
      obtain ⟨hangs, none⟩ := stretch_empty outline chars sound parent start (place ▸ opens.earlier)
      exact ⟨hangs, fun closed => by rw [none closed]; exact trivial⟩
  | (name, deeper, value) :: rest =>
      let mark := Mark.key column (String.ofList name) (Text.trimmed (String.ofList value.shown))
      have inside := value_stretch marked (value.columnBelow column deeper) value (before ++ [mark]) (entryMarks column rest ++ after)
        start (by simp [whole, entryMarks, mark]) (by simp [place])
        (place ▸ open_last before mark _ (key_holds column deeper _ _ value))
      have behind := entry_stretch marked column rest (before ++ mark :: value.marks (value.columnBelow column deeper)) after parent
        (start + 1 + (value.marks (value.columnBelow column deeper)).length) (by simp [whole, entryMarks, mark])
        (by simp [place]; omega) (open_behind before _ parent _ opens (key_passes column _ _ deeper value))
      obtain ⟨hangs, known⟩ := stretch_first outline chars sound marks marked before _ mark parent start _ _ whole place opens
        _ _ inside behind
      rw [entryMarks, List.length_cons, List.length_append]
      refine ⟨hangs, fun closed => ?_⟩
      obtain ⟨⟨isKey, -, named, shown⟩, own, others, listed⟩ := known closed
      rw [listed]
      refine ⟨isKey, named, ?_, own, others⟩
      rintro text rfl
      rw [shown]
      exact congrArg some (trimmed_after_space text)

theorem item_stretch (marked : Marked outline marks) (column : Nat) (items : List Content) (before after : List Mark)
    (parent start : Nat) (whole : marks = before ++ (itemMarks column items ++ after)) (place : start = before.length + 2)
    (opens : OpenAt before parent (·.MayHold (.item column))) :
    Stretch outline parent start (itemMarks column items).length
      (ReadsItems ((Block.mk outline parent).stepsFrom start) items) := by
  match items with
  | [] =>
      obtain ⟨hangs, none⟩ := stretch_empty outline chars sound parent start (place ▸ opens.earlier)
      exact ⟨hangs, fun closed => by rw [none closed]; exact trivial⟩
  | item :: rest =>
      have inside := value_stretch marked (column + 2) item (before ++ [.item column]) (itemMarks column rest ++ after) start
        (by simp [whole, itemMarks]) (by simp [place]) (place ▸ open_last before _ _ (item_holds column item))
      have behind := item_stretch marked column rest (before ++ .item column :: item.marks (column + 2)) after parent
        (start + 1 + (item.marks (column + 2)).length) (by simp [whole, itemMarks]) (by simp [place]; omega)
        (open_behind before _ parent _ opens (item_passes column item))
      obtain ⟨hangs, known⟩ := stretch_first outline chars sound marks marked before _ (.item column) parent start _ _ whole place
        opens _ _ inside behind
      rw [itemMarks, List.length_cons, List.length_append]
      refine ⟨hangs, fun closed => ?_⟩
      obtain ⟨⟨isItem, -⟩, own, others, listed⟩ := known closed
      rw [listed]
      exact ⟨isItem, own, others⟩

end

end

theorem only_child (block only : Block) (children : ∀ child, child ∈ block.children ↔ child = only) :
    block.children = [only] := by
  have distinct := Block.sorted_nodup block.children block.children_sorted
  refine List.perm_singleton.mp ((List.perm_ext_iff_of_nodup distinct (List.pairwise_singleton _ _)).mpr fun child => ?_)
  rw [children, List.mem_singleton]

-- The text of a value in block style has one document, and its keys and items are those of the value.
theorem block_style_read_back (value : Content) (final relaxedNames : Bool) (canonical : value.IsCanonical)
    (collects : value.isScalar = false) :
    ∃ document, (ofText (value.text final) relaxedNames).root.children = [document] ∧ document.kind = .document ∧
      Reads document value := by
  obtain ⟨start, further, starts, -⟩ := lines_start value canonical
  have whole : (value.text final).toList = joined final value.lines := String.toList_ofList
  obtain ⟨first, steps, tail, split, isDocument, shown, raw⟩ := opening_marks (value.text final) final value.lines
    (by rw [starts]; exact List.cons_ne_nil start further) (lines_opening value canonical collects) whole
  rw [lines_marks 0 value canonical collects] at shown
  have marked := text_marked (value.text final) relaxedNames first steps tail _ split isDocument shown raw
  have sound := of_text_sound (value.text final) relaxedNames
  refine ⟨⟨ofText (value.text final) relaxedNames, 1⟩, only_child _ _ fun child => ?_, marked.document, ?_⟩
  · rw [document_iff_top, mem_blocks]
    constructor
    · rintro ⟨⟨same, -⟩, isTop⟩
      obtain ⟨outline, id⟩ := child
      subst same
      rw [marked.others id isTop]
    · rintro rfl
      exact ⟨⟨rfl, Block.bound_of_kind _ (by rw [marked.document]; nofun)⟩, marked.document⟩
  · obtain ⟨-, reads⟩ := value_stretch _ _ sound _ marked 0 value [] [] 1 (by simp) rfl (open_root _)
    refine reads fun id holder beyond isStep hangs => ?_
    obtain ⟨index, mark, rfl, read⟩ := marked.only id isStep
    have bound := (List.getElem?_eq_some_iff.mp read).1
    omega

-- A list in a mapping in a list, at the column of its key and deeper.
theorem mixed_value_read_back :
    ∃ value : Content, value.IsCanonical ∧ value.isScalar = false ∧
      value.text true = "a: 1\nb:\n- c:  x\n  d:\n    - y\n- z\n" ∧
      ∃ document, (ofText "a: 1\nb:\n- c:  x\n  d:\n    - y\n- z\n").root.children = [document] ∧ document.kind = .document ∧
        Reads document value := by
  let item : Content := .mapping [([ 'c'], false, .scalar [ ' ', 'x']), ([ 'd'], true, .sequence [.scalar [ 'y']])]
  let value : Content := .mapping [([ 'a'], false, .scalar [ '1']), ([ 'b'], false, .sequence [item, .scalar [ 'z']])]
  have simple : ∀ c, Text.isWord c = true → IsSimpleKey [c] := fun c word => ⟨word, List.forall_mem_nil _⟩
  have neither : ∀ c, ¬ IsKeyLine [c] ∧ ¬ IsItemLine [c] → ∀ text, Content.scalar [c] = .scalar text →
      ¬ IsKeyLine text ∧ ¬ IsItemLine text := by
    rintro c other text same
    cases same
    exact other
  have inner : item.IsCanonical :=
    ⟨nofun, simple 'c' (by decide +kernel), ⟨by decide, by decide⟩, simple 'd' (by decide +kernel),
      ⟨nofun, ⟨by decide, by decide⟩, neither 'y' (by decide +kernel), trivial⟩, trivial⟩
  have canonical : value.IsCanonical :=
    ⟨nofun, simple 'a' (by decide +kernel), ⟨by decide, by decide⟩, simple 'b' (by decide +kernel),
      ⟨nofun, inner, nofun, ⟨by decide, by decide⟩, neither 'z' (by decide +kernel), trivial⟩, trivial⟩
  have text : value.text true = "a: 1\nb:\n- c:  x\n  d:\n    - y\n- z\n" := by decide +kernel
  exact ⟨value, canonical, rfl, text, text ▸ block_style_read_back value true false canonical rfl⟩

end YamlDialects.Outline
