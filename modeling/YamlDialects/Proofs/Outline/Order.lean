import YamlDialects.Outline.Block
import YamlDialects.Proofs.Outline.Shape

/-!
The order of the nodes in the text. Nodes start and end in the order of the table, and a node ends before
a later one starts unless the later one is below it on the line of a dash. So the nodes below a node end
where its last one ends.
-/

set_option autoImplicit false

namespace YamlDialects.Outline

theorem entries_in_order (chars : List Char) (table : Table) (sound : Sound chars table) (before after : Nat)
    (first second : Entry) (positive : 0 < before) (order : before < after) (readFirst : table[before]? = some first)
    (readSecond : table[after]? = some second) :
    first.start ≤ second.start ∧ first.stop ≤ second.stop ∧
      (first.stop ≤ second.start ∨ (first.kind = .item ∧ table.Under before after)) := by
  induction after generalizing second with
  | zero => omega
  | succ after ih =>
      have shaped := sound.shaped (after + 1) second (by omega) readSecond
      have span := shaped.span
      by_cases adjacent : before = after
      · subst adjacent
        have spanFirst := (sound.shaped before first positive readFirst).span
        rcases shaped.follows first (by omega) readFirst with apart | ⟨isItem, child, starts, ends⟩
        · exact ⟨by omega, by omega, .inl apart⟩
        · exact ⟨starts, Nat.le_of_eq ends, .inr ⟨isItem, .step (before + 1) before second readSecond child .here⟩⟩
      · have bound := table.read_bound (after + 1) second readSecond
        obtain ⟨previous, readPrevious⟩ := table.read_exists after (by omega)
        have spanPrevious := (sound.shaped after previous (by omega) readPrevious).span
        obtain ⟨starts, ends, apart⟩ := ih previous (by omega) readPrevious
        rcases shaped.follows previous (by omega) readPrevious with further | ⟨_, child, startsNext, endsNext⟩
        · exact ⟨by omega, by omega, .inl (by omega)⟩
        · refine ⟨by omega, by omega, ?_⟩
          rcases apart with apart | ⟨isItem, under⟩
          · exact .inl (by omega)
          · exact .inr ⟨isItem, .step (after + 1) after second readSecond child under⟩

theorem siblings_separate (chars : List Char) (table : Table) (sound : Sound chars table) (parent first second : Nat)
    (firstEntry secondEntry : Entry) (order : first < second) (readFirst : table[first]? = some firstEntry)
    (readSecond : table[second]? = some secondEntry) (firstChild : firstEntry.parent = some parent)
    (secondChild : secondEntry.parent = some parent) : ¬ table.Under first second := by
  intro above
  have descending := sound_descending chars table sound
  have higher := table.under_parent first second parent secondEntry readSecond secondChild (by omega) above
  have bound := table.under_le descending first parent higher
  have smaller := descending first firstEntry parent readFirst firstChild
  omega

theorem below_before (chars : List Char) (table : Table) (sound : Sound chars table) (first second id : Nat)
    (order : first < second) (separate : ¬ table.Under first second) (under : table.Under first id) : id < second := by
  apply Nat.lt_of_not_le
  intro beyond
  exact separate (table.under_between (sound_preordered chars table sound) first second id (by omega) beyond under)

end YamlDialects.Outline

namespace YamlDialects.Block

open Outline

@[simp]
theorem with_id_id (block : Block) (id : Nat) : (block.withId id).id = id := rfl

@[simp]
theorem with_id_outline (block : Block) (id : Nat) : (block.withId id).outline = block.outline := rfl

theorem entry_of_read (block : Block) (entry : Entry) (read : block.outline.table[block.id]? = some entry) :
    block.entry = entry := by
  rw [Block.entry, read, Option.getD_some]

theorem kind_of_read (block : Block) (entry : Entry) (read : block.outline.table[block.id]? = some entry) :
    block.kind = entry.kind := by
  rw [kind, block.entry_of_read entry read]

theorem read_entry (block : Block) (bound : block.id < block.outline.size) :
    block.outline.table[block.id]? = some block.entry := by
  obtain ⟨entry, read⟩ := block.outline.table.read_exists block.id bound
  rw [read, block.entry_of_read entry read]

theorem parent_of_read (block : Block) (entry : Entry) (read : block.outline.table[block.id]? = some entry) (above : Nat)
    (hangs : entry.parent = some above) : block.parent? = some ⟨block.outline, above⟩ := by
  rw [parent?, block.entry_of_read entry read, hangs]
  rfl

theorem root_above (chars : List Char) (outline : Outline) (sound : Sound chars outline.table) :
    outline.root.parent? = none ∧ outline.root.kind = .root := by
  have rootEntry : outline.root.entry = Table.rootOf (Text.byteLength chars) := entry_of_read _ _ sound.root
  rw [parent?, kind, rootEntry]
  exact ⟨rfl, rfl⟩

theorem bound_of_kind (block : Block) (notRoot : block.kind ≠ .root) : block.id < block.outline.size := by
  apply Nat.lt_of_not_le
  intro beyond
  apply notRoot
  rw [kind, Block.entry, Array.getElem?_eq_none beyond]
  rfl

theorem positive_of_kind (block : Block) (chars : List Char) (sound : Sound chars block.outline.table)
    (notRoot : block.kind ≠ .root) : 0 < block.id :=
  positive_of_read chars _ sound block.id block.entry (block.read_entry (block.bound_of_kind notRoot)) notRoot

theorem mem_children (chars : List Char) (block child : Block) (sound : Sound chars block.outline.table) :
    child ∈ block.children ↔ child.outline = block.outline ∧
      ∃ (entry : Entry), block.outline.table[child.id]? = some entry ∧ entry.parent = some block.id := by
  constructor
  · intro member
    obtain ⟨id, found, rfl⟩ := List.mem_map.mp member
    refine ⟨rfl, ?_⟩
    simpa [withId, Option.any_eq_true] using (List.mem_filter.mp found).2
  · rintro ⟨same, entry, read, isChild⟩
    have smaller := sound_descending chars _ sound child.id entry block.id read isChild
    have bound := block.outline.table.read_bound child.id entry read
    refine List.mem_map.mpr ⟨child.id, List.mem_filter.mpr ⟨?_, ?_⟩, ?_⟩
    · rw [List.mem_range'_1]
      simp only [Outline.size]
      omega
    · simp [read, isChild]
    · cases child
      cases same
      rfl

theorem children_sorted (block : Block) : block.children.Pairwise fun first second => first.id < second.id := by
  apply List.pairwise_map.mpr
  exact List.Pairwise.filter _ List.pairwise_lt_range'

theorem last_child_max (block child : Block) (last : block.lastChild? = some child) :
    child ∈ block.children ∧ ∀ other ∈ block.children, other.id ≤ child.id := by
  obtain ⟨init, split⟩ := List.getLast?_eq_some_iff.mp last
  have sorted := block.children_sorted
  rw [split] at sorted ⊢
  refine ⟨by simp, ?_⟩
  intro other member
  rcases List.mem_append.mp member with earlier | here
  · exact Nat.le_of_lt ((List.pairwise_append.mp sorted).2.2 other earlier child (by simp))
  · exact Nat.le_of_eq (congrArg Block.id (List.mem_singleton.mp here))

theorem last_descendant_spec (chars : List Char) (fuel : Nat) (block : Block) (sound : Sound chars block.outline.table)
    (bound : block.id < block.outline.size) (enough : block.outline.size - block.id ≤ fuel) :
    ∃ last, block.lastDescendant fuel = block.withId last ∧ block.outline.table.Under block.id last ∧
      last < block.outline.size ∧ ∀ id, block.outline.table.Under block.id id → id ≤ last := by
  induction fuel generalizing block with
  | zero => omega
  | succ fuel ih =>
      cases found : block.lastChild? with
      | none =>
          have leaf : block.children = [] := List.getLast?_eq_none_iff.mp found
          refine ⟨block.id, by simp [lastDescendant, found, withId], .here, bound, ?_⟩
          intro id under
          by_cases same : block.id = id
          · omega
          · obtain ⟨child, entry, read, isChild, _⟩ := under_child block.outline.table block.id id same under
            have member := (mem_children chars block (block.withId child) sound).mpr ⟨rfl, entry, read, isChild⟩
            simp [leaf] at member
      | some child =>
          obtain ⟨member, maximal⟩ := last_child_max block child found
          obtain ⟨same, entry, read, isChild⟩ := (mem_children chars block child sound).mp member
          have smaller := sound_descending chars _ sound child.id entry block.id read isChild
          have childBound := block.outline.table.read_bound child.id entry read
          obtain ⟨last, result, under, inside, greatest⟩ := ih child (same ▸ sound) (by rw [same]; exact childBound)
            (by rw [same]; omega)
          rw [same] at under inside greatest
          have below : block.outline.table.Under block.id child.id := .step child.id block.id entry read isChild .here
          refine ⟨last, ?_, block.outline.table.under_trans block.id child.id last below under, inside, ?_⟩
          · simp only [lastDescendant, found]
            rw [result, withId, withId, same]
          · intro id above
            by_cases here : block.id = id
            · have order := block.outline.table.under_le (sound_descending chars _ sound) child.id last under
              omega
            · obtain ⟨other, otherEntry, readOther, otherChild, otherUnder⟩ :=
                under_child block.outline.table block.id id here above
              have otherMember := (mem_children chars block (block.withId other) sound).mpr
                ⟨rfl, otherEntry, readOther, otherChild⟩
              have order := maximal (block.withId other) otherMember
              by_cases lastOne : other = child.id
              · exact greatest id (lastOne ▸ otherUnder)
              · have before : other < child.id := by
                  simp only [withId] at order
                  omega
                have separate := siblings_separate chars _ sound block.id other child.id otherEntry entry before
                  readOther read otherChild isChild
                have earlier := below_before chars _ sound other child.id id before separate otherUnder
                have further := block.outline.table.under_le (sound_descending chars _ sound) child.id last under
                omega

theorem tree_stop_spec (chars : List Char) (block : Block) (sound : Sound chars block.outline.table)
    (positive : 0 < block.id) (bound : block.id < block.outline.size) :
    ∃ (last : Nat) (lastEntry : Entry), block.outline.table.Under block.id last ∧
      (∀ id, block.outline.table.Under block.id id → id ≤ last) ∧
      block.outline.table[last]? = some lastEntry ∧ block.treeStop = lastEntry.stop := by
  have read := block.read_entry bound
  have notRoot : block.kind ≠ .root := (sound.shaped block.id block.entry positive read).notRoot
  obtain ⟨last, result, under, inside, greatest⟩ :=
    last_descendant_spec chars block.outline.size block sound bound (Nat.sub_le _ _)
  obtain ⟨lastEntry, readLast⟩ := block.outline.table.read_exists last inside
  have stopLast : (block.withId last).stop = lastEntry.stop := by
    rw [stop, (block.withId last).entry_of_read lastEntry readLast]
  refine ⟨last, lastEntry, under, greatest, readLast, ?_⟩
  rw [treeStop, if_neg notRoot, result, stopLast]
  apply Nat.max_eq_left
  by_cases same : block.id = last
  · have equal : block.entry = lastEntry := Option.some.inj (read.symm.trans (same ▸ readLast))
    exact Nat.le_of_eq (congrArg Entry.stop equal)
  · have order := block.outline.table.under_le (sound_descending chars _ sound) block.id last under
    exact (entries_in_order chars _ sound block.id last block.entry lastEntry positive (by omega) read readLast).2.1

theorem tree_stop_boundary (chars : List Char) (block : Block) (sound : Sound chars block.outline.table)
    (positive : 0 < block.id) (bound : block.id < block.outline.size) : Text.IsBoundary chars block.treeStop := by
  obtain ⟨last, lastEntry, under, _, readLast, stopEq⟩ := tree_stop_spec chars block sound positive bound
  have order := block.outline.table.under_le (sound_descending chars _ sound) block.id last under
  rw [stopEq]
  exact (sound.shaped last lastEntry (by omega) readLast).stopBoundary

theorem tree_stop_le (chars : List Char) (upper lower : Block) (same : lower.outline = upper.outline)
    (sound : Sound chars upper.outline.table) (positive : 0 < upper.id) (bound : lower.id < upper.outline.size)
    (under : upper.outline.table.Under upper.id lower.id) :
    upper.start ≤ lower.start ∧ lower.treeStop ≤ upper.treeStop := by
  have descending := sound_descending chars _ sound
  have order := upper.outline.table.under_le descending upper.id lower.id under
  have upperBound : upper.id < upper.outline.size := by omega
  have readUpper := upper.read_entry upperBound
  have readLower := lower.read_entry (by rw [same]; exact bound)
  obtain ⟨upperLast, upperEntry, underUpper, greatest, readUpperLast, upperStop⟩ :=
    tree_stop_spec chars upper sound positive upperBound
  obtain ⟨lowerLast, lowerEntry, underLower, _, readLowerLast, lowerStop⟩ :=
    tree_stop_spec chars lower (same ▸ sound) (by omega) (by rw [same]; exact bound)
  rw [same] at readLower underLower readLowerLast
  have within := greatest lowerLast (upper.outline.table.under_trans upper.id lower.id lowerLast under underLower)
  have lowerOrder := upper.outline.table.under_le descending lower.id lowerLast underLower
  constructor
  · by_cases here : upper.id = lower.id
    · have equal : upper.entry = lower.entry := Option.some.inj (readUpper.symm.trans (here ▸ readLower))
      exact Nat.le_of_eq (congrArg Entry.start equal)
    · exact (entries_in_order chars _ sound upper.id lower.id _ _ positive (by omega) readUpper readLower).1
  · rw [lowerStop, upperStop]
    by_cases last : lowerLast = upperLast
    · have equal : lowerEntry = upperEntry := Option.some.inj (readLowerLast.symm.trans (last ▸ readUpperLast))
      exact Nat.le_of_eq (congrArg Entry.stop equal)
    · exact (entries_in_order chars _ sound lowerLast upperLast _ _ (by omega) (by omega) readLowerLast readUpperLast).2.1

theorem tree_stop_le_start (chars : List Char) (first second : Block) (same : second.outline = first.outline)
    (sound : Sound chars first.outline.table) (positive : 0 < first.id) (order : first.id < second.id)
    (bound : second.id < first.outline.size) (separate : ¬ first.outline.table.Under first.id second.id) :
    first.treeStop ≤ second.start := by
  obtain ⟨last, lastEntry, under, _, readLast, stopEq⟩ := tree_stop_spec chars first sound positive (by omega)
  have readSecond := second.read_entry (by rw [same]; exact bound)
  rw [same] at readSecond
  have lastOrder := first.outline.table.under_le (sound_descending chars _ sound) first.id last under
  have before := below_before chars _ sound first.id second.id last order separate under
  rw [stopEq]
  rcases (entries_in_order chars _ sound last second.id lastEntry second.entry (by omega) before readLast readSecond).2.2
    with apart | ⟨_, above⟩
  · exact apart
  · exact absurd (first.outline.table.under_trans first.id last second.id under above) separate

open Outline

theorem climb_append (fuel : Nat) (block : Block) (below : List Block) :
    ancestry.climb fuel block below = ancestry.climb fuel block [] ++ below := by
  induction fuel generalizing block below with
  | zero => rfl
  | succ fuel ih =>
      cases hangs : block.parent? with
      | none => simp [ancestry.climb, hangs]
      | some parent =>
          simp only [ancestry.climb, hangs]
          rw [ih parent (block :: below), ih parent [block], List.append_assoc]
          rfl

theorem parent_smaller (chars : List Char) (block parent : Block) (sound : Sound chars block.outline.table)
    (hangs : block.parent? = some parent) : ∃ (id : Nat) (entry : Entry), parent = block.withId id ∧ id < block.id ∧
      block.outline.table[block.id]? = some entry ∧ entry.parent = some id := by
  obtain ⟨id, child, rfl⟩ := Option.map_eq_some_iff.mp hangs
  by_cases bound : block.id < block.outline.size
  · have read := block.read_entry bound
    exact ⟨id, block.entry, rfl, sound_descending chars _ sound block.id block.entry id read child, read, child⟩
  · rw [Block.entry, Array.getElem?_eq_none (Nat.le_of_not_lt bound)] at child
    simp [Table.rootOf] at child

theorem climb_enough (chars : List Char) (fuel more : Nat) (block : Block) (sound : Sound chars block.outline.table)
    (enough : block.id ≤ fuel) (order : fuel ≤ more) : ancestry.climb fuel block [] = ancestry.climb more block [] := by
  induction fuel generalizing block more with
  | zero =>
      cases hangs : block.parent? with
      | none => cases more <;> simp [ancestry.climb, hangs]
      | some parent =>
          obtain ⟨id, _, _, smaller, _⟩ := parent_smaller chars block parent sound hangs
          omega
  | succ fuel ih =>
      obtain ⟨more, rfl⟩ : ∃ less, more = less + 1 := ⟨more - 1, by omega⟩
      cases hangs : block.parent? with
      | none => simp [ancestry.climb, hangs]
      | some parent =>
          obtain ⟨id, _, rfl, smaller, _⟩ := parent_smaller chars block parent sound hangs
          simp only [ancestry.climb, hangs]
          rw [climb_append fuel, climb_append more, ih more (block.withId id) sound (by simp; omega) (by omega)]

theorem ancestry_root (block : Block) (top : block.parent? = none) : block.ancestry = [block] := by
  rw [ancestry]
  cases block.outline.size <;> simp [ancestry.climb, top]

theorem ancestry_parent (chars : List Char) (block parent : Block) (sound : Sound chars block.outline.table)
    (hangs : block.parent? = some parent) : block.ancestry = parent.ancestry ++ [block] := by
  obtain ⟨id, entry, rfl, smaller, read, _⟩ := parent_smaller chars block parent sound hangs
  have bound : block.id < block.outline.size := block.outline.table.read_bound block.id entry read
  obtain ⟨fuel, sizeEq⟩ : ∃ fuel, block.outline.size = fuel + 1 := ⟨block.outline.size - 1, by omega⟩
  have first : ancestry.climb (fuel + 1) block [] = ancestry.climb fuel (block.withId id) [block] := by
    simp [ancestry.climb, hangs]
  rw [ancestry, ancestry, with_id_outline, sizeEq, first, climb_append,
    climb_enough chars fuel (fuel + 1) (block.withId id) sound (by simp; omega) (by omega)]

theorem document_append (chars : List Char) (block parent : Block) (sound : Sound chars block.outline.table)
    (hangs : block.parent? = some parent) :
    block.document? = parent.document?.or (if block.kind = .document then some block else none) := by
  rw [document?, ancestry_parent chars block parent sound hangs, List.find?_append]
  by_cases isDocument : block.kind = .document <;> simp [document?, isDocument]

theorem document_of_under (chars : List Char) (outline : Outline) (top id : Nat) (sound : Sound chars outline.table)
    (isDocument : (Block.mk outline top).kind = .document) (under : outline.table.Under top id) :
    (Block.mk outline id).document? = some ⟨outline, top⟩ := by
  have notRoot : (Block.mk outline top).kind ≠ .root := by simp [isDocument]
  have read := (Block.mk outline top).read_entry (bound_of_kind _ notRoot)
  have positive := (Block.mk outline top).positive_of_kind chars sound notRoot
  -- The document hangs below the root, which is no document; further down the way up finds it first.
  induction under with
  | here =>
      obtain ⟨parent, _, child, _, _, _, atTop, _⟩ := (sound.shaped top _ positive read).hangs
      obtain rfl : parent = 0 := atTop.mpr isDocument
      have hangs : (Block.mk outline top).parent? = some outline.root := by rw [parent?, child]; rfl
      obtain ⟨above, notDocument⟩ := root_above chars outline sound
      rw [document_append chars _ _ sound hangs, if_pos isDocument, document?, ancestry_root _ above]
      simp [notDocument]
  | step id parent entry readEntry child above ih =>
      rw [document_append chars _ _ sound (parent_of_read ⟨outline, id⟩ entry readEntry parent child), ih]
      rfl

end YamlDialects.Block
