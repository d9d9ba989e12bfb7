import YamlDialects.Proofs.Outline.Entries

/-!
The block that an offset belongs to. Blocks nest and siblings do not overlap, so of the blocks that cover an offset
each is above the next one, and the search from the root ends at the lowest of them. No block covers the end of the
text; there the search follows the last children and ends at the last block.
-/

set_option autoImplicit false

namespace YamlDialects

namespace Block

open Outline

theorem mem_ancestry (chars : List Char) (outline : Outline) (id : Nat) (sound : Sound chars outline.table) (other : Block) :
    other ∈ (Block.mk outline id).ancestry ↔ other.outline = outline ∧ outline.table.Under other.id id := by
  induction id using Nat.strongRecOn with
  | ind id ih =>
      have self : other.outline = outline → other.id = id → other = ⟨outline, id⟩ := by
        rintro rfl rfl
        rfl
      cases hangs : (Block.mk outline id).parent? with
      | none =>
          rw [ancestry_root _ hangs, List.mem_singleton]
          constructor
          · rintro rfl
            exact ⟨rfl, .here⟩
          · rintro ⟨same, under⟩
            by_cases here : other.id = id
            · exact self same here
            · obtain ⟨_, entry, read, child, _⟩ : ∃ parent entry, outline.table[id]? = some entry ∧
                  entry.parent = some parent ∧ outline.table.Under other.id parent := by
                cases under with
                | here => exact absurd rfl here
                | step _ parent entry read child above => exact ⟨parent, entry, read, child, above⟩
              rw [parent_of_read ⟨outline, id⟩ entry read _ child] at hangs
              cases hangs
      | some parent =>
          obtain ⟨above, entry, rfl, smaller, read, child⟩ := parent_smaller chars _ parent sound hangs
          rw [ancestry_parent chars _ _ sound hangs, List.mem_append, List.mem_singleton]
          have further := ih above smaller
          constructor
          · rintro (higher | rfl)
            · obtain ⟨same, under⟩ := further.mp higher
              exact ⟨same, outline.table.under_trans _ _ _ under (.step id above entry read child .here)⟩
            · exact ⟨rfl, .here⟩
          · rintro ⟨same, under⟩
            by_cases here : other.id = id
            · exact .inr (self same here)
            · exact .inl (further.mpr ⟨same, outline.table.under_parent _ id above entry read child here under⟩)

theorem covers_iff (block : Block) (offset : Nat) :
    block.contains offset = true ↔ block.start ≤ offset ∧ offset < block.treeStop := by
  rw [contains, treeRegion, Region.contains_iff]

theorem reaches_covered (block : Block) (offset : Nat) : block.reaches offset false = block.contains offset := by
  rw [reaches, Bool.false_and, Bool.or_false]
  rfl

theorem stop_le_tree_stop (block : Block) : block.stop ≤ block.treeStop := by
  rw [treeStop]
  split
  · exact Nat.le_refl _
  · exact Nat.le_max_right _ _

theorem find_from_missed (atEnd : Bool) (offset fuel : Nat) (block : Block) (missed : block.reaches offset atEnd = false) :
    findFrom atEnd offset fuel block = none := by
  cases fuel with
  | zero => rfl
  | succ fuel => simp [findFrom, missed]

theorem find_from_reached (atEnd : Bool) (offset fuel : Nat) (block found : Block)
    (search : findFrom atEnd offset fuel block = some found) : block.reaches offset atEnd = true := by
  cases reached : block.reaches offset atEnd with
  | true => rfl
  | false =>
      rw [find_from_missed atEnd offset fuel block reached] at search
      cases search

theorem find_from_reaches (atEnd : Bool) (offset fuel : Nat) (block found : Block)
    (search : findFrom atEnd offset fuel block = some found) : found.reaches offset atEnd = true := by
  induction fuel generalizing block with
  | zero => cases search
  | succ fuel ih =>
      have reached := find_from_reached atEnd offset (fuel + 1) block found search
      rw [findFrom, if_pos reached] at search
      cases deeper : (if atEnd then block.children.reverse else block.children).findSome? (findFrom atEnd offset fuel) with
      | none =>
          obtain rfl : block = found := by simpa [deeper] using search
          exact reached
      | some below =>
          obtain rfl : below = found := by simpa [deeper] using search
          obtain ⟨child, -, here⟩ := List.exists_of_findSome?_eq_some deeper
          exact ih child here

theorem find_starts (outline : Outline) (offset : Nat) (found : Block) (search : outline.find? offset = some found) :
    found.start ≤ offset := by
  have reached := find_from_reaches _ offset _ _ found search
  rw [reaches, Bool.and_eq_true] at reached
  exact of_decide_eq_true reached.1

end Block

namespace Outline

theorem under_bound (table : Table) (top id : Nat) (bound : top < table.size) (under : table.Under top id) :
    id < table.size := by
  cases under with
  | here => exact bound
  | step _ parent entry read _ _ => exact table.read_bound id entry read

section

variable (text : String) (relaxed : Bool)

theorem root_span : (Block.mk (ofText text relaxed) 0).start = 0 ∧
    (Block.mk (ofText text relaxed) 0).treeStop = text.utf8ByteSize := by
  have region := (root_spec text relaxed).2
  rw [root, Block.treeRegion, Region.mk.injEq] at region
  exact region

theorem region_within (upper lower : Nat) (bound : lower < (ofText text relaxed).size)
    (under : (ofText text relaxed).table.Under upper lower) :
    (Block.mk (ofText text relaxed) upper).start ≤ (Block.mk (ofText text relaxed) lower).start ∧
      (Block.mk (ofText text relaxed) lower).treeStop ≤ (Block.mk (ofText text relaxed) upper).treeStop := by
  have sound := of_text_sound text relaxed
  rcases Nat.eq_zero_or_pos upper with rfl | positive
  · obtain ⟨starts, stops⟩ := root_span text relaxed
    rw [starts, stops]
    refine ⟨Nat.zero_le _, ?_⟩
    rcases Nat.eq_zero_or_pos lower with rfl | below
    · exact Nat.le_of_eq stops
    · rw [← Text.byte_length_to_list]
      exact Text.boundary_le _ _ (Block.tree_stop_boundary text.toList ⟨ofText text relaxed, lower⟩ sound below bound)
  · exact Block.tree_stop_le text.toList ⟨ofText text relaxed, upper⟩ ⟨ofText text relaxed, lower⟩ rfl sound positive bound under

theorem contains_above (upper lower offset : Nat) (bound : lower < (ofText text relaxed).size)
    (under : (ofText text relaxed).table.Under upper lower)
    (covered : (Block.mk (ofText text relaxed) lower).contains offset = true) :
    (Block.mk (ofText text relaxed) upper).contains offset = true := by
  obtain ⟨starts, stops⟩ := region_within text relaxed upper lower bound under
  obtain ⟨after, before⟩ := (Block.covers_iff _ _).mp covered
  exact (Block.covers_iff _ _).mpr ⟨Nat.le_trans starts after, Nat.lt_of_lt_of_le before stops⟩

structure LowestBelow (top offset : Nat) (found : Nat) : Prop where
  below : (ofText text relaxed).table.Under top found
  bound : found < (ofText text relaxed).size
  covers : (Block.mk (ofText text relaxed) found).contains offset = true
  last : ∀ child ∈ (Block.mk (ofText text relaxed) found).children, child.contains offset = false
  above : ∀ other, (ofText text relaxed).table.Under top other →
    (Block.mk (ofText text relaxed) other).contains offset = true → (ofText text relaxed).table.Under other found

theorem covering_child_unique (parent first second : Block) (offset : Nat) (belongs : parent.outline = ofText text relaxed)
    (firstChild : first ∈ parent.children) (secondChild : second ∈ parent.children)
    (firstCovers : first.contains offset = true) (secondCovers : second.contains offset = true) : first = second := by
  have apart := List.pairwise_iff_getElem.mp (siblings_apart text relaxed parent belongs)
  obtain ⟨index, inside, rfl⟩ := List.getElem_of_mem firstChild
  obtain ⟨other, alsoInside, rfl⟩ := List.getElem_of_mem secondChild
  obtain ⟨firstAfter, firstBefore⟩ := (Block.covers_iff _ _).mp firstCovers
  obtain ⟨secondAfter, secondBefore⟩ := (Block.covers_iff _ _).mp secondCovers
  rcases Nat.lt_trichotomy index other with before | same | after
  · have order := (apart index other inside alsoInside before).2
    omega
  · subst same
    rfl
  · have order := (apart other index alsoInside inside after).2
    omega

theorem covering_child (top other offset : Nat) (bound : top < (ofText text relaxed).size) (different : top ≠ other)
    (under : (ofText text relaxed).table.Under top other)
    (covers : (Block.mk (ofText text relaxed) other).contains offset = true) :
    ∃ child ∈ (Block.mk (ofText text relaxed) top).children, child.contains offset = true ∧
      (ofText text relaxed).table.Under child.id other := by
  obtain ⟨child, entry, read, hangs, below⟩ := under_child _ top other different under
  refine ⟨⟨ofText text relaxed, child⟩, ?_, ?_, below⟩
  · exact (Block.mem_children text.toList _ _ (of_text_sound text relaxed)).mpr ⟨rfl, entry, read, hangs⟩
  · exact contains_above text relaxed child other offset (under_bound _ top other bound under) below covers

theorem find_from_lowest (offset fuel top : Nat) (bound : top < (ofText text relaxed).size)
    (enough : (ofText text relaxed).size < top + fuel)
    (covered : (Block.mk (ofText text relaxed) top).contains offset = true) :
    ∃ found, Block.findFrom false offset fuel ⟨ofText text relaxed, top⟩ = some ⟨ofText text relaxed, found⟩ ∧
      LowestBelow text relaxed top offset found := by
  have sound := of_text_sound text relaxed
  induction fuel generalizing top with
  | zero => omega
  | succ fuel ih =>
      have inside : ∀ child ∈ (Block.mk (ofText text relaxed) top).children, child.contains offset = true →
          ∃ found, Block.findFrom false offset fuel child = some ⟨ofText text relaxed, found⟩ ∧
            (ofText text relaxed).table.Under top child.id ∧ LowestBelow text relaxed child.id offset found := by
        intro child member covers
        obtain ⟨outline, id⟩ := child
        obtain ⟨rfl, entry, read, hangs⟩ := (Block.mem_children text.toList _ _ sound).mp member
        have smaller := sound_descending _ _ sound id entry top read hangs
        obtain ⟨found, search, lowest⟩ := ih id (Table.read_bound _ id entry read) (by omega) covers
        exact ⟨found, search, .step id top entry read hangs .here, lowest⟩
      rw [Block.findFrom, if_pos (by rw [Block.reaches_covered, covered])]
      simp only [Bool.false_eq_true, if_false]
      cases search : (Block.mk (ofText text relaxed) top).children.findSome? (Block.findFrom false offset fuel) with
      | none =>
          have missed : ∀ child ∈ (Block.mk (ofText text relaxed) top).children, child.contains offset = false := by
            intro child member
            apply Bool.eq_false_iff.mpr
            intro covers
            obtain ⟨found, here, _⟩ := inside child member covers
            rw [List.findSome?_eq_none_iff.mp search child member] at here
            cases here
          refine ⟨top, rfl, .here, bound, covered, missed, ?_⟩
          intro other under covers
          by_cases same : top = other
          · rw [same]
            exact .here
          · obtain ⟨child, member, above, _⟩ := covering_child text relaxed top other offset bound same under covers
            rw [missed child member] at above
            cases above
      | some result =>
          obtain ⟨child, member, here⟩ := List.exists_of_findSome?_eq_some search
          have covers := Block.find_from_reached false offset fuel child result here
          rw [Block.reaches_covered] at covers
          obtain ⟨found, there, below, lowest⟩ := inside child member covers
          refine ⟨found, by rw [← here, there, Option.getD_some], ?_⟩
          have under := Table.under_trans _ top child.id found below lowest.below
          refine ⟨under, lowest.bound, lowest.covers, lowest.last, ?_⟩
          intro other above alsoCovers
          by_cases same : top = other
          · rw [← same]
            exact under
          · obtain ⟨own, ownMember, ownCovers, between⟩ := covering_child text relaxed top other offset bound same above alsoCovers
            obtain rfl := covering_child_unique text relaxed _ own child offset rfl ownMember member ownCovers covers
            exact lowest.above other between alsoCovers

end

theorem tiles_last (start : Nat) (text : List Char) (all : List Line) (tiles : Tiles start text all) :
    ∃ before line, all = before ++ [line] ∧ line.stop = start + Text.byteLength text := by
  induction tiles with
  | last start content => exact ⟨[], _, rfl, rfl⟩
  | next start content terminator rest later following ih =>
      obtain ⟨before, line, rfl, stop⟩ := ih
      refine ⟨_ :: before, line, rfl, ?_⟩
      rw [stop, Text.byte_length_append, Text.byte_length_append]
      omega

def Line.Puts (line : Line) (entry : Entry) : Prop :=
  entry.stop = line.stop ∧ line.start ≤ entry.start

theorem opened_puts (line : Line) (indent : Nat) (body : List Char) :
    ∀ entry ∈ line.opened indent body, line.Puts entry := by
  fun_induction Line.opened line indent body with
  | case1 body indent length found => exact List.forall_mem_singleton.mpr ⟨rfl, Nat.le_add_right _ _⟩
  | case2 indent missing => exact List.forall_mem_singleton.mpr ⟨rfl, Nat.le_add_right _ _⟩
  | case3 indent rest missing ih => exact List.forall_mem_cons.mpr ⟨⟨rfl, Nat.le_add_right _ _⟩, ih⟩
  | case4 => exact List.forall_mem_nil _

theorem entries_put (line : Line) : ∀ entry ∈ line.entries, line.Puts entry :=
  line.entries_each _ ⟨rfl, Nat.le_add_right _ _⟩ ⟨rfl, Nat.le_refl _⟩ fun indent _ => opened_puts line indent line.body

theorem opened_nonempty (line : Line) (indent : Nat) (body : List Char) (block : Builder.isBlock body = true) :
    line.opened indent body ≠ [] := by
  rw [Line.opened.eq_def]
  cases found : keyLength? body with
  | some length => simp
  | none =>
      simp only [Builder.isBlock, found, Option.isSome_none, Bool.false_or] at block
      unfold itemRest? at block
      split at block
      · simp
      · simp
      · cases block

theorem entries_nonempty (line : Line) : line.entries ≠ [] := by
  unfold Line.entries
  cases line.indent with
  | none => simp
  | some indent =>
      dsimp only
      split
      · simp
      · split
        · next block => exact opened_nonempty line indent line.body block
        · simp

theorem opening_split (all : List Line) : ∃ first, opening all = first ++ (all.drop (preamble all).length).flatMap Line.entries ∧
    (all.drop (preamble all).length = [] → ∃ document, first = document :: (preamble all).map Line.rawEntry) := by
  unfold opening
  refine ⟨_, rfl, fun whole => ⟨⟨.document, none, some 0, 0, 0, 0, 0, none⟩, ?_⟩⟩
  rw [whole]
  rfl

theorem opening_last (before : List Line) (line : Line) :
    ∃ earlier entry, opening (before ++ [line]) = earlier ++ [entry] ∧ line.Puts entry := by
  obtain ⟨rest, split⟩ : preamble (before ++ [line]) <+: before ++ [line] := List.takeWhile_prefix _
  have dropped : (before ++ [line]).drop (preamble (before ++ [line])).length = rest :=
    (congrArg (List.drop _) split.symm).trans List.drop_left
  obtain ⟨first, parts, whole⟩ := opening_split (before ++ [line])
  rw [parts, dropped]
  rw [dropped] at whole
  rcases List.eq_nil_or_concat rest with rfl | ⟨middle, last, rfl⟩
  · -- Only comments and directives: each of them is a line of its own.
    obtain ⟨document, rfl⟩ := whole rfl
    rw [List.append_nil] at split
    rw [split]
    exact ⟨document :: before.map Line.rawEntry, line.rawEntry, by simp, rfl, Nat.le_add_right _ _⟩
  · obtain rfl : last = line := by
      have ends := congrArg List.getLast? split
      simpa using ends
    obtain ⟨entries, entry, own⟩ := (List.eq_nil_or_concat last.entries).resolve_left (entries_nonempty last)
    refine ⟨first ++ (middle.flatMap Line.entries ++ entries), entry, ?_, entries_put last entry (by simp [own])⟩
    rw [List.concat_eq_append, List.flatMap_append, List.flatMap_singleton, own, List.concat_eq_append]
    simp only [List.append_assoc]

def lastBlock (outline : Outline) : Block :=
  ⟨outline, outline.size - 1⟩

section

variable (text : String) (relaxed : Bool)

theorem last_block_spec : ∃ line, (lines text.toList).getLast? = some line ∧
    (ofText text relaxed).lastBlock.stop = line.stop ∧ line.start ≤ (ofText text relaxed).lastBlock.start ∧
      line.stop = text.utf8ByteSize ∧ 1 < (ofText text relaxed).size := by
  obtain ⟨before, line, all, ends⟩ := tiles_last 0 text.toList _ (lines_tile text.toList)
  obtain ⟨earlier, bare, opens, puts⟩ := opening_last before line
  have table := table_of_bare text.toList
  rw [all, opens] at table
  have size : (ofText text relaxed).size = earlier.length + 2 := by
    rw [Outline.size, show (ofText text relaxed).table = tableOf text.toList from rfl, ← bare_size, table]
    simp
  obtain ⟨entry, read, same⟩ := bare_read (tableOf text.toList) (earlier.length + 1) bare (by rw [table]; simp)
  have own : (ofText text relaxed).lastBlock.entry = entry := by
    refine Block.entry_of_read _ entry ?_
    rw [lastBlock, size]
    exact read
  rw [← same] at puts
  refine ⟨line, by rw [all, List.getLast?_concat], ?_, ?_, ?_, by omega⟩
  · rw [Block.stop, own]
    exact puts.1
  · rw [Block.start, own]
    exact puts.2
  · rw [ends, Nat.zero_add, Text.byte_length_to_list]

theorem above_last_reaches (top : Nat) (under : (ofText text relaxed).table.Under top (ofText text relaxed).lastBlock.id) :
    (Block.mk (ofText text relaxed) top).reaches text.utf8ByteSize true = true := by
  have sound := of_text_sound text relaxed
  obtain ⟨line, _, stop, _, size, several⟩ := last_block_spec text relaxed
  have bound : (ofText text relaxed).lastBlock.id < (ofText text relaxed).size := by
    simp only [lastBlock]
    omega
  have order := Table.under_le _ (sound_descending _ _ sound) top _ under
  obtain ⟨starts, stops⟩ := region_within text relaxed top _ bound under
  have within := (region_within text relaxed 0 top (Nat.lt_of_le_of_lt order bound)
    (under_root text.toList _ sound top (Nat.lt_of_le_of_lt order bound))).2
  have whole := (root_span text relaxed).2
  have positive : 0 < (ofText text relaxed).lastBlock.id := by
    simp only [lastBlock]
    omega
  have span := (sound.shaped _ _ positive ((ofText text relaxed).lastBlock.read_entry bound)).span
  change (ofText text relaxed).lastBlock.start ≤ (ofText text relaxed).lastBlock.stop at span
  have ends := Block.stop_le_tree_stop (ofText text relaxed).lastBlock
  change (Block.mk (ofText text relaxed) top).start ≤ (ofText text relaxed).lastBlock.start at starts
  change (ofText text relaxed).lastBlock.treeStop ≤ (Block.mk (ofText text relaxed) top).treeStop at stops
  simp only [Block.reaches, Bool.and_eq_true, Bool.or_eq_true, decide_eq_true_eq, beq_iff_eq]
  exact ⟨by omega, .inr ⟨trivial, by omega⟩⟩

theorem last_block_childless : (ofText text relaxed).lastBlock.children = [] := by
  have sound := of_text_sound text relaxed
  refine List.eq_nil_iff_forall_not_mem.mpr fun child member => ?_
  obtain ⟨_, entry, read, hangs⟩ := (Block.mem_children text.toList _ child sound).mp member
  have bound := Table.read_bound _ child.id entry read
  have smaller := sound_descending _ _ sound child.id entry _ read hangs
  simp only [lastBlock] at smaller
  change child.id < (ofText text relaxed).size at bound
  omega

theorem last_child_above (top : Nat) (different : top ≠ (ofText text relaxed).lastBlock.id)
    (under : (ofText text relaxed).table.Under top (ofText text relaxed).lastBlock.id) :
    ∃ child, (Block.mk (ofText text relaxed) top).lastChild? = some ⟨ofText text relaxed, child⟩ ∧ top < child ∧
      (ofText text relaxed).table.Under child (ofText text relaxed).lastBlock.id := by
  have sound := of_text_sound text relaxed
  obtain ⟨child, entry, read, hangs, below⟩ := under_child _ top _ different under
  have member := (Block.mem_children text.toList ⟨ofText text relaxed, top⟩ ⟨ofText text relaxed, child⟩ sound).mpr
    ⟨rfl, entry, read, hangs⟩
  cases found : (Block.mk (ofText text relaxed) top).lastChild? with
  | none =>
      rw [List.getLast?_eq_none_iff.mp found] at member
      cases member
  | some last =>
      obtain ⟨lastMember, greatest⟩ := Block.last_child_max _ last found
      obtain ⟨outline, id⟩ := last
      obtain ⟨rfl, lastEntry, readLast, lastHangs⟩ := (Block.mem_children text.toList _ _ sound).mp lastMember
      have smaller := sound_descending _ _ sound id lastEntry top readLast lastHangs
      have bound := Table.read_bound _ id lastEntry readLast
      change id < (ofText text relaxed).size at bound
      refine ⟨id, rfl, smaller, ?_⟩
      by_cases same : child = id
      · rw [← same]
        exact below
      · -- Nothing below an earlier child comes after a later one.
        have before : child < id := Nat.lt_of_le_of_ne (greatest _ member) same
        have separate := siblings_separate _ _ sound top child id entry lastEntry before read readLast hangs lastHangs
        have beyond := below_before _ _ sound child id _ before separate below
        simp only [lastBlock] at beyond
        omega

theorem find_from_last (fuel top : Nat) (enough : (ofText text relaxed).size < top + fuel)
    (under : (ofText text relaxed).table.Under top (ofText text relaxed).lastBlock.id) :
    Block.findFrom true text.utf8ByteSize fuel ⟨ofText text relaxed, top⟩ = some (ofText text relaxed).lastBlock := by
  induction fuel generalizing top with
  | zero =>
      have before := Table.under_le _ (sound_descending _ _ (of_text_sound text relaxed)) top _ under
      simp only [lastBlock] at before
      omega
  | succ fuel ih =>
      rw [Block.findFrom, if_pos (above_last_reaches text relaxed top under), if_pos rfl]
      dsimp only
      by_cases here : top = (ofText text relaxed).lastBlock.id
      · subst here
        have none := last_block_childless text relaxed
        change (Block.mk (ofText text relaxed) (ofText text relaxed).lastBlock.id).children = [] at none
        rw [none]
        rfl
      · obtain ⟨child, found, further, below⟩ := last_child_above text relaxed top here under
        obtain ⟨earlier, split⟩ := List.getLast?_eq_some_iff.mp found
        rw [split, List.reverse_append, List.reverse_singleton, List.singleton_append, List.findSome?_cons,
          ih child (by omega) below]
        rfl

theorem find_within (offset : Nat) (within : offset < text.utf8ByteSize) :
    ∃ found, (ofText text relaxed).find? offset = some ⟨ofText text relaxed, found⟩ ∧ LowestBelow text relaxed 0 offset found := by
  obtain ⟨_, _, _, _, _, several⟩ := last_block_spec text relaxed
  obtain ⟨starts, stops⟩ := root_span text relaxed
  have inner : (offset == (ofText text relaxed).text.utf8ByteSize) = false :=
    beq_eq_false_iff_ne.mpr (Nat.ne_of_lt within)
  rw [find?, Block.find?, show (ofText text relaxed).root.outline = ofText text relaxed from rfl, inner]
  refine find_from_lowest text relaxed offset _ 0 (by omega) (by omega) ?_
  rw [Block.covers_iff, starts, stops]
  exact ⟨Nat.zero_le _, within⟩

theorem find_at_end : (ofText text relaxed).find? text.utf8ByteSize = some (ofText text relaxed).lastBlock := by
  obtain ⟨_, _, _, _, _, several⟩ := last_block_spec text relaxed
  have final : (text.utf8ByteSize == (ofText text relaxed).text.utf8ByteSize) = true := beq_self_eq_true _
  rw [find?, Block.find?, show (ofText text relaxed).root.outline = ofText text relaxed from rfl, final]
  refine find_from_last text relaxed _ 0 (by omega) (under_root text.toList _ (of_text_sound text relaxed) _ ?_)
  change (ofText text relaxed).size - 1 < (ofText text relaxed).size
  omega

theorem find_beyond (offset : Nat) (beyond : text.utf8ByteSize < offset) : (ofText text relaxed).find? offset = none := by
  have stop : (ofText text relaxed).root.treeStop = text.utf8ByteSize := (root_span text relaxed).2
  rw [find?, Block.find?]
  refine Block.find_from_missed _ _ _ _ ?_
  simp only [Block.reaches, stop, Bool.and_eq_false_iff, Bool.or_eq_false_iff, decide_eq_false_iff_not, beq_eq_false_iff_ne]
  exact .inr ⟨by omega, .inr (by omega)⟩

end

structure IsDeepest (outline : Outline) (offset : Nat) (found : Block) : Prop where
  covers : found.contains offset = true
  last : ∀ child ∈ found.children, child.contains offset = false
  above : ∀ other ∈ outline.blocks, other.contains offset = true → other ∈ found.ancestry

structure IsLast (outline : Outline) (found : Block) : Prop where
  greatest : ∀ other ∈ outline.blocks, other.id ≤ found.id
  line : ∃ line, (lines outline.text.toList).getLast? = some line ∧ found.stop = line.stop ∧ line.start ≤ found.start

section

variable (text : String) (relaxed : Bool)

theorem lowest_deepest (offset id : Nat) (lowest : LowestBelow text relaxed 0 offset id) :
    IsDeepest (ofText text relaxed) offset ⟨ofText text relaxed, id⟩ := by
  have sound := of_text_sound text relaxed
  refine ⟨lowest.covers, lowest.last, ?_⟩
  intro other member covers
  obtain ⟨outline, place⟩ := other
  obtain ⟨rfl, bound⟩ := (mem_blocks _ _).mp member
  have under := under_root text.toList _ sound place bound
  exact (Block.mem_ancestry text.toList _ id sound _).mpr ⟨rfl, lowest.above place under covers⟩

theorem deepest_unique (offset : Nat) (first second : Block) (firstMember : first ∈ (ofText text relaxed).blocks)
    (secondMember : second ∈ (ofText text relaxed).blocks) (one : IsDeepest (ofText text relaxed) offset first)
    (other : IsDeepest (ofText text relaxed) offset second) : first = second := by
  have sound := of_text_sound text relaxed
  obtain ⟨firstOutline, firstId⟩ := first
  obtain ⟨secondOutline, secondId⟩ := second
  obtain ⟨rfl, _⟩ := (mem_blocks _ _).mp firstMember
  obtain ⟨rfl, _⟩ := (mem_blocks _ _).mp secondMember
  have order := Table.under_le _ (sound_descending _ _ sound)
  have down := order _ _ ((Block.mem_ancestry text.toList _ _ sound _).mp (other.above _ firstMember one.covers)).2
  have up := order _ _ ((Block.mem_ancestry text.toList _ _ sound _).mp (one.above _ secondMember other.covers)).2
  obtain rfl : firstId = secondId := Nat.le_antisymm down up
  rfl

theorem last_block_last : (ofText text relaxed).lastBlock ∈ (ofText text relaxed).blocks ∧
    IsLast (ofText text relaxed) (ofText text relaxed).lastBlock := by
  obtain ⟨line, all, stop, start, _, several⟩ := last_block_spec text relaxed
  refine ⟨(mem_blocks _ _).mpr ⟨rfl, ?_⟩, ?_, line, all, stop, start⟩
  · simp only [lastBlock]
    omega
  · intro other member
    have bound := ((mem_blocks _ _).mp member).2
    simp only [lastBlock]
    omega

theorem last_unique (outline : Outline) (first second : Block) (firstMember : first ∈ outline.blocks)
    (secondMember : second ∈ outline.blocks) (one : IsLast outline first) (other : IsLast outline second) :
    first = second := by
  have same := Nat.le_antisymm (other.greatest first firstMember) (one.greatest second secondMember)
  obtain ⟨firstOutline, firstId⟩ := first
  obtain ⟨secondOutline, secondId⟩ := second
  obtain ⟨rfl, _⟩ := (mem_blocks _ _).mp firstMember
  obtain ⟨rfl, _⟩ := (mem_blocks _ _).mp secondMember
  obtain rfl : firstId = secondId := same
  rfl

end

theorem find_deepest (text : String) (relaxed : Bool) (offset : Nat) (found : Block) :
    (((ofText text relaxed).find? offset).isSome = true ↔ offset ≤ text.utf8ByteSize) ∧
      ((ofText text relaxed).find? offset = some found ↔ found ∈ (ofText text relaxed).blocks ∧
        (offset < text.utf8ByteSize ∧ IsDeepest (ofText text relaxed) offset found ∨
          offset = text.utf8ByteSize ∧ IsLast (ofText text relaxed) found)) := by
  rcases Nat.lt_trichotomy offset text.utf8ByteSize with within | atEnd | beyond
  · obtain ⟨id, search, lowest⟩ := find_within text relaxed offset within
    have member : Block.mk (ofText text relaxed) id ∈ (ofText text relaxed).blocks :=
      (mem_blocks _ _).mpr ⟨rfl, lowest.bound⟩
    have deepest := lowest_deepest text relaxed offset id lowest
    rw [search]
    refine ⟨by simp [Nat.le_of_lt within], ?_⟩
    constructor
    · intro same
      obtain rfl := Option.some.inj same
      exact ⟨member, .inl ⟨within, deepest⟩⟩
    · rintro ⟨alsoMember, ⟨_, alsoDeepest⟩ | ⟨atEnd, _⟩⟩
      · exact congrArg some (deepest_unique text relaxed offset _ _ member alsoMember deepest alsoDeepest)
      · omega
  · obtain ⟨member, last⟩ := last_block_last text relaxed
    rw [atEnd, find_at_end]
    refine ⟨by simp, ?_⟩
    constructor
    · intro same
      obtain rfl := Option.some.inj same
      exact ⟨member, .inr ⟨rfl, last⟩⟩
    · rintro ⟨alsoMember, ⟨within, _⟩ | ⟨_, alsoLast⟩⟩
      · omega
      · exact congrArg some (last_unique _ _ _ member alsoMember last alsoLast)
  · rw [find_beyond text relaxed offset beyond]
    refine ⟨by simpa using beyond, ?_⟩
    constructor
    · intro same
      cases same
    · rintro ⟨_, ⟨within, _⟩ | ⟨atEnd, _⟩⟩ <;> omega

end Outline
end YamlDialects
