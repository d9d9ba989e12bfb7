import YamlDialects.Proofs.Outline.Order
import YamlDialects.Proofs.Outline.SameTree
import YamlDialects.Proofs.Text.Offset
import YamlDialects.Yaml.Recovery

set_option autoImplicit false

namespace YamlDialects.Yaml

open Outline

structure Suspect (outline : Outline) (block : Block) : Prop where
  belongs : block.outline = outline
  kind : block.kind.isStep = true ∨ block.kind = .document

theorem step_block_suspect (block found : Block) (result : stepBlock? block = some found) :
    Suspect block.outline found := by
  have member := (List.takeWhile_prefix _).subset (List.mem_of_find?_eq_some result)
  have isStep := List.find?_some result
  exact ⟨block.ancestry_outline found (List.mem_reverse.mp member), .inl isStep⟩

theorem step_ancestors_suspect (block found : Block) (member : found ∈ stepAncestors block) :
    Suspect block.outline found := by
  obtain ⟨above, isStep⟩ := List.mem_filter.mp member
  exact ⟨block.ancestry_outline found (List.mem_reverse.mp (List.mem_of_mem_tail above)), .inl isStep⟩

theorem document_suspect (block found : Block) (result : block.document? = some found) : Suspect block.outline found :=
  ⟨block.ancestry_outline found (List.mem_of_find?_eq_some result), .inr (by simpa using List.find?_some result)⟩

theorem mem_distinct_blocks (blocks : List Block) (block : Block) (member : block ∈ distinctBlocks blocks) :
    block ∈ blocks := by
  have general : ∀ rest found : List Block, block ∈ rest.foldl (fun found block =>
      if found.any (·.id == block.id) then found else found ++ [block]) found → block ∈ found ∨ block ∈ rest := by
    intro rest
    induction rest with
    | nil => exact fun found inside => .inl inside
    | cons first rest ih =>
        intro found inside
        rw [List.foldl_cons] at inside
        rcases ih _ inside with kept | later
        · by_cases known : found.any (·.id == first.id) = true
          · rw [if_pos known] at kept
            exact .inl kept
          · rw [if_neg known] at kept
            simp only [List.mem_append, List.mem_cons, List.not_mem_nil, or_false] at kept
            rcases kept with old | rfl
            · exact .inl old
            · exact .inr (by simp)
        · exact .inr (by simp [later])
  simpa using general blocks [] member

theorem suspects_spec (outline : Outline) (working : List Char) (failure : Failure) (block : Block)
    (member : block ∈ suspects outline working failure) : Suspect outline block := by
  have listed := mem_distinct_blocks _ block member
  have steps : ∀ place : Option Block, (∀ found, place = some found → found.outline = outline) →
      ∀ found, place.bind stepBlock? = some found → Suspect outline found := by
    intro place belongs found result
    obtain ⟨inner, placed, step⟩ := Option.bind_eq_some_iff.mp result
    rw [← belongs inner placed]
    exact step_block_suspect inner found step
  have above : ∀ place : Option Block, (∀ found, place = some found → Suspect outline found) →
      block ∈ (place.map stepAncestors).getD [] → Suspect outline block := by
    intro place belongs inside
    cases place with
    | none => simp at inside
    | some inner =>
        rw [← (belongs inner rfl).belongs]
        exact step_ancestors_suspect inner block inside
  have here : ∀ found, ((outline.find? failure.offset).orElse fun _ => outline.find? (Text.byteLength working)) = some found →
      found.outline = outline := by
    intro found result
    cases first : outline.find? failure.offset with
    | some inner =>
        rw [first] at result
        exact Block.find_outline outline _ found (first.trans result)
    | none =>
        rw [first] at result
        exact Block.find_outline outline _ found result
  have opened : ∀ found, failure.openStart.bind outline.find? = some found → found.outline = outline := by
    intro found result
    obtain ⟨offset, _, inside⟩ := Option.bind_eq_some_iff.mp result
    exact Block.find_outline outline offset found inside
  simp only [List.mem_append, Option.mem_toList] at listed
  rcases listed with ((((hereStep | before) | openStep) | openAbove) | hereAbove) | document
  · exact steps _ here block hereStep
  · split at before
    · simp at before
    · exact steps _ (Block.find_outline outline _) block before
  · exact steps _ opened block openStep
  · exact above _ (steps _ opened) openAbove
  · exact above _ (steps _ here) hereAbove
  · obtain ⟨inner, placed, inside⟩ := Option.bind_eq_some_iff.mp document
    rw [← here inner placed]
    exact document_suspect inner block inside

theorem blank_region_spec (chars : List Char) (block : Block) (sound : Sound chars block.outline.table)
    (suspect : Suspect block.outline block) :
    0 < block.id ∧ block.id < block.outline.size ∧ block.start ≤ (blankRegion block).start ∧
      (blankRegion block).start ≤ (blankRegion block).stop ∧ (blankRegion block).stop = block.treeStop ∧
      Text.IsBoundary chars (blankRegion block).start ∧ Text.IsBoundary chars (blankRegion block).stop := by
  have notRoot : block.kind ≠ .root := by
    rcases suspect.kind with isStep | isDocument
    · exact step_not_root block.entry isStep
    · simp [isDocument]
  have bound := block.bound_of_kind notRoot
  have positive := block.positive_of_kind chars sound notRoot
  have shaped := sound.shaped block.id block.entry positive (block.read_entry bound)
  have span : block.start ≤ block.stop := shaped.span
  have below : block.stop ≤ block.treeStop := by
    rw [Block.treeStop, if_neg notRoot]
    exact Nat.le_max_right _ _
  have ends := block.tree_stop_boundary chars sound positive bound
  by_cases isDocument : block.kind = .document
  · have region : blankRegion block = ⟨block.stop, block.treeStop⟩ := by
      rw [blankRegion, isDocument]
      simp [Nat.min_eq_left below]
    rw [region]
    exact ⟨positive, bound, span, below, rfl, shaped.stopBoundary, ends⟩
  · have region : blankRegion block = block.treeRegion := by
      rw [blankRegion]
      split
      · next isKind => exact absurd isKind isDocument
      · rfl
    rw [region]
    exact ⟨positive, bound, Nat.le_refl _, Nat.le_trans span below, rfl, shaped.startBoundary, ends⟩

theorem blank_region_encloses (chars : List Char) (upper lower : Block) (sound : Sound chars upper.outline.table)
    (upperSuspect : Suspect upper.outline upper) (lowerSuspect : Suspect upper.outline lower)
    (under : upper.outline.table.Under upper.id lower.id) (different : upper.id ≠ lower.id) :
    (blankRegion upper).encloses (blankRegion lower) = true := by
  have same := lowerSuspect.belongs
  obtain ⟨positive, upperBound, _, _, upperStop, _⟩ := blank_region_spec chars upper sound upperSuspect
  obtain ⟨_, lowerBound, lowerStart, _, lowerStop, _⟩ :=
    blank_region_spec chars lower (same ▸ sound) (same ▸ lowerSuspect)
  rw [same] at lowerBound
  obtain ⟨starts, ends⟩ := Block.tree_stop_le chars upper lower same sound positive lowerBound under
  rw [Region.encloses_iff, upperStop, lowerStop]
  refine ⟨?_, ends⟩
  have readLower := lower.read_entry (by rw [same]; exact lowerBound)
  rw [same] at readLower
  have order := upper.outline.table.under_le (sound_descending chars _ sound) upper.id lower.id under
  -- Only an item may hold blocks that start on its own line, and of an item everything is blanked.
  rcases (entries_in_order chars _ sound upper.id lower.id upper.entry lower.entry positive (by omega)
    (upper.read_entry upperBound) readLower).2.2 with apart | ⟨isItem, _⟩
  · have separate : upper.stop ≤ lower.start := apart
    have start : (blankRegion upper).start ≤ max upper.start upper.stop := by
      rw [blankRegion]
      split
      · exact Nat.le_trans (Nat.min_le_left _ _) (Nat.le_max_right _ _)
      · exact Nat.le_max_left _ _
    omega
  · have region : blankRegion upper = upper.treeRegion := by
      rw [blankRegion, Block.kind, isItem]
    rw [region]
    exact Nat.le_trans starts lowerStart

theorem blank_regions_laminar (chars : List Char) (outline : Outline) (first second : Block)
    (sound : Sound chars outline.table) (firstSuspect : Suspect outline first) (secondSuspect : Suspect outline second) :
    (blankRegion first).encloses (blankRegion second) = true ∨ (blankRegion second).encloses (blankRegion first) = true ∨
      (blankRegion first).overlaps (blankRegion second) = false := by
  obtain ⟨other, firstId⟩ := first
  obtain rfl : other = outline := firstSuspect.belongs
  obtain ⟨outline, secondId⟩ := second
  obtain rfl : outline = other := secondSuspect.belongs
  obtain ⟨firstPositive, firstBound, firstStart, _, firstStop, _⟩ :=
    blank_region_spec chars ⟨outline, firstId⟩ sound firstSuspect
  obtain ⟨secondPositive, secondBound, secondStart, _, secondStop, _⟩ :=
    blank_region_spec chars ⟨outline, secondId⟩ sound secondSuspect
  by_cases same : firstId = secondId
  · subst same
    exact .inl ((Region.encloses_iff _ _).mpr ⟨Nat.le_refl _, Nat.le_refl _⟩)
  · by_cases below : outline.table.Under firstId secondId
    · exact .inl (blank_region_encloses chars ⟨outline, firstId⟩ _ sound firstSuspect secondSuspect below same)
    · by_cases above : outline.table.Under secondId firstId
      · exact .inr (.inl (blank_region_encloses chars ⟨outline, secondId⟩ _ sound secondSuspect firstSuspect above
          (Ne.symm same)))
      · refine .inr (.inr ((Region.apart_iff _ _).mpr ?_))
        rcases Nat.lt_or_gt_of_ne same with order | order
        · have ends := Block.tree_stop_le_start chars ⟨outline, firstId⟩ ⟨outline, secondId⟩ rfl sound firstPositive
            order secondBound below
          exact .inl (by omega)
        · have ends := Block.tree_stop_le_start chars ⟨outline, secondId⟩ ⟨outline, firstId⟩ rfl sound secondPositive
            order firstBound above
          exact .inr (by omega)

end YamlDialects.Yaml
