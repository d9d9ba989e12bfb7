import YamlDialects.Assist.Hover
import YamlDialects.Proofs.Outline.Deepest
import YamlDialects.Proofs.Outline.Navigation
import YamlDialects.Proofs.Outline.SameTree
import YamlDialects.Proofs.Yaml.Lookup

/-!
Where a hover points. What is found in the syntax tree contains the offset. Inside damaged blocks a hover points at a
key or at the line of a block, and these do not always contain the offset: a block also has the lines below its own,
and a colon counts as part of its key.
-/

set_option autoImplicit false

namespace YamlDialects

theorem Yaml.Tree.path_at_contains (tree : Tree) (offset : Nat) (path : Path) (node : Node)
    (located : tree.pathAt? offset = some (path, node)) : node.contains offset = true := by
  rcases tree.lookup_cases offset with ⟨-, nowhere⟩ | ⟨position, root, nodes, route, found, -, inside, descent, -, there⟩
  · rw [nowhere] at located
    cases located
  · obtain ⟨-, rfl⟩ := Prod.mk.inj (Option.some.inj (there.symm.trans located))
    have passed := List.mem_of_getElem? (Node.descent_place offset root found nodes route descent)
    exact Node.descent_contains offset root found nodes route descent inside found passed

namespace Block

section

variable (text : String) (relaxedNames : Bool) (block : Block) (listed : block ∈ (Outline.ofText text relaxedNames).blocks)
include listed

theorem colon_before_stop (colon : Nat) (placed : block.colon? = some colon) : colon < block.stop := by
  have isKey := block.kind_of_colon text relaxedNames listed colon placed
  obtain ⟨place, _, stands, inside, -⟩ := Outline.key_found text relaxedNames block listed isKey
  obtain rfl := Option.some.inj (stands.symm.trans placed)
  exact ((Region.contains_iff _ _).mp inside).2

theorem key_region_contains_iff (offset : Nat) (region : Region) (inKey : block.isInKey offset = true)
    (shown : block.keyRegion? = some region) :
    region.contains offset = true ↔ offset < block.stop ∧ block.colon? ≠ some offset := by
  obtain ⟨colon, placed, rfl⟩ := Option.map_eq_some_iff.mp shown
  have before := block.colon_before_stop text relaxedNames listed colon placed
  simp only [isInKey, placed, Option.any_some, Bool.and_eq_true, decide_eq_true_eq] at inKey
  simp only [Region.contains_iff, placed, Ne, Option.some.injEq]
  omega

end

theorem region_contains_iff (block : Block) (offset : Nat) (after : block.start ≤ offset)
    (outside : ¬ block.isInKey offset = true) :
    block.region.contains offset = true ↔ offset < block.stop ∧ block.colon? ≠ some offset := by
  have notColon : block.colon? ≠ some offset := by
    intro placed
    exact outside (by simp [isInKey, placed, after])
  rw [Region.contains_iff]
  exact ⟨fun within => ⟨within.2, notColon⟩, fun within => ⟨after, within.1⟩⟩

end Block

namespace Hover

theorem of_region (documents : List Markdown) (region : Region) (hover : Hover)
    (shown : of? documents region = some hover) : hover.region = region := by
  unfold of? at shown
  split at shown
  next => cases shown
  next =>
    obtain rfl := Option.some.inj shown
    rfl

theorem in_tree_contains (schema : Schema) (root : TypeId) (tree : Yaml.Tree) (offset : Nat) (hover : Hover)
    (shown : inTree? schema root tree offset = some hover) : hover.region.contains offset = true := by
  obtain ⟨⟨path, node⟩, located, rest⟩ := Option.bind_eq_some_iff.mp shown
  rw [of_region _ _ hover rest]
  exact tree.path_at_contains offset path node located

theorem in_outline_contains_iff (schema : Schema) (root : TypeId) (text : String) (relaxedNames : Bool) (offset : Nat)
    (hover : Hover) (shown : inOutline? schema root (Outline.ofText text relaxedNames) offset = some hover) :
    ∃ block, (Outline.ofText text relaxedNames).find? offset = some block ∧
      (hover.region.contains offset = true ↔ offset < block.stop ∧ block.colon? ≠ some offset) := by
  obtain ⟨block, found, rest⟩ := Option.bind_eq_some_iff.mp shown
  refine ⟨block, found, ?_⟩
  have belongs : block.outline = Outline.ofText text relaxedNames := Block.find_from_outline _ _ _ _ _ found
  have after := Block.find_starts _ offset block found
  dsimp only at rest
  split at rest
  next => cases rest
  next isStep =>
    have notRoot : block.kind ≠ .root := by
      intro isRoot
      simp [isRoot] at isStep
    have listed : block ∈ (Outline.ofText text relaxedNames).blocks :=
      (Outline.mem_blocks _ _).mpr ⟨belongs, belongs ▸ block.bound_of_kind notRoot⟩
    by_cases inKey : block.isInKey offset = true
    · rw [if_pos inKey] at rest
      obtain ⟨key, -, more⟩ := Option.bind_eq_some_iff.mp rest
      obtain ⟨region, marked, shown⟩ := Option.bind_eq_some_iff.mp more
      rw [of_region _ _ hover shown]
      exact block.key_region_contains_iff text relaxedNames listed offset region inKey marked
    · rw [if_neg inKey] at rest
      rw [of_region _ _ hover rest]
      exact block.region_contains_iff offset after inKey

theorem region_contains_iff_on_line (read : Yaml.TextReader) (schema : Schema) (root : TypeId) (text : String)
    (offset : Nat) (hover : Hover) (shown : find? schema root text offset read = some hover) :
    hover.region.contains offset = true ↔ ((Yaml.Tree.parseBy read text schema.options.relaxedNames).isDamaged offset = true →
      ∀ block, (Outline.ofText text schema.options.relaxedNames).find? offset = some block →
        offset < block.stop ∧ block.colon? ≠ some offset) := by
  unfold find? at shown
  dsimp only at shown
  split at shown
  next damaged =>
    obtain ⟨block, found, iff⟩ := in_outline_contains_iff schema root text _ offset hover shown
    rw [iff]
    constructor
    · intro inside _ other foundOther
      obtain rfl : block = other := Option.some.inj (found.symm.trans foundOther)
      exact inside
    · intro holds
      exact holds damaged block found
  next intact =>
    exact iff_of_true (in_tree_contains schema root _ offset hover shown) fun damaged => absurd damaged intact

def letterSchema : Schema :=
  { graph := { types := #[⟨"string", .atomic, [], none, none, []⟩,
      ⟨"Root", .bean [{ name := "a", type := 0 }], [], none, none, []⟩] } }

def openedText : String :=
  "a: [
  b: 1
"

-- On the key of a damaged block a hover points at the key.
theorem region_contains_iff_opened : ∃ hover, find? letterSchema 1 openedText 0 = some hover ∧
    (Yaml.Tree.parse openedText).isDamaged 0 = true ∧ hover.region.contains 0 = true := by
  have damaged : (Yaml.Tree.parse openedText).isDamaged 0 = true := by decide +kernel
  have found : (Outline.ofText openedText).find? 0 = some ⟨Outline.ofText openedText, 2⟩ := by rfl
  have shown : (find? letterSchema 1 openedText 0).isSome = true := by decide +kernel
  obtain ⟨hover, shown⟩ := Option.isSome_iff_exists.mp shown
  refine ⟨hover, shown, damaged, (region_contains_iff_on_line Yaml.readText letterSchema 1 openedText 0 hover shown).mpr ?_⟩
  rintro - block foundOther
  obtain rfl := Option.some.inj (found.symm.trans foundOther)
  decide +kernel

-- At the colon the region of the key, which ends there, and on the line below the line of the key.
theorem region_misses_offset :
    ((find? letterSchema 1 openedText 1).map fun hover => (hover.region, hover.region.contains 1)) = some (⟨0, 1⟩, false) ∧
      ((find? letterSchema 1 openedText 6).map fun hover => (hover.region, hover.region.contains 6)) =
        some (⟨0, 5⟩, false) := by
  decide +kernel

end Hover
end YamlDialects
