import YamlDialects.Outline.Block

set_option autoImplicit false

namespace YamlDialects

def Outline.SameTree (first second : Outline) : Prop :=
  ∀ id : Nat, (second.table[id]?).map Entry.parent = (first.table[id]?).map Entry.parent

theorem Outline.same_tree_size (first second : Outline) (same : first.SameTree second) : second.size = first.size := by
  have ends : ∀ id : Nat, second.table.size ≤ id ↔ first.table.size ≤ id := by
    intro id
    rw [← Array.getElem?_eq_none_iff, ← Array.getElem?_eq_none_iff, ← Option.map_eq_none_iff (f := Entry.parent), same id,
      Option.map_eq_none_iff]
  exact Nat.le_antisymm ((ends _).mpr (Nat.le_refl _)) ((ends _).mp (Nat.le_refl _))

namespace Block

theorem parent_outline (block parent : Block) (hangs : block.parent? = some parent) : parent.outline = block.outline := by
  obtain ⟨id, _, rfl⟩ := Option.map_eq_some_iff.mp hangs
  rfl

theorem climb_outline (fuel : Nat) (block : Block) (below : List Block)
    (same : ∀ other ∈ below, other.outline = block.outline) :
    ∀ other ∈ ancestry.climb fuel block below, other.outline = block.outline := by
  induction fuel generalizing block below with
  | zero => simpa [ancestry.climb] using same
  | succ fuel ih =>
      cases hangs : block.parent? with
      | none => simpa [ancestry.climb, hangs] using same
      | some parent =>
          have outlines := parent_outline block parent hangs
          simp only [ancestry.climb, hangs]
          rw [← outlines]
          refine ih parent (block :: below) ?_
          rw [outlines]
          simpa using same

theorem ancestry_outline (block other : Block) (member : other ∈ block.ancestry) : other.outline = block.outline :=
  climb_outline block.outline.size block [] (by simp) other member

theorem children_outline (block child : Block) (member : child ∈ block.children) : child.outline = block.outline := by
  obtain ⟨id, _, rfl⟩ := List.mem_map.mp member
  rfl

theorem find_from_outline (atEnd : Bool) (offset fuel : Nat) (block found : Block)
    (result : findFrom atEnd offset fuel block = some found) : found.outline = block.outline := by
  induction fuel generalizing block found with
  | zero => simp [findFrom] at result
  | succ fuel ih =>
      rw [findFrom] at result
      by_cases reached : block.reaches offset atEnd = true
      · rw [if_pos reached] at result
        generalize listed : (if atEnd = true then block.children.reverse else block.children) = candidates at result
        have members : ∀ child ∈ candidates, child ∈ block.children := by
          intro child member
          rw [← listed] at member
          cases atEnd <;> simpa using member
        dsimp only at result
        cases deeper : candidates.findSome? (findFrom atEnd offset fuel) with
        | none =>
            rw [deeper] at result
            rw [← Option.some.inj result]
            rfl
        | some inner =>
            rw [deeper] at result
            obtain ⟨child, member, below⟩ := List.exists_of_findSome?_eq_some deeper
            rw [← Option.some.inj result]
            exact (ih child inner below).trans (children_outline block child (members child member))
      · rw [if_neg reached] at result
        simp at result

theorem find_outline (outline : Outline) (offset : Nat) (found : Block) (result : outline.find? offset = some found) :
    found.outline = outline :=
  outline.root.find_from_outline _ offset _ found result

theorem last_descendant_outline (fuel : Nat) (block : Block) : (block.lastDescendant fuel).outline = block.outline := by
  induction fuel generalizing block with
  | zero => rfl
  | succ fuel ih =>
      rw [lastDescendant]
      cases found : block.lastChild? with
      | none => rfl
      | some child => exact (ih child).trans (children_outline block child (List.mem_of_getLast? found))

def onto (other : Outline) (block : Block) : Block :=
  ⟨other, block.id⟩

variable (other : Outline) (block : Block) (same : block.outline.SameTree other)

include same

theorem onto_children : (block.onto other).children = block.children.map (onto other) := by
  have isChild : ∀ id : Nat, ((other.table[id]?).any fun entry => entry.parent == some block.id) =
      (block.outline.table[id]?).any fun entry => entry.parent == some block.id := by
    intro id
    have here := congrArg (Option.any fun parent => parent == some block.id) (same id)
    rwa [Option.any_map, Option.any_map] at here
  simp only [children, List.map_map]
  rw [show (block.onto other).outline.size = block.outline.size from block.outline.same_tree_size other same]
  exact congrArg (List.map _) (List.filter_congr fun id _ => isChild id)

theorem onto_parent : (block.onto other).parent? = block.parent?.map (onto other) := by
  have parent : (block.onto other).entry.parent = block.entry.parent := by
    have here := congrArg (Option.getD · none) (same block.id)
    rw [entry, entry]
    change ((other.table[block.id]?).getD _).parent = _
    cases read : other.table[block.id]? <;> cases further : block.outline.table[block.id]? <;> simp_all [Outline.Table.rootOf]
  rw [parent?, parent, parent?, Option.map_map]
  rfl

theorem onto_last_descendant (fuel : Nat) :
    (block.onto other).lastDescendant fuel = (block.lastDescendant fuel).onto other := by
  induction fuel generalizing block with
  | zero => rfl
  | succ fuel ih =>
      rw [lastDescendant, lastDescendant, lastChild?, lastChild?, onto_children other block same, List.getLast?_map]
      cases found : block.children.getLast? with
      | none => rfl
      | some child =>
          obtain ⟨id, -, rfl⟩ := List.mem_map.mp (List.mem_of_getLast? found)
          exact ih (block.withId id) same

theorem onto_climb (fuel : Nat) (below : List Block) :
    ancestry.climb fuel (block.onto other) (below.map (onto other)) =
      (ancestry.climb fuel block below).map (onto other) := by
  induction fuel generalizing block below with
  | zero => rfl
  | succ fuel ih =>
      rw [ancestry.climb, ancestry.climb, onto_parent other block same]
      cases hangs : block.parent? with
      | none => rfl
      | some parent =>
          obtain ⟨id, -, rfl⟩ := Option.map_eq_some_iff.mp hangs
          exact ih (block.withId id) same (block :: below)

theorem onto_ancestry : (block.onto other).ancestry = block.ancestry.map (onto other) := by
  rw [ancestry, ancestry]
  rw [show (block.onto other).outline.size = block.outline.size from block.outline.same_tree_size other same]
  exact onto_climb other block same block.outline.size []

end Block
end YamlDialects
