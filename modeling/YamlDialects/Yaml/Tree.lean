import YamlDialects.Yaml.Recovery

set_option autoImplicit false

namespace YamlDialects.Yaml

structure Tree where
  documents : List Node
  errors : List SyntaxError
  damage : List Damage
  outline : Outline
deriving Inhabited

namespace Tree

def parseWith (read : TextReader) (text : String) (outline : Outline) : Tree :=
  let chars := text.toList
  let recovery := Recovery.run read outline chars
  let documents := (recovery.events.map (composeDocuments ⟨recovery.working, chars⟩)).getD []
  let damage := recovery.damage.mergeSort fun first second => !second.region.before first.region
  ⟨documents, recovery.errors, damage, outline⟩

def parseBy (read : TextReader) (text : String) (relaxedNames : Bool := false) : Tree :=
  parseWith read text (Outline.ofText text relaxedNames)

def parse (text : String) (relaxedNames : Bool := false) : Tree :=
  parseBy readText text relaxedNames

def isDamaged (tree : Tree) (offset : Nat) : Bool :=
  tree.damage.any (·.region.contains offset)

def findPath (tree : Tree) (offset : Nat) : List Node :=
  match tree.documents.find? (·.contains offset) with
  | some root => root.descend offset
  | none => []

def find? (tree : Tree) (offset : Nat) : Option Node :=
  (tree.findPath offset).getLast?

/-- The path of the deepest node at an offset, the number of its document first. On a mapping key it
ends with the key. -/
def pathAt? (tree : Tree) (offset : Nat) : Option (Path × Node) :=
  match tree.documents.findIdx? (·.contains offset) with
  | none => none
  | some position =>
      tree.documents[position]?.map fun root =>
        let (path, node) := root.locate offset
        (.index position :: path, node)

end Tree

inductive Place where
  | file (tree : Tree)
  | node (found : Node)

namespace Place

def node? : Place → Option Node
  | .file _ => none
  | .node found => some found

def step (segment : Segment) : Place → List Place
  | .file tree =>
      match segment with
      | .index position => (tree.documents[position]?.map Place.node).toList
      | _ => []
  | .node found => (found.step segment).map .node

def height : Place → Nat
  | .file tree => 1 + Node.itemsHeight tree.documents
  | .node found => found.height

theorem height_step_lt (segment : Segment) (place next : Place) (member : next ∈ step segment place) :
    height next < height place := by
  cases place with
  | file tree =>
      cases segment with
      | index position =>
          obtain ⟨root, found, rfl⟩ := Option.map_eq_some_iff.1 (Option.mem_toList.1 member)
          have bound := Node.height_le_itemsHeight (List.mem_of_getElem? found)
          simp only [height]
          omega
      | _ => simp [step] at member
  | node found =>
      obtain ⟨below, inside, rfl⟩ := List.mem_map.1 member
      exact Node.height_step_lt segment found below inside

instance : Grounded Place where
  step := step
  height := height
  height_step := height_step_lt

end Place
end YamlDialects.Yaml
