import YamlDialects.Path.Traversal
import YamlDialects.Text.Blank
import YamlDialects.Text.Offset

set_option autoImplicit false

namespace YamlDialects.Yaml

inductive Node where
  | scalar (text : String) (region : Region)
  | mapping (entries : List (Node × Node)) (region : Region)
  | sequence (items : List Node) (region : Region)
deriving Inhabited

namespace Node

def region : Node → Region
  | .scalar _ region => region
  | .mapping _ region => region
  | .sequence _ region => region

def contains (node : Node) (offset : Nat) : Bool :=
  node.region.contains offset

def scalar? : Node → Option String
  | .scalar text _ => some text
  | _ => none

def isScalar (node : Node) : Bool :=
  node.scalar?.isSome

/-- A scalar that is missing or consists of white space. -/
def isEmptyScalar (node : Node) : Bool :=
  node.scalar?.any fun text => text.toList.all Text.isBlank

def entries : Node → List (Node × Node)
  | .mapping entries _ => entries
  | _ => []

def items : Node → List Node
  | .sequence items _ => items
  | _ => []

def isMapping : Node → Bool
  | .mapping _ _ => true
  | _ => false

def isSequence : Node → Bool
  | .sequence _ _ => true
  | _ => false

def entriesWithKey (node : Node) (key : String) : List (Node × Node) :=
  node.entries.filter fun entry => entry.1.scalar? == some key

def value? (node : Node) (key : String) : Option Node :=
  (node.entriesWithKey key).head?.map (·.2)

def keyNames (node : Node) : List String :=
  node.entries.filterMap fun entry => entry.1.scalar?

def kindName : Node → String
  | .scalar _ _ => "scalar"
  | .mapping _ _ => "mapping"
  | .sequence _ _ => "sequence"

def children : Node → List Node
  | .scalar _ _ => []
  | .mapping entries _ => entries.flatMap fun entry => [entry.1, entry.2]
  | .sequence items _ => items

def child? (node : Node) (offset : Nat) : Option Node :=
  node.children.find? (·.contains offset)

mutual

def descend (offset : Nat) (node : Node) : List Node :=
  match node with
  | .scalar text region => [.scalar text region]
  | .mapping entries region => .mapping entries region :: descendEntries offset entries
  | .sequence items region => .sequence items region :: descendItems offset items

def descendEntries (offset : Nat) : List (Node × Node) → List Node
  | [] => []
  | (key, value) :: rest =>
      if key.contains offset then descend offset key
      else if value.contains offset then descend offset value
      else descendEntries offset rest

def descendItems (offset : Nat) : List Node → List Node
  | [] => []
  | item :: rest => if item.contains offset then descend offset item else descendItems offset rest

end

mutual

/-- The path from this node to the deepest one at the offset. It ends at a mapping key as soon as it
meets one, whatever the key consists of. -/
def locate (offset : Nat) (node : Node) : Path × Node :=
  match node with
  | .scalar text region => ([], .scalar text region)
  | .mapping entries region => (locateEntry offset entries).getD ([], .mapping entries region)
  | .sequence items region => (locateItem offset 0 items).getD ([], .sequence items region)

def locateEntry (offset : Nat) : List (Node × Node) → Option (Path × Node)
  | [] => none
  | (key, value) :: rest =>
      let name := key.scalar?.getD ""
      if key.contains offset then some ([.key name], key)
      else if value.contains offset then
        let (path, found) := locate offset value
        some (.value name :: path, found)
      else locateEntry offset rest

def locateItem (offset position : Nat) : List Node → Option (Path × Node)
  | [] => none
  | item :: rest =>
      if item.contains offset then
        let (path, found) := locate offset item
        some (.index position :: path, found)
      else locateItem offset (position + 1) rest

end

def step (segment : Segment) (node : Node) : List Node :=
  match segment with
  | .value key => (node.entriesWithKey key).map (·.2)
  | .key key => (node.entriesWithKey key).map (·.1)
  | .index position => node.items[position]?.toList
  | .anyChild => node.entries.map (·.2) ++ node.items

mutual

def height : Node → Nat
  | .scalar _ _ => 1
  | .mapping entries _ => 1 + entriesHeight entries
  | .sequence items _ => 1 + itemsHeight items

def entriesHeight : List (Node × Node) → Nat
  | [] => 0
  | (key, value) :: rest => height key + height value + entriesHeight rest

def itemsHeight : List Node → Nat
  | [] => 0
  | item :: rest => height item + itemsHeight rest

end

theorem height_le_itemsHeight {items : List Node} {item : Node} (member : item ∈ items) :
    height item ≤ itemsHeight items := by
  induction items with
  | nil => simp at member
  | cons first rest ih =>
      rcases List.mem_cons.1 member with same | later
      · simp [itemsHeight, same]
      · have bound := ih later
        simp only [itemsHeight]
        omega

theorem height_le_entriesHeight {entries : List (Node × Node)} {entry : Node × Node}
    (member : entry ∈ entries) : height entry.1 + height entry.2 ≤ entriesHeight entries := by
  induction entries with
  | nil => simp at member
  | cons first rest ih =>
      rcases List.mem_cons.1 member with same | later
      · subst same
        simp [entriesHeight]
      · have bound := ih later
        simp only [entriesHeight]
        omega

theorem height_entry_lt {node : Node} {entry : Node × Node} (member : entry ∈ node.entries) :
    height entry.1 < height node ∧ height entry.2 < height node := by
  cases node with
  | mapping all region =>
      have bound : height entry.1 + height entry.2 ≤ entriesHeight all := height_le_entriesHeight member
      simp only [height]
      constructor <;> omega
  | _ => simp [entries] at member

theorem height_item_lt {node item : Node} (member : item ∈ node.items) : height item < height node := by
  cases node with
  | sequence all region =>
      have bound : height item ≤ itemsHeight all := height_le_itemsHeight member
      simp only [height]
      omega
  | _ => simp [items] at member

theorem height_step_lt (segment : Segment) (node next : Node) (member : next ∈ step segment node) :
    height next < height node := by
  unfold step at member
  cases segment with
  | value key =>
      obtain ⟨entry, found, rfl⟩ := List.mem_map.1 member
      exact (height_entry_lt (List.mem_filter.1 found).1).2
  | key key =>
      obtain ⟨entry, found, rfl⟩ := List.mem_map.1 member
      exact (height_entry_lt (List.mem_filter.1 found).1).1
  | index position =>
      exact height_item_lt (List.mem_of_getElem? (Option.mem_toList.1 member))
  | anyChild =>
      rcases List.mem_append.1 member with inside | inside
      · obtain ⟨entry, found, rfl⟩ := List.mem_map.1 inside
        exact (height_entry_lt found).2
      · exact height_item_lt inside

end Node
end YamlDialects.Yaml
