import YamlDialects.Names
import YamlDialects.Outline.Basic
import YamlDialects.Path.Traversal
import YamlDialects.Text.Offset
import YamlDialects.Text.Printable

set_option autoImplicit false

namespace YamlDialects

structure Block where
  outline : Outline
  id : Nat
deriving Inhabited

namespace Outline

def root (outline : Outline) : Block :=
  ⟨outline, 0⟩

def block? (outline : Outline) (id : Nat) : Option Block :=
  if id < outline.size then some ⟨outline, id⟩ else none

end Outline

namespace Block

def entry (block : Block) : Outline.Entry :=
  (block.outline.table[block.id]?).getD (Outline.Table.rootOf 0)

def withId (block : Block) (id : Nat) : Block :=
  ⟨block.outline, id⟩

def kind (block : Block) : Outline.Kind :=
  block.entry.kind

def indent (block : Block) : Option Nat :=
  block.entry.indent

def start (block : Block) : Nat :=
  block.entry.start

def stop (block : Block) : Nat :=
  block.entry.stop

def position (block : Block) : Nat :=
  block.entry.position

def colon? (block : Block) : Option Nat :=
  block.entry.colon

def parent? (block : Block) : Option Block :=
  block.entry.parent.map block.withId

/-- A child stands after its parent in the table. -/
def children (block : Block) : List Block :=
  ((List.range' (block.id + 1) (block.outline.size - (block.id + 1))).filter fun id =>
    (block.outline.table[id]?).any fun entry => entry.parent == some block.id).map block.withId

def lastChild? (block : Block) : Option Block :=
  block.children.getLast?

def lastDescendant (block : Block) : Nat → Block
  | 0 => block
  | fuel + 1 =>
      match block.lastChild? with
      | some child => child.lastDescendant fuel
      | none => block

def treeStop (block : Block) : Nat :=
  if block.kind = .root then block.stop
  else max (block.lastDescendant block.outline.size).stop block.stop

def region (block : Block) : Region :=
  ⟨block.start, block.stop⟩

def treeRegion (block : Block) : Region :=
  ⟨block.start, block.treeStop⟩

def contains (block : Block) (offset : Nat) : Bool :=
  block.treeRegion.contains offset

def text (block : Block) : String :=
  Text.slice block.outline.text block.start (max block.entry.contentStop block.start)

def isLineEnd (c : Char) : Bool :=
  c == '\n' || c == '\r'

def treeText (block : Block) : String :=
  let chars := (Text.slice block.outline.text block.start block.treeStop).toList
  String.ofList (chars.reverse.dropWhile isLineEnd).reverse

def key? (block : Block) : Option String :=
  block.colon?.map fun colon => Text.slice block.outline.text block.start colon

def keyRegion? (block : Block) : Option Region :=
  block.colon?.map fun colon => ⟨block.start, colon⟩

def simpleValue? (block : Block) : Option String :=
  block.colon?.map fun colon =>
    Text.trimmed (Text.slice block.outline.text (colon + 1) (max block.entry.contentStop (colon + 1)))

def isInKey (block : Block) (offset : Nat) : Bool :=
  block.colon?.any fun colon => block.start ≤ offset && offset ≤ colon

/-- The offset is after the colon of a key, or after the dash of an item and the space next to it. -/
def isInValue (block : Block) (offset : Nat) : Bool :=
  match block.kind with
  | .key => block.colon?.any fun colon => colon < offset && offset ≤ block.treeStop
  | .item =>
      let dash := if block.text.utf8ByteSize = 1 then 1 else 2
      block.start + dash ≤ offset && offset ≤ block.treeStop
  | _ => false

def segment? (block : Block) : Option Segment :=
  match block.kind with
  | .key => block.key?.map .value
  | .item => some (.index block.position)
  | .document => some (.index block.position)
  | _ => none

def ancestry (block : Block) : List Block :=
  climb block.outline.size block []
where
  climb : Nat → Block → List Block → List Block
    | 0, current, below => current :: below
    | fuel + 1, current, below =>
        match current.parent? with
        | some parent => climb fuel parent (current :: below)
        | none => current :: below

def path (block : Block) : Path :=
  block.ancestry.filterMap segment?

def document? (block : Block) : Option Block :=
  block.ancestry.find? (·.kind == .document)

def reaches (block : Block) (offset : Nat) (atEnd : Bool) : Bool :=
  block.start ≤ offset && (offset < block.treeStop || (atEnd && offset == block.treeStop))

def findFrom (atEnd : Bool) (offset : Nat) : Nat → Block → Option Block
  | 0, _ => none
  | fuel + 1, block =>
      if block.reaches offset atEnd then
        let candidates := if atEnd then block.children.reverse else block.children
        some ((candidates.findSome? (findFrom atEnd offset fuel)).getD block)
      else none

def find? (block : Block) (offset : Nat) : Option Block :=
  findFrom (offset == block.outline.text.utf8ByteSize) offset (block.outline.size + 1) block

def hasKey (block : Block) (key : String) : Bool :=
  match block.key? with
  | some own => if block.outline.relaxedNames then Names.relaxedEq own key else own == key
  | none => false

def childrenWithKey (block : Block) (key : String) : List Block :=
  block.children.filter (·.hasKey key)

def item? (block : Block) (position : Nat) : Option Block :=
  block.children.find? fun child => child.kind == .item && child.position == position

def childKeys (block : Block) : List String :=
  block.children.filterMap key?

def lastRealChild? (block : Block) : Option Block :=
  block.children.reverse.find? (·.indent.isSome)

def label (block : Block) : String :=
  block.kind.label ++ "(" ++ toString block.id ++ "): " ++ Text.quoted block.text

def dumpFrom : Nat → Nat → Block → String
  | 0, _, _ => ""
  | fuel + 1, depth, block =>
      let indent := match block.indent with
        | some indent => toString indent
        | none => "-1"
      let text := if block.kind = .root then "" else block.text
      let line := String.join (List.replicate depth "  ") ++ block.kind.label ++ "(" ++ indent ++ "): " ++ text ++ "\n"
      line ++ String.join (block.children.map (dumpFrom fuel (depth + 1)))

def dump (block : Block) : String :=
  dumpFrom (block.outline.size + 1) 0 block

def step (segment : Segment) (block : Block) : List Block :=
  match block.kind, segment with
  | .raw, _ => []
  | .root, .index position => block.children[position]?.toList
  | .root, _ => []
  | _, .value key => block.childrenWithKey key
  | _, .index position => (block.item? position).toList
  | _, .anyChild => block.children.filter (·.kind.isStep)
  | _, .key _ => []

def height (block : Block) : Nat :=
  block.outline.size - block.id

theorem height_child_lt {block child : Block} (member : child ∈ block.children) : child.height < block.height := by
  obtain ⟨id, found, rfl⟩ := List.mem_map.1 member
  have bounds := List.mem_range'_1.1 (List.mem_filter.1 found).1
  simp only [height, withId]
  omega

theorem height_step_lt (segment : Segment) (block next : Block) (member : next ∈ step segment block) :
    next.height < block.height := by
  unfold step at member
  split at member
  · simp at member
  · exact height_child_lt (List.mem_of_getElem? (Option.mem_toList.1 member))
  · simp at member
  · exact height_child_lt (List.mem_filter.1 member).1
  · exact height_child_lt (List.mem_of_find?_eq_some (Option.mem_toList.1 member))
  · exact height_child_lt (List.mem_filter.1 member).1
  · simp at member

instance : Grounded Block where
  step := step
  height := height
  height_step := height_step_lt

end Block

namespace Outline

def find? (outline : Outline) (offset : Nat) : Option Block :=
  outline.root.find? offset

end Outline
end YamlDialects
