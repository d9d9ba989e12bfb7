import YamlDialects.Outline.Line

/-!
The outline of a text: a tree made from indentation, `key:` and `- ` alone, for any text at all.

The nodes stand in one table in the order of the text. A key belongs to the nearest node before it
that is less indented; an item may also belong to a key of the same indentation; any other line
belongs to the node before it.
-/

set_option autoImplicit false

namespace YamlDialects

namespace Outline

inductive Kind where
  | root
  | document
  | key
  | item
  | raw
deriving DecidableEq, Inhabited

namespace Kind

def label : Kind → String
  | .root => "ROOT"
  | .document => "DOC"
  | .key => "KEY"
  | .item => "SEQ"
  | .raw => "RAW"

def isStep : Kind → Bool
  | .key => true
  | .item => true
  | _ => false

end Kind

/-- `stop` is the end of the line with its terminator, `contentStop` the end without. The position
counts documents, and items among the items of their parent. -/
structure Entry where
  kind : Kind
  parent : Option Nat
  indent : Option Nat
  start : Nat
  contentStop : Nat
  stop : Nat
  position : Nat
  colon : Option Nat
deriving DecidableEq, Inhabited

abbrev Table := Array Entry

namespace Table

def rootOf (size : Nat) : Entry :=
  ⟨.root, none, some 0, 0, size, size, 0, none⟩

def countChildren (table : Table) (parent : Nat) (kind : Kind) : Nat :=
  (table.filter fun entry => entry.parent == some parent && entry.kind == kind).size

def climb (table : Table) (level : Entry → Bool) : Nat → Nat → Nat
  | 0, id => id
  | fuel + 1, id =>
      match table[id]? with
      | none => id
      | some entry =>
          if !entry.kind.isStep || level entry then id
          else
            match entry.parent with
            | some parent => climb table level fuel parent
            | none => id

def addDocument (table : Table) (start contentStop stop : Nat) : Table :=
  table.push ⟨.document, some 0, some 0, start, contentStop, stop, table.countChildren 0 .document, none⟩

def addRaw (table : Table) (parent : Nat) (line : Line) : Table :=
  table.push ⟨.raw, some parent, line.indent, line.start + line.indent.getD 0, line.contentStop, line.stop, 0, none⟩

def addKey (table : Table) (parent : Nat) (line : Line) (indent length : Nat) : Table :=
  let start := line.start + indent
  table.push ⟨.key, some parent, some indent, start, line.contentStop, line.stop, 0, some (start + length)⟩

def addItem (table : Table) (parent : Nat) (line : Line) (indent : Nat) : Table :=
  table.push ⟨.item, some parent, some indent, line.start + indent, line.contentStop, line.stop,
    table.countChildren parent .item, none⟩

end Table

structure Builder where
  table : Table
  current : Nat

namespace Builder

def keyParent (builder : Builder) (indent : Nat) : Nat :=
  builder.table.climb (fun entry => entry.indent.any (· < indent)) builder.table.size builder.current

def itemParent (builder : Builder) (indent : Nat) : Nat :=
  builder.table.climb
    (fun entry => entry.indent.getD 0 < indent || (entry.kind != .item && entry.indent.getD 0 ≤ indent))
    builder.table.size builder.current

def addKey (builder : Builder) (line : Line) (indent length : Nat) : Builder :=
  ⟨builder.table.addKey (builder.keyParent indent) line indent length, builder.table.size⟩

def addItem (builder : Builder) (line : Line) (indent : Nat) : Builder :=
  ⟨builder.table.addItem (builder.itemParent indent) line indent, builder.table.size⟩

def addRaw (builder : Builder) (line : Line) : Builder :=
  { builder with table := builder.table.addRaw builder.current line }

def addDocument (builder : Builder) (start contentStop stop : Nat) : Builder :=
  ⟨builder.table.addDocument start contentStop stop, builder.table.size⟩

def openBlocks (line : Line) (indent : Nat) (body : List Char) (builder : Builder) : Builder :=
  match keyLength? body with
  | some length => builder.addKey line indent length
  | none =>
      match body with
      | [ '-'] => builder.addItem line indent
      | '-' :: ' ' :: rest => openBlocks line (indent + 2) rest (builder.addItem line indent)
      | _ => builder

def isBlock (body : List Char) : Bool :=
  (keyLength? body).isSome || (itemRest? body).isSome

def addLine (builder : Builder) (line : Line) : Builder :=
  match line.indent with
  | none => builder.addRaw line
  | some indent =>
      if isSeparator line.body then builder.addDocument line.start line.contentStop line.stop
      else if isBlock line.body then openBlocks line indent line.body builder
      else builder.addRaw line

end Builder

def preamble (all : List Line) : List Line :=
  all.takeWhile fun line => line.indent.isSome && isPreamble line.chars

/-- The table of a text. Unless a separator opens the first document, one starts with the text and
holds the preamble. -/
def tableOf (chars : List Char) : Table :=
  let all := lines chars
  let leading := preamble all
  let rest := all.drop leading.length
  let start : Builder := ⟨#[Table.rootOf (Text.byteLength chars)], 0⟩
  let ready :=
    if rest.head?.any fun line => isSeparator line.body then start
    else leading.foldl Builder.addRaw (start.addDocument 0 0 0)
  (rest.foldl Builder.addLine ready).table

end Outline

structure Outline where
  text : String
  table : Outline.Table
  relaxedNames : Bool
deriving Inhabited

namespace Outline

def ofText (text : String) (relaxedNames : Bool := false) : Outline :=
  ⟨text, tableOf text.toList, relaxedNames⟩

def size (outline : Outline) : Nat :=
  outline.table.size

end Outline
end YamlDialects
