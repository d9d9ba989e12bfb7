import YamlDialects.Json.Basic
import YamlDialects.Json.Writer
import YamlDialects.Problem
import YamlDialects.Server.Address

set_option autoImplicit false

namespace YamlDialects.Wire

def position (value : Position) : Json :=
  .object [("line", .nat value.line), ("character", .nat value.column)]

def range (first last : Position) : Json :=
  .object [("start", position first), ("end", position last)]

def position? (value : Json) : Option Position := do
  let line ← (← value.get? "line").nat? 32
  let column ← (← value.get? "character").nat? 32
  return ⟨line, column⟩

def address? (value : Json) : Option Address :=
  value.string?.bind Address.ofText?

def regionRange (text : String) (region : Region) : Json :=
  let index := LineIndex.ofText text
  range (index.positionOf text region.start) (index.positionOf text region.stop)

/-- A deprecated element carries tag 2. -/
def diagnostic (value : Diagnostic) : Json :=
  .record [
    ("range", some (range value.first value.last)),
    ("severity", some (.nat value.level)),
    ("code", some (.string value.kind.code)),
    ("source", some (.string Diagnostic.source)),
    ("message", some (.string value.message)),
    ("tags", if value.kind = .deprecated then some (.array [.int 2]) else none),
    ("data", value.replacement.map fun text => .object [("replacement", .string text)])]

def replacement? (value : Json) : Option String :=
  if (value.get? "source").bind Json.string? = some Diagnostic.source then
    ((value.get? "data").bind (·.get? "replacement")).bind Json.string?
  else none

def markup (text : String) : Json :=
  .object [("kind", .string "markdown"), ("value", .string text)]

def edit (range : Json) (text : String) : Json :=
  .object [("range", range), ("newText", .string text)]

end YamlDialects.Wire

namespace YamlDialects.Frame

def contentLength? (line : String) : Option Nat :=
  match (line.trimAscii.toString.toLower).dropPrefix? "content-length:" with
  | some rest => rest.trimAscii.toString.toNat?
  | none => none

def write (value : Json) : String :=
  let body := value.write
  "Content-Length: " ++ toString body.utf8ByteSize ++ "\r\n\r\n" ++ body

end YamlDialects.Frame
