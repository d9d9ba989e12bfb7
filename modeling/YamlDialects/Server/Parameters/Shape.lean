import YamlDialects.Json.Basic
import YamlDialects.Server.Address

set_option autoImplicit false

namespace YamlDialects.Wire

/-- Whether a member of a record may be null or missing. In a record that is written as a list all members
have their place, so that only a member with a default can be missing at its end. -/
inductive Presence where
  | required
  | optional
  | defaulted
  | optionalDefaulted
deriving DecidableEq, Inhabited

inductive Shape where
  | any
  | bool
  | text
  | address
  | number
  | natural
  | integer
  | oneOf (names : List String)
  | list (item : Shape)
  | pair (item : Shape)
  | dictionary (value : Shape)
  | byAddress (value : Shape)
  | record (members : List (String × Presence × Shape))
  | object (members : List (String × Presence × Shape)) (others : Shape)
  | either (left right : Shape)
deriving Inhabited

namespace Presence

def allowsNull : Presence → Bool
  | .optional => true
  | .optionalDefaulted => true
  | _ => false

def allowsMissing : Presence → Bool
  | .required => false
  | _ => true

def hasDefault : Presence → Bool
  | .defaulted => true
  | .optionalDefaulted => true
  | _ => false

end Presence

namespace Shape

def int32? (value : Json) : Option Json :=
  (value.int?.filter (Width.isSigned 32)).map .int

def address? (value : Json) : Option Json :=
  (value.string?.bind Address.ofText?).map fun address => .string address.render

def isNumber : Json → Bool
  | .int _ => true
  | .decimal _ => true
  | _ => false

def name? (choices : List String) : Json → Option Json
  | .string name => if choices.contains name then some (.string name) else none
  | .object [(name, .null)] => if choices.contains name then some (.string name) else none
  | _ => none

def memberNames (members : List (String × Json)) : List String :=
  (members.map (·.1)).eraseDups

mutual

def normal? : Shape → Json → Option Json
  | .any, value => some value
  | .bool, value => value.bool?.map .bool
  | .text, value => value.string?.map .string
  | .address, value => address? value
  | .number, value => if isNumber value then some value else none
  | .natural, value => (value.nat? 32).map .nat
  | .integer, value => int32? value
  | .oneOf names, value => name? names value
  | .list item, value => do return .array (← (← value.array?).mapM (normal? item))
  | .pair item, value =>
      match value with
      | .array [first, second] => do return .array [← normal? item first, ← normal? item second]
      | _ => none
  | .dictionary item, value =>
      match value with
      | .object members => do
          return .object (← (memberNames members).mapM fun name => do
            return (name, ← normal? item ((value.get? name).getD .null)))
      | _ => none
  | .byAddress item, value =>
      match value with
      | .object members => do
          return .object (← (memberNames members).mapM fun name => do
            return ((← Address.ofText? name).render, ← normal? item ((value.get? name).getD .null)))
      | _ => none
  | .record members, value =>
      match value with
      | .object _ => (named? members value).map .object
      | .array items => (positional? members items).map .object
      | _ => none
  | .object members others, value =>
      match value with
      | .object found => do
          let known ← named? members value
          let names := (memberNames found).filter fun name => !(members.any (·.1 == name))
          let unknown ← names.mapM fun name => do
            return (name, ← normal? others ((value.get? name).getD .null))
          return .object (known ++ unknown)
      | _ => none
  | .either left right, value =>
      match normal? left value with
      | some found => some found
      | none => normal? right value

def named? : List (String × Presence × Shape) → Json → Option (List (String × Json))
  | [], _ => some []
  | (name, presence, shape) :: rest, value =>
      match value.get? name with
      | none => if presence.allowsMissing then named? rest value else none
      | some .null =>
          if presence.allowsNull then named? rest value
          else do return (name, ← normal? shape .null) :: (← named? rest value)
      | some found => do return (name, ← normal? shape found) :: (← named? rest value)

def positional? : List (String × Presence × Shape) → List Json → Option (List (String × Json))
  | [], [] => some []
  | [], _ :: _ => none
  | (_, presence, _) :: rest, [] => if presence.hasDefault then positional? rest [] else none
  | (name, presence, shape) :: rest, item :: items =>
      match item with
      | .null =>
          if presence.allowsNull then positional? rest items
          else do return (name, ← normal? shape .null) :: (← positional? rest items)
      | item => do return (name, ← normal? shape item) :: (← positional? rest items)

end

def need (name : String) (shape : Shape) : String × Presence × Shape :=
  (name, .required, shape)

def may (name : String) (shape : Shape) : String × Presence × Shape :=
  (name, .optional, shape)

def openObject (members : List (String × Presence × Shape)) : Shape :=
  .object members .any

end Shape
end YamlDialects.Wire

namespace YamlDialects.Wire.Shape

def position : Shape :=
  .record [need "line" .natural, need "character" .natural]

def range : Shape :=
  .record [need "start" position, need "end" position]

def location : Shape :=
  .record [need "uri" .address, need "range" range]

def document : Shape :=
  .record [need "uri" .address]

def versionedDocument : Shape :=
  .record [need "uri" .address, need "version" .integer]

def numberOrText : Shape :=
  .either .integer .text

def progress : List (String × Presence × Shape) :=
  [may "workDoneToken" numberOrText]

def partialProgress : List (String × Presence × Shape) :=
  progress ++ [may "partialResultToken" numberOrText]

def place : List (String × Presence × Shape) :=
  [need "textDocument" document, need "position" position]

def markupContent : Shape :=
  .record [need "kind" (.oneOf ["plaintext", "markdown"]), need "value" .text]

def documentation : Shape :=
  .either .text markupContent

def command : Shape :=
  .record [need "title" .text, need "command" .text, may "arguments" (.list .any)]

def textEdit : Shape :=
  .record [need "range" range, need "newText" .text]

def diagnostic : Shape :=
  .record [
    need "range" range,
    may "severity" .integer,
    may "code" numberOrText,
    may "codeDescription" (.record [need "href" .address]),
    may "source" .text,
    need "message" .text,
    may "relatedInformation" (.list (.record [need "location" location, need "message" .text])),
    may "tags" (.list .integer),
    may "data" .any]

def documentEdit : Shape :=
  .record [
    need "textDocument" (.record [need "uri" .address, may "version" .integer]),
    need "edits" (.list (.either textEdit
      (.openObject [need "range" range, need "newText" .text, need "annotationId" .text])))]

def fileOptions : Shape :=
  .record [may "overwrite" .bool, may "ignoreIfExists" .bool]

def deleteOptions : Shape :=
  .record [may "recursive" .bool, may "ignoreIfNotExists" .bool, may "annotationId" .text]

def fileOperation : Shape :=
  .either
    (.openObject [need "kind" (.oneOf ["create"]), need "uri" .address, may "options" fileOptions,
      may "annotationId" .text])
    (.either
      (.openObject [need "kind" (.oneOf ["rename"]), need "oldUri" .address, need "newUri" .address,
        may "options" fileOptions, may "annotationId" .text])
      (.openObject [need "kind" (.oneOf ["delete"]), need "uri" .address, may "options" deleteOptions]))

def workspaceEdit : Shape :=
  .record [
    ("changes", .optionalDefaulted, .byAddress (.list textEdit)),
    may "documentChanges" (.either (.list documentEdit) (.list (.either fileOperation documentEdit))),
    may "changeAnnotations" (.dictionary (.record [need "label" .text, may "needsConfirmation" .bool,
      may "description" .text]))]

end YamlDialects.Wire.Shape
