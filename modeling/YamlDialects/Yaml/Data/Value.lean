import YamlDialects.Yaml.Data.Reader
import YamlDialects.Yaml.Scalar
import YamlDialects.Yaml.Value

set_option autoImplicit false

namespace YamlDialects.Yaml.Data

def utf8? (bytes : Bytes) : Option String :=
  String.fromUTF8? ⟨bytes.toArray⟩

def withoutMark (name : Bytes) : Bytes :=
  match name with
  | mark :: rest => if mark == '!'.toNat.toUInt8 && !rest.isEmpty then rest else name
  | [] => name

def startsWithMark (tag : Bytes) : Bool :=
  tag.head? == some '!'.toNat.toUInt8

def ownName? (tag : Option Bytes) : Option String :=
  match tag with
  | some tag => if startsWithMark tag then (utf8? (withoutMark (withoutMark tag))).map ("!" ++ ·) else none
  | none => none

def coreName? (tag : Bytes) : Option String :=
  let start := bytesOf "tag:yaml.org,2002:".toList
  if start.isPrefixOf tag then utf8? (tag.drop start.length) else none

def ofScalar : Scalar → Value
  | .null => .null
  | .bool value => .bool value
  | .int value => .int value
  | .float value => .float value
  | .text value => .string value

def ofCoreScalar? (kind text : String) : Option Value :=
  match kind with
  | "bool" => (Scalar.bool? text).map .bool
  | "int" =>
      match Scalar.integer? text.toList with
      | some value => if Width.fits 64 value then some (.int value) else none
      | none => none
  | "float" => (Scalar.float? text).map .float
  | "null" => if Scalar.isNull text && !text.isEmpty then some .null else none
  | _ => some (.string text)

def ofUntagged? (text : String) (isPlain : Bool) : Option Value :=
  if isPlain then (Scalar.ofPlain? text).map ofScalar else some (.string text)

def ofScalar? (text : String) (isPlain : Bool) (tag : Option Bytes) : Option Value :=
  match tag with
  | none => ofUntagged? text isPlain
  | some tag =>
      if startsWithMark tag then ofUntagged? text isPlain else ofCoreScalar? ((coreName? tag).getD "") text

structure ValueRules where
  allowsTags : Bool
  allowsDuplicates : Bool
deriving DecidableEq, Inhabited

def withTag? (rules : ValueRules) (tag : Option Bytes) (value : Value) : Option Value :=
  match ownName? tag with
  | some name => if rules.allowsTags then some (.tagged name value) else none
  | none => some value

namespace Reading

def value (rules : ValueRules) : Nat → Content → Reading Value
  | 0, content => do
      match ← follow content with
      | .scalar text isPlain properties => withTag? rules properties.tag (← ofScalar? text isPlain properties.tag)
      | _ => failure
  | depth + 1, content => do
      match ← follow content with
      | .scalar text isPlain properties => withTag? rules properties.tag (← ofScalar? text isPlain properties.tag)
      | .sequence items properties => do
          let items ← items.mapM (value rules depth)
          withTag? rules properties.tag (.sequence items)
      | .mapping entries properties => do
          let entries ← entries.mapM fun (key, held) => do
            return (← value rules depth key, ← value rules depth held)
          if !rules.allowsDuplicates && Value.hasDuplicates (entries.map (·.1)) then failure
          withTag? rules properties.tag (.mapping entries)
      | .reference _ => failure

end Reading
end Data

def Value.ofText? (text : String) : Option Value := do
  let document ← Data.Document.ofText? text
  Data.Reading.run? document (Data.Reading.value ⟨true, false⟩ Data.maxDepth)

end YamlDialects.Yaml
