import YamlDialects.Yaml.Data.Input

set_option autoImplicit false

namespace YamlDialects.Yaml.Data

structure Properties where
  anchor : Option Nat := none
  tag : Option Bytes := none
deriving DecidableEq, Inhabited

inductive Content where
  | scalar (text : String) (isPlain : Bool) (properties : Properties)
  | sequence (items : List Content) (properties : Properties)
  | mapping (entries : List (Content × Content)) (properties : Properties)
  | reference (number : Nat)
deriving Inhabited

namespace Content

def anchorOf : Content → Option Nat
  | .scalar _ _ properties => properties.anchor
  | .sequence _ properties => properties.anchor
  | .mapping _ properties => properties.anchor
  | .reference _ => none

def tagOf : Content → Option Bytes
  | .scalar _ _ properties => properties.tag
  | .sequence _ properties => properties.tag
  | .mapping _ properties => properties.tag
  | .reference _ => none

def omitted (properties : Properties) : Content :=
  .scalar "" true properties

def ownAnchor (content : Content) : List (Nat × Content) :=
  match content.anchorOf with
  | some number => [(number, content)]
  | none => []

mutual

def anchored : Content → List (Nat × Content)
  | .sequence items properties => ownAnchor (.sequence items properties) ++ anchoredItems items
  | .mapping entries properties => ownAnchor (.mapping entries properties) ++ anchoredEntries entries
  | .scalar text isPlain properties => ownAnchor (.scalar text isPlain properties)
  | .reference _ => []

def anchoredItems : List Content → List (Nat × Content)
  | [] => []
  | item :: rest => anchored item ++ anchoredItems rest

def anchoredEntries : List (Content × Content) → List (Nat × Content)
  | [] => []
  | (key, value) :: rest => anchored key ++ anchored value ++ anchoredEntries rest

end

mutual

def size : Content → Nat
  | .sequence items _ => 2 + itemsSize items
  | .mapping entries _ => 2 + entriesSize entries
  | .scalar _ _ _ => 1
  | .reference _ => 1

def itemsSize : List Content → Nat
  | [] => 0
  | item :: rest => size item + itemsSize rest

def entriesSize : List (Content × Content) → Nat
  | [] => 0
  | (key, value) :: rest => size key + size value + entriesSize rest

end

end Content
end YamlDialects.Yaml.Data
