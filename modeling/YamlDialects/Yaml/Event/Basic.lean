import YamlDialects.Yaml.Token.Basic

set_option autoImplicit false

namespace YamlDialects.Yaml

structure Tag where
  start : String
  rest : String
deriving DecidableEq, Inhabited

structure NodeProperties where
  anchor : Option String := none
  tag : Option Tag := none
deriving DecidableEq, Inhabited

inductive Event where
  | documentStart
  | documentEnd
  | reference (name : String)
  | scalar (text : String) (style : ScalarStyle) (properties : NodeProperties)
  | sequenceStart (properties : NodeProperties)
  | sequenceEnd
  | mappingStart (properties : NodeProperties)
  | mappingEnd
deriving DecidableEq, Inhabited

structure LocatedEvent where
  event : Event
  span : Span
deriving DecidableEq, Inhabited

end YamlDialects.Yaml
