import YamlDialects.Text.Blank

set_option autoImplicit false

namespace YamlDialects

inductive Markdown where
  | empty
  | text (content : String)
  | code (content : String)
  | bold (inner : Markdown)
  | italic (inner : Markdown)
  | link (label url : String)
  | paragraph (inner : Markdown)
  | lineBreak
  | concat (parts : List Markdown)
deriving Inhabited, BEq

namespace Markdown

mutual

def isEmpty : Markdown → Bool
  | .empty => true
  | .text content => content.isEmpty
  | .code content => content.isEmpty
  | .bold inner => isEmpty inner
  | .italic inner => isEmpty inner
  | .link label _ => label.isEmpty
  | .paragraph inner => isEmpty inner
  | .lineBreak => false
  | .concat parts => allEmpty parts

def allEmpty : List Markdown → Bool
  | [] => true
  | part :: rest => isEmpty part && allEmpty rest

end

def join (parts : List Markdown) : Markdown :=
  match parts.filter fun part => !part.isEmpty with
  | [] => .empty
  | [part] => part
  | several => .concat several

def paragraphGap (written : String) : String :=
  if written.isEmpty || written.endsWith "\n\n" then ""
  else if written.endsWith "\n" then "\n"
  else "\n\n"

mutual

def append (written : String) : Markdown → String
  | .empty => written
  | .text content => written ++ content
  | .code content => written ++ "`" ++ content ++ "`"
  | .bold inner => append (written ++ "**") inner ++ "**"
  | .italic inner => append (written ++ "*") inner ++ "*"
  | .link label url => written ++ "[" ++ label ++ "](" ++ url ++ ")"
  | .paragraph inner => append (written ++ paragraphGap written) inner ++ "\n\n"
  | .lineBreak => written ++ "  \n"
  | .concat parts => appendAll written parts

def appendAll (written : String) : List Markdown → String
  | [] => written
  | part :: rest => appendAll (append written part) rest

end

def render (doc : Markdown) : String :=
  Text.trimmedEnd (append "" doc)

end Markdown
end YamlDialects
