set_option autoImplicit false

namespace YamlDialects.Text

def occursIn (part : List Char) : List Char → Bool
  | [] => part.isEmpty
  | c :: rest => part.isPrefixOf (c :: rest) || occursIn part rest

def containsText (text part : String) : Bool :=
  occursIn part.toList text.toList

/-- Replaces the occurrences of a part that do not overlap, from the left. `skip` counts the characters
of the current occurrence that are still to be dropped. -/
def replaceFrom (part replacement : List Char) : Nat → List Char → List Char
  | _, [] => []
  | skip + 1, _ :: rest => replaceFrom part replacement skip rest
  | 0, c :: rest =>
      if part.isPrefixOf (c :: rest) then replacement ++ replaceFrom part replacement (part.length - 1) rest
      else c :: replaceFrom part replacement 0 rest

def replaceAll (text part replacement : String) : String :=
  String.ofList (replaceFrom part.toList replacement.toList 0 text.toList)

def bracketed (names : List String) : String :=
  "[" ++ String.intercalate ", " names ++ "]"

end YamlDialects.Text
