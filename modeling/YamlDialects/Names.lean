import YamlDialects.Text.Case

set_option autoImplicit false

namespace YamlDialects.Names

def isSeparator (c : Char) : Bool :=
  c == '-' || c == '_'

def canonical (name : String) : String :=
  String.ofList (Text.lowerAll (name.toList.filter fun c => !isSeparator c))

def relaxedEq (first second : String) : Bool :=
  first == second || canonical first == canonical second

/-- `started` tells whether something has been written, `raise` whether a separator came before. -/
def camelChars (started raise : Bool) : List Char → List Char
  | [] => []
  | c :: rest =>
      if isSeparator c then camelChars started started rest
      else if raise then Text.toUpper c ++ camelChars true false rest
      else c :: camelChars true false rest

def camelCase (name : String) : String :=
  String.ofList (camelChars false false name.toList)

/-- `joined` holds at the start and after a hyphen, where no further hyphen is put. -/
def hyphenChars (joined : Bool) : List Char → List Char
  | [] => []
  | c :: rest =>
      if c == '_' then '-' :: hyphenChars true rest
      else if Text.isUpper c then
        let word := Text.toLower c ++ hyphenChars false rest
        if joined then word else '-' :: word
      else c :: hyphenChars (c == '-') rest

def hyphenated (name : String) : String :=
  String.ofList (hyphenChars true name.toList)

def variants (name : String) : List String :=
  let withHyphens := if hyphenated name == name then [name] else [name, hyphenated name]
  if withHyphens.contains (camelCase name) then withHyphens else withHyphens ++ [camelCase name]

end YamlDialects.Names
