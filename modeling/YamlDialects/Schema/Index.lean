set_option autoImplicit false

namespace YamlDialects

structure PropertyInfo where
  type : String := ""
  description : Option String := none
  deprecation : Option String := none
deriving DecidableEq, Inhabited

/-- Entries in ascending order of their names, each name once. -/
structure PropertyIndex where
  entries : List (String × PropertyInfo) := []
deriving DecidableEq, Inhabited

namespace PropertyIndex

def place (name : String) (info : PropertyInfo) : List (String × PropertyInfo) → List (String × PropertyInfo)
  | [] => [(name, info)]
  | entry :: rest =>
      if entry.1 = name then (name, info) :: rest
      else if name < entry.1 then (name, info) :: entry :: rest
      else entry :: place name info rest

def insert (index : PropertyIndex) (name : String) (info : PropertyInfo) : PropertyIndex :=
  ⟨place name info index.entries⟩

def ofList (entries : List (String × PropertyInfo)) : PropertyIndex :=
  entries.foldl (fun index entry => index.insert entry.1 entry.2) {}

def get? (index : PropertyIndex) (name : String) : Option PropertyInfo :=
  (index.entries.find? (·.1 == name)).map (·.2)

def names (index : PropertyIndex) : List String :=
  index.entries.map (·.1)

def size (index : PropertyIndex) : Nat :=
  index.entries.length

end PropertyIndex
end YamlDialects
