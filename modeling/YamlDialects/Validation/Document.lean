import YamlDialects.Validation.Basic
import YamlDialects.Yaml.Tree

/-!
Validation of a whole text: every node of its syntax tree is checked against the type expected there,
and the blocks that had to be left out of the tree are checked by their outline. Of such a block, keys and
constraints are checked, values are not.
-/

set_option autoImplicit false

namespace YamlDialects.Validation

def foundIn (block : Block) : List FoundKey :=
  block.children.filterMap fun child => do return ⟨← child.key?, ← child.keyRegion?⟩

def blockChecks (schema : Schema) (block : Block) (type : TypeId) (context : SchemaContext) : List Finding :=
  checks (schema.constraints type) context
    { parent := block.parent?.map Block.treeRegion
      node := block.treeRegion
      key := block.keyRegion?
      typeName := schema.ownName type
      found := foundIn block }

def keyBlock (schema : Schema) (below : Block → TypeId → Path → List Finding) (block : Block)
    (type : TypeId) (path : Path) : List Finding :=
  match block.key?, block.keyRegion? with
  | some key, some region =>
      let inside := path ++ [.value key]
      if isUnconstrained schema type || isTemplated key then []
      else if schema.isBean type then
        keyFindings schema type key region ++
          match (lookup schema type key).property? with
          | some property => below block property.type inside
          | none => []
      else
        match schema.domain? type with
        | some value => if schema.isMap type then below block value inside else []
        | none => []
  | _, _ => []

def itemBlock (schema : Schema) (below : Block → TypeId → Path → List Finding) (block : Block)
    (type : TypeId) (path : Path) : List Finding :=
  match schema.element? type with
  | some element => below block element (path ++ [.index block.position])
  | none => []

def childBlock (schema : Schema) (below : Block → TypeId → Path → List Finding) (type : TypeId)
    (path : Path) (child : Block) : List Finding :=
  match child.kind with
  | .key => keyBlock schema below child type path
  | .item => itemBlock schema below child type path
  | _ => []

def blockWithin (schema : Schema) : Nat → Block → TypeId → Path → List Finding
  | 0, _, _, _ => []
  | depth + 1, block, declared, path =>
      let context : SchemaContext := { path, source := .block block }
      let type := schema.infer declared context
      if isUnconstrained schema type then []
      else
        block.children.flatMap (childBlock schema (blockWithin schema depth) type path) ++
          blockChecks schema block type context

def block (schema : Schema) (found : Block) (type : TypeId) (path : Path) : List Finding :=
  blockWithin schema found.outline.size found type path

end YamlDialects.Validation

namespace YamlDialects

open Yaml (Damage Node Tree)

structure Validation where
  schema : Schema
  tree : Tree

abbrev Handled := List Nat

namespace Validation

def isAt (path : Path) (damage : Damage) : Bool :=
  damage.parentPath = path

def damagedKeys (damage : List Damage) : List FoundKey :=
  damage.filterMap fun each => each.key.map fun (name, region) => ⟨name, region⟩

def takeDamage (validation : Validation) (path : Path) : StateM Handled (List Damage) := do
  let handled ← get
  let taken := validation.tree.damage.zipIdx.filter fun (damage, number) =>
    isAt path damage && !handled.contains number
  set (handled ++ taken.map (·.2))
  return taken.map (·.1)

def foundKeys (node : Node) (extra : List FoundKey) : List FoundKey :=
  (node.entries.filterMap fun (key, _) => key.scalar?.map fun name => ⟨name, key.region⟩) ++ extra

def nodeContext (path : Path) (node : Node) (extra : List FoundKey) : SchemaContext :=
  { path, source := .node node, extra := extra.map (·.name) }

def duplicateFindings (entries : List (Node × Node)) : List Finding :=
  let keys := entries.filterMap fun (key, _) => key.scalar?.map fun name => FoundKey.mk name key.region
  (SchemaContext.sortedNames (keys.map (·.name))).flatMap fun name =>
    match keys.filter (·.name == name) with
    | first :: second :: rest => (first :: second :: rest).map fun key =>
        .problem (Problem.of .duplicateKey key.region ("Duplicate key '" ++ name ++ "'"))
    | _ => []

def checkedKey? (key : Node) : Option String :=
  key.scalar?.filter fun name => !isTemplated name

/-- Properties that are missing, unless an unknown key may be meant for one of them. -/
def absentFindings (schema : Schema) (type : TypeId) (keys : List String) (region : Region) : List Finding :=
  let found := keys.map (lookup schema type)
  if found.any KeyLookup.isUnknown || schema.isUnion type then []
  else missingFindings schema type (found.filterMap fun each => each.property?.map (·.name)) region

def damageFindings (validation : Validation) (type : TypeId) (path : Path) (damage : Damage) : List Finding :=
  match validation.tree.outline.block? damage.block with
  | some found => childBlock validation.schema (block validation.schema) type path found
  | none => []

mutual

/-- What is found in a node of the declared type. `parent` is the region around it and `key` the key whose
value it is. -/
def node (validation : Validation) (parent key : Option Region) (declared : TypeId) (path : Path)
    (found : Node) : StateM Handled (List Finding) := do
  let schema := validation.schema
  let damage ← validation.takeDamage path
  let extra := damagedKeys damage
  let context := nodeContext path found extra
  let type := schema.infer declared context
  let inside ← match found with
    | .scalar text region =>
        -- an empty value is still being typed
        if found.isEmptyScalar || !damage.isEmpty || isTemplated text then pure []
        else pure (valueFindings schema type text region)
    | .mapping entries region => do
        let duplicates := duplicateFindings entries
        if isUnconstrained schema type then pure duplicates
        else if schema.isBean type then
          let values ← properties validation region type path entries
          let names := (entries.filterMap fun (key, _) => checkedKey? key) ++ extra.map (·.name)
          pure (duplicates ++ values ++ absentFindings schema type names (key.getD region))
        else if schema.isMap type then
          let values ← pairs validation region (schema.keyType? type) (schema.domain? type) path entries
          pure (duplicates ++ values)
        else pure (duplicates ++ [mismatch schema type "Map" region])
    | .sequence items region =>
        if isUnconstrained schema type then pure []
        else
          match schema.element? type with
          | some element => elements validation region element path 0 items
          | none => pure [mismatch schema type "Sequence" region]
  let deferred := checks (schema.constraints type) context
    { parent, node := found.region, key, typeName := schema.ownName type, found := foundKeys found extra }
  return inside ++ deferred ++ damage.flatMap (validation.damageFindings type path)

def properties (validation : Validation) (parent : Region) (type : TypeId) (path : Path) :
    List (Node × Node) → StateM Handled (List Finding)
  | [] => pure []
  | (key, value) :: rest => do
      let first ← match checkedKey? key with
        | none => pure []
        | some name =>
            let problems := keyFindings validation.schema type name key.region
            match (lookup validation.schema type name).property? with
            | none => pure problems
            | some property =>
                let inside ← node validation (some parent) (some key.region) property.type
                  (path ++ [.value name]) value
                pure (problems ++ inside)
      return first ++ (← properties validation parent type path rest)

def pairs (validation : Validation) (parent : Region) (keyType valueType : Option TypeId) (path : Path) :
    List (Node × Node) → StateM Handled (List Finding)
  | [] => pure []
  | (key, value) :: rest => do
      let first ← match key.scalar? with
        | none => pure []
        | some name => do
            let keys ← match keyType with
              | none => pure []
              | some keyType => node validation (some parent) none keyType (path ++ [.key name]) key
            let values ← match valueType with
              | none => pure []
              | some valueType =>
                  node validation (some parent) (some key.region) valueType (path ++ [.value name]) value
            pure (keys ++ values)
      return first ++ (← pairs validation parent keyType valueType path rest)

def elements (validation : Validation) (parent : Region) (element : TypeId) (path : Path) (position : Nat) :
    List Node → StateM Handled (List Finding)
  | [] => pure []
  | item :: rest => do
      let first ← node validation (some parent) none element (path ++ [.index position]) item
      return first ++ (← elements validation parent element path (position + 1) rest)

end

def document (dialect : Dialect) (validation : Validation) (position : Nat) (root : Node) :
    StateM Handled (List Finding) := do
  let path := [Segment.index position]
  let extra := damagedKeys (validation.tree.damage.filter (isAt path))
  let context := nodeContext path root extra
  let type := validation.schema.infer dialect.root context
  let deferred := checks dialect.constraints context
    { parent := none, node := root.region, key := none, typeName := validation.schema.ownName type
      found := foundKeys root extra }
  return deferred ++ (← node validation none none type path root)

def documents (dialect : Dialect) (validation : Validation) (position : Nat) :
    List Node → StateM Handled (List Finding)
  | [] => pure []
  | root :: rest => do
      let first ← document dialect validation position root
      return first ++ (← documents dialect validation (position + 1) rest)

def lostDocuments (dialect : Dialect) (validation : Validation) : StateM Handled (List Finding) := do
  let damage ← validation.takeDamage []
  return damage.flatMap fun each =>
    match validation.tree.outline.block? each.block with
    | some found => if found.kind == .document then block validation.schema found dialect.root found.path else []
    | none => []

def findings (dialect : Dialect) (validation : Validation) : List Finding :=
  let walk : StateM Handled (List Finding) := do
    let read ← documents dialect validation 0 validation.tree.documents
    return read ++ (← lostDocuments dialect validation)
  (walk.run []).1

def syntaxProblems (tree : Tree) : List Problem :=
  tree.errors.map fun error => Problem.of .syntaxError error.region error.message

def problems (dialect : Dialect) (validation : Validation) : List Problem :=
  let found := findings dialect validation
  let all := syntaxProblems validation.tree ++ found.filterMap Finding.problem? ++
    (found.filterMap Finding.check?).flatMap Check.problems
  all.mergeSort fun first second => first.region.start ≤ second.region.start

end Validation

def Dialect.problems (dialect : Dialect) (options : SchemaOptions) (index : Option PropertyIndex)
    (text : String) (read : Yaml.TextReader := Yaml.readText) : List Problem :=
  Validation.problems dialect ⟨dialect.schema options index, Tree.parseBy read text options.relaxedNames⟩

end YamlDialects
