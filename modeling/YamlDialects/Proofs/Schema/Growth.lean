import YamlDialects.Proofs.Schema.Description

/-!
How the graph of a dialect grows while the dialect is loaded. All types are announced before the first is built, so
that from then on every reference is that of a declared name; building a type adds it, and the built-in types that it
uses, and binds the reference of its name.
-/

set_option autoImplicit false

namespace YamlDialects

namespace TypeNames

def Uses (names : TypeNames) (graph : TypeGraph) (name : String) (type : TypeId) : Prop :=
  names.reference? name = some type ∨ names.reference? name = none ∧
    ∃ definition, GraphBuilder.builtin? name = some definition ∧ graph.types[type]? = some definition

def IsBuilt (names : TypeNames) (name : String) (type : TypeId) : Prop :=
  names.built? name = some type

end TypeNames

-- All types are announced, each by a reference of its own, and those that are done are built and bound to theirs.
structure Loading (all done : List TypeDecl) (names : TypeNames) (graph : TypeGraph) : Prop where
  announced : ∀ name, (names.reference? name).isSome ↔ TypeDecl.Declares all name
  cell : ∀ name type, names.reference? name = some type → ∃ cell,
    graph.types[type]? = some { name, kind := .reference cell } ∧ graph.targets[cell]? = some (names.built? name)
  apart : ∀ name other type otherType cell, names.reference? name = some type →
    names.reference? other = some otherType → (graph.get type).kind = .reference cell →
      (graph.get otherType).kind = .reference cell → name = other
  own : ∀ type cell, (graph.get type).kind = .reference cell → ∃ name, names.reference? name = some type
  within : ∀ type, ∀ part ∈ (graph.get type).kind.parts, part < graph.types.size
  built : ∀ name type, names.built? name = some type → TypeDecl.Declares done name
  described : ∀ declaration ∈ done, ∃ type definition, names.built? declaration.name = some type ∧
    graph.types[type]? = some (declaration.finish definition) ∧
      declaration.kind.Describes graph (names.Uses graph) names.IsBuilt declaration.name definition
  injective : ∀ name other type, names.built? name = some type → names.built? other = some type → name = other

theorem TypeNames.uses_extends (names : TypeNames) (later graph : TypeGraph) (extended : later.Extends graph)
    (name : String) (type : TypeId) (uses : names.Uses graph name type) : names.Uses later name type := by
  rcases uses with announced | ⟨unknown, definition, builtin, found⟩
  · exact .inl announced
  · exact .inr ⟨unknown, definition, builtin, extended.types type definition found⟩

theorem TypeGraph.get_push (graph : TypeGraph) (definition : TypeDef) (type : TypeId) :
    ({ graph with types := graph.types.push definition } : TypeGraph).get type =
      if type = graph.types.size then definition else graph.get type := by
  simp only [get, Array.getD_eq_getD_getElem?, Array.getElem?_push]
  split_ifs <;> rfl

namespace Loading

theorem nothing : Loading [] [] {} {} := by
  have absent (type : TypeId) : (({} : TypeGraph).get type).kind = .atomic := rfl
  exact {
    announced := fun name => by simp [TypeNames.reference?, TypeDecl.Declares]
    cell := fun name type => nofun
    apart := fun name other type otherType cell => nofun
    own := fun type cell kind => by simp [absent] at kind
    within := fun type part among => by simp [absent, TypeKind.parts, TypeKind.choices] at among
    built := fun name type => nofun
    described := fun declaration => nofun
    injective := fun name other type => nofun }

variable (all done : List TypeDecl) (names : TypeNames) (graph : TypeGraph) (loading : Loading all done names graph)
include loading

theorem known_of_built (name : String) (type : TypeId) (built : names.built? name = some type) :
    type < graph.types.size := by
  obtain ⟨declaration, among, rfl⟩ := loading.built name type built
  obtain ⟨other, definition, same, found, -⟩ := loading.described declaration among
  obtain rfl : other = type := Option.some.inj (same.symm.trans built)
  exact (Array.getElem?_eq_some_iff.mp found).1

theorem known_of_uses (name : String) (type : TypeId) (uses : names.Uses graph name type) :
    type < graph.types.size := by
  rcases uses with announced | ⟨-, definition, -, found⟩
  · obtain ⟨cell, found, -⟩ := loading.cell name type announced
    exact (Array.getElem?_eq_some_iff.mp found).1
  · exact (Array.getElem?_eq_some_iff.mp found).1

theorem described_parts (name : String) (kind : KindDecl) (definition : TypeDef)
    (described : kind.Describes graph (names.Uses graph) names.IsBuilt name definition) :
    ∀ part ∈ definition.kind.parts, part < graph.types.size := by
  intro part among
  cases described with
  | bean declared properties described =>
      obtain ⟨property, member, rfl⟩ := List.mem_map.mp among
      obtain ⟨declaration, type, uses, rfl⟩ := (forall₂_exists _ properties).mp ⟨declared, described.flip⟩ property member
      exact loading.known_of_uses _ _ _ _ declaration.type type uses
  | map key value keyType valueType usesKey usesValue =>
      rcases List.mem_pair.mp among with rfl | rfl
      · exact loading.known_of_uses _ _ _ _ key _ usesKey
      · exact loading.known_of_uses _ _ _ _ value _ usesValue
  | sequence element elementType usesElement =>
      obtain rfl := List.mem_singleton.mp among
      exact loading.known_of_uses _ _ _ _ element _ usesElement
  | union members types primaries standing marked =>
      rcases List.mem_append.mp among with member | chosen
      · obtain ⟨name, built⟩ := (forall₂_exists _ types).mp ⟨members, standing.flip⟩ part member
        exact loading.known_of_built _ _ _ _ name part built
      · -- a primary property is one of a member, whose types are known
        obtain ⟨primary, listed, rfl⟩ := List.mem_map.mp chosen
        obtain ⟨type, found⟩ := (forall₂_exists _ primaries).mp ⟨types, marked.flip⟩ primary listed
        obtain ⟨properties, property, bean, first, rfl⟩ := (TypeGraph.primary_iff _ _ _ _ _).mp found
        refine loading.within type property.type ?_
        rw [(TypeGraph.bean_properties_iff _ _ _).mp bean]
        exact List.mem_map_of_mem (List.mem_of_find?_eq_some first)
  | atomic => cases among
  | any => cases among
  | enumeration values deprecated => cases among
  | integer least most => cases among
  | indexed => cases among

theorem described_extends (later : TypeGraph) (extended : later.Extends graph) (name : String) (kind : KindDecl)
    (definition : TypeDef) (described : kind.Describes graph (names.Uses graph) names.IsBuilt name definition) :
    kind.Describes later (names.Uses later) names.IsBuilt name definition :=
  described.imp _ _ _ _ _ _ later extended _ _ (loading.known_of_uses _ _ _ _)
    (names.uses_extends later graph extended) (fun _ _ built => built)

theorem unbuilt (name : String) (next : ¬ TypeDecl.Declares done name) : names.built? name = none :=
  Option.eq_none_iff_forall_ne_some.mpr fun type built => next (loading.built _ type built)

theorem known_of_announced (name : String) (type : TypeId) (announced : names.reference? name = some type) :
    type < graph.types.size ∧ ∀ cell, (graph.get type).kind = .reference cell → cell < graph.targets.size := by
  obtain ⟨cell, found, bound⟩ := loading.cell name type announced
  refine ⟨(Array.getElem?_eq_some_iff.mp found).1, fun other kind => ?_⟩
  rw [TypeGraph.get_of_found _ _ _ found] at kind
  cases kind
  exact (Array.getElem?_eq_some_iff.mp bound).1

theorem push (definition : TypeDef) (direct : definition.kind.isReference = false)
    (within : ∀ part ∈ definition.kind.parts, part < graph.types.size) :
    Loading all done names { graph with types := graph.types.push definition } := by
  have extended := TypeGraph.extends_push graph definition
  have old (type : TypeId) (cell : Nat) (kind : (({ graph with types := graph.types.push definition } : TypeGraph).get
      type).kind = .reference cell) : (graph.get type).kind = .reference cell := by
    rw [TypeGraph.get_push] at kind
    split at kind
    next => simp [kind, TypeKind.isReference] at direct
    next => exact kind
  constructor
  case announced => exact loading.announced
  case cell =>
    intro name type announced
    obtain ⟨cell, found, bound⟩ := loading.cell name type announced
    exact ⟨cell, extended.types type _ found, bound⟩
  case apart =>
    intro name other type otherType cell first second kind otherKind
    exact loading.apart name other type otherType cell first second (old _ _ kind) (old _ _ otherKind)
  case own => exact fun type cell kind => loading.own type cell (old _ _ kind)
  case within =>
    intro type part among
    rw [TypeGraph.get_push] at among
    rw [Array.size_push]
    split at among
    next => exact Nat.lt_succ_of_lt (within part among)
    next => exact Nat.lt_succ_of_lt (loading.within type part among)
  case built => exact loading.built
  case described =>
    intro declaration among
    obtain ⟨type, description, built, found, described⟩ := loading.described declaration among
    exact ⟨type, description, built, extended.types type _ found,
      loading.described_extends _ _ _ _ _ extended _ _ _ described⟩
  case injective => exact loading.injective

end Loading

theorem TypeNames.reference_cons (names : TypeNames) (name other : String) (type : TypeId) :
    ({ names with references := (name, type) :: names.references } : TypeNames).reference? other =
      if name = other then some type else names.reference? other := by
  by_cases same : name = other <;> simp [reference?, same]

theorem TypeNames.built_cons (names : TypeNames) (name other : String) (type : TypeId) :
    ({ names with built := (name, type) :: names.built } : TypeNames).built? other =
      if name = other then some type else names.built? other := by
  by_cases same : name = other <;> simp [built?, same]

theorem TypeNames.built_keeps (names : TypeNames) (name : String) (type : TypeId) (unbuilt : names.built? name = none)
    (other : String) (found : TypeId) (built : names.built? other = some found) :
    ({ names with built := (name, type) :: names.built } : TypeNames).built? other = some found := by
  have apart : name ≠ other := by
    rintro rfl
    cases unbuilt.symm.trans built
  rw [built_cons, if_neg apart, built]

theorem TypeNames.built_injective (names : TypeNames) (name : String) (type : TypeId)
    (fresh : ∀ name, names.built? name ≠ some type)
    (injective : ∀ first second found, names.built? first = some found → names.built? second = some found →
      first = second) (first second : String) (found : TypeId)
    (built : ({ names with built := (name, type) :: names.built } : TypeNames).built? first = some found)
    (builtSecond : ({ names with built := (name, type) :: names.built } : TypeNames).built? second = some found) :
    first = second := by
  rw [built_cons] at built builtSecond
  split at built
  next same =>
    split at builtSecond
    next sameSecond => exact same.symm.trans sameSecond
    next =>
      obtain rfl := Option.some.inj built
      exact absurd builtSecond (fresh second)
  next =>
    split at builtSecond
    next =>
      obtain rfl := Option.some.inj builtSecond
      exact absurd built (fresh first)
    next => exact injective first second found built builtSecond

theorem Loading.announce (all : List TypeDecl) (names : TypeNames) (graph : TypeGraph)
    (loading : Loading all [] names graph) (declaration : TypeDecl)
    (fresh : ¬ TypeDecl.Declares all declaration.name) :
    Loading (all ++ [declaration]) []
      { names with references := (declaration.name, graph.types.size) :: names.references }
      { types := graph.types.push { name := declaration.name, kind := .reference graph.targets.size }
        targets := graph.targets.push none } := by
  have unbuilt (name : String) : names.built? name = none :=
    loading.unbuilt _ _ _ _ name (by simp [TypeDecl.Declares])
  have get (type : TypeId) : ({
      types := graph.types.push { name := declaration.name, kind := .reference graph.targets.size }
      targets := graph.targets.push none } : TypeGraph).get type =
        if type = graph.types.size then { name := declaration.name, kind := .reference graph.targets.size }
        else graph.get type := graph.get_push _ type
  have old := loading.known_of_announced
  constructor
  case announced =>
    intro name
    rw [TypeNames.reference_cons, TypeDecl.declares_append, TypeDecl.declares_single, ← loading.announced]
    split
    next same => simp [same]
    next other => simp [other]
  case cell =>
    intro name type announced
    rw [TypeNames.reference_cons] at announced
    change ∃ cell, _ ∧ _ = some (names.built? name)
    split at announced
    next same =>
      obtain rfl := Option.some.inj announced
      exact ⟨graph.targets.size, by simp [same], by simpa using (unbuilt name).symm⟩
    next =>
      obtain ⟨cell, found, bound⟩ := loading.cell name type announced
      refine ⟨cell, (TypeGraph.extends_push graph _).types type _ found, ?_⟩
      have inside := (Array.getElem?_eq_some_iff.mp bound).1
      simpa [Array.getElem?_push, Nat.ne_of_lt inside] using bound
  case apart =>
    intro name other type otherType cell first second kind otherKind
    rw [TypeNames.reference_cons] at first second
    rw [get] at kind otherKind
    split at first
    next same =>
      obtain rfl := Option.some.inj first
      rw [if_pos rfl] at kind
      cases kind
      split at second
      next sameOther => exact same.symm.trans sameOther
      next =>
        obtain ⟨inside, bound⟩ := old other otherType second
        rw [if_neg (Nat.ne_of_lt inside)] at otherKind
        exact absurd (bound _ otherKind) (Nat.lt_irrefl _)
    next =>
      obtain ⟨inside, bound⟩ := old name type first
      rw [if_neg (Nat.ne_of_lt inside)] at kind
      split at second
      next =>
        obtain rfl := Option.some.inj second
        rw [if_pos rfl] at otherKind
        cases otherKind
        exact absurd (bound _ kind) (Nat.lt_irrefl _)
      next =>
        rw [if_neg (Nat.ne_of_lt (old other otherType second).1)] at otherKind
        exact loading.apart name other type otherType cell first second kind otherKind
  case own =>
    intro type cell kind
    rw [get] at kind
    split at kind
    next same => exact ⟨declaration.name, by simp [TypeNames.reference_cons, same]⟩
    next =>
      obtain ⟨name, announced⟩ := loading.own type cell kind
      have apart : declaration.name ≠ name := by
        rintro rfl
        exact fresh ((loading.announced _).mp (by simp [announced]))
      exact ⟨name, by simp [TypeNames.reference_cons, apart, announced]⟩
  case within =>
    intro type part among
    rw [get] at among
    rw [Array.size_push]
    split at among
    next => cases among
    next => exact Nat.lt_succ_of_lt (loading.within type part among)
  case built => exact loading.built
  case described => exact List.forall_mem_nil _
  case injective => exact loading.injective

theorem Loading.bind (all done : List TypeDecl) (names : TypeNames) (graph : TypeGraph)
    (loading : Loading all done names graph) (declaration : TypeDecl) (definition : TypeDef) (type reference : TypeId)
    (next : ¬ TypeDecl.Declares done declaration.name) (announced : names.reference? declaration.name = some reference)
    (fresh : ∀ name, names.built? name ≠ some type)
    (found : graph.types[type]? = some (declaration.finish definition))
    (described : declaration.kind.Describes graph (names.Uses graph) names.IsBuilt declaration.name definition) :
    ∃ bound, graph.bind reference type = .ok bound ∧
      Loading all (done ++ [declaration]) { names with built := (declaration.name, type) :: names.built } bound := by
  have unbuilt := loading.unbuilt _ _ _ _ declaration.name next
  obtain ⟨cell, refers, free⟩ := loading.cell declaration.name reference announced
  have kind : (graph.get reference).kind = .reference cell := by rw [graph.get_of_found _ _ refers]
  have binds := (TypeGraph.bind_iff graph _ reference type).mpr
    ⟨cell, kind, by simp [free, unbuilt], rfl⟩
  refine ⟨_, binds, ?_⟩
  have extended := TypeGraph.extends_bind graph _ reference type binds
  have keeps := names.built_keeps declaration.name type unbuilt
  constructor
  case announced => exact loading.announced
  case cell =>
    intro name other refersOther
    obtain ⟨otherCell, foundOther, boundOther⟩ := loading.cell name other refersOther
    refine ⟨otherCell, foundOther, ?_⟩
    rw [TypeNames.built_cons, Array.getElem?_setIfInBounds]
    by_cases same : declaration.name = name
    · subst same
      obtain rfl : reference = other := Option.some.inj (announced.symm.trans refersOther)
      obtain rfl : cell = otherCell := by simpa [refers] using foundOther
      simp [(Array.getElem?_eq_some_iff.mp free).1]
    · have apart : cell ≠ otherCell := by
        rintro rfl
        refine same (loading.apart _ _ reference other cell announced refersOther kind ?_)
        rw [graph.get_of_found _ _ foundOther]
      rw [if_neg apart, if_neg same]
      exact boundOther
  case apart => exact loading.apart
  case own => exact loading.own
  case within => exact loading.within
  case built =>
    intro name other built
    rw [TypeNames.built_cons] at built
    rw [TypeDecl.declares_append, TypeDecl.declares_single]
    split at built
    next same => exact .inr same
    next => exact .inl (loading.built name other built)
  case described =>
    have lasts (kind : KindDecl) (name : String) (description : TypeDef)
        (before : kind.Describes graph (names.Uses graph) names.IsBuilt name description) :=
      before.imp _ _ _ _ _ _ _ extended (names.Uses graph)
        ({ names with built := (declaration.name, type) :: names.built } : TypeNames).IsBuilt
        (loading.known_of_uses _ _ _ _) (fun _ _ uses => uses) keeps
    intro other among
    rcases List.mem_append.mp among with earlier | last
    · obtain ⟨place, description, built, foundOther, before⟩ := loading.described other earlier
      exact ⟨place, description, keeps _ _ built, foundOther, lasts _ _ _ before⟩
    · obtain rfl := List.mem_singleton.mp last
      exact ⟨type, definition, by simp [TypeNames.built_cons], found, lasts _ _ _ described⟩
  case injective => exact names.built_injective declaration.name type fresh loading.injective

end YamlDialects
