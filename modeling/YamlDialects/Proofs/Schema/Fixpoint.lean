import YamlDialects.Proofs.Schema.Closure

/-!
Inference ends. From the root of a dialect, the parts and targets of types lead only to types that are there, to
references that are bound, and to unions in which every primary property has a member. Inference stays among the types
that are reached; what is inferred is no reference, is inferred to be itself, and is a union only where no key is that
of a primary property.
-/

set_option autoImplicit false

namespace YamlDialects

namespace TypeKind

def isPaired : TypeKind → Bool
  | .union members primaries => primaries.length == members.length
  | _ => true

theorem choices_parts (kind : TypeKind) : ∀ choice ∈ kind.choices, choice ∈ kind.parts := by
  intro choice among
  cases kind with
  | union members primaries => exact List.mem_append_left _ among
  | contextual guess shape => exact among
  | _ => cases among

end TypeKind

theorem PropertyDecl.describes_uses (uses : String → TypeId → Prop) (declared : List PropertyDecl)
    (properties : List Property) (made : List.Forall₂ (PropertyDecl.Describes uses) declared properties) :
    ∀ property ∈ properties, ∃ name, uses name property.type := by
  intro property member
  obtain ⟨declaration, type, used, rfl⟩ := (forall₂_exists _ properties).mp ⟨declared, made.flip⟩ property member
  exact ⟨declaration.type, used⟩

namespace Loading

section

variable (all : List TypeDecl) (names : TypeNames) (graph : TypeGraph) (loading : Loading all all names graph)
include loading

theorem uses_no_parts (name : String) (type : TypeId) (uses : names.Uses graph name type) :
    (graph.get type).kind.parts = [] ∧ (graph.get type).kind.isPaired = true := by
  rcases uses with announced | ⟨-, definition, builtin, found⟩
  · obtain ⟨cell, found, -⟩ := loading.cell name type announced
    rw [graph.get_of_found _ _ found]
    exact ⟨rfl, rfl⟩
  · rw [graph.get_of_found _ _ found]
    rcases GraphBuilder.builtin_kind name definition builtin with kind | kind
    · simp [kind, TypeKind.parts, TypeKind.choices, TypeKind.isPaired]
    · simp [kind, TypeKind.parts, TypeKind.choices, TypeKind.isPaired]

theorem built_described (name : String) (type : TypeId) (built : names.IsBuilt name type) :
    ∃ (kind : KindDecl) (definition : TypeDef), (graph.get type).kind = definition.kind ∧
      kind.Describes graph (names.Uses graph) names.IsBuilt name definition := by
  obtain ⟨declaration, among, rfl⟩ := loading.built name type built
  obtain ⟨other, definition, same, found, described⟩ := loading.described declaration among
  obtain rfl : other = type := Option.some.inj (same.symm.trans built)
  exact ⟨declaration.kind, definition, by rw [graph.get_of_found _ _ found]; rfl, described⟩

theorem built_bean_uses (name : String) (type : TypeId) (properties : List Property) (built : names.IsBuilt name type)
    (bean : (graph.get type).kind = .bean properties) :
    ∀ property ∈ properties, ∃ other, names.Uses graph other property.type := by
  obtain ⟨kind, definition, same, described⟩ := loading.built_described _ _ _ name type built
  rw [bean] at same
  cases described with
  | bean declared made described =>
      obtain rfl := TypeKind.bean.inj same
      exact PropertyDecl.describes_uses _ declared properties described
  | _ => cases same

theorem built_parts_stand (name : String) (type : TypeId) (built : names.IsBuilt name type) :
    ∀ part ∈ (graph.get type).kind.parts, ∃ other, names.Uses graph other part ∨ names.IsBuilt other part := by
  obtain ⟨kind, definition, same, described⟩ := loading.built_described _ _ _ name type built
  intro part among
  rw [same] at among
  cases described with
  | bean declared properties described =>
      obtain ⟨property, member, rfl⟩ := List.mem_map.mp among
      obtain ⟨other, uses⟩ := PropertyDecl.describes_uses _ declared properties described property member
      exact ⟨other, .inl uses⟩
  | map key value keyType valueType usesKey usesValue =>
      rcases List.mem_pair.mp among with rfl | rfl
      · exact ⟨key, .inl usesKey⟩
      · exact ⟨value, .inl usesValue⟩
  | sequence element elementType usesElement =>
      obtain rfl := List.mem_singleton.mp among
      exact ⟨element, .inl usesElement⟩
  | union members types primaries standing marked =>
      have stands : ∀ type ∈ types, ∃ other, names.IsBuilt other type :=
        (forall₂_exists _ types).mp ⟨members, standing.flip⟩
      rcases List.mem_append.mp among with member | chosen
      · obtain ⟨other, builtMember⟩ := stands part member
        exact ⟨other, .inr builtMember⟩
      · -- a primary property is one of a member, and that is a bean that has been built
        obtain ⟨primary, listed, rfl⟩ := List.mem_map.mp chosen
        obtain ⟨member, ⟨name, builtMember⟩, found⟩ := (forall₂_exists _ primaries).mp
          ⟨types, ((List.forall₂_and_left _ _).mpr ⟨stands, marked⟩).flip⟩ primary listed
        obtain ⟨properties, property, bean, first, rfl⟩ := (TypeGraph.primary_iff _ _ _ _ _).mp found
        obtain ⟨other, uses⟩ := loading.built_bean_uses _ _ _ name member properties builtMember
          ((graph.bean_properties_iff _ _).mp bean) property (List.mem_of_find?_eq_some first)
        exact ⟨other, .inl uses⟩
  | _ => cases among

theorem built_paired (name : String) (type : TypeId) (built : names.IsBuilt name type) :
    (graph.get type).kind.isPaired = true := by
  obtain ⟨kind, definition, same, described⟩ := loading.built_described _ _ _ name type built
  rw [same]
  cases described with
  | union members types primaries standing marked => exact beq_iff_eq.mpr marked.length_eq.symm
  | _ => rfl

theorem reaches_stands (root type : TypeId) (found : ∃ name, names.Uses graph name root ∨ names.IsBuilt name root)
    (reached : graph.Reaches root type) : ∃ name, names.Uses graph name type ∨ names.IsBuilt name type := by
  induction reached with
  | root => exact found
  | part type part reached among ih =>
      obtain ⟨name, uses | built⟩ := ih
      · rw [(loading.uses_no_parts _ _ _ name type uses).1] at among
        cases among
      · exact loading.built_parts_stand _ _ _ name type built part among
  | target type target cell reached kind bound ih =>
      obtain ⟨name, other, -, built, same⟩ := loading.reference_target _ _ _ type cell kind
      obtain rfl : other = target := Option.some.inj (same.symm.trans bound)
      exact ⟨name, .inr built⟩

theorem reaches_paired (root type : TypeId) (found : ∃ name, names.Uses graph name root ∨ names.IsBuilt name root)
    (reached : graph.Reaches root type) : (graph.get type).kind.isPaired = true := by
  obtain ⟨name, uses | built⟩ := loading.reaches_stands _ _ _ root type found reached
  · exact (loading.uses_no_parts _ _ _ name type uses).2
  · exact loading.built_paired _ _ _ name type built

end

end Loading

namespace TypeGraph

def isBound (graph : TypeGraph) : TypeKind → Bool
  | .reference cell => (graph.targets.getD cell none).isSome
  | _ => true

-- The type is there, and so is what it leads to.
structure IsWhole (graph : TypeGraph) (type : TypeId) : Prop where
  known : type < graph.types.size
  bound : graph.isBound (graph.get type).kind = true
  paired : (graph.get type).kind.isPaired = true

instance (graph : TypeGraph) (type : TypeId) : Decidable (graph.IsWhole type) :=
  decidable_of_iff (type < graph.types.size ∧ graph.isBound (graph.get type).kind = true ∧
      (graph.get type).kind.isPaired = true)
    ⟨fun ⟨known, bound, paired⟩ => ⟨known, bound, paired⟩, fun whole => ⟨whole.known, whole.bound, whole.paired⟩⟩

theorem reaches_whole (graph : TypeGraph) (settled : graph.Settled)
    (whole : ∀ type < graph.types.size, graph.IsWhole type ∧ ∀ part ∈ (graph.get type).kind.parts, part < graph.types.size)
    (root type : TypeId) (known : root < graph.types.size) (reached : graph.Reaches root type) : graph.IsWhole type := by
  induction reached with
  | root => exact (whole root known).1
  | part type part reached among ih => exact (whole part ((whole type ih.known).2 part among)).1
  | target type target cell reached kind bound ih =>
      have member : some target ∈ graph.targets := by
        rw [Array.getD_eq_getD_getElem?] at bound
        cases found : graph.targets[cell]? with
        | none => simp [found] at bound
        | some other =>
            obtain rfl : other = some target := by simpa [found] using bound
            exact Array.mem_of_getElem? found
      obtain ⟨definition, found, -⟩ := (has_iff _ _ _).mp (settled.targets _ member target rfl)
      exact (whole target (Array.getElem?_eq_some_iff.mp found).1).1

end TypeGraph

theorem DialectDecl.reaches_whole (declaration : DialectDecl) (compile : String → Option Pattern) (dialect : Dialect)
    (loaded : declaration.dialect compile = .ok dialect) (type : TypeId)
    (reached : dialect.graph.Reaches dialect.root type) : dialect.graph.IsWhole type := by
  obtain ⟨root, graph, files, runs, -, rfl⟩ := (declaration.dialect_iff compile dialect).mp loaded
  obtain ⟨names, loading, found⟩ := declaration.types_yield.leads _ _ _ _ _ root runs
  have stands : ∃ name, names.Uses graph name root ∨ names.IsBuilt name root := by
    rcases found with built | ⟨-, uses⟩
    · exact ⟨_, .inr built⟩
    · exact ⟨_, .inl uses⟩
  constructor
  case known =>
    obtain ⟨name, uses | built⟩ := loading.reaches_stands _ _ _ root type stands reached
    · exact loading.known_of_uses _ _ _ _ name type uses
    · exact loading.known_of_built _ _ _ _ name type built
  case bound =>
    cases kind : (graph.get type).kind with
    | reference cell =>
        obtain ⟨_, target, -, -, bound⟩ := loading.reference_target _ _ _ type cell kind
        simp only [TypeGraph.isBound, bound, Option.isSome_some]
    | _ => rfl
  case paired => exact loading.reaches_paired _ _ _ root type stands reached

theorem Workflows.graph_whole (root : TypeId) (graph : TypeGraph) (built : Workflows.document.run {} = .ok (root, graph)) :
    root < graph.types.size ∧ ∀ type < graph.types.size,
      graph.IsWhole type ∧ ∀ part ∈ (graph.get type).kind.parts, part < graph.types.size := by
  have check : (Workflows.document.run {}).toOption.all (fun result => decide (result.1 < result.2.types.size ∧
      ∀ type < result.2.types.size, result.2.IsWhole type ∧
        ∀ part ∈ (result.2.get type).kind.parts, part < result.2.types.size)) = true := by decide +kernel
  simpa [built, Except.toOption] using check

theorem Workflows.reaches_whole (compile : String → Option Pattern) (dialect : Dialect)
    (loaded : Workflows.dialect compile = .ok dialect) (type : TypeId)
    (reached : dialect.graph.Reaches dialect.root type) : dialect.graph.IsWhole type := by
  obtain ⟨result, built, rest⟩ := SchemaError.bind_ok _ _ _ loaded
  obtain ⟨files, -, same⟩ := SchemaError.bind_ok _ _ _ rest
  cases same
  obtain ⟨known, whole⟩ := graph_whole result.1 result.2 built
  exact result.2.reaches_whole (graph_settled result.1 result.2 built) whole result.1 type known reached

theorem Dialect.reaches_whole (dialect : Dialect) (served : dialect.IsServed) (type : TypeId)
    (reached : dialect.graph.Reaches dialect.root type) : dialect.graph.IsWhole type := by
  obtain ⟨compile, ⟨declaration, loaded⟩ | builtin⟩ := served
  · exact declaration.reaches_whole compile dialect loaded type reached
  · exact Workflows.reaches_whole compile dialect builtin type reached

namespace Schema

section

variable (schema : Schema) (root : TypeId)

theorem resolve_within_reaches (steps : Nat) (type : TypeId) (reached : schema.graph.Reaches root type) :
    schema.graph.Reaches root (schema.resolveWithin steps type) := by
  induction steps generalizing type with
  | zero => exact reached
  | succ steps ih =>
      rw [resolveWithin]
      cases leads : schema.target? type with
      | none => exact reached
      | some target =>
          cases kind : (schema.graph.get type).kind with
          | reference cell =>
              refine ih target (.target type target cell reached kind ?_)
              simpa [target?, kind] using leads
          | _ => simp [target?, kind] at leads

theorem infer_within_reaches (context : SchemaContext) (steps : Nat) (type : TypeId)
    (reached : schema.graph.Reaches root type) : schema.graph.Reaches root (schema.inferWithin context steps type) := by
  induction steps generalizing type with
  | zero => exact reached
  | succ steps ih =>
      rw [inferWithin]
      cases chosen : schema.choice? context type with
      | none => exact reached
      | some choice =>
          have among := TypeKind.choices_parts _ choice (choice_mem schema context type choice chosen)
          have further := schema.resolve_within_reaches root maxSteps choice (.part type choice reached among)
          simp only [Option.map_some]
          split
          next => exact reached
          next => exact ih _ further

theorem infer_reaches (type : TypeId) (context : SchemaContext) (reached : schema.graph.Reaches root type) :
    schema.graph.Reaches root (schema.infer type context) :=
  schema.infer_within_reaches root context maxSteps _ (schema.resolve_within_reaches root maxSteps type reached)

end

section

variable (schema : Schema) (type : TypeId) (whole : schema.graph.IsWhole type)
include whole

theorem direct_of_no_target (ended : schema.target? type = none) : (schema.graph.get type).kind.isReference = false := by
  cases kind : (schema.graph.get type).kind with
  | reference cell =>
      have bound := whole.bound
      rw [kind, TypeGraph.isBound] at bound
      simp only [target?, kind] at ended
      rw [ended] at bound
      cases bound
  | _ => rfl

theorem undecided_union (context : SchemaContext) (members : List TypeId) (primaries : List Property)
    (kind : (schema.graph.get type).kind = .union members primaries) (none : schema.choice? context type = none) :
    ∀ primary ∈ primaries, schema.isChosen context primary = false := by
  have paired := whole.paired
  rw [kind] at paired
  have sameLength : primaries.length = members.length := beq_iff_eq.mp paired
  simp only [choice?, kind, Option.map_eq_none_iff, List.find?_eq_none] at none
  intro primary listed
  rw [← List.map_snd_zip (Nat.le_of_eq sameLength)] at listed
  obtain ⟨⟨member, _⟩, among, rfl⟩ := List.mem_map.mp listed
  exact Bool.eq_false_iff.mpr (none _ among)

end

theorem not_chosen_iff (schema : Schema) (context : SchemaContext) (primary : Property) :
    schema.isChosen context primary = false ↔ primary.name ∉ context.definedKeys ∧
      (schema.options.relaxedNames = true →
        ∀ key ∈ context.definedKeys, Names.canonical primary.name ≠ Names.canonical key) := by
  simp only [isChosen, List.any_eq_false, Bool.or_eq_true, Bool.and_eq_true, beq_iff_eq, not_or, not_and]
  constructor
  · intro apart
    exact ⟨fun defined => (apart _ defined).1 rfl, fun relaxed key defined => (apart key defined).2 relaxed⟩
  · rintro ⟨undefined, canonical⟩ key defined
    exact ⟨fun same => undefined (same ▸ defined), fun relaxed => canonical relaxed key defined⟩

-- Where inference ends, whatever the context says.
theorem infer_ends (dialect : Dialect) (served : dialect.IsServed) (type : TypeId)
    (reached : dialect.graph.Reaches dialect.root type) (options : SchemaOptions) (index : Option PropertyIndex)
    (context : SchemaContext) :
    let schema := dialect.schema options index
    let inferred := schema.infer type context
    (∃ definition, dialect.graph.types[inferred]? = some definition ∧ definition.kind.isReference = false) ∧
      schema.infer inferred context = inferred ∧
        ∀ members primaries, (dialect.graph.get inferred).kind = .union members primaries →
          ∀ primary ∈ primaries, primary.name ∉ context.definedKeys ∧
            (options.relaxedNames = true →
              ∀ key ∈ context.definedKeys, Names.canonical primary.name ≠ Names.canonical key) := by
  intro schema inferred
  have settled : schema.graph.Settled := dialect.served_settled served
  have whole : schema.graph.IsWhole inferred :=
    dialect.reaches_whole served inferred (schema.infer_reaches dialect.root type context reached)
  have stable : schema.IsStable inferred context := schema.infer_is_stable settled type context
  refine ⟨⟨_, Array.getElem?_eq_getElem whole.known, ?_⟩, schema.infer_infer settled type context,
    fun members primaries kind primary listed => ?_⟩
  · have direct := schema.direct_of_no_target inferred whole stable.followed
    rwa [schema.graph.get_of_found inferred _ (Array.getElem?_eq_getElem whole.known)] at direct
  · have unchosen := schema.undecided_union inferred whole context members primaries kind stable.chosen primary listed
    exact (schema.not_chosen_iff context primary).mp unchosen

-- The root is a union, of which a member refers to the root again.
def orchard : String :=
  "name: orchard\nroot: Tree\ntypes:\n- \x7bname: Leaf, kind: bean, properties: [\x7bname: value, type: string\x7d]\x7d\n"
    ++ "- \x7bname: Fork, kind: bean, properties: [\x7bname: left, type: Tree\x7d]\x7d\n"
    ++ "- \x7bname: Tree, kind: union, members: [Leaf, Fork]\x7d\n"

-- A reference behind the root stays a union where a key is none of its primary ones.
theorem infer_ends_orchard : ∃ dialect, Dialect.ofText orchard = .ok dialect ∧
    ∃ fork type, fork ∈ (dialect.graph.get dialect.root).kind.parts ∧ type ∈ (dialect.graph.get fork).kind.parts ∧
      (dialect.graph.get type).kind.isReference = true ∧
        let schema := dialect.schema {} none
        let inferred := schema.infer type { extra := ["lift"] }
        ∃ members primaries, (dialect.graph.get inferred).kind = .union members primaries ∧
          primaries.map (·.name) = ["value", "left"] ∧ schema.infer inferred { extra := ["lift"] } = inferred ∧
            ∀ primary ∈ primaries, primary.name ∉ ({ extra := ["lift"] } : SchemaContext).definedKeys := by
  have check : ((Dialect.ofText orchard).toOption.any fun dialect =>
      (dialect.graph.get dialect.root).kind.parts.contains 5 && (dialect.graph.get 5).kind.parts.contains 2 &&
        (dialect.graph.get 2).kind.isReference &&
          match (dialect.graph.get ((dialect.schema {} none).infer 2 { extra := ["lift"] })).kind with
          | .union _ primaries => primaries.map (·.name) == ["value", "left"]
          | _ => false) = true := by decide +kernel
  obtain ⟨dialect, loaded, holds⟩ := SchemaError.ok_of_any _ _ check
  simp only [Bool.and_eq_true, List.contains_iff_mem] at holds
  obtain ⟨⟨⟨among, part⟩, reference⟩, union⟩ := holds
  refine ⟨dialect, loaded, 5, 2, among, part, reference, ?_⟩
  have ends := infer_ends dialect (dialect.served_of_text orchard loaded) 2 (.part 5 2 (.part dialect.root 5 .root among) part) {} none
    { extra := ["lift"] }
  split at union
  next members primaries kind =>
    refine ⟨members, primaries, kind, beq_iff_eq.mp union, ends.2.1, fun primary listed => ?_⟩
    exact (ends.2.2 members primaries kind primary listed).1
  next => cases union

end Schema
end YamlDialects
