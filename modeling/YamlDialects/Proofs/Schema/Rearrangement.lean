import YamlDialects.Proofs.Schema.Closure

/-!
The order of type declarations. A step leads from a type to one that it is made of. Where a relation between the types
of two graphs lets the definitions of related types differ in related types only, related types are alike after any
number of steps. Two graphs that were loaded from the same declarations in two orders have their types at different
places, and as many built-in types as each has uses for; what a name leads to in the one is then related to what it
leads to in the other.
-/

set_option autoImplicit false

namespace YamlDialects

section

variable {α β : Type} (relation : α → β → Prop) (first : List α) (second : List β)
  (related : List.Forall₂ relation first second)
include related

theorem forall₂_position (position : Nat) : Option.Rel relation first[position]? second[position]? := by
  induction related generalizing position with
  | nil => exact .none
  | cons head tail ih =>
      cases position with
      | zero => exact .some head
      | succ position => exact ih position

theorem forall₂_find (test : α → Bool) (otherTest : β → Bool)
    (same : ∀ item other, relation item other → test item = otherTest other) :
    Option.Rel relation (first.find? test) (second.find? otherTest) := by
  induction related with
  | nil => exact .none
  | cons head tail ih =>
      rw [List.find?_cons, List.find?_cons, same _ _ head]
      split
      next => exact .some head
      next => exact ih

end

theorem option_rel_or {α β : Type} (relation : α → β → Prop) (first more : Option α) (second further : Option β)
    (related : Option.Rel relation first second) (relatedMore : Option.Rel relation more further) :
    Option.Rel relation (first.or more) (second.or further) := by
  cases related with
  | some same => exact .some same
  | none => exact relatedMore

structure Property.Alike (related : TypeId → TypeId → Prop) (property other : Property) : Prop where
  type : related property.type other.type
  rest : { property with type := other.type } = other

namespace Property.Alike

variable (related : TypeId → TypeId → Prop) (property other : Property) (alike : property.Alike related other)
include alike

theorem name : property.name = other.name :=
  (congrArg Property.name alike.rest :)

theorem is_named (key : String) : property.isNamed key = other.isNamed key :=
  (congrArg (Property.isNamed · key) alike.rest :)

end Property.Alike

-- Two kinds that differ at most in the types that they are made of, which are related one by one. The kind of a type
-- with a declaration is neither a reference nor chosen from the context.
inductive TypeKind.Alike (related : TypeId → TypeId → Prop) : TypeKind → TypeKind → Prop
  | atomic : Alike related .atomic .atomic
  | any : Alike related .any .any
  | map (key otherKey value otherValue : TypeId) (keys : related key otherKey) (values : related value otherValue) :
      Alike related (.map key value) (.map otherKey otherValue)
  | bean (properties others : List Property) (alike : List.Forall₂ (Property.Alike related) properties others) :
      Alike related (.bean properties) (.bean others)
  | sequence (element other : TypeId) (elements : related element other) :
      Alike related (.sequence element) (.sequence other)
  | union (members otherMembers : List TypeId) (primaries others : List Property)
      (same : List.Forall₂ related members otherMembers)
      (alike : List.Forall₂ (Property.Alike related) primaries others) :
      Alike related (.union members primaries) (.union otherMembers others)

structure TypeDef.Alike (related : TypeId → TypeId → Prop) (definition other : TypeDef) : Prop where
  kind : definition.kind.Alike related other.kind
  rest : { definition with kind := other.kind } = other

theorem Property.Alike.imp (related weaker : TypeId → TypeId → Prop) (weakens : ∀ type other, related type other →
    weaker type other) (property other : Property) (alike : property.Alike related other) : property.Alike weaker other :=
  ⟨weakens _ _ alike.type, alike.rest⟩

theorem TypeKind.Alike.imp (related weaker : TypeId → TypeId → Prop) (weakens : ∀ type other, related type other →
    weaker type other) (kind other : TypeKind) (alike : kind.Alike related other) : kind.Alike weaker other := by
  have properties := Property.Alike.imp related weaker weakens
  cases alike with
  | atomic => exact .atomic
  | any => exact .any
  | map key otherKey value otherValue keys values => exact .map _ _ _ _ (weakens _ _ keys) (weakens _ _ values)
  | bean own others alike => exact .bean _ _ (alike.imp properties)
  | sequence element other elements => exact .sequence _ _ (weakens _ _ elements)
  | union members otherMembers primaries others same alike =>
      exact .union _ _ _ _ (same.imp weakens) (alike.imp properties)

-- A step from a type: to a property that a key names or that stands at a position, to the keys or values of a map, to
-- the items of a sequence, or to a member of a union.
inductive TypeStep where
  | named (key : String)
  | property (position : Nat)
  | key
  | value
  | element
  | member (position : Nat)

namespace Schema

def step? (schema : Schema) (type : TypeId) : TypeStep → Option TypeId
  | .named key => (schema.property? type key).map (·.type)
  | .property position => (schema.properties type)[position]?.map (·.type)
  | .key => schema.keyType? type
  | .value => schema.domain? type
  | .element => schema.element? type
  | .member position => (schema.members type)[position]?

def follow? (schema : Schema) (type : TypeId) : List TypeStep → Option TypeId
  | [] => some type
  | step :: rest => (schema.step? type step).bind fun next => schema.follow? next rest

-- Two types that are the same but for the types that they are made of.
structure LooksLike (schema other : Schema) (type otherType : TypeId) : Prop where
  ownName : schema.ownName type = other.ownName otherType
  niceName : schema.niceName type = other.niceName otherType
  kind : (schema.kind type).Alike (fun _ _ => True) (other.kind otherType)
  hints : ∀ context, schema.hints type context = other.hints otherType context
  constraints : schema.constraints type = other.constraints otherType
  fault : ∀ value, schema.fault? type value = other.fault? otherType value

structure Bisimulates (schema other : Schema) (related : TypeId → TypeId → Prop) : Prop where
  options : schema.options = other.options
  index : schema.index = other.index
  ownName : ∀ type otherType, related type otherType → schema.ownName type = other.ownName otherType
  definition : ∀ type otherType, related type otherType →
    (schema.definition type).Alike related (other.definition otherType)

namespace Bisimulates

variable (schema other : Schema) (related : TypeId → TypeId → Prop) (bisimulates : schema.Bisimulates other related)
  (type otherType : TypeId) (alike : related type otherType)
include bisimulates alike

theorem kind : (schema.kind type).Alike related (other.kind otherType) :=
  (bisimulates.definition type otherType alike).kind

theorem looks_like : schema.LooksLike other type otherType := by
  have rest := (bisimulates.definition type otherType alike).rest
  have hints : (schema.definition type).hints = _ := (congrArg TypeDef.hints rest :)
  have source : (schema.definition type).hintSource = _ := (congrArg TypeDef.hintSource rest :)
  have rule : schema.rule? type = other.rule? otherType := (congrArg TypeDef.rule rest :)
  exact {
    ownName := bisimulates.ownName type otherType alike
    niceName := (congrArg TypeDef.name rest :)
    kind := (bisimulates.kind _ _ _ type otherType alike).imp _ _ (fun _ _ _ => trivial)
    hints := fun context => by simp only [Schema.hints, hints, source, bisimulates.index]
    constraints := (congrArg TypeDef.constraints rest :)
    fault := fun value => by simp only [fault?, rule, bisimulates.index] }

theorem properties : List.Forall₂ (Property.Alike related) (schema.properties type) (other.properties otherType) := by
  have kinds := bisimulates.kind _ _ _ type otherType alike
  unfold Schema.properties
  generalize schema.kind type = own, other.kind otherType = more at kinds ⊢
  cases kinds with
  | bean properties others alike => exact alike
  | union members otherMembers primaries others same alike => exact alike
  | _ => exact .nil

theorem property (key : String) :
    Option.Rel (Property.Alike related) (schema.property? type key) (other.property? otherType key) := by
  have properties := bisimulates.properties _ _ _ type otherType alike
  have name (own more : Property) (same : own.Alike related more) := same.name
  unfold property?
  refine option_rel_or _ _ _ _ _ (forall₂_find _ _ _ properties _ _ fun own more same => by rw [name own more same])
    (option_rel_or _ _ _ _ _ (forall₂_find _ _ _ properties _ _ fun own more same => same.is_named _ _ _ key) ?_)
  unfold relaxedProperty?
  rw [bisimulates.options]
  split
  next => exact forall₂_find _ _ _ properties _ _ fun own more same => by rw [name own more same]
  next => exact .none

theorem step (step : TypeStep) : Option.Rel related (schema.step? type step) (other.step? otherType step) := by
  have kinds := bisimulates.kind _ _ _ type otherType alike
  have types (own : Option Property) (more : Option Property) (same : Option.Rel (Property.Alike related) own more) :
      Option.Rel related (own.map (·.type)) (more.map (·.type)) := by
    cases same with
    | some same => exact .some same.type
    | none => exact .none
  cases step with
  | named key => exact types _ _ (bisimulates.property _ _ _ type otherType alike key)
  | property position =>
      exact types _ _ (forall₂_position _ _ _ (bisimulates.properties _ _ _ type otherType alike) position)
  | key =>
      simp only [step?, keyType?]
      generalize schema.kind type = own, other.kind otherType = more at kinds ⊢
      cases kinds with
      | map key otherKey value otherValue keys values => exact .some keys
      | _ => exact .none
  | value =>
      simp only [step?, domain?]
      generalize schema.kind type = own, other.kind otherType = more at kinds ⊢
      cases kinds with
      | map key otherKey value otherValue keys values => exact .some values
      | sequence element other elements => exact .some elements
      | _ => exact .none
  | element =>
      simp only [step?, element?]
      generalize schema.kind type = own, other.kind otherType = more at kinds ⊢
      cases kinds with
      | sequence element other elements => exact .some elements
      | _ => exact .none
  | member position =>
      simp only [step?, members]
      generalize schema.kind type = own, other.kind otherType = more at kinds ⊢
      cases kinds with
      | union members otherMembers primaries others same alike => exact forall₂_position _ _ _ same position
      | _ => exact .none

theorem follow (steps : List TypeStep) :
    Option.Rel related (schema.follow? type steps) (other.follow? otherType steps) := by
  induction steps generalizing type otherType with
  | nil => exact .some alike
  | cons step rest ih =>
      have next := bisimulates.step _ _ _ type otherType alike step
      unfold follow?
      cases taken : schema.step? type step <;> cases otherTaken : other.step? otherType step <;>
        rw [taken, otherTaken] at next
      case none.none => exact .none
      case some.some =>
        cases next with
        | some same => exact ih _ _ same
      all_goals cases next

theorem looks_like_along (steps : List TypeStep) :
    Option.Rel (schema.LooksLike other) (schema.follow? type steps) (other.follow? otherType steps) := by
  have follows := bisimulates.follow _ _ _ type otherType alike steps
  generalize schema.follow? type steps = reached, other.follow? otherType steps = otherReached at follows ⊢
  cases follows with
  | some same => exact .some (bisimulates.looks_like _ _ _ _ _ same)
  | none => exact .none

end Bisimulates
end Schema

section

variable {α β γ : Type}

theorem forall₂_join (first : α → β → Prop) (second : α → γ → Prop) (items : List α) (values : List β) (others : List γ)
    (related : List.Forall₂ first items values) (relatedOthers : List.Forall₂ second items others) :
    List.Forall₂ (fun value other => ∃ item, first item value ∧ second item other) values others := by
  induction related generalizing others with
  | nil =>
      cases relatedOthers with
      | nil => exact .nil
  | cons head tail ih =>
      cases relatedOthers with
      | cons otherHead otherTail => exact .cons ⟨_, head, otherHead⟩ (ih _ otherTail)

theorem forall₂_any (relation : α → β → Prop) (items : List α) (others : List β)
    (related : List.Forall₂ relation items others) (test : α → Bool) (otherTest : β → Bool)
    (same : ∀ item other, relation item other → test item = otherTest other) :
    items.any test = others.any otherTest := by
  induction related with
  | nil => rfl
  | cons head tail ih => rw [List.any_cons, List.any_cons, same _ _ head, ih]

end

theorem Schema.definition_of_direct (schema : Schema) (type : TypeId) (definition : TypeDef)
    (found : schema.graph.types[type]? = some definition) (direct : definition.kind.isReference = false) :
    schema.definition type = definition := by
  have get := schema.graph.get_of_found _ _ found
  have stays := schema.resolve_of_no_target type (schema.no_target_of_direct type (by simp [get, direct]))
  rw [Schema.definition, stays, get]

structure Reloading (all others : List TypeDecl) (names otherNames : TypeNames) (graph other : TypeGraph) : Prop where
  loading : Loading all all names graph
  reloading : Loading others others otherNames other
  same : ∀ declaration, declaration ∈ all ↔ declaration ∈ others

def TypeNames.SameUse (names otherNames : TypeNames) (graph other : TypeGraph) (type otherType : TypeId) : Prop :=
  ∃ name, names.Uses graph name type ∧ otherNames.Uses other name otherType

def TypeNames.SameBuilt (names otherNames : TypeNames) (type otherType : TypeId) : Prop :=
  ∃ name, names.IsBuilt name type ∧ otherNames.IsBuilt name otherType

def TypeNames.SameName (names otherNames : TypeNames) (graph other : TypeGraph) (type otherType : TypeId) : Prop :=
  names.SameUse otherNames graph other type otherType ∨ names.SameBuilt otherNames type otherType

theorem TypeNames.properties_alike (names otherNames : TypeNames) (graph other : TypeGraph)
    (declared : List PropertyDecl) (properties more : List Property)
    (described : List.Forall₂ (PropertyDecl.Describes (names.Uses graph)) declared properties)
    (describedMore : List.Forall₂ (PropertyDecl.Describes (otherNames.Uses other)) declared more) :
    List.Forall₂ (Property.Alike (names.SameName otherNames graph other)) properties more := by
  refine (forall₂_join _ _ _ _ _ described describedMore).imp ?_
  rintro _ _ ⟨declaration, ⟨type, uses, rfl⟩, ⟨otherType, otherUses, rfl⟩⟩
  exact ⟨.inl ⟨declaration.type, uses, otherUses⟩, rfl⟩

namespace Reloading

variable (all others : List TypeDecl) (names otherNames : TypeNames)

section

variable (graph other : TypeGraph) (reloading : Reloading all others names otherNames graph other)
include reloading

theorem declares_iff (name : String) : TypeDecl.Declares all name ↔ TypeDecl.Declares others name := by
  simp only [TypeDecl.Declares, reloading.same]

theorem built_of_declared (name : String) (declared : TypeDecl.Declares all name) : ∃ target otherTarget,
    names.built? name = some target ∧ otherNames.built? name = some otherTarget := by
  obtain ⟨declaration, among, rfl⟩ := declared
  obtain ⟨target, _, built, -⟩ := reloading.loading.described declaration among
  obtain ⟨otherTarget, _, otherBuilt, -⟩ :=
    reloading.reloading.described declaration ((reloading.same declaration).mp among)
  exact ⟨target, otherTarget, built, otherBuilt⟩

theorem built_described (type otherType : TypeId) (built : names.SameBuilt otherNames type otherType) :
    ∃ (declaration : TypeDecl) (definition otherDefinition : TypeDef),
      graph.types[type]? = some (declaration.finish definition) ∧
      other.types[otherType]? = some (declaration.finish otherDefinition) ∧
      declaration.kind.Describes graph (names.Uses graph) names.IsBuilt declaration.name definition ∧
      declaration.kind.Describes other (otherNames.Uses other) otherNames.IsBuilt declaration.name otherDefinition := by
  obtain ⟨name, first, second⟩ := built
  obtain ⟨declaration, among, rfl⟩ := reloading.loading.built name type first
  obtain ⟨own, definition, builtOwn, found, described⟩ := reloading.loading.described declaration among
  obtain ⟨more, otherDefinition, builtMore, otherFound, otherDescribed⟩ :=
    reloading.reloading.described declaration ((reloading.same declaration).mp among)
  obtain rfl : own = type := Option.some.inj (builtOwn.symm.trans first)
  obtain rfl : more = otherType := Option.some.inj (builtMore.symm.trans second)
  exact ⟨declaration, definition, otherDefinition, found, otherFound, described, otherDescribed⟩

theorem built_unique (type otherType more otherMore : TypeId) (built : names.SameBuilt otherNames type otherType)
    (builtMore : names.SameBuilt otherNames more otherMore) : type = more ↔ otherType = otherMore := by
  obtain ⟨name, first, second⟩ := built
  obtain ⟨nameMore, firstMore, secondMore⟩ := builtMore
  constructor
  · rintro rfl
    obtain rfl := reloading.loading.injective _ _ type first firstMore
    exact Option.some.inj (second.symm.trans secondMore)
  · rintro rfl
    obtain rfl := reloading.reloading.injective _ _ otherType second secondMore
    exact Option.some.inj (first.symm.trans firstMore)

theorem uses_cases (type otherType : TypeId) (uses : names.SameUse otherNames graph other type otherType) :
    (∃ name, names.reference? name = some type ∧ otherNames.reference? name = some otherType) ∨
      ∃ name definition, GraphBuilder.builtin? name = some definition ∧ graph.types[type]? = some definition ∧
        other.types[otherType]? = some definition := by
  obtain ⟨name, first, second⟩ := uses
  have announced : (names.reference? name).isSome ↔ (otherNames.reference? name).isSome := by
    rw [reloading.loading.announced, reloading.reloading.announced, reloading.declares_iff]
  rcases first with found | ⟨unknown, definition, builtin, found⟩ <;>
    rcases second with otherFound | ⟨otherUnknown, otherDefinition, otherBuiltin, otherFound⟩
  · exact .inl ⟨name, found, otherFound⟩
  · simp [found, otherUnknown] at announced
  · simp [unknown, otherFound] at announced
  · obtain rfl := Option.some.inj (builtin.symm.trans otherBuiltin)
    exact .inr ⟨name, definition, builtin, found, otherFound⟩

theorem uses_name (type otherType : TypeId) (uses : names.SameUse otherNames graph other type otherType) :
    graph.name type = other.name otherType := by
  rcases reloading.uses_cases _ _ _ _ _ _ type otherType uses with
    ⟨name, found, otherFound⟩ | ⟨_, _, _, found, otherFound⟩
  · obtain ⟨cell, refers, -⟩ := reloading.loading.cell name type found
    obtain ⟨otherCell, otherRefers, -⟩ := reloading.reloading.cell name otherType otherFound
    rw [TypeGraph.name, TypeGraph.name, graph.get_of_found _ _ refers, other.get_of_found _ _ otherRefers]
  · rw [TypeGraph.name, TypeGraph.name, graph.get_of_found _ _ found, other.get_of_found _ _ otherFound]

theorem bean_properties (type otherType : TypeId) (built : names.SameBuilt otherNames type otherType) :
    Option.Rel (List.Forall₂ (Property.Alike (names.SameName otherNames graph other)))
      (graph.beanProperties? type) (other.beanProperties? otherType) := by
  obtain ⟨declaration, definition, otherDefinition, found, otherFound, described, otherDescribed⟩ :=
    reloading.built_described _ _ _ _ _ _ type otherType built
  unfold TypeGraph.beanProperties?
  rw [graph.get_of_found _ _ found, other.get_of_found _ _ otherFound]
  generalize declaration.kind = kind at described otherDescribed
  cases described with
  | bean declared properties first =>
      cases otherDescribed with
      | bean _ more second => exact .some (names.properties_alike _ _ _ declared properties more first second)
  | _ =>
      cases otherDescribed
      exact .none

section

variable (types otherTypes : List TypeId) (members : List.Forall₂ (names.SameBuilt otherNames) types otherTypes)
  (type otherType : TypeId) (built : names.SameBuilt otherNames type otherType)
include members built

theorem is_shared (key : String) : graph.isShared types type key = other.isShared otherTypes otherType key := by
  refine forall₂_any _ _ _ members _ _ fun own more ownBuilt => ?_
  have apart : (own != type) = (more != otherType) := by
    simp only [bne, Bool.not_inj_iff, Bool.beq_eq_decide_eq, decide_eq_decide]
    exact reloading.built_unique _ _ _ _ _ _ own more type otherType ownBuilt built
  have beans := reloading.bean_properties _ _ _ _ _ _ own more ownBuilt
  have keys : ((graph.beanProperties? own).getD []).any (·.name == key) =
      ((other.beanProperties? more).getD []).any (·.name == key) := by
    generalize graph.beanProperties? own = properties, other.beanProperties? more = others at beans ⊢
    cases beans with
    | some alike => exact forall₂_any _ _ _ alike _ _ fun property further same => by rw [same.name]
    | none => rfl
  rw [apart, keys]

theorem primary_alike (unionName : String) (primary otherPrimary : Property)
    (marked : graph.primary unionName types type = .ok primary)
    (otherMarked : other.primary unionName otherTypes otherType = .ok otherPrimary) :
    primary.Alike (names.SameName otherNames graph other) otherPrimary := by
  obtain ⟨properties, property, bean, first, rfl⟩ := (graph.primary_iff _ _ _ _).mp marked
  obtain ⟨others, further, otherBean, otherFirst, rfl⟩ := (other.primary_iff _ _ _ _).mp otherMarked
  have beans := reloading.bean_properties _ _ _ _ _ _ type otherType built
  rw [bean, otherBean] at beans
  cases beans with
  | some alike =>
      have found := forall₂_find _ _ _ alike (fun each => !graph.isShared types type each.name)
        (fun each => !other.isShared otherTypes otherType each.name) fun own more same => by
          rw [reloading.is_shared _ _ _ _ _ _ types otherTypes members type otherType built, same.name]
      rw [first, otherFirst] at found
      cases found with
      | some same => exact ⟨same.type, congrArg (fun each : Property => { each with primary := true }) same.rest⟩

end

theorem described_alike (name : String) (kind : KindDecl) (definition otherDefinition : TypeDef)
    (described : kind.Describes graph (names.Uses graph) names.IsBuilt name definition)
    (otherDescribed : kind.Describes other (otherNames.Uses other) otherNames.IsBuilt name otherDefinition) :
    definition.Alike (names.SameName otherNames graph other) otherDefinition := by
  cases described with
  | bean declared properties first =>
      cases otherDescribed with
      | bean _ more second =>
          exact ⟨.bean _ _ (names.properties_alike _ _ _ declared properties more first second), rfl⟩
  | map key value keyType valueType usesKey usesValue =>
      cases otherDescribed with
      | map _ _ otherKey otherValue otherUsesKey otherUsesValue =>
          have keys : names.SameUse otherNames graph other keyType otherKey := ⟨key, usesKey, otherUsesKey⟩
          have values : names.SameUse otherNames graph other valueType otherValue := ⟨value, usesValue, otherUsesValue⟩
          rw [reloading.uses_name _ _ _ _ _ _ _ _ keys, reloading.uses_name _ _ _ _ _ _ _ _ values]
          exact ⟨.map _ _ _ _ (.inl keys) (.inl values), rfl⟩
  | sequence element elementType usesElement =>
      cases otherDescribed with
      | sequence _ otherElement otherUsesElement =>
          have elements : names.SameUse otherNames graph other elementType otherElement :=
            ⟨element, usesElement, otherUsesElement⟩
          rw [reloading.uses_name _ _ _ _ _ _ _ _ elements]
          exact ⟨.sequence _ _ (.inl elements), rfl⟩
  | union members types primaries standing marked =>
      cases otherDescribed with
      | union _ otherTypes otherPrimaries otherStanding otherMarked =>
          have built : List.Forall₂ (names.SameBuilt otherNames) types otherTypes :=
            forall₂_join _ _ _ _ _ standing otherStanding
          -- each primary property goes along with its member, and the members go along with each other
          have marks := forall₂_join _ _ _ _ _ (forall₂_join _ _ _ _ _ marked built).flip otherMarked
          refine ⟨.union _ _ _ _ (built.imp fun _ _ => .inr) (marks.imp ?_), rfl⟩
          rintro primary otherPrimary ⟨otherType, ⟨type, found, both⟩, otherFound⟩
          exact reloading.primary_alike _ _ _ _ _ _ types otherTypes built type otherType both name primary
            otherPrimary found otherFound
  | atomic =>
      cases otherDescribed
      exact ⟨.atomic, rfl⟩
  | any =>
      cases otherDescribed
      exact ⟨.any, rfl⟩
  | enumeration values deprecated =>
      cases otherDescribed
      exact ⟨.atomic, rfl⟩
  | integer least most =>
      cases otherDescribed
      exact ⟨.atomic, rfl⟩
  | indexed =>
      cases otherDescribed
      exact ⟨.atomic, rfl⟩

end

section

variable (schema other : Schema) (reloading : Reloading all others names otherNames schema.graph other.graph)
include reloading

theorem built_alike (type otherType : TypeId) (built : names.SameBuilt otherNames type otherType) :
    (schema.definition type).Alike (names.SameName otherNames schema.graph other.graph)
      (other.definition otherType) := by
  obtain ⟨declaration, definition, otherDefinition, found, otherFound, described, otherDescribed⟩ :=
    reloading.built_described _ _ _ _ _ _ type otherType built
  have alike := reloading.described_alike _ _ _ _ _ _ _ _ _ _ described otherDescribed
  rw [schema.definition_of_direct type _ found described.direct,
    other.definition_of_direct otherType _ otherFound otherDescribed.direct]
  exact ⟨alike.kind, congrArg declaration.finish alike.rest⟩

variable (settled : schema.graph.Settled) (otherSettled : other.graph.Settled)
include settled otherSettled

theorem alike (type otherType : TypeId) (same : names.SameName otherNames schema.graph other.graph type otherType) :
    (schema.definition type).Alike (names.SameName otherNames schema.graph other.graph)
      (other.definition otherType) := by
  rcases same with uses | built
  · rcases reloading.uses_cases _ _ _ _ _ _ type otherType uses with
      ⟨name, found, otherFound⟩ | ⟨name, definition, builtin, found, otherFound⟩
    · -- both references lead to what has been built for the name
      have declared := (reloading.loading.announced name).mp (by simp [found])
      obtain ⟨target, otherTarget, built, otherBuilt⟩ := reloading.built_of_declared _ _ _ _ _ _ name declared
      have alike := reloading.built_alike _ _ _ _ _ _ target otherTarget ⟨name, built, otherBuilt⟩
      have leads := reloading.loading.reference_resolves _ _ _ settled name type target found built
      have otherLeads :=
        reloading.reloading.reference_resolves _ _ _ otherSettled name otherType otherTarget otherFound otherBuilt
      rw [Schema.definition, Schema.definition, (reloading.loading.built_resolved _ _ _ name target built).1,
        (reloading.reloading.built_resolved _ _ _ name otherTarget otherBuilt).1] at alike
      rwa [Schema.definition, Schema.definition, leads, otherLeads]
    · have kind := GraphBuilder.builtin_kind name definition builtin
      have direct : definition.kind.isReference = false := by
        rcases kind with kind | kind <;> simp [kind, TypeKind.isReference]
      rw [schema.definition_of_direct type definition found direct,
        other.definition_of_direct otherType definition otherFound direct]
      refine ⟨?_, rfl⟩
      rcases kind with kind | kind
      · rw [kind]
        exact .atomic
      · rw [kind]
        exact .any
  · exact reloading.built_alike _ _ _ _ _ _ type otherType built

theorem bisimulates (options : schema.options = other.options) (index : schema.index = other.index) :
    schema.Bisimulates other (names.SameName otherNames schema.graph other.graph) where
  options := options
  index := index
  ownName := by
    rintro type otherType (uses | built)
    · exact reloading.uses_name _ _ _ _ _ _ type otherType uses
    · obtain ⟨name, first, second⟩ := id built
      have alike := reloading.built_alike _ _ _ _ _ _ type otherType built
      rw [Schema.definition, Schema.definition, (reloading.loading.built_resolved _ _ _ name type first).1,
        (reloading.reloading.built_resolved _ _ _ name otherType second).1] at alike
      exact (congrArg TypeDef.name alike.rest :)
  definition := reloading.alike _ _ _ _ _ _ settled otherSettled

end

end Reloading

theorem TypeNames.root_same_name (all others : List TypeDecl) (names otherNames : TypeNames) (graph other : TypeGraph)
    (reloading : Reloading all others names otherNames graph other) (name : String) (root otherRoot : TypeId)
    (found : names.IsBuilt name root ∨ names.built? name = none ∧ names.Uses graph name root)
    (otherFound : otherNames.IsBuilt name otherRoot ∨
      otherNames.built? name = none ∧ otherNames.Uses other name otherRoot) :
    names.SameName otherNames graph other root otherRoot := by
  by_cases declared : TypeDecl.Declares all name
  · obtain ⟨target, otherTarget, built, otherBuilt⟩ := reloading.built_of_declared _ _ _ _ _ _ name declared
    have own := found.resolve_right fun ⟨unbuilt, _⟩ => by simp [built] at unbuilt
    have more := otherFound.resolve_right fun ⟨unbuilt, _⟩ => by simp [otherBuilt] at unbuilt
    exact .inr ⟨name, own, more⟩
  · have own := found.resolve_left fun built => declared (reloading.loading.built name root built)
    have more := otherFound.resolve_left fun built =>
      declared ((reloading.declares_iff _ _ _ _ _ _ name).mpr (reloading.reloading.built name otherRoot built))
    exact .inl ⟨name, own.2, more.2⟩

namespace DialectDecl

theorem order_irrelevant (declaration : DialectDecl) (types : List TypeDecl) (rearranged : declaration.types.Perm types)
    (compile : String → Option Pattern) (first second : Dialect) (loaded : declaration.dialect compile = .ok first)
    (reloaded : { declaration with types }.dialect compile = .ok second) (options : SchemaOptions)
    (index : Option PropertyIndex) (steps : List TypeStep) :
    Option.Rel ((first.schema options index).LooksLike (second.schema options index))
      ((first.schema options index).follow? first.root steps)
      ((second.schema options index).follow? second.root steps) := by
  have settled := declaration.dialect_settled compile first loaded
  have otherSettled := { declaration with types }.dialect_settled compile second reloaded
  obtain ⟨root, graph, files, runs, -, rfl⟩ := (declaration.dialect_iff compile first).mp loaded
  obtain ⟨otherRoot, other, otherFiles, otherRuns, -, rfl⟩ :=
    ({ declaration with types }.dialect_iff compile second).mp reloaded
  obtain ⟨names, loading, found⟩ := declaration.types_yield.leads _ _ _ _ _ root runs
  obtain ⟨otherNames, otherLoading, otherFound⟩ :=
    { declaration with types }.types_yield.leads _ _ _ _ _ otherRoot otherRuns
  have reloading : Reloading declaration.types types names otherNames graph other :=
    ⟨loading, otherLoading, fun _ => rearranged.mem_iff⟩
  have bisimulates := Reloading.bisimulates _ _ _ _ ⟨graph, options, index⟩ ⟨other, options, index⟩ reloading settled
    otherSettled rfl rfl
  exact bisimulates.looks_like_along _ _ _ root otherRoot
    (names.root_same_name _ _ _ _ _ reloading declaration.root root otherRoot found otherFound) steps

def regrown : List TypeDecl :=
  [{ name := "Trees", kind := .sequence "Tree" },
    { name := "Fork", kind := .bean [{ name := "branches", type := "Trees" }] },
    { name := "Leaf", kind := .bean [{ name := "value", type := "string" }] },
    { name := "Tree", kind := .union ["Leaf", "Fork"] },
    { name := "string", kind := .integer none none }]

def climb : List TypeStep :=
  [.member 1, .named "branches", .element, .member 1, .property 0, .element, .member 0, .named "value"]

theorem loaded_of_end (declaration : DialectDecl) (steps : List TypeStep) (type : TypeId)
    (ends : (declaration.dialect.toOption.bind fun dialect =>
      (dialect.schema {} none).follow? dialect.root steps) = some type) :
    ∃ dialect, declaration.dialect = .ok dialect ∧ (dialect.schema {} none).follow? dialect.root steps = some type := by
  cases loaded : declaration.dialect with
  | error error =>
      rw [loaded] at ends
      cases ends
  | ok dialect =>
      rw [loaded] at ends
      exact ⟨dialect, rfl, ends⟩

theorem grove_order_irrelevant : ∃ first second, grove.dialect = .ok first ∧
    { grove with types := regrown }.dialect = .ok second ∧ grove.types.Perm regrown ∧
    (first.schema {} none).follow? first.root climb = some 0 ∧
    (second.schema {} none).follow? second.root climb = some 4 ∧
    (first.schema {} none).LooksLike (second.schema {} none) 0 4 := by
  obtain ⟨first, loaded, ends⟩ := grove.loaded_of_end climb 0 (by decide +kernel)
  obtain ⟨second, reloaded, otherEnds⟩ := { grove with types := regrown }.loaded_of_end climb 4 (by decide +kernel)
  have rearranged : grove.types.Perm regrown := by decide +kernel
  have related := grove.order_irrelevant regrown rearranged Pattern.ofText? first second loaded reloaded {} none climb
  rw [ends, otherEnds] at related
  cases related with
  | some looks => exact ⟨first, second, loaded, reloaded, rearranged, ends, otherEnds, looks⟩

end DialectDecl
end YamlDialects
