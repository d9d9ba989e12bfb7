import Mathlib.Data.List.Forall2
import Mathlib.Data.List.Induction
import YamlDialects.Proofs.Schema.Loading

/-!
When a builder of graphs succeeds, and what a dialect declaration has to be and declares. In a given graph a builder
succeeds exactly under some condition, and then something holds of the value and the graph that it leads to; the
conditions of its steps add up to the condition of the whole. A dialect is closed if every name that it uses is declared
or built in, and unions, enumerations and file patterns are well formed; a definition is described by the declaration
that it was made from.
-/

set_option autoImplicit false

namespace YamlDialects

theorem SchemaError.mapM_ok_iff {α β : Type} (step : α → Except SchemaError β) (items : List α) (values : List β) :
    items.mapM step = .ok values ↔ List.Forall₂ (fun item value => step item = .ok value) items values := by
  induction items generalizing values with
  | nil =>
      rw [List.forall₂_nil_left_iff]
      exact ⟨fun same => (Except.ok.inj same).symm, fun same => same ▸ rfl⟩
  | cons item rest ih =>
      rw [List.mapM_cons, List.forall₂_cons_left_iff]
      constructor
      · intro runs
        obtain ⟨value, first, more⟩ := SchemaError.bind_ok _ _ _ runs
        obtain ⟨others, remaining, same⟩ := SchemaError.bind_ok _ _ _ more
        exact ⟨value, others, first, (ih others).mp remaining, (Except.ok.inj same).symm⟩
      · rintro ⟨value, others, first, remaining, rfl⟩
        rw [first, (ih others).mpr remaining]
        rfl

theorem forall₂_exists {α β : Type} (relation : α → β → Prop) (items : List α) :
    (∃ values, List.Forall₂ relation items values) ↔ ∀ item ∈ items, ∃ value, relation item value := by
  induction items with
  | nil => exact ⟨fun _ _ => nofun, fun _ => ⟨[], .nil⟩⟩
  | cons item rest ih =>
      rw [List.forall_mem_cons, ← ih]
      constructor
      · rintro ⟨_, _ | ⟨head, tail⟩⟩
        exact ⟨⟨_, head⟩, ⟨_, tail⟩⟩
      · rintro ⟨⟨value, head⟩, values, tail⟩
        exact ⟨value :: values, .cons head tail⟩

theorem forall₂_forall_iff {α β : Type} (relation : α → β → Prop) (first : α → Prop) (second : β → Prop)
    (items : List α) (values : List β) (related : List.Forall₂ relation items values)
    (same : ∀ item value, relation item value → (first item ↔ second value)) :
    (∀ item ∈ items, first item) ↔ ∀ value ∈ values, second value := by
  induction related with
  | nil => simp
  | cons head tail ih => rw [List.forall_mem_cons, List.forall_mem_cons, same _ _ head, ih]

namespace TypeGraph

theorem Extends.refl (graph : TypeGraph) : graph.Extends graph :=
  ⟨fun _ _ found => found, fun _ _ leads => leads⟩

theorem Extends.trans (last later graph : TypeGraph) (after : last.Extends later) (before : later.Extends graph) :
    last.Extends graph :=
  ⟨fun type definition found => after.types type definition (before.types type definition found),
    fun cell target leads => after.targets cell target (before.targets cell target leads)⟩

theorem get_of_found (graph : TypeGraph) (type : TypeId) (definition : TypeDef)
    (found : graph.types[type]? = some definition) : graph.get type = definition := by
  simp [get, found]

theorem get_extends (later graph : TypeGraph) (extended : later.Extends graph) (type : TypeId)
    (known : type < graph.types.size) : later.get type = graph.get type := by
  have found : graph.types[type]? = some graph.types[type] := Array.getElem?_eq_getElem known
  rw [get_of_found _ _ _ found, get_of_found _ _ _ (extended.types type _ found)]

end TypeGraph

namespace GraphBuilder

def Yields {α : Type} (builder : GraphBuilder α) (graph : TypeGraph) (condition : Prop)
    (after : α → TypeGraph → Prop) : Prop :=
  match builder.run graph with
  | .ok (value, built) => condition ∧ after value built
  | .error _ => ¬ condition

theorem yields_run {α : Type} (builder : GraphBuilder α) (graph built : TypeGraph) (value : α) (condition : Prop)
    (after : α → TypeGraph → Prop) (runs : builder.run graph = .ok (value, built)) (meets : condition)
    (holds : after value built) : Yields builder graph condition after := by
  unfold Yields
  rw [runs]
  exact ⟨meets, holds⟩

theorem Yields.succeeds_iff {α : Type} (builder : GraphBuilder α) (graph : TypeGraph) (condition : Prop)
    (after : α → TypeGraph → Prop) (yields : Yields builder graph condition after) :
    (∃ result, builder.run graph = .ok result) ↔ condition := by
  unfold Yields at yields
  split at yields
  next value built runs => exact iff_of_true ⟨_, runs⟩ yields.1
  next error fails => exact iff_of_false (by simp [fails]) yields

theorem Yields.leads {α : Type} (builder : GraphBuilder α) (graph built : TypeGraph) (condition : Prop)
    (after : α → TypeGraph → Prop) (yields : Yields builder graph condition after) (value : α)
    (runs : builder.run graph = .ok (value, built)) : after value built := by
  unfold Yields at yields
  rw [runs] at yields
  exact yields.2

theorem yields_throw {α : Type} (error : SchemaError) (graph : TypeGraph) (condition : Prop)
    (after : α → TypeGraph → Prop) (fails : ¬ condition) :
    Yields (throw error : GraphBuilder α) graph condition after :=
  fails

theorem yields_lift {α : Type} (result : Except SchemaError α) (graph : TypeGraph) :
    Yields (liftM result) graph (∃ value, result = .ok value)
      (fun value built => result = .ok value ∧ built = graph) := by
  cases result with
  | error error => exact fun ⟨_, found⟩ => nomatch found
  | ok value => exact ⟨⟨value, rfl⟩, rfl, rfl⟩

theorem bind_run (graph bound : TypeGraph) (type target : TypeId) (binds : graph.bind type target = .ok bound) :
    (bind type target).run graph = .ok ((), bound) := by
  change (liftM (graph.bind type target) >>= set : GraphBuilder Unit).run graph = _
  rw [binds]
  rfl

theorem yields_imp {α : Type} (builder : GraphBuilder α) (graph : TypeGraph) (condition other : Prop)
    (after next : α → TypeGraph → Prop) (yields : Yields builder graph condition after) (same : condition ↔ other)
    (holds : ∀ value built, condition → after value built → next value built) : Yields builder graph other next := by
  unfold Yields at yields ⊢
  split at yields
  next value built runs => exact ⟨same.mp yields.1, holds value built yields.1 yields.2⟩
  next => exact mt same.mpr yields

theorem yields_bind {α β : Type} (builder : GraphBuilder α) (next : α → GraphBuilder β) (graph : TypeGraph)
    (condition other : Prop) (between : α → TypeGraph → Prop) (after : β → TypeGraph → Prop)
    (first : Yields builder graph condition between)
    (second : ∀ value built, between value built → Yields (next value) built other after) :
    Yields (builder >>= next) graph (condition ∧ other) after := by
  unfold Yields at first ⊢
  rw [StateT.run_bind]
  cases runs : builder.run graph with
  | error error =>
      rw [runs] at first
      exact fun both => first both.1
  | ok result =>
      rw [runs] at first
      have rest := second result.1 result.2 first.2
      unfold Yields at rest
      show match (next result.1).run result.2 with
        | .ok (value, built) => (condition ∧ other) ∧ after value built
        | .error _ => ¬ (condition ∧ other)
      split at rest
      next value built more => simpa only [more] using ⟨⟨first.1, rest.1⟩, rest.2⟩
      next error more => simpa only [more] using fun both => rest both.2

theorem yields_then {α β : Type} (builder : GraphBuilder α) (next : α → GraphBuilder β) (graph : TypeGraph)
    (condition : Prop) (between : α → TypeGraph → Prop) (after : β → TypeGraph → Prop)
    (first : Yields builder graph condition between)
    (second : ∀ value built, between value built → Yields (next value) built True after) :
    Yields (builder >>= next) graph condition after :=
  yields_imp _ _ _ _ _ _ (yields_bind _ _ _ _ _ _ _ first second) (and_iff_left trivial) (fun _ _ _ holds => holds)

theorem yields_mapM {α β : Type} (invariant : TypeGraph → Prop) (condition : α → Prop)
    (relation : TypeGraph → α → β → Prop) (step : α → GraphBuilder β)
    (lasts : ∀ graph later item value, later.Extends graph → relation graph item value → relation later item value)
    (yields : ∀ graph item, invariant graph → Yields (step item) graph (condition item) fun value later =>
      invariant later ∧ later.Extends graph ∧ relation later item value)
    (items : List α) (graph : TypeGraph) (holds : invariant graph) :
    Yields (items.mapM step) graph (∀ item ∈ items, condition item) fun values later =>
      invariant later ∧ later.Extends graph ∧ List.Forall₂ (relation later) items values := by
  induction items generalizing graph with
  | nil =>
      rw [List.mapM_nil]
      exact yields_run _ _ _ _ _ _ rfl (fun _ => nofun) ⟨holds, .refl graph, .nil⟩
  | cons item rest ih =>
      rw [List.mapM_cons]
      rw [show (∀ other ∈ item :: rest, condition other) = _ from propext List.forall_mem_cons]
      refine yields_bind _ _ graph _ _ _ _ (yields graph item holds) ?_
      rintro value later ⟨kept, extended, related⟩
      refine yields_then _ _ later _ _ _ (ih later kept) ?_
      rintro values last ⟨keptLast, extendedLast, relatedLast⟩
      refine yields_run _ _ _ _ _ _ rfl trivial ⟨keptLast, .trans _ _ _ extendedLast extended, ?_⟩
      exact .cons (lasts later last item value extendedLast related) relatedLast

theorem yields_foldlM_after {α β : Type} (invariant : List α → β → TypeGraph → Prop) (condition : List α → α → Prop)
    (step : β → α → GraphBuilder β) (all : List α)
    (yields : ∀ done item rest state graph, all = done ++ item :: rest → invariant done state graph →
      Yields (step state item) graph (condition done item) (invariant (done ++ [item])))
    (items done : List α) (state : β) (graph : TypeGraph) (split : all = done ++ items)
    (holds : invariant done state graph) :
    Yields (items.foldlM step state) graph
      (∀ earlier item rest, items = earlier ++ item :: rest → condition (done ++ earlier) item) (invariant all) := by
  induction items generalizing done state graph with
  | nil =>
      refine yields_run _ _ _ _ _ _ rfl (fun earlier item rest none => by simp at none) ?_
      rwa [split, List.append_nil]
  | cons item rest ih =>
      rw [List.foldlM_cons]
      have whole := yields_bind _ _ graph _ _ _ (invariant all) (yields done item rest state graph split holds)
        (fun next later kept => ih (done ++ [item]) next later (by simp [split]) kept)
      refine yields_imp _ _ _ _ _ _ whole ?_ (fun _ _ _ after => after)
      constructor
      · rintro ⟨first, others⟩ earlier other behind same
        rcases List.cons_eq_append_iff.mp same with ⟨rfl, here⟩ | ⟨before, rfl, there⟩
        · cases here
          simpa using first
        · simpa using others before other behind there
      · intro every
        refine ⟨by simpa using every [] item rest rfl, fun earlier other behind same => ?_⟩
        simpa using every (item :: earlier) other behind (by simp [same])

theorem yields_foldlM {α β : Type} (invariant : List α → β → TypeGraph → Prop) (condition : List α → α → Prop)
    (step : β → α → GraphBuilder β) (items : List α)
    (yields : ∀ done item rest state graph, items = done ++ item :: rest → invariant done state graph →
      Yields (step state item) graph (condition done item) (invariant (done ++ [item])))
    (state : β) (graph : TypeGraph) (holds : invariant [] state graph) :
    Yields (items.foldlM step state) graph
      (∀ earlier item rest, items = earlier ++ item :: rest → condition earlier item) (invariant items) :=
  yields_foldlM_after invariant condition step items yields items [] state graph rfl holds

end GraphBuilder

def GraphBuilder.builtinNames : List String :=
  ["String", "string", "Number", "number", "boolean", "Boolean", "integer", "Integer", "any", "Any"]

theorem GraphBuilder.builtin_iff (name : String) : (builtin? name).isSome ↔ name ∈ builtinNames := by
  unfold builtin? builtinNames
  simp only [List.mem_cons, List.not_mem_nil, or_false]
  split_ifs <;> grind

theorem GraphBuilder.builtin_kind (name : String) (definition : TypeDef) (found : builtin? name = some definition) :
    definition.kind = .atomic ∨ definition.kind = .any := by
  unfold builtin? at found
  split_ifs at found
  all_goals obtain rfl := Option.some.inj found
  all_goals simp [booleanDef, enumerationDef, integerDef]

section

variable (declared : List TypeDecl)

def TypeDecl.Declares (name : String) : Prop :=
  ∃ declaration ∈ declared, declaration.name = name

def TypeDecl.Knows (name : String) : Prop :=
  TypeDecl.Declares declared name ∨ name ∈ GraphBuilder.builtinNames

def TypeDecl.IsBean (name : String) (keys : List String) : Prop :=
  ∃ declaration ∈ declared, declaration.name = name ∧
    ∃ properties, declaration.kind = .bean properties ∧ properties.map (·.name) = keys

end

-- What is declared earlier matters to unions only.
def KindDecl.IsClosed (all earlier : List TypeDecl) : KindDecl → Prop
  | .bean properties => ∀ property ∈ properties, TypeDecl.Knows all property.type
  | .map key value => TypeDecl.Knows all key ∧ TypeDecl.Knows all value
  | .sequence element => TypeDecl.Knows all element
  | .union members => 2 ≤ members.length ∧ ∀ member ∈ members, ∃ keys, TypeDecl.IsBean earlier member keys ∧
      ∃ key ∈ keys, ∀ other ∈ members, other ≠ member → ∀ others, TypeDecl.IsBean earlier other others → key ∉ others
  | .enumeration values deprecated => ∀ entry ∈ deprecated, entry.1 ∈ values
  | _ => True

structure DialectDecl.IsClosed (declaration : DialectDecl) (compile : String → Option Pattern) : Prop where
  distinct : (declaration.types.map (·.name)).Nodup
  types : ∀ earlier type later, declaration.types = earlier ++ type :: later →
    type.kind.IsClosed declaration.types earlier
  root : TypeDecl.Knows declaration.types declaration.root
  files : ∀ source ∈ declaration.files, (compile source).isSome

def TypeKind.parts : TypeKind → List TypeId
  | .map key value => [key, value]
  | .bean properties => properties.map (·.type)
  | .sequence element => [element]
  | .union members primaries => members ++ primaries.map (·.type)
  | kind => kind.choices

inductive TypeGraph.Reaches (graph : TypeGraph) (root : TypeId) : TypeId → Prop
  | root : Reaches graph root root
  | part (type part : TypeId) (reached : Reaches graph root type) (among : part ∈ (graph.get type).kind.parts) :
      Reaches graph root part
  | target (type target : TypeId) (cell : Nat) (reached : Reaches graph root type)
      (kind : (graph.get type).kind = .reference cell) (bound : graph.targets.getD cell none = some target) :
      Reaches graph root target

def PropertyDecl.Describes (uses : String → TypeId → Prop) (declared : PropertyDecl) (property : Property) : Prop :=
  ∃ type, uses declared.type type ∧ property = declared.property type

-- Other types are found by the names that a declaration uses, the members of a union by what stands for theirs.
inductive KindDecl.Describes (graph : TypeGraph) (uses stands : String → TypeId → Prop) (name : String) :
    KindDecl → TypeDef → Prop
  | atomic : Describes graph uses stands name .atomic { name, kind := .atomic }
  | any : Describes graph uses stands name .any { name, kind := .any }
  | bean (declared : List PropertyDecl) (properties : List Property)
      (described : List.Forall₂ (PropertyDecl.Describes uses) declared properties) :
      Describes graph uses stands name (.bean declared) { name, kind := .bean properties }
  | map (key value : String) (keyType valueType : TypeId) (usesKey : uses key keyType)
      (usesValue : uses value valueType) : Describes graph uses stands name (.map key value)
        { name := "Map<" ++ graph.name keyType ++ ", " ++ graph.name valueType ++ ">", kind := .map keyType valueType }
  | sequence (element : String) (elementType : TypeId) (usesElement : uses element elementType) :
      Describes graph uses stands name (.sequence element)
        { name := "List<" ++ graph.name elementType ++ ">", kind := .sequence elementType }
  | union (members : List String) (types : List TypeId) (primaries : List Property)
      (standing : List.Forall₂ stands members types)
      (marked : List.Forall₂ (fun type primary => graph.primary name types type = .ok primary) types primaries) :
      Describes graph uses stands name (.union members) { name, kind := .union types primaries }
  | enumeration (values : List String) (deprecated : List (String × ValueDeprecationDecl)) :
      Describes graph uses stands name (.enumeration values deprecated) (GraphBuilder.enumerationDef name values
        (deprecated.map fun (value, declaration) => declaration.deprecation value))
  | integer (least most : Option Int) :
      Describes graph uses stands name (.integer least most) (GraphBuilder.integerDef name least most)
  | indexed : Describes graph uses stands name .indexed (GraphBuilder.indexedDef name)

def TypeDecl.finish (declaration : TypeDecl) (definition : TypeDef) : TypeDef :=
  { definition with
    hints := definition.hints ++ declaration.hints.map Hint.of
    constraints := declaration.constraints }

theorem TypeDecl.declares_append (earlier later : List TypeDecl) (name : String) :
    TypeDecl.Declares (earlier ++ later) name ↔ TypeDecl.Declares earlier name ∨ TypeDecl.Declares later name := by
  simp only [Declares, List.mem_append, or_and_right, exists_or]

theorem TypeDecl.declares_single (declaration : TypeDecl) (name : String) :
    TypeDecl.Declares [declaration] name ↔ declaration.name = name := by
  simp [Declares]

theorem TypeDecl.distinct_iff (types : List TypeDecl) : (types.map (·.name)).Nodup ↔
    ∀ earlier declaration later, types = earlier ++ declaration :: later → ¬ Declares earlier declaration.name := by
  constructor
  · rintro distinct earlier declaration later rfl ⟨other, among, same⟩
    rw [List.map_append, List.map_cons, List.nodup_append] at distinct
    exact distinct.2.2 _ (List.mem_map_of_mem among) _ List.mem_cons_self same
  · intro fresh
    induction types using List.reverseRecOn with
    | nil => exact .nil
    | append_singleton before last ih =>
        rw [List.map_append, List.nodup_append]
        refine ⟨ih fun earlier declaration later split => ?_, by simp, ?_⟩
        · exact fresh earlier declaration (later ++ [last]) (by simp [split])
        · intro name among other single same
          obtain ⟨declaration, member, rfl⟩ := List.mem_map.mp among
          obtain rfl := List.mem_singleton.mp single
          exact fresh before last [] rfl ⟨declaration, member, same⟩

namespace TypeGraph

theorem bean_properties_iff (graph : TypeGraph) (type : TypeId) (properties : List Property) :
    graph.beanProperties? type = some properties ↔ (graph.get type).kind = .bean properties := by
  unfold beanProperties?
  split
  next kind => rw [kind, Option.some.injEq, TypeKind.bean.injEq]
  next other =>
    refine ⟨nofun, fun kind => ?_⟩
    exact (other properties kind).elim

theorem known_of_bean (graph : TypeGraph) (type : TypeId) (properties : List Property)
    (found : graph.beanProperties? type = some properties) : type < graph.types.size := by
  have kind := (graph.bean_properties_iff type properties).mp found
  exact (Array.getElem?_eq_some_iff.mp (get_known graph type (by simp [kind]))).1

theorem primary_iff (graph : TypeGraph) (unionName : String) (types : List TypeId) (type : TypeId)
    (primary : Property) : graph.primary unionName types type = .ok primary ↔
      ∃ properties property, graph.beanProperties? type = some properties ∧
        properties.find? (fun each => !graph.isShared types type each.name) = some property ∧
          primary = { property with primary := true } := by
  unfold TypeGraph.primary
  cases graph.beanProperties? type with
  | none => simp
  | some properties =>
      cases found : properties.find? fun each => !graph.isShared types type each.name with
      | none => simp [found]
      | some property => simp [found, eq_comm]

theorem union_kind_iff (graph : TypeGraph) (unionName : String) (types : List TypeId) (kind : TypeKind) :
    graph.unionKind unionName types = .ok kind ↔ 2 ≤ types.length ∧ ∃ primaries,
      List.Forall₂ (fun type primary => graph.primary unionName types type = .ok primary) types primaries ∧
        kind = .union types primaries := by
  unfold unionKind
  split
  next few => simp [Nat.not_le.mpr few]
  next enough =>
    simp only [← SchemaError.mapM_ok_iff, Nat.not_lt.mp enough, true_and]
    cases types.mapM (graph.primary unionName types) with
    | error error => simp [Except.map]
    | ok primaries => simp [Except.map, eq_comm]

section

variable (later graph : TypeGraph) (extended : later.Extends graph)
include extended

theorem bean_properties_extends (type : TypeId) (known : type < graph.types.size) :
    later.beanProperties? type = graph.beanProperties? type := by
  rw [beanProperties?, beanProperties?, get_extends later graph extended type known]

theorem is_shared_extends (types : List TypeId) (known : ∀ type ∈ types, type < graph.types.size) (type : TypeId)
    (name : String) : later.isShared types type name = graph.isShared types type name := by
  unfold isShared
  rw [Bool.eq_iff_iff, List.any_eq_true, List.any_eq_true]
  refine exists_congr fun other => and_congr_right fun among => ?_
  rw [bean_properties_extends later graph extended other (known other among)]

theorem primary_extends (unionName : String) (types : List TypeId) (known : ∀ type ∈ types, type < graph.types.size)
    (type : TypeId) (primary : Property) (marked : graph.primary unionName types type = .ok primary) :
    later.primary unionName types type = .ok primary := by
  obtain ⟨properties, property, found, first, rfl⟩ := (primary_iff _ _ _ _ _).mp marked
  refine (primary_iff _ _ _ _ _).mpr ⟨properties, property, ?_, ?_, rfl⟩
  · rwa [bean_properties_extends later graph extended type (known_of_bean graph type properties found)]
  · simpa only [is_shared_extends later graph extended types known] using first

end

end TypeGraph

namespace KindDecl.Describes

variable (graph : TypeGraph) (uses stands : String → TypeId → Prop) (name : String) (kind : KindDecl)
  (definition : TypeDef) (described : kind.Describes graph uses stands name definition)
include described

theorem direct : definition.kind.isReference = false := by
  cases described <;> rfl

theorem imp (later : TypeGraph) (extended : later.Extends graph) (usesLater standsLater : String → TypeId → Prop)
    (known : ∀ other type, uses other type → type < graph.types.size)
    (usesLasts : ∀ other type, uses other type → usesLater other type)
    (standsLasts : ∀ other type, stands other type → standsLater other type) :
    kind.Describes later usesLater standsLater name definition := by
  have sameName (other : String) (type : TypeId) (used : uses other type) : graph.name type = later.name type := by
    rw [TypeGraph.name, TypeGraph.name, TypeGraph.get_extends later graph extended type (known other type used)]
  cases described with
  | bean declared properties described =>
      refine .bean declared properties (described.imp fun property built ⟨type, used, same⟩ => ?_)
      exact ⟨type, usesLasts _ type used, same⟩
  | map key value keyType valueType usesKey usesValue =>
      rw [sameName key keyType usesKey, sameName value valueType usesValue]
      exact .map key value keyType valueType (usesLasts _ _ usesKey) (usesLasts _ _ usesValue)
  | sequence element elementType usesElement =>
      rw [sameName element elementType usesElement]
      exact .sequence element elementType (usesLasts _ _ usesElement)
  | union members types primaries standing marked =>
      have beans : ∀ type ∈ types, type < graph.types.size := by
        intro type among
        obtain ⟨primary, found⟩ := (forall₂_exists _ types).mp ⟨primaries, marked⟩ type among
        obtain ⟨properties, _, bean, -⟩ := (TypeGraph.primary_iff _ _ _ _ _).mp found
        exact graph.known_of_bean type properties bean
      refine .union members types primaries (standing.imp standsLasts) (marked.imp fun type primary found => ?_)
      exact TypeGraph.primary_extends later graph extended name types beans type primary found
  | atomic => exact .atomic
  | any => exact .any
  | enumeration values deprecated => exact .enumeration values deprecated
  | integer least most => exact .integer least most
  | indexed => exact .indexed

end KindDecl.Describes

end YamlDialects
