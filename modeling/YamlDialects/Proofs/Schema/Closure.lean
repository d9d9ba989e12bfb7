import YamlDialects.Proofs.Schema.Growth

/-!
Closed declarations. A dialect is loaded exactly if its declaration is closed. The graph is then closed as well:
whatever its root reaches is there, references lead to what their names declare, and no reference is left without a
target.
-/

set_option autoImplicit false

namespace YamlDialects

namespace Loading

variable (all done : List TypeDecl) (names : TypeNames) (graph : TypeGraph) (loading : Loading all done names graph)
include loading

theorem bean_iff (name : String) (type : TypeId) (built : names.built? name = some type) (keys : List String) :
    TypeDecl.IsBean done name keys ↔
      ∃ properties, graph.beanProperties? type = some properties ∧ properties.map (·.name) = keys := by
  have kinds (declaration : TypeDecl) (among : declaration ∈ done) (named : declaration.name = name) :
      (∃ properties, declaration.kind = .bean properties ∧ properties.map (·.name) = keys) ↔
        ∃ properties, graph.beanProperties? type = some properties ∧ properties.map (·.name) = keys := by
    obtain ⟨other, definition, same, found, described⟩ := loading.described declaration among
    obtain rfl : other = type := Option.some.inj (same.symm.trans (named ▸ built))
    simp only [TypeGraph.bean_properties_iff, graph.get_of_found _ _ found, TypeDecl.finish]
    generalize declaration.kind = kind at described
    cases described with
    | bean declared properties described =>
        have sameNames : properties.map (·.name) = declared.map (·.name) := by
          symm
          rw [← List.forall₂_eq_eq_eq, List.forall₂_map_left_iff, List.forall₂_map_right_iff]
          refine described.imp fun property built ⟨type, _, same⟩ => ?_
          rw [same]
          rfl
        simp [sameNames]
    | atomic => simp
    | any => simp
    | map => simp
    | sequence => simp
    | union => simp
    | enumeration => simp [GraphBuilder.enumerationDef]
    | integer => simp [GraphBuilder.integerDef]
    | indexed => simp [GraphBuilder.indexedDef]
  constructor
  · rintro ⟨declaration, among, named, bean⟩
    exact (kinds declaration among named).mp bean
  · intro bean
    obtain ⟨declaration, among, named⟩ := loading.built name type built
    exact ⟨declaration, among, named, (kinds declaration among named).mpr bean⟩

theorem is_shared_iff (members : List String) (types : List TypeId) (standing : List.Forall₂ names.IsBuilt members types)
    (member : String) (type : TypeId) (built : names.built? member = some type) (key : String) :
    graph.isShared types type key = true ↔
      ∃ other ∈ members, other ≠ member ∧ ∃ others, TypeDecl.IsBean done other others ∧ key ∈ others := by
  have each (other : String) (otherType : TypeId) (builtOther : names.built? other = some otherType) :
      (otherType ≠ type ∧ ∃ properties, graph.beanProperties? otherType = some properties ∧
          key ∈ properties.map (·.name)) ↔
        (other ≠ member ∧ ∃ others, TypeDecl.IsBean done other others ∧ key ∈ others) := by
    refine and_congr (not_congr ?_) ?_
    · constructor
      · rintro rfl
        exact loading.injective other member _ builtOther built
      · rintro rfl
        exact Option.some.inj (builtOther.symm.trans built)
    · simp only [loading.bean_iff _ _ _ _ other otherType builtOther]
      exact ⟨fun ⟨properties, found, listed⟩ => ⟨_, ⟨properties, found, rfl⟩, listed⟩,
        fun ⟨_, ⟨properties, found, same⟩, listed⟩ => ⟨properties, found, same ▸ listed⟩⟩
  have whole := forall₂_forall_iff names.IsBuilt _ _ members types standing
    (fun other otherType builtOther => not_congr (each other otherType builtOther).symm)
  have shared : graph.isShared types type key = true ↔ ¬ ∀ other ∈ types, ¬ (other ≠ type ∧
      ∃ properties, graph.beanProperties? other = some properties ∧ key ∈ properties.map (·.name)) := by
    unfold TypeGraph.isShared
    simp only [List.any_eq_true, Bool.and_eq_true, bne_iff_ne, not_forall, not_not, exists_prop]
    refine exists_congr fun other => and_congr_right fun _ => and_congr_right fun _ => ?_
    cases graph.beanProperties? other <;> simp
  rw [shared, ← whole]
  simp only [not_forall, not_not, exists_prop]

theorem primary_iff (unionName : String) (members : List String) (types : List TypeId)
    (standing : List.Forall₂ names.IsBuilt members types) (member : String) (type : TypeId)
    (built : names.built? member = some type) :
    (∃ keys, TypeDecl.IsBean done member keys ∧ ∃ key ∈ keys, ∀ other ∈ members, other ≠ member →
        ∀ others, TypeDecl.IsBean done other others → key ∉ others) ↔
      ∃ primary, graph.primary unionName types type = .ok primary := by
  have unshared (key : String) : (∀ other ∈ members, other ≠ member →
      ∀ others, TypeDecl.IsBean done other others → key ∉ others) ↔ (!graph.isShared types type key) = true := by
    rw [Bool.not_eq_true', ← Bool.not_eq_true, loading.is_shared_iff _ _ _ _ members types standing member type built]
    grind
  simp only [unshared, loading.bean_iff _ _ _ _ member type built, TypeGraph.primary_iff]
  constructor
  · rintro ⟨_, ⟨properties, found, rfl⟩, key, listed, free⟩
    obtain ⟨property, among, rfl⟩ := List.mem_map.mp listed
    have some : (properties.find? fun each => !graph.isShared types type each.name).isSome :=
      List.find?_isSome.mpr ⟨property, among, free⟩
    obtain ⟨first, chosen⟩ := Option.isSome_iff_exists.mp some
    exact ⟨_, properties, first, found, chosen, rfl⟩
  · rintro ⟨_, properties, property, found, chosen, -⟩
    have free := List.find?_some chosen
    exact ⟨_, ⟨properties, found, rfl⟩, property.name, List.mem_map_of_mem (List.mem_of_find?_eq_some chosen), free⟩

end Loading

structure Defined (all done : List TypeDecl) (names : TypeNames) (graph : TypeGraph) (name : String) (kind : KindDecl)
    (definition : TypeDef) (later : TypeGraph) : Prop where
  loading : Loading all done names later
  extended : later.Extends graph
  described : kind.Describes later (names.Uses later) names.IsBuilt name definition

namespace Loading

open GraphBuilder

section

variable (all done : List TypeDecl) (names : TypeNames) (graph : TypeGraph) (loading : Loading all done names graph)
include loading

theorem defined (name : String) (kind : KindDecl) (definition : TypeDef)
    (described : kind.Describes graph (names.Uses graph) names.IsBuilt name definition) :
    Defined all done names graph name kind definition graph :=
  ⟨loading, .refl graph, described⟩

theorem add_yields (definition : TypeDef) (direct : definition.kind.isReference = false)
    (within : ∀ part ∈ definition.kind.parts, part < graph.types.size) :
    Yields (add definition) graph True fun type later => type = graph.types.size ∧ Loading all done names later ∧
      later.Extends graph ∧ later.types[type]? = some definition :=
  yields_run _ _ { graph with types := graph.types.push definition } _ _ _ rfl trivial
    ⟨rfl, loading.push _ _ _ _ definition direct within, graph.extends_push definition, by simp⟩

theorem named_yields (name owner : String) :
    Yields (named names name owner) graph (TypeDecl.Knows all name) fun type later =>
      Loading all done names later ∧ later.Extends graph ∧ names.Uses later name type := by
  unfold named
  cases announced : names.reference? name with
  | some type =>
      have declared := (loading.announced name).mp (by simp [announced])
      exact yields_run _ _ _ _ _ _ rfl (.inl declared) ⟨loading, .refl graph, .inl announced⟩
  | none =>
      have undeclared : ¬ TypeDecl.Declares all name := by
        rw [← loading.announced, announced]
        simp
      cases builtin : builtin? name with
      | none =>
          refine yields_throw _ _ _ _ (not_or.mpr ⟨undeclared, ?_⟩)
          rw [← builtin_iff, builtin]
          simp
      | some definition =>
          have listed := (builtin_iff name).mp (by simp [builtin])
          have plain : definition.kind.isReference = false ∧ definition.kind.parts = [] := by
            rcases builtin_kind name definition builtin with kind | kind <;> rw [kind] <;> exact ⟨rfl, rfl⟩
          have added := loading.add_yields _ _ _ _ definition plain.1 (by simp [plain.2])
          refine yields_imp _ _ _ _ _ _ added (iff_of_true trivial (.inr listed)) ?_
          rintro type later - ⟨-, kept, extended, found⟩
          exact ⟨kept, extended, .inr ⟨announced, definition, builtin, found⟩⟩

theorem property_yields (owner : String) (declaration : PropertyDecl) :
    Yields (declaration.build names owner) graph (TypeDecl.Knows all declaration.type) fun property later =>
      Loading all done names later ∧ later.Extends graph ∧ declaration.Describes (names.Uses later) property := by
  refine yields_then _ _ graph _ _ _ (loading.named_yields _ _ _ _ declaration.type owner) ?_
  rintro type later ⟨kept, extended, uses⟩
  exact yields_run _ _ _ _ _ _ rfl trivial ⟨kept, extended, type, uses, rfl⟩

theorem properties_yield (owner : String) (declared : List PropertyDecl) :
    Yields (declared.mapM (PropertyDecl.build names owner)) graph (∀ property ∈ declared, TypeDecl.Knows all property.type)
      fun properties later => Loading all done names later ∧ later.Extends graph ∧
        List.Forall₂ (PropertyDecl.Describes (names.Uses later)) declared properties := by
  refine yields_mapM (Loading all done names) _ (fun later => PropertyDecl.Describes (names.Uses later)) _ ?_ ?_ _ _ loading
  · rintro graph later declaration property extended ⟨type, uses, same⟩
    exact ⟨type, names.uses_extends later graph extended _ type uses, same⟩
  · exact fun graph declaration loading => loading.property_yields _ _ _ _ owner declaration

theorem union_kind_iff (name : String) (members : List String) (types : List TypeId)
    (standing : List.Forall₂ names.IsBuilt members types) :
    KindDecl.IsClosed all done (.union members) ↔ ∃ kind, graph.unionKind name types = .ok kind := by
  have marked := forall₂_forall_iff names.IsBuilt _ _ members types standing
    (fun member type built => loading.primary_iff _ _ _ _ name members types standing member type built)
  have sizes := standing.length_eq
  constructor
  · rintro ⟨enough, each⟩
    obtain ⟨primaries, chosen⟩ := (forall₂_exists _ types).mpr (marked.mp each)
    exact ⟨_, (graph.union_kind_iff _ _ _).mpr ⟨sizes ▸ enough, primaries, chosen, rfl⟩⟩
  · rintro ⟨kind, found⟩
    obtain ⟨enough, primaries, chosen, -⟩ := (graph.union_kind_iff _ _ _).mp found
    exact ⟨sizes ▸ enough, marked.mpr ((forall₂_exists _ types).mp ⟨primaries, chosen⟩)⟩

theorem members_yield (name : String) (members : List String) :
    Yields (members.mapM fun each => (liftM (TypeDecl.member names name each) : GraphBuilder TypeId)) graph
      (∀ member ∈ members, ∃ type, names.IsBuilt member type) fun types later =>
        later = graph ∧ later.Extends graph ∧ List.Forall₂ names.IsBuilt members types := by
  refine yields_mapM (· = graph) _ (fun _ => names.IsBuilt) _ (fun _ _ _ _ _ built => built) ?_ _ _ rfl
  rintro later member rfl
  have found (type : TypeId) : TypeDecl.member names name member = .ok type ↔ names.IsBuilt member type := by
    unfold TypeDecl.member TypeNames.IsBuilt
    cases names.built? member <;> simp
  refine yields_imp _ _ _ _ _ _ (yields_lift _ later) (exists_congr found) ?_
  rintro type _ - ⟨built, rfl⟩
  exact ⟨rfl, .refl _, (found type).mp built⟩

theorem union_def_yields (name : String) (members : List String) (types : List TypeId)
    (standing : List.Forall₂ names.IsBuilt members types) :
    Yields (unionDef name types) graph (KindDecl.IsClosed all done (.union members))
      (Defined all done names graph name (.union members)) := by
  have kinds := yields_then _ (fun kind => pure { name, kind }) graph _ _
    (Defined all done names graph name (.union members)) (yields_lift (graph.unionKind name types) graph) (by
      rintro kind _ ⟨found, rfl⟩
      obtain ⟨-, primaries, marked, rfl⟩ := (TypeGraph.union_kind_iff _ _ _ _).mp found
      exact yields_run _ _ _ _ _ _ rfl trivial
        (loading.defined _ _ _ _ _ _ _ (.union members types primaries standing marked)))
  have closed := loading.union_kind_iff _ _ _ _ name members types standing
  exact yields_imp (unionDef name types) graph _ _ _ _ kinds closed.symm (fun _ _ _ after => after)

theorem enumeration_yields (name : String) (values : List String) (deprecated : List (String × ValueDeprecationDecl)) :
    Yields (liftM (TypeDecl.enumeration name values deprecated)) graph
      (KindDecl.IsClosed all done (.enumeration values deprecated))
      (Defined all done names graph name (.enumeration values deprecated)) := by
  have found (definition : TypeDef) : TypeDecl.enumeration name values deprecated = .ok definition ↔
      (∀ entry ∈ deprecated, entry.1 ∈ values) ∧ definition = enumerationDef name values
        (deprecated.map fun entry => entry.2.deprecation entry.1) := by
    unfold TypeDecl.enumeration
    split
    next value declaration unknown =>
      have among := List.mem_of_find?_eq_some unknown
      have missing := List.find?_some unknown
      refine ⟨nofun, fun ⟨listed, _⟩ => ?_⟩
      simp [listed _ among] at missing
    next none =>
      have listed : ∀ entry ∈ deprecated, entry.1 ∈ values := by simpa using none
      rw [Except.ok.injEq]
      exact ⟨fun same => ⟨listed, same.symm⟩, fun both => both.2.symm⟩
  have whole : (∃ definition, TypeDecl.enumeration name values deprecated = .ok definition) ↔
      KindDecl.IsClosed all done (.enumeration values deprecated) := by
    simp only [found, exists_and_left, exists_eq, and_true, KindDecl.IsClosed]
  refine yields_imp _ _ _ _ _ _ (yields_lift _ graph) whole ?_
  rintro definition _ - ⟨made, rfl⟩
  obtain ⟨-, rfl⟩ := (found definition).mp made
  exact loading.defined _ _ _ _ _ _ _ (.enumeration values deprecated)

theorem kind_def_yields (declaration : TypeDecl) :
    Yields (declaration.kindDef names) graph (declaration.kind.IsClosed all done)
      (Defined all done names graph declaration.name declaration.kind) := by
  have plain (kind : KindDecl) (definition : TypeDef)
      (described : kind.Describes graph (names.Uses graph) names.IsBuilt declaration.name definition)
      (closed : kind.IsClosed all done) : Yields (pure definition) graph (kind.IsClosed all done)
        (Defined all done names graph declaration.name kind) :=
    yields_run _ _ _ _ _ _ rfl closed (loading.defined _ _ _ _ _ _ _ described)
  unfold TypeDecl.kindDef
  generalize declaration.kind = kind
  cases kind with
  | atomic => exact plain _ _ .atomic trivial
  | any => exact plain _ _ .any trivial
  | bean declared =>
      refine yields_then _ _ graph _ _ _ (loading.properties_yield _ _ _ _ declaration.name declared) ?_
      rintro properties later ⟨kept, extended, described⟩
      exact yields_run _ _ _ _ _ _ rfl trivial ⟨kept, extended, .bean declared properties described⟩
  | map key value =>
      refine yields_bind _ _ graph _ _ _ _ (loading.named_yields _ _ _ _ key declaration.name) ?_
      rintro keyType middle ⟨keptMiddle, extendedMiddle, usesKey⟩
      refine yields_then _ _ middle _ _ _ (keptMiddle.named_yields _ _ _ _ value declaration.name) ?_
      rintro valueType later ⟨kept, extended, usesValue⟩
      have usesKeyLater := names.uses_extends later middle extended key keyType usesKey
      exact yields_run _ _ _ _ _ _ rfl trivial ⟨kept, .trans _ _ _ extended extendedMiddle,
        .map key value keyType valueType usesKeyLater usesValue⟩
  | sequence element =>
      refine yields_then _ _ graph _ _ _ (loading.named_yields _ _ _ _ element declaration.name) ?_
      rintro elementType later ⟨kept, extended, usesElement⟩
      exact yields_run _ _ _ _ _ _ rfl trivial ⟨kept, extended, .sequence element elementType usesElement⟩
  | union members =>
      have made (types : List TypeId) (later : TypeGraph) (found : later = graph ∧ later.Extends graph ∧
          List.Forall₂ names.IsBuilt members types) : Yields (unionDef declaration.name types) later
            (KindDecl.IsClosed all done (.union members))
            (Defined all done names graph declaration.name (.union members)) := by
        obtain ⟨rfl, -, standing⟩ := found
        exact loading.union_def_yields _ _ _ _ declaration.name members types standing
      have whole := yields_bind _ _ graph _ _ _ _ (loading.members_yield _ _ _ _ declaration.name members) made
      refine yields_imp _ _ _ _ _ _ whole (and_iff_right_of_imp fun closed member among => ?_) (fun _ _ _ after => after)
      obtain ⟨keys, ⟨other, earlier, rfl, -⟩, -⟩ := closed.2 member among
      obtain ⟨type, _, built, -⟩ := loading.described other earlier
      exact ⟨type, built⟩
  | enumeration values deprecated => exact loading.enumeration_yields _ _ _ _ declaration.name values deprecated
  | integer least most => exact plain _ _ (.integer least most) trivial
  | indexed => exact plain _ _ .indexed trivial

end

theorem build_yields (all done rest : List TypeDecl) (names : TypeNames) (graph : TypeGraph)
    (loading : Loading all done names graph) (declaration : TypeDecl) (split : all = done ++ declaration :: rest)
    (distinct : (all.map (·.name)).Nodup) :
    Yields (declaration.build names) graph (declaration.kind.IsClosed all done)
      (Loading all (done ++ [declaration])) := by
  have next := (TypeDecl.distinct_iff all).mp distinct done declaration rest split
  have declared : TypeDecl.Declares all declaration.name := ⟨declaration, by simp [split], rfl⟩
  obtain ⟨reference, announced⟩ := Option.isSome_iff_exists.mp ((loading.announced _).mpr declared)
  refine yields_then _ _ graph _ _ _ (loading.kind_def_yields _ _ _ _ declaration) ?_
  rintro definition middle ⟨keptMiddle, -, described⟩
  have direct := described.direct
  have within := keptMiddle.described_parts _ _ _ _ _ _ _ described
  refine yields_then _ _ middle _ _ _ (keptMiddle.add_yields _ _ _ _ (declaration.finish definition) direct within) ?_
  rintro type later ⟨size, kept, extended, found⟩
  have fresh (name : String) : names.built? name ≠ some type := by
    intro built
    exact absurd (keptMiddle.known_of_built _ _ _ _ name type built) (by simp [size])
  obtain ⟨bound, binds, done⟩ := kept.bind _ _ _ _ declaration definition type reference next announced fresh found
    (keptMiddle.described_extends _ _ _ _ later extended _ _ _ described)
  rw [announced]
  refine yields_then _ _ later _ (fun _ built => built = bound) _ ?_ ?_
  · exact yields_run _ _ _ _ _ _ (bind_run later bound reference type binds) trivial rfl
  · rintro ⟨⟩ _ rfl
    exact yields_run _ _ _ _ _ _ rfl trivial done

theorem announce_yields (all : List TypeDecl) (names : TypeNames) (graph : TypeGraph)
    (loading : Loading all [] names graph) (declaration : TypeDecl) :
    Yields (declaration.announce names) graph (¬ TypeDecl.Declares all declaration.name)
      (Loading (all ++ [declaration]) []) := by
  unfold TypeDecl.announce
  by_cases declared : TypeDecl.Declares all declaration.name
  · have known := (loading.announced declaration.name).mpr declared
    rw [if_pos known]
    exact yields_throw _ _ _ _ (not_not.mpr declared)
  · have unknown := mt (loading.announced declaration.name).mp declared
    rw [if_neg unknown]
    exact yields_run _ _ _ _ _ _ rfl declared (loading.announce _ _ _ declaration declared)

theorem announced_yields (types : List TypeDecl) :
    Yields (types.foldlM TypeDecl.announce {}) {} (types.map (·.name)).Nodup (Loading types []) := by
  have all := yields_foldlM (fun done => Loading done []) (fun done declaration =>
    ¬ TypeDecl.Declares done declaration.name) TypeDecl.announce types
    (fun done declaration _ names graph _ loading => loading.announce_yields done names graph declaration) {} {} .nothing
  exact yields_imp _ _ _ _ _ _ all (TypeDecl.distinct_iff types).symm (fun _ _ _ after => after)

theorem built_yields (types : List TypeDecl) (distinct : (types.map (·.name)).Nodup) (names : TypeNames)
    (graph : TypeGraph) (loading : Loading types [] names graph) :
    Yields (types.foldlM TypeDecl.build names) graph
      (∀ earlier declaration later, types = earlier ++ declaration :: later → declaration.kind.IsClosed types earlier)
      (Loading types types) :=
  yields_foldlM (Loading types) (fun done declaration => declaration.kind.IsClosed types done) TypeDecl.build types
    (fun done declaration rest names graph split loading =>
      loading.build_yields types done rest names graph declaration split distinct) names graph loading

theorem root_yields (all : List TypeDecl) (names : TypeNames) (graph : TypeGraph) (loading : Loading all all names graph)
    (root owner : String) :
    Yields (match names.built? root with
      | some root => pure root
      | none => named names root owner) graph (TypeDecl.Knows all root) fun type later =>
        Loading all all names later ∧ (names.IsBuilt root type ∨ names.built? root = none ∧ names.Uses later root type) := by
  cases built : names.built? root with
  | some type => exact yields_run _ _ _ _ _ _ rfl (.inl (loading.built root type built)) ⟨loading, .inl built⟩
  | none =>
      refine yields_imp _ _ _ _ _ _ (loading.named_yields _ _ _ _ root owner) .rfl ?_
      rintro type later - ⟨kept, -, uses⟩
      exact ⟨kept, .inr ⟨rfl, uses⟩⟩

end Loading

theorem DialectDecl.types_yield (declaration : DialectDecl) :
    GraphBuilder.Yields declaration.buildTypes {}
      ((declaration.types.map (·.name)).Nodup ∧
        (∀ earlier type later, declaration.types = earlier ++ type :: later →
          type.kind.IsClosed declaration.types earlier) ∧
        TypeDecl.Knows declaration.types declaration.root)
      fun root graph => ∃ names, Loading declaration.types declaration.types names graph ∧
        (names.IsBuilt declaration.root root ∨
          names.built? declaration.root = none ∧ names.Uses graph declaration.root root) := by
  refine GraphBuilder.yields_bind _ _ _ _ _ (fun names graph => Loading declaration.types [] names graph ∧
    (declaration.types.map (·.name)).Nodup) _ ?_ ?_
  · refine GraphBuilder.yields_imp _ _ _ _ _ _ (Loading.announced_yields declaration.types) .rfl ?_
    exact fun names graph distinct loading => ⟨loading, distinct⟩
  · rintro names graph ⟨loading, distinct⟩
    refine GraphBuilder.yields_bind _ _ _ _ _ _ _ (loading.built_yields declaration.types distinct names graph) ?_
    intro names graph loading
    refine GraphBuilder.yields_imp _ _ _ _ _ _ (loading.root_yields _ names graph declaration.root declaration.name) .rfl ?_
    exact fun root later _ after => ⟨names, after⟩

-- Where a name leads: a declared one to the type of its declaration, another one to a built-in type.
def DialectDecl.Leads (declaration : DialectDecl) (schema : Schema) (place : String → TypeId) (name : String)
    (type : TypeId) : Prop :=
  (TypeDecl.Declares declaration.types name ∧ schema.resolve type = place name) ∨
    (¬ TypeDecl.Declares declaration.types name ∧ ∃ definition,
      GraphBuilder.builtin? name = some definition ∧ schema.graph.types[type]? = some definition)

structure DialectDecl.Places (declaration : DialectDecl) (schema : Schema) (root : TypeId) (place : String → TypeId) :
    Prop where
  apart : ∀ first ∈ declaration.types, ∀ second ∈ declaration.types, place first.name = place second.name →
    first.name = second.name
  types : ∀ type ∈ declaration.types, ∃ definition,
    schema.graph.types[place type.name]? = some (type.finish definition) ∧
      type.kind.Describes schema.graph (declaration.Leads schema place) (fun name found => found = place name)
        type.name definition
  root : declaration.Leads schema place declaration.root root

def TypeNames.place (names : TypeNames) (name : String) : TypeId :=
  (names.built? name).getD 0

theorem TypeNames.place_of_built (names : TypeNames) (name : String) (type : TypeId) (built : names.IsBuilt name type) :
    names.place name = type := by
  rw [place, show names.built? name = some type from built, Option.getD_some]

def Schema.IsResolved (schema : Schema) (type : TypeId) : Prop :=
  ∃ definition, schema.graph.types[schema.resolve type]? = some definition ∧ definition.kind.isReference = false

namespace Loading

section

variable (all : List TypeDecl) (names : TypeNames) (graph : TypeGraph) (loading : Loading all all names graph)
include loading

theorem reference_target (type : TypeId) (cell : Nat) (kind : (graph.get type).kind = .reference cell) :
    ∃ name target, names.reference? name = some type ∧ names.built? name = some target ∧
      graph.targets.getD cell none = some target := by
  obtain ⟨name, announced⟩ := loading.own type cell kind
  obtain ⟨declaration, among, rfl⟩ := (loading.announced name).mp (by simp [announced])
  obtain ⟨target, definition, built, -⟩ := loading.described declaration among
  obtain ⟨other, found, bound⟩ := loading.cell _ type announced
  rw [graph.get_of_found _ _ found] at kind
  cases kind
  exact ⟨_, target, announced, built, by simp [bound, built]⟩

theorem reaches_known (root type : TypeId) (known : root < graph.types.size) (reached : graph.Reaches root type) :
    type < graph.types.size := by
  induction reached with
  | root => exact known
  | part type part reached among ih => exact loading.within type part among
  | target type target cell reached kind bound ih =>
      obtain ⟨name, other, -, built, same⟩ := loading.reference_target _ _ _ type cell kind
      obtain rfl : other = target := Option.some.inj (same.symm.trans bound)
      exact loading.known_of_built _ _ _ _ name other built

end

section

variable (all : List TypeDecl) (names : TypeNames) (schema : Schema) (loading : Loading all all names schema.graph)
include loading

theorem built_resolved (name : String) (type : TypeId) (built : names.built? name = some type) :
    schema.resolve type = type ∧ schema.IsResolved type := by
  obtain ⟨declaration, among, rfl⟩ := loading.built name type built
  obtain ⟨other, definition, same, found, described⟩ := loading.described declaration among
  obtain rfl : other = type := Option.some.inj (same.symm.trans built)
  have direct : (schema.graph.get other).kind.isReference = false := by
    rw [schema.graph.get_of_found _ _ found]
    exact described.direct
  have stays := schema.resolve_of_no_target other (schema.no_target_of_direct other (by simp [direct]))
  exact ⟨stays, declaration.finish definition, by rwa [stays], described.direct⟩

variable (settled : schema.graph.Settled)
include settled

theorem reference_resolves (name : String) (type target : TypeId) (announced : names.reference? name = some type)
    (built : names.built? name = some target) : schema.resolve type = target := by
  obtain ⟨cell, found, bound⟩ := loading.cell name type announced
  have leads : schema.target? type = some target := by
    simp [Schema.target?, schema.graph.get_of_found _ _ found, bound, built]
  rw [schema.resolve_eq_target settled, leads]
  rfl

theorem known_resolved (type : TypeId) (known : type < schema.graph.types.size) : schema.IsResolved type := by
  have found : schema.graph.types[type]? = some schema.graph.types[type] := Array.getElem?_eq_getElem known
  cases kind : (schema.graph.get type).kind with
  | reference cell =>
      obtain ⟨name, target, announced, built, -⟩ := loading.reference_target _ _ _ type cell kind
      have resolves := loading.reference_resolves _ _ _ settled name type target announced built
      obtain ⟨stays, definition, present, direct⟩ := loading.built_resolved _ _ _ name target built
      exact ⟨definition, by rw [resolves, ← present, stays], direct⟩
  | _ =>
      have direct : (schema.graph.get type).kind.isReference = false := by rw [kind]; rfl
      have stays := schema.resolve_of_no_target type (schema.no_target_of_direct type (by simp [direct]))
      rw [schema.graph.get_of_found _ _ found] at direct
      exact ⟨schema.graph.types[type], by rwa [stays], direct⟩

theorem uses_lead (declaration : DialectDecl) (same : declaration.types = all) (name : String) (type : TypeId)
    (uses : names.Uses schema.graph name type) :
    declaration.Leads schema names.place name type := by
  subst same
  rcases uses with announced | ⟨unknown, builtin⟩
  · obtain ⟨other, among, rfl⟩ := (loading.announced name).mp (by simp [announced])
    obtain ⟨target, _, built, -⟩ := loading.described other among
    refine .inl ⟨⟨other, among, rfl⟩, ?_⟩
    rw [loading.reference_resolves _ _ _ settled _ type target announced built, names.place_of_built _ _ built]
  · refine .inr ⟨?_, builtin⟩
    rw [← loading.announced, unknown]
    simp

theorem places (declaration : DialectDecl) (same : declaration.types = all) (root : TypeId)
    (found : names.IsBuilt declaration.root root ∨
      names.built? declaration.root = none ∧ names.Uses schema.graph declaration.root root) :
    declaration.Places schema root names.place := by
  have lead := loading.uses_lead _ _ _ settled declaration same
  subst same
  constructor
  case apart =>
    intro first among second amongOther same
    obtain ⟨type, _, built, -⟩ := loading.described first among
    obtain ⟨other, _, builtOther, -⟩ := loading.described second amongOther
    rw [names.place_of_built _ _ built, names.place_of_built _ _ builtOther] at same
    obtain rfl := same
    exact loading.injective _ _ type built builtOther
  case types =>
    intro type among
    obtain ⟨place, definition, built, present, described⟩ := loading.described type among
    refine ⟨definition, by rwa [names.place_of_built _ _ built], ?_⟩
    refine described.imp _ _ _ _ _ _ schema.graph (.refl _) _ _ (loading.known_of_uses _ _ _ _) lead ?_
    exact fun name other stands => (names.place_of_built name other stands).symm
  case root =>
    rcases found with built | ⟨-, uses⟩
    · refine .inl ⟨loading.built _ root built, ?_⟩
      rw [(loading.built_resolved _ _ _ _ root built).1, names.place_of_built _ _ built]
    · exact lead _ root uses

end

end Loading

namespace DialectDecl

theorem dialect_iff (declaration : DialectDecl) (compile : String → Option Pattern) (dialect : Dialect) :
    declaration.dialect compile = .ok dialect ↔
    ∃ root graph files, declaration.buildTypes.run {} = .ok (root, graph) ∧
      declaration.files.mapM (FilePattern.ofText · compile) = .ok files ∧
        dialect = { name := declaration.name, graph, root, files, constraints := declaration.constraints } := by
  constructor
  · intro loaded
    obtain ⟨⟨root, graph⟩, built, rest⟩ := SchemaError.bind_ok _ _ _ loaded
    obtain ⟨files, read, same⟩ := SchemaError.bind_ok _ _ _ rest
    exact ⟨root, graph, files, built, read, (Except.ok.inj same).symm⟩
  · rintro ⟨root, graph, files, built, read, rfl⟩
    unfold DialectDecl.dialect
    rw [built]
    change (declaration.files.mapM (FilePattern.ofText · compile) >>= fun files => _) = _
    rw [read]
    rfl

theorem files_read_iff (compile : String → Option Pattern) (sources : List String) :
    (∃ files, sources.mapM (FilePattern.ofText · compile) = .ok files) ↔
      ∀ source ∈ sources, (compile source).isSome := by
  simp only [SchemaError.mapM_ok_iff, forall₂_exists]
  refine forall₂_congr fun source _ => ?_
  unfold FilePattern.ofText
  cases compile source <;> simp

theorem loads_iff_closed (declaration : DialectDecl) (compile : String → Option Pattern) :
    ((∃ dialect, declaration.dialect compile = .ok dialect) ↔ declaration.IsClosed compile) ∧
      ∀ dialect, declaration.dialect compile = .ok dialect → ∀ options index,
        (∀ type, dialect.graph.Reaches dialect.root type → (dialect.schema options index).IsResolved type) ∧
          ∃ place, declaration.Places (dialect.schema options index) dialect.root place := by
  have yields := declaration.types_yield
  constructor
  · have built := yields.succeeds_iff
    have read := files_read_iff compile declaration.files
    simp only [dialect_iff]
    constructor
    · rintro ⟨_, root, graph, files, runs, reads, rfl⟩
      obtain ⟨distinct, types, root⟩ := built.mp ⟨_, runs⟩
      exact ⟨distinct, types, root, read.mp ⟨files, reads⟩⟩
    · intro closed
      obtain ⟨⟨root, graph⟩, runs⟩ := built.mpr ⟨closed.distinct, closed.types, closed.root⟩
      obtain ⟨files, reads⟩ := read.mpr closed.files
      exact ⟨_, root, graph, files, runs, reads, rfl⟩
  · intro dialect loaded options index
    have settled : (dialect.schema options index).graph.Settled := declaration.dialect_settled compile dialect loaded
    obtain ⟨root, graph, files, runs, -, rfl⟩ := (declaration.dialect_iff compile dialect).mp loaded
    obtain ⟨names, loading, found⟩ := yields.leads _ _ _ _ _ root runs
    have known : root < graph.types.size := by
      rcases found with built | ⟨-, uses⟩
      · exact loading.known_of_built _ _ _ _ _ root built
      · exact loading.known_of_uses _ _ _ _ _ root uses
    refine ⟨fun type reached => ?_, _, loading.places _ _ _ settled declaration rfl root found⟩
    exact loading.known_resolved _ _ _ settled type (loading.reaches_known _ _ _ root type known reached)

-- A dialect whose types refer to each other in a circle, with a declared type in the place of a built-in one.
def grove : DialectDecl where
  name := "grove"
  root := "Tree"
  types := [
    { name := "string", kind := .integer none none },
    { name := "Leaf", kind := .bean [{ name := "value", type := "string" }] },
    { name := "Fork", kind := .bean [{ name := "branches", type := "Trees" }] },
    { name := "Tree", kind := .union ["Leaf", "Fork"] },
    { name := "Trees", kind := .sequence "Tree" }]

theorem grove_loads : ∃ dialect, grove.dialect = .ok dialect ∧ grove.IsClosed Pattern.ofText? ∧
    (∀ type, dialect.graph.Reaches dialect.root type → (dialect.schema {} none).IsResolved type) ∧
      ∃ place, grove.Places (dialect.schema {} none) dialect.root place := by
  have loads : grove.dialect.isOk = true := by decide +kernel
  obtain ⟨dialect, loaded⟩ : ∃ dialect, grove.dialect = .ok dialect := by
    generalize grove.dialect = result at loads
    cases result with
    | error error => cases loads
    | ok dialect => exact ⟨dialect, rfl⟩
  exact ⟨dialect, loaded, (grove.loads_iff_closed Pattern.ofText?).1.mp ⟨dialect, loaded⟩,
    (grove.loads_iff_closed Pattern.ofText?).2 dialect loaded {} none⟩

end DialectDecl
end YamlDialects
