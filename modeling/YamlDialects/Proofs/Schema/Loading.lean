import YamlDialects.Proofs.Schema.Inference
import YamlDialects.Schema.Declaration.Reader
import YamlDialects.Schema.Workflows

set_option autoImplicit false

namespace YamlDialects

theorem SchemaError.bind_ok {α β : Type} (result : Except SchemaError α) (next : α → Except SchemaError β) (value : β)
    (runs : result >>= next = .ok value) : ∃ found, result = .ok found ∧ next found = .ok value := by
  cases result with
  | error error => cases runs
  | ok found => exact ⟨found, rfl, runs⟩

theorem SchemaError.ok_of_any {α : Type} (result : Except SchemaError α) (property : α → Bool)
    (holds : result.toOption.any property = true) : ∃ value, result = .ok value ∧ property value = true := by
  cases result with
  | error error => cases holds
  | ok value => exact ⟨value, rfl, holds⟩

namespace TypeGraph

structure Extends (later graph : TypeGraph) : Prop where
  types : ∀ (type : TypeId) definition, graph.types[type]? = some definition → later.types[type]? = some definition
  targets : ∀ cell target, graph.targets.getD cell none = some target → later.targets.getD cell none = some target

structure Admits (graph : TypeGraph) (kind : TypeKind) : Prop where
  direct : (!kind.isReference) = true
  choices : ∀ choice ∈ kind.choices, graph.decides choice = true

theorem admits_of_decided (graph : TypeGraph) (kind : TypeKind) (decided : kind.isDecided = true) :
    graph.Admits kind := by
  obtain ⟨direct, none⟩ := Bool.and_eq_true_iff.mp decided
  refine ⟨direct, ?_⟩
  simp [List.isEmpty_iff.mp none]

theorem has_iff (graph : TypeGraph) (property : TypeKind → Bool) (type : TypeId) :
    graph.has property type = true ↔
      ∃ definition, graph.types[type]? = some definition ∧ property definition.kind = true :=
  Option.any_eq_true _ _

section

variable (later graph : TypeGraph) (extended : later.Extends graph)
include extended

theorem has_extends (property : TypeKind → Bool) (type : TypeId) (has : graph.has property type = true) :
    later.has property type = true := by
  obtain ⟨definition, found, holds⟩ := (has_iff _ _ _).mp has
  exact (has_iff _ _ _).mpr ⟨definition, extended.types type definition found, holds⟩

theorem decides_extends (choice : TypeId) (decides : graph.decides choice = true) : later.decides choice = true := by
  rcases Bool.or_eq_true_iff.mp decides with decided | bound
  · exact Bool.or_eq_true_iff.mpr (.inl (has_extends later graph extended _ choice decided))
  · refine Bool.or_eq_true_iff.mpr (.inr ?_)
    cases kind : (graph.get choice).kind with
    | reference cell =>
        simp only [kind] at bound
        obtain ⟨target, leads, decided⟩ := (Option.any_eq_true _ _).mp bound
        have found := extended.types choice _ (get_known graph choice (by simp [kind]))
        have same : later.get choice = graph.get choice := by simp [get, found]
        simp only [same, kind, extended.targets cell target leads, Option.any_some]
        exact has_extends later graph extended _ target decided
    | _ => simp [kind] at bound

theorem settled_extends (settled : graph.Settled)
    (types : ∀ definition ∈ later.types, definition ∈ graph.types ∨
      ∀ choice ∈ definition.kind.choices, graph.decides choice = true)
    (targets : ∀ bound ∈ later.targets, bound ∈ graph.targets ∨
      ∀ target ∈ bound, graph.has (!·.isReference) target = true) : later.Settled := by
  constructor
  · intro bound member target leads
    rcases targets bound member with old | direct
    · exact has_extends later graph extended _ target (settled.targets bound old target leads)
    · exact has_extends later graph extended _ target (direct target leads)
  · intro definition member choice chosen
    rcases types definition member with old | decides
    · exact decides_extends later graph extended choice (settled.choices definition old choice chosen)
    · exact decides_extends later graph extended choice (decides choice chosen)

end

theorem extends_push (graph : TypeGraph) (definition : TypeDef) :
    ({ graph with types := graph.types.push definition } : TypeGraph).Extends graph := by
  refine ⟨fun type known found => ?_, fun _ _ leads => leads⟩
  have bound := (Array.getElem?_eq_some_iff.mp found).1
  simpa [Array.getElem?_push, Nat.ne_of_lt bound] using found

theorem extends_cell (graph : TypeGraph) :
    ({ graph with targets := graph.targets.push none } : TypeGraph).Extends graph := by
  refine ⟨fun _ _ found => found, fun cell target leads => ?_⟩
  simp only [Array.getD_eq_getD_getElem?, Array.getElem?_push] at leads ⊢
  split
  next last => simp [last] at leads
  next => exact leads

theorem bind_iff (graph bound : TypeGraph) (type target : TypeId) :
    graph.bind type target = .ok bound ↔
      ∃ cell, (graph.get type).kind = .reference cell ∧ graph.targets.getD cell none = none ∧
        bound = { graph with targets := graph.targets.setIfInBounds cell (some target) } := by
  unfold TypeGraph.bind
  cases kind : (graph.get type).kind with
  | reference cell =>
      constructor
      · intro binds
        cases free : graph.targets.getD cell none with
        | some earlier => simp only [free, reduceCtorEq] at binds
        | none =>
            simp only [free, Except.ok.injEq] at binds
            exact ⟨cell, rfl, free, binds.symm⟩
      · rintro ⟨_, same, free, rfl⟩
        cases same
        simp only [free]
  | _ => simp

theorem extends_bind (graph bound : TypeGraph) (type target : TypeId) (binds : graph.bind type target = .ok bound) :
    bound.Extends graph := by
  obtain ⟨cell, -, free, rfl⟩ := (bind_iff graph bound type target).mp binds
  refine ⟨fun _ _ found => found, fun other earlier leads => ?_⟩
  have apart : cell ≠ other := by
    rintro rfl
    simp [free] at leads
  simpa [Array.getD_eq_getD_getElem?, Array.getElem?_setIfInBounds, apart] using leads

theorem settled_push (graph : TypeGraph) (definition : TypeDef) (settled : graph.Settled)
    (choices : ∀ choice ∈ definition.kind.choices, graph.decides choice = true) :
    ({ graph with types := graph.types.push definition } : TypeGraph).Settled := by
  apply settled_extends _ graph (extends_push graph definition) settled
  · intro added member
    rcases Array.mem_push.mp member with old | rfl
    · exact .inl old
    · exact .inr choices
  · exact fun bound member => .inl member

theorem settled_cell (graph : TypeGraph) (settled : graph.Settled) :
    ({ graph with targets := graph.targets.push none } : TypeGraph).Settled := by
  apply settled_extends _ graph (extends_cell graph) settled
  · exact fun definition member => .inl member
  · intro bound member
    rcases Array.mem_push.mp member with old | rfl
    · exact .inl old
    · exact .inr (fun _ => nofun)

theorem settled_bind (graph bound : TypeGraph) (type target : TypeId) (settled : graph.Settled)
    (direct : graph.has (!·.isReference) target = true) (binds : graph.bind type target = .ok bound) :
    bound.Settled := by
  have extended := extends_bind graph bound type target binds
  obtain ⟨cell, -, -, rfl⟩ := (bind_iff graph bound type target).mp binds
  apply settled_extends _ graph extended settled
  · exact fun definition member => .inl member
  · intro known member
    rcases Array.mem_or_eq_of_mem_setIfInBounds member with old | rfl
    · exact .inl old
    · exact .inr (by simpa using direct)

theorem primary_bean (graph : TypeGraph) (unionName : String) (members : List TypeId) (member : TypeId)
    (property : Property) (found : graph.primary unionName members member = .ok property) :
    graph.decides member = true := by
  unfold primary beanProperties? at found
  cases kind : (graph.get member).kind with
  | bean properties =>
      have decided : (graph.get member).kind.isDecided = true := by rw [kind]; rfl
      have known := get_known graph member (by simp [kind])
      exact Bool.or_eq_true_iff.mpr (.inl ((has_iff _ _ _).mpr ⟨graph.get member, known, decided⟩))
  | _ => simp [kind] at found

theorem primaries_beans (graph : TypeGraph) (unionName : String) (all members : List TypeId)
    (properties : List Property) (found : members.mapM (graph.primary unionName all) = .ok properties) :
    ∀ member ∈ members, graph.decides member = true := by
  induction members generalizing properties with
  | nil => simp
  | cons first rest ih =>
      rw [List.mapM_cons] at found
      obtain ⟨property, head, more⟩ := SchemaError.bind_ok _ _ _ found
      obtain ⟨others, tail, -⟩ := SchemaError.bind_ok _ _ _ more
      intro member among
      rcases List.mem_cons.mp among with rfl | later
      · exact primary_bean graph unionName all member property head
      · exact ih others tail member later

theorem union_admitted (graph : TypeGraph) (unionName : String) (members : List TypeId) (kind : TypeKind)
    (found : graph.unionKind unionName members = .ok kind) : graph.Admits kind := by
  unfold unionKind at found
  split at found
  next => cases found
  next =>
    cases primaries : members.mapM (graph.primary unionName members) with
    | error error => simp [primaries, Except.map] at found
    | ok properties =>
        simp only [primaries, Except.map, Except.ok.injEq] at found
        subst found
        exact ⟨rfl, primaries_beans graph unionName members members properties primaries⟩

end TypeGraph

namespace GraphBuilder

-- From a graph as it is before, a builder that succeeds leads to a value and a graph as they are after.
def Builds {α : Type} (before : TypeGraph → Prop) (builder : GraphBuilder α) (after : α → TypeGraph → Prop) : Prop :=
  ∀ graph value built, before graph → builder.run graph = .ok (value, built) → after value built

theorem builds_pure {α : Type} (before : TypeGraph → Prop) (value : α) (after : α → TypeGraph → Prop)
    (holds : ∀ graph, before graph → after value graph) : Builds before (pure value) after := by
  intro graph _ built holdsBefore runs
  cases runs
  exact holds graph holdsBefore

theorem builds_throw {α : Type} (before : TypeGraph → Prop) (error : SchemaError) (after : α → TypeGraph → Prop) :
    Builds before (throw error) after := by
  intro graph value built _ runs
  cases runs

theorem builds_get (before : TypeGraph → Prop) :
    Builds before get (fun value graph => value = graph ∧ before graph) := by
  intro graph value built holdsBefore runs
  cases runs
  exact ⟨rfl, holdsBefore⟩

theorem builds_set (graph : TypeGraph) (before : TypeGraph → Prop) (after : PUnit → TypeGraph → Prop)
    (holds : ∀ earlier, before earlier → after ⟨⟩ graph) : Builds before (set graph) after := by
  intro earlier value built holdsBefore runs
  cases runs
  exact holds earlier holdsBefore

theorem builds_lift {α : Type} (before : TypeGraph → Prop) (result : Except SchemaError α) :
    Builds before (liftM result) (fun value graph => result = .ok value ∧ before graph) := by
  intro graph value built holdsBefore runs
  cases result with
  | error error => cases runs
  | ok found =>
      cases runs
      exact ⟨rfl, holdsBefore⟩

theorem builds_bind {α β : Type} (before : TypeGraph → Prop) (builder : GraphBuilder α) (next : α → GraphBuilder β)
    (between : α → TypeGraph → Prop) (after : β → TypeGraph → Prop) (first : Builds before builder between)
    (second : ∀ value, Builds (between value) (next value) after) : Builds before (builder >>= next) after := by
  intro graph value built holdsBefore runs
  rw [StateT.run_bind] at runs
  obtain ⟨result, ran, rest⟩ := SchemaError.bind_ok _ _ _ runs
  exact second result.1 result.2 value built (first graph result.1 result.2 holdsBefore ran) rest

theorem builds_mapM {α β : Type} (invariant : TypeGraph → Prop) (step : α → GraphBuilder β) (items : List α)
    (keeps : ∀ item, Builds invariant (step item) (fun _ => invariant)) :
    Builds invariant (items.mapM step) (fun _ => invariant) := by
  induction items with
  | nil => exact builds_pure _ _ _ (fun _ holds => holds)
  | cons item rest ih =>
      rw [List.mapM_cons]
      refine builds_bind _ _ _ _ _ (keeps item) (fun value => ?_)
      exact builds_bind _ _ _ _ _ ih (fun values => builds_pure _ _ _ (fun _ holds => holds))

theorem builds_foldlM {α β : Type} (invariant : TypeGraph → Prop) (step : β → α → GraphBuilder β) (items : List α)
    (keeps : ∀ state item, Builds invariant (step state item) (fun _ => invariant)) (start : β) :
    Builds invariant (items.foldlM step start) (fun _ => invariant) := by
  induction items generalizing start with
  | nil => exact builds_pure _ _ _ (fun _ holds => holds)
  | cons item rest ih =>
      rw [List.foldlM_cons]
      exact builds_bind _ _ _ _ _ (keeps start item) (fun state => ih state)

theorem builds_add (definition : TypeDef) :
    Builds (fun graph => graph.Settled ∧ ∀ choice ∈ definition.kind.choices, graph.decides choice = true)
      (add definition) (fun type graph => graph.Settled ∧ graph.types[type]? = some definition) := by
  refine builds_bind _ _ _ _ _ (builds_get _) (fun graph => ?_)
  refine builds_bind _ _ _ _ _ (builds_set _ _ (fun _ later => later.Settled ∧
    later.types[graph.types.size]? = some definition) ?_) (fun _ => builds_pure _ _ _ (fun _ holds => holds))
  rintro earlier ⟨rfl, settled, choices⟩
  exact ⟨TypeGraph.settled_push graph definition settled choices, by simp⟩

theorem builds_add_decided (definition : TypeDef) (closed : definition.kind.choices = []) :
    Builds TypeGraph.Settled (add definition) (fun _ => TypeGraph.Settled) := by
  intro graph type built settled runs
  exact (builds_add definition graph type built ⟨settled, by simp [closed]⟩ runs).1

theorem builds_reference (name : String) :
    Builds TypeGraph.Settled (reference name) (fun _ => TypeGraph.Settled) := by
  refine builds_bind _ _ _ (fun definition graph => definition.kind.choices = [] ∧ graph.Settled) _ ?_ ?_
  · refine builds_bind _ _ _ _ _ (builds_get _) (fun graph => ?_)
    refine builds_bind _ _ _ (fun _ => TypeGraph.Settled) _ (builds_set _ _ _ ?_) (fun _ => ?_)
    · rintro earlier ⟨rfl, settled⟩
      exact TypeGraph.settled_cell graph settled
    · exact builds_pure _ _ _ (fun later settled => ⟨rfl, settled⟩)
  · rintro definition graph type built ⟨closed, settled⟩ runs
    exact builds_add_decided definition closed graph type built settled runs

theorem builds_bind_reference (type target : TypeId) :
    Builds (fun graph => graph.Settled ∧ graph.has (!·.isReference) target = true) (bind type target)
      (fun _ => TypeGraph.Settled) := by
  refine builds_bind _ _ _ _ _ (builds_get _) (fun graph => ?_)
  refine builds_bind _ _ _ _ _ (builds_lift _ _) (fun bound => builds_set _ _ _ ?_)
  rintro earlier ⟨binds, rfl, settled, direct⟩
  exact TypeGraph.settled_bind graph bound type target settled direct binds

theorem builds_union (name : String) (members : List TypeId) :
    Builds TypeGraph.Settled (unionDef name members)
      (fun definition graph => graph.Settled ∧ graph.Admits definition.kind) := by
  refine builds_bind _ _ _ _ _ (builds_get _) (fun graph => ?_)
  refine builds_bind _ _ _ _ _ (builds_lift _ _) (fun kind => builds_pure _ _ _ ?_)
  rintro earlier ⟨found, rfl, settled⟩
  exact ⟨settled, TypeGraph.union_admitted graph name members kind found⟩

theorem builtin_closed (name : String) (definition : TypeDef) (found : builtin? name = some definition) :
    definition.kind.choices = [] := by
  unfold builtin? at found
  repeat' split at found
  all_goals first
    | obtain rfl := Option.some.inj found
      rfl
    | cases found

theorem builds_named (names : TypeNames) (name owner : String) :
    Builds TypeGraph.Settled (named names name owner) (fun _ => TypeGraph.Settled) := by
  unfold named
  split
  next => exact builds_pure _ _ _ (fun _ settled => settled)
  next =>
    split
    next definition found => exact builds_add_decided definition (builtin_closed name definition found)
    next => exact builds_throw _ _ _

end GraphBuilder

section

open GraphBuilder

theorem PropertyDecl.builds (names : TypeNames) (owner : String) (declaration : PropertyDecl) :
    Builds TypeGraph.Settled (declaration.build names owner) (fun _ => TypeGraph.Settled) :=
  builds_bind _ _ _ _ _ (builds_named names declaration.type owner)
    (fun _ => builds_pure _ _ _ (fun _ settled => settled))

namespace TypeDecl

theorem enumeration_decided (name : String) (values : List String) (deprecated : List (String × ValueDeprecationDecl))
    (definition : TypeDef) (found : enumeration name values deprecated = .ok definition) :
    definition.kind.isDecided = true := by
  unfold enumeration at found
  split at found
  next => cases found
  next =>
    cases found
    rfl

theorem kind_def_builds (names : TypeNames) (declaration : TypeDecl) :
    Builds TypeGraph.Settled (declaration.kindDef names)
      (fun definition graph => graph.Settled ∧ graph.Admits definition.kind) := by
  -- all kinds but unions leave nothing to be chosen
  have decided (graph : TypeGraph) (settled : graph.Settled) (definition : TypeDef)
      (decided : definition.kind.isDecided = true) : graph.Settled ∧ graph.Admits definition.kind :=
    ⟨settled, graph.admits_of_decided _ decided⟩
  unfold kindDef
  cases declaration.kind with
  | bean properties =>
      refine builds_bind _ _ _ _ _ (builds_mapM _ _ _ (PropertyDecl.builds names declaration.name)) (fun built => ?_)
      exact builds_pure _ _ _ (fun graph settled => decided graph settled _ rfl)
  | map key value =>
      refine builds_bind _ _ _ _ _ (builds_named names key declaration.name) (fun keyType => ?_)
      refine builds_bind _ _ _ _ _ (builds_named names value declaration.name) (fun valueType => ?_)
      refine builds_bind _ _ _ _ _ (builds_get _) (fun current => ?_)
      exact builds_pure _ _ _ (fun graph known => decided graph known.2 _ rfl)
  | sequence element =>
      refine builds_bind _ _ _ _ _ (builds_named names element declaration.name) (fun elementType => ?_)
      refine builds_bind _ _ _ _ _ (builds_get _) (fun current => ?_)
      exact builds_pure _ _ _ (fun graph known => decided graph known.2 _ rfl)
  | union members =>
      refine builds_bind _ _ _ _ _ (builds_mapM _ _ _ (fun each => ?_)) (builds_union declaration.name)
      intro graph type built settled runs
      exact (builds_lift _ _ graph type built settled runs).2
  | enumeration values deprecated =>
      intro graph definition built settled runs
      obtain ⟨found, kept⟩ := builds_lift _ _ graph definition built settled runs
      exact decided built kept definition (enumeration_decided _ _ _ _ found)
  | _ => exact builds_pure _ _ _ (fun graph settled => decided graph settled _ rfl)

theorem builds (names : TypeNames) (declaration : TypeDecl) :
    Builds TypeGraph.Settled (declaration.build names) (fun _ => TypeGraph.Settled) := by
  refine builds_bind _ _ _ _ _ (kind_def_builds names declaration) (fun definition => ?_)
  refine builds_bind _ _ _ (fun type graph => graph.Settled ∧ graph.has (!·.isReference) type = true) _ ?_ (fun type => ?_)
  · rintro graph type built ⟨settled, admitted⟩ runs
    obtain ⟨kept, found⟩ := builds_add { definition with
      hints := definition.hints ++ declaration.hints.map Hint.of
      constraints := declaration.constraints } graph type built ⟨settled, admitted.choices⟩ runs
    exact ⟨kept, (TypeGraph.has_iff _ _ _).mpr ⟨_, found, admitted.direct⟩⟩
  · cases names.reference? declaration.name with
    | none => exact builds_pure _ _ _ (fun graph known => known.1)
    | some reference =>
        exact builds_bind _ _ _ _ _ (builds_bind_reference reference type)
          (fun _ => builds_pure _ _ _ (fun _ settled => settled))

theorem announce_builds (names : TypeNames) (declaration : TypeDecl) :
    Builds TypeGraph.Settled (declaration.announce names) (fun _ => TypeGraph.Settled) := by
  unfold announce
  split
  next => exact builds_bind _ _ _ _ _ (builds_throw _ _ (fun _ _ => False)) (fun _ _ _ _ never => never.elim)
  next =>
    exact builds_bind _ _ _ _ _ (builds_reference declaration.name)
      (fun _ => builds_pure _ _ _ (fun _ settled => settled))

end TypeDecl

theorem empty_settled : ({} : TypeGraph).Settled :=
  ⟨by simp, by simp⟩

theorem DialectDecl.builds (declaration : DialectDecl) :
    Builds TypeGraph.Settled declaration.buildTypes (fun _ => TypeGraph.Settled) := by
  refine builds_bind _ _ _ _ _ (builds_foldlM _ _ _ TypeDecl.announce_builds _) (fun announced => ?_)
  refine builds_bind _ _ _ _ _ (builds_foldlM _ _ _ TypeDecl.builds _) (fun names => ?_)
  cases names.built? declaration.root with
  | some root => exact builds_pure _ _ _ (fun _ settled => settled)
  | none => exact builds_named names declaration.root declaration.name

end

theorem DialectDecl.dialect_settled (declaration : DialectDecl) (compile : String → Option Pattern)
    (dialect : Dialect) (loaded : declaration.dialect compile = .ok dialect) : dialect.graph.Settled := by
  obtain ⟨result, built, rest⟩ := SchemaError.bind_ok _ _ _ loaded
  obtain ⟨files, -, same⟩ := SchemaError.bind_ok _ _ _ rest
  cases same
  exact declaration.builds {} result.1 result.2 empty_settled built

-- The dialects that the server can serve: a declared one, or the built-in one, whatever engine the file patterns are for.
def Dialect.IsServed (dialect : Dialect) : Prop :=
  ∃ compile, (∃ declaration : DialectDecl, declaration.dialect compile = .ok dialect) ∨
    Workflows.dialect compile = .ok dialect

theorem Dialect.served_of_text (dialect : Dialect) (text : String) (loaded : Dialect.ofText text = .ok dialect) :
    dialect.IsServed := by
  unfold Dialect.ofText at loaded
  split at loaded
  next declaration read => exact ⟨Pattern.ofText?, .inl ⟨declaration, loaded⟩⟩
  next => cases loaded

instance (graph : TypeGraph) : Decidable graph.Settled :=
  decidable_of_iff ((∀ bound ∈ graph.targets, ∀ target ∈ bound, graph.has (!·.isReference) target = true) ∧
      ∀ definition ∈ graph.types, ∀ choice ∈ definition.kind.choices, graph.decides choice = true)
    ⟨fun ⟨targets, choices⟩ => ⟨targets, choices⟩, fun settled => ⟨settled.targets, settled.choices⟩⟩

theorem Workflows.graph_settled (root : TypeId) (graph : TypeGraph) (built : Workflows.document.run {} = .ok (root, graph)) :
    graph.Settled := by
  have check : (Workflows.document.run {}).toOption.all (decide ·.2.Settled) = true := by decide +kernel
  simpa [built, Except.toOption] using check

theorem Workflows.dialect_settled (compile : String → Option Pattern) (dialect : Dialect)
    (loaded : Workflows.dialect compile = .ok dialect) : dialect.graph.Settled := by
  obtain ⟨result, built, rest⟩ := SchemaError.bind_ok _ _ _ loaded
  obtain ⟨files, -, same⟩ := SchemaError.bind_ok _ _ _ rest
  cases same
  exact graph_settled result.1 result.2 built

theorem Dialect.served_settled (dialect : Dialect) (served : dialect.IsServed) : dialect.graph.Settled := by
  obtain ⟨compile, ⟨declaration, loaded⟩ | builtin⟩ := served
  · exact declaration.dialect_settled compile dialect loaded
  · exact Workflows.dialect_settled compile dialect builtin

end YamlDialects
