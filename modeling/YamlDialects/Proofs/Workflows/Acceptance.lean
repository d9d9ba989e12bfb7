import YamlDialects.Proofs.Schema.Loading
import YamlDialects.Proofs.Workflows.Typing

set_option autoImplicit false

namespace YamlDialects.Workflows

open Validation (Silent nodeContext)
open Yaml (Node Tree)

-- A rule that lets everything through that reads as the scalar.
def Scalar.passes : Scalar → Option ValueRule → Bool
  | .text, none => true
  | .word known, some (.oneOf _ values deprecations) =>
      known.all fun word => values.contains word && deprecations.all (·.value != word)
  | .whole least, some (.integer (some bound) none) => bound == least
  | _, _ => false

theorem passes_sound (kind : Scalar) (rule : Option ValueRule) (passes : kind.passes rule = true)
    (index : Option PropertyIndex) (value : String) (reads : kind.Reads value) : rule.bind (·.check index value) = none := by
  unfold Scalar.passes at passes
  split at passes
  next => rfl
  next known name values deprecations =>
    obtain ⟨listed, current⟩ := Bool.and_eq_true_iff.mp (List.all_eq_true.mp passes value reads)
    have none : deprecations.find? (·.value == value) = none :=
      List.find?_eq_none.mpr fun deprecation member => by simpa using List.all_eq_true.mp current deprecation member
    simp only [Option.bind_some, ValueRule.check, ValueRule.checkOneOf, listed, none, Bool.not_true, Bool.false_eq_true,
      if_false, Option.map_none]
  next least bound =>
    obtain rfl := eq_of_beq passes
    obtain ⟨number, read, atLeast⟩ := reads
    simp [ValueRule.check, ValueRule.checkInteger, read, Option.filter, Int.not_lt.mpr atLeast]
  next => cases passes

def Body.inside (form : Body) (properties : List Property) : List (Part × TypeId) :=
  form.keys.filterMap fun key => (properties.find? (·.name == key.1)).map fun property => (key.2, property.type)

def Body.covers (form : Body) (properties : List Property) (constraints : List Constraint) : Bool :=
  form.keys.all (fun key => (properties.find? (·.name == key.1)).isSome) &&
    properties.all (fun property => !property.deprecated && (!property.required || form.required.contains property.name)) &&
    constraints.all form.permits

def Part.inside? : Part → TypeDef → Option (List (Part × TypeId))
  | .anything, ⟨_, .any, _, _, none, []⟩ => some []
  | .scalar kind, ⟨_, .atomic, _, _, rule, []⟩ => if kind.passes rule then some [] else none
  | .list each, ⟨_, .sequence element, _, _, _, []⟩ => some [(each, element)]
  | .table each, ⟨_, .map keyType valueType, _, _, _, []⟩ => some [(.text, keyType), (each, valueType)]
  | .body form, ⟨_, .bean properties, _, _, _, constraints⟩ =>
      if form.covers properties constraints then some (form.inside properties) else none
  | .namedStep, ⟨_, .map keyType valueType, _, _, _, [.singleKey _]⟩ => some [(.text, keyType), (.body .step, valueType)]
  | .retry, ⟨_, .contextual (.byScalar expression policy) _, _, _, _, _⟩ =>
      some [(.text, expression), (.body .policy, policy)]
  | .document, ⟨_, .contextual (.bySequence listed other) _, _, _, _, _⟩ =>
      some [(.steps, listed), (.table (.body .workflow), other)]
  | _, _ => none

theorem body_fits (takes : Part → TypeId → Prop) (form : Body) (properties : List Property) (constraints : List Constraint)
    (covers : form.covers properties constraints = true)
    (taken : ∀ part type, (part, type) ∈ form.inside properties → takes part type) :
    form.Fits takes properties constraints := by
  simp only [Body.covers, Bool.and_eq_true, List.all_eq_true, Bool.or_eq_true, Bool.not_eq_true'] at covers
  obtain ⟨⟨keys, own⟩, permitted⟩ := covers
  refine ⟨fun name part listed => ?_, fun property member => (own property member).1, ?_, permitted⟩
  · obtain ⟨property, found⟩ := Option.isSome_iff_exists.mp (keys (name, part) listed)
    exact ⟨property, found, taken part property.type (List.mem_filterMap.mpr ⟨(name, part), listed, by simp [found]⟩)⟩
  · intro property member required
    simpa [required] using (own property member).2

theorem inside_fits (takes : Part → TypeId → Prop) (part : Part) (definition : TypeDef) (inner : List (Part × TypeId))
    (found : part.inside? definition = some inner) (taken : ∀ part type, (part, type) ∈ inner → takes part type) :
    part.Fits takes definition := by
  unfold Part.inside? at found
  split at found
  next => exact ⟨rfl, rfl, rfl⟩
  next =>
    split at found
    next passes => exact ⟨rfl, rfl, passes_sound _ _ passes⟩
    next => cases found
  next =>
    cases found
    exact ⟨_, rfl, rfl, taken _ _ (by simp)⟩
  next =>
    cases found
    exact ⟨_, _, rfl, rfl, taken _ _ (by simp), taken _ _ (by simp)⟩
  next =>
    split at found
    next covers =>
      cases found
      exact ⟨_, rfl, body_fits takes _ _ _ covers taken⟩
    next => cases found
  next =>
    cases found
    exact ⟨_, _, _, rfl, rfl, taken _ _ (by simp), taken _ _ (by simp)⟩
  next =>
    cases found
    exact ⟨_, _, _, rfl, taken _ _ (by simp), taken _ _ (by simp)⟩
  next =>
    cases found
    exact ⟨_, _, _, rfl, taken _ _ (by simp), taken _ _ (by simp)⟩
  next => cases found

-- The pair and what it needs are all among the known ones.
def isClosed (graph : TypeGraph) (known : List (Part × TypeId)) : Bool :=
  known.all fun pair => (pair.1.inside? (Schema.definition { graph } pair.2)).any fun inner => inner.all (known.contains ·)

def follow (graph : TypeGraph) : Nat → List (Part × TypeId) → List (Part × TypeId) → List (Part × TypeId)
  | 0, _, known => known
  | _ + 1, [], known => known
  | steps + 1, pair :: rest, known =>
      if known.contains pair then follow graph steps rest known
      else follow graph steps ((pair.1.inside? (Schema.definition { graph } pair.2)).getD [] ++ rest) (pair :: known)

theorem definition_graph (schema : Schema) (type : TypeId) :
    schema.definition type = Schema.definition { graph := schema.graph } type := by
  have within (steps : Nat) : ∀ type, schema.resolveWithin steps type =
      Schema.resolveWithin { graph := schema.graph } steps type := by
    induction steps with
    | zero => exact fun _ => rfl
    | succ steps ih =>
        intro type
        simp only [Schema.resolveWithin, ih]
        rfl
  rw [Schema.definition, Schema.resolve, within]
  rfl

theorem closed_fits (schema : Schema) (known : List (Part × TypeId)) (closed : isClosed schema.graph known = true)
    (part : Part) (type : TypeId) (taken : (part, type) ∈ known) :
    part.Fits (fun part type => (part, type) ∈ known) (schema.definition type) := by
  obtain ⟨inner, found, inside⟩ := (Option.any_eq_true _ _).mp (List.all_eq_true.mp closed (part, type) taken)
  rw [definition_graph]
  refine inside_fits _ part _ inner found fun other below member => ?_
  simpa using List.all_eq_true.mp inside (other, below) member

theorem dialect_takes_document : ∃ dialect, Workflows.dialect = .ok dialect ∧
    ∃ known, (Part.document, dialect.root) ∈ known ∧ isClosed dialect.graph known = true := by
  have checked : (Workflows.dialect.toOption.any fun dialect =>
      let known := follow dialect.graph 200 [(.document, dialect.root)] []
      known.contains (.document, dialect.root) && isClosed dialect.graph known) = true := by decide +kernel
  obtain ⟨dialect, loaded, holds⟩ := SchemaError.ok_of_any _ _ checked
  obtain ⟨start, closed⟩ := Bool.and_eq_true_iff.mp holds
  exact ⟨dialect, loaded, _, by simpa using start, closed⟩

theorem dialect_constraints (dialect : Dialect) (loaded : Workflows.dialect = .ok dialect) :
    ∃ message, dialect.constraints = [.requireKey "main" message] := by
  obtain ⟨result, built, rest⟩ := SchemaError.bind_ok _ _ _ loaded
  obtain ⟨files, read, same⟩ := SchemaError.bind_ok _ _ _ rest
  cases same
  exact ⟨_, rfl⟩

theorem document_has_main (message : String) (root : Node) (wellFormed : WellFormed .document root) :
    (Constraint.requireKey "main" message).Allows root := by
  cases wellFormed with
  | stepsDocument items region steps => exact Constraint.require_key_allows "main" message _ (.inl rfl)
  | workflowsDocument entries region main workflows => exact Constraint.require_key_allows "main" message _ (.inr main)

theorem accepts_well_formed : ∃ dialect, Workflows.dialect = .ok dialect ∧
    ∀ (options : SchemaOptions) (index : Option PropertyIndex) (tree : Tree), tree.errors = [] → tree.damage = [] →
      (∀ root ∈ tree.documents, root.KeysDistinct) → (∀ root ∈ tree.documents, WellFormed .document root) →
        Validation.problems dialect ⟨dialect.schema options index, tree⟩ = [] := by
  obtain ⟨dialect, loaded, known, start, closed⟩ := dialect_takes_document
  obtain ⟨message, constraints⟩ := dialect_constraints dialect loaded
  refine ⟨dialect, loaded, fun options index tree readable whole distinct wellFormed => ?_⟩
  refine Validation.problems_nil_of_silent dialect _ tree readable whole ?_ ?_
  · intro root member
    rw [constraints, List.forall_mem_singleton]
    exact document_has_main message root (wellFormed root member)
  · intro position root found
    have member := List.mem_of_getElem? found
    -- the type of a root is inferred twice, which is the same as once
    have same := (dialect.schema options index).infer_infer (dialect_settled _ dialect loaded) dialect.root
      (nodeContext [.index position] root [])
    rw [Silent, Validation.rootType, Validation.visits_inferred _ _ _ _ dialect.root _ _ same]
    exact well_formed_accepted _ _ (closed_fits (dialect.schema options index) known closed) .document root
      (wellFormed root member) (distinct root member) none none dialect.root _ start

theorem single_key_body (form : Body) (name : String) (part : Part) (value : Node) (keyRegion region : Region)
    (key : ∀ other, (name, other) ∈ form.keys ↔ other = part) (complete : ∀ needed ∈ form.required, needed = name)
    (alone : ∀ companion, (name, companion) ∉ form.companions) (inside : WellFormed part value) :
    WellFormed (.body form) (.mapping [(.scalar name keyRegion, value)] region) := by
  refine .body form _ region ?_ ?_ ?_ ?_ ?_
  · simpa [Node.scalar?] using ⟨part, (key part).mpr rfl⟩
  · intro needed listed
    simp [Node.keyNames, Node.entries, Node.scalar?, complete needed listed]
  · exact List.length_filter_le _ _
  · intro first companion listed present
    obtain rfl : first = name := by simpa [Node.keyNames, Node.entries, Node.scalar?] using present
    exact absurd listed (alone companion)
  · simp only [List.forall_mem_singleton, Node.scalar?, Option.some.injEq]
    rintro own other rfl listed
    rwa [(key other).mp listed]

def nestedSteps : Node :=
  let inner : Node := .sequence [.mapping [(.scalar "inner" ⟨55, 60⟩, .mapping [(.scalar "return" ⟨76, 82⟩,
    .scalar "ok" ⟨84, 86⟩)] ⟨76, 86⟩)] ⟨55, 86⟩] ⟨53, 86⟩
  let outer : Node := .sequence [.mapping [(.scalar "outer" ⟨21, 26⟩, .mapping [(.scalar "steps" ⟨36, 41⟩, inner)]
    ⟨36, 86⟩)] ⟨21, 86⟩] ⟨19, 86⟩
  .mapping [(.scalar "main" ⟨0, 4⟩, .mapping [(.scalar "steps" ⟨8, 13⟩, outer)] ⟨8, 86⟩)] ⟨0, 86⟩

theorem nested_steps_well_formed : WellFormed .document nestedSteps := by
  refine .workflowsDocument _ _ (by decide) (.table _ _ _ (List.forall_mem_singleton.mpr ?_))
  refine single_key_body .workflow "steps" .steps _ _ _ (by simp [Body.keys]) (by simp [Body.required])
    (by simp [Body.companions]) ?_
  refine .list .namedStep _ _ (List.forall_mem_singleton.mpr (.namedStep _ _ rfl (List.forall_mem_singleton.mpr ?_)))
  refine single_key_body .step "steps" .steps _ _ _ (by simp [Body.keys]) (by simp [Body.required])
    (by simp [Body.companions]) ?_
  refine .list .namedStep _ _ (List.forall_mem_singleton.mpr (.namedStep _ _ rfl (List.forall_mem_singleton.mpr ?_)))
  exact single_key_body .step "return" .anything _ _ _ (by simp [Body.keys]) (by simp [Body.required])
    (by simp [Body.companions]) (.anything _)

theorem accepts_well_formed_nested : ∃ dialect, Workflows.dialect = .ok dialect ∧
    (∀ root ∈ [nestedSteps], root.KeysDistinct) ∧ (∀ root ∈ [nestedSteps], WellFormed .document root) ∧
      Validation.problems dialect ⟨dialect.schema {} none, ⟨[nestedSteps], [], [], default⟩⟩ = [] := by
  obtain ⟨dialect, loaded, accepts⟩ := accepts_well_formed
  have distinct : ∀ root ∈ [nestedSteps], root.KeysDistinct :=
    List.forall_mem_singleton.mpr (Node.keys_distinct_of_check _ (by decide))
  have wellFormed : ∀ root ∈ [nestedSteps], WellFormed .document root :=
    List.forall_mem_singleton.mpr nested_steps_well_formed
  exact ⟨dialect, loaded, distinct, wellFormed,
    accepts {} none ⟨[nestedSteps], [], [], default⟩ rfl rfl distinct wellFormed⟩

end YamlDialects.Workflows
