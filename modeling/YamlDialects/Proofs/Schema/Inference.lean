import YamlDialects.Schema.Basic

/-!
Inference on settled type graphs. There, a reference leads to a type that is no reference, and what a union or
a contextual type chooses leaves nothing to be chosen, so that a type that has been inferred is inferred to be
itself.
-/

set_option autoImplicit false

namespace YamlDialects

namespace TypeKind

def isReference : TypeKind → Bool
  | .reference _ => true
  | _ => false

-- What a context can select in place of the type.
def choices : TypeKind → List TypeId
  | .union members _ => members
  | .contextual (.byValue _ cases otherwise) _ => cases.map (·.2) ++ otherwise.toList
  | .contextual (.byScalar scalar structured) _ => [scalar, structured]
  | .contextual (.bySequence listed other) _ => [listed, other]
  | _ => []

def isDecided (kind : TypeKind) : Bool :=
  !kind.isReference && kind.choices.isEmpty

end TypeKind

namespace TypeGraph

def has (graph : TypeGraph) (property : TypeKind → Bool) (type : TypeId) : Bool :=
  graph.types[type]?.any (property ·.kind)

def decides (graph : TypeGraph) (choice : TypeId) : Bool :=
  graph.has TypeKind.isDecided choice ||
    match (graph.get choice).kind with
    | .reference cell => (graph.targets.getD cell none).any (graph.has TypeKind.isDecided)
    | _ => false

structure Settled (graph : TypeGraph) : Prop where
  targets : ∀ bound ∈ graph.targets, ∀ target ∈ bound, graph.has (!·.isReference) target = true
  choices : ∀ definition ∈ graph.types, ∀ choice ∈ definition.kind.choices, graph.decides choice = true

theorem has_get (graph : TypeGraph) (property : TypeKind → Bool) (type : TypeId)
    (has : graph.has property type = true) : property (graph.get type).kind = true := by
  unfold TypeGraph.has at has
  cases found : graph.types[type]? with
  | none => simp [found] at has
  | some definition => simpa [get, found] using has

theorem get_known (graph : TypeGraph) (type : TypeId) (kind : (graph.get type).kind ≠ .atomic) :
    graph.types[type]? = some (graph.get type) := by
  cases found : graph.types[type]? with
  | none =>
      simp only [get, Array.getD_eq_getD_getElem?, found, Option.getD_none] at kind
      exact absurd rfl kind
  | some definition => simp [get, found]

theorem get_mem (graph : TypeGraph) (type choice : TypeId) (member : choice ∈ (graph.get type).kind.choices) :
    graph.get type ∈ graph.types := by
  refine Array.mem_of_getElem? (get_known graph type ?_)
  intro atomic
  simp [atomic, TypeKind.choices] at member

end TypeGraph

namespace Schema

theorem target_bound (schema : Schema) (type target : TypeId) (leads : schema.target? type = some target) :
    some target ∈ schema.graph.targets := by
  cases kind : (schema.graph.get type).kind with
  | reference cell =>
      simp only [target?, kind, Array.getD_eq_getD_getElem?] at leads
      cases bound : schema.graph.targets[cell]? with
      | none => simp [bound] at leads
      | some found =>
          obtain rfl : found = some target := by simpa [bound] using leads
          exact Array.mem_of_getElem? bound
  | _ => simp [target?, kind] at leads

theorem choice_mem (schema : Schema) (context : SchemaContext) (type choice : TypeId)
    (chosen : schema.choice? context type = some choice) : choice ∈ (schema.graph.get type).kind.choices := by
  unfold choice? at chosen
  cases kind : (schema.graph.get type).kind with
  | union members primaries =>
      simp only [kind, Option.map_eq_some_iff] at chosen
      obtain ⟨pair, found, rfl⟩ := chosen
      exact (List.of_mem_zip (List.mem_of_find?_eq_some found)).1
  | contextual guess shape =>
      simp only [kind] at chosen
      cases guess with
      | byValue key cases otherwise =>
          simp only [Guess.choose] at chosen
          split at chosen
          next value type found =>
            obtain ⟨text, -, listed⟩ := Option.bind_eq_some_iff.mp found
            obtain rfl := Option.some.inj chosen
            exact List.mem_append_left _ (List.mem_map_of_mem (List.mem_of_find?_eq_some listed))
          next => exact List.mem_append_right _ (by simpa using chosen)
      | byScalar scalar structured =>
          simp only [Guess.choose] at chosen
          simp only [TypeKind.choices, List.mem_cons, List.not_mem_nil, or_false]
          grind
      | bySequence listed other =>
          simp only [Guess.choose, Option.some.injEq] at chosen
          simp only [TypeKind.choices, List.mem_cons, List.not_mem_nil, or_false]
          grind
  | _ => simp [kind] at chosen

-- Nothing is left to follow or to choose.
structure IsStable (schema : Schema) (type : TypeId) (context : SchemaContext) : Prop where
  followed : schema.target? type = none
  chosen : schema.choice? context type = none

theorem resolve_of_no_target (schema : Schema) (type : TypeId) (ended : schema.target? type = none) :
    schema.resolve type = type := by
  simp [resolve, maxSteps, resolveWithin, ended]

theorem infer_stable (schema : Schema) (type : TypeId) (context : SchemaContext)
    (stable : schema.IsStable type context) : schema.infer type context = type := by
  simp [infer, resolve_of_no_target schema type stable.followed, maxSteps, inferWithin, stable.chosen]

theorem no_target_of_direct (schema : Schema) (type : TypeId)
    (direct : (!(schema.graph.get type).kind.isReference) = true) : schema.target? type = none := by
  cases kind : (schema.graph.get type).kind with
  | reference cell => simp [kind, TypeKind.isReference] at direct
  | _ => simp [target?, kind]

theorem stable_of_kind (schema : Schema) (type : TypeId) (context : SchemaContext)
    (decided : (schema.graph.get type).kind.isDecided = true) : schema.IsStable type context := by
  obtain ⟨direct, none⟩ := Bool.and_eq_true_iff.mp decided
  refine ⟨no_target_of_direct schema type direct, ?_⟩
  cases chosen : schema.choice? context type with
  | none => rfl
  | some choice =>
      have member := choice_mem schema context type choice chosen
      rw [List.isEmpty_iff.mp none] at member
      cases member

theorem stable_of_decided (schema : Schema) (type : TypeId) (context : SchemaContext)
    (decided : schema.graph.has TypeKind.isDecided type = true) : schema.IsStable type context :=
  stable_of_kind schema type context (TypeGraph.has_get _ _ _ decided)

section

variable (schema : Schema) (settled : schema.graph.Settled)
include settled

theorem target_no_target (type target : TypeId) (leads : schema.target? type = some target) :
    schema.target? target = none :=
  no_target_of_direct schema target
    (TypeGraph.has_get _ _ _ (settled.targets _ (target_bound schema type target leads) target rfl))

theorem resolve_eq_target (type : TypeId) : schema.resolve type = (schema.target? type).getD type := by
  cases leads : schema.target? type with
  | none => exact resolve_of_no_target schema type leads
  | some target =>
      simp [resolve, maxSteps, resolveWithin, leads, target_no_target schema settled type target leads]

theorem resolve_no_target (type : TypeId) : schema.target? (schema.resolve type) = none := by
  rw [resolve_eq_target schema settled]
  cases leads : schema.target? type with
  | none => exact leads
  | some target => exact target_no_target schema settled type target leads

theorem stable_of_decides (choice : TypeId) (context : SchemaContext) (decides : schema.graph.decides choice = true) :
    schema.IsStable (schema.resolve choice) context := by
  rcases Bool.or_eq_true_iff.mp decides with decided | bound
  · have stable := stable_of_decided schema choice context decided
    rwa [resolve_of_no_target schema choice stable.followed]
  · cases kind : (schema.graph.get choice).kind with
    | reference cell =>
        simp only [kind] at bound
        obtain ⟨target, leads, decided⟩ := (Option.any_eq_true _ _).mp bound
        have target? : schema.target? choice = some target := by simpa [target?, kind] using leads
        rw [resolve_eq_target schema settled, target?]
        exact stable_of_decided schema target context decided
    | _ => simp [kind] at bound

theorem infer_is_stable (type : TypeId) (context : SchemaContext) :
    schema.IsStable (schema.infer type context) context := by
  have followed := resolve_no_target schema settled type
  unfold infer
  generalize schema.resolve type = resolved at followed ⊢
  cases chosen : schema.choice? context resolved with
  | none =>
      simp only [maxSteps, inferWithin, chosen, Option.map_none]
      exact ⟨followed, chosen⟩
  | some choice =>
      -- what is chosen is decided, so the second step of the inference is the last
      have member := choice_mem schema context resolved choice chosen
      have stable := stable_of_decides schema settled choice context
        (settled.choices _ (TypeGraph.get_mem _ _ _ member) choice member)
      by_cases same : schema.resolve choice = resolved
      · simpa [maxSteps, inferWithin, chosen, same] using same ▸ stable
      · simpa [maxSteps, inferWithin, chosen, same, stable.chosen] using stable

theorem infer_infer (type : TypeId) (context : SchemaContext) :
    schema.infer (schema.infer type context) context = schema.infer type context :=
  infer_stable schema _ context (infer_is_stable schema settled type context)

end

section

variable (schema : Schema) (type : TypeId) (decided : (schema.kind type).isDecided = true)
include decided

theorem decided_stable (context : SchemaContext) : schema.IsStable (schema.resolve type) context :=
  stable_of_kind schema _ context decided

theorem decided_resolved : schema.definition (schema.resolve type) = schema.definition type := by
  have followed := (decided_stable schema type decided default).followed
  rw [definition, resolve_of_no_target schema _ followed]
  rfl

theorem infer_decided (context : SchemaContext) : schema.infer type context = schema.resolve type := by
  have chosen := (decided_stable schema type decided context).chosen
  simp [infer, maxSteps, inferWithin, chosen]

theorem decided_definition (context : SchemaContext) :
    schema.definition (schema.infer type context) = schema.definition type := by
  rw [infer_decided schema type decided, decided_resolved schema type decided]

theorem infer_chosen (declared : TypeId) (context : SchemaContext)
    (chosen : schema.choice? context (schema.resolve declared) = some type) :
    schema.infer declared context = schema.infer type context := by
  have stable := decided_stable schema type decided context
  rw [infer_decided schema type decided]
  by_cases same : schema.resolve type = schema.resolve declared
  · simp [infer, maxSteps, inferWithin, chosen, same]
  · simp [infer, maxSteps, inferWithin, chosen, same, stable.chosen]

end

section

variable (schema : Schema) (type : TypeId) (properties : List Property) (isBean : schema.kind type = .bean properties)
include isBean

theorem bean_decided : (schema.kind type).isDecided = true := by
  rw [isBean]
  rfl

theorem bean_resolved : schema.kind (schema.resolve type) = .bean properties := by
  rw [kind, decided_resolved schema type (bean_decided schema type properties isBean)]
  exact isBean

theorem infer_bean (context : SchemaContext) : schema.infer type context = schema.resolve type :=
  infer_decided schema type (bean_decided schema type properties isBean) context

theorem infer_bean_again (context : SchemaContext) : schema.infer (schema.resolve type) context = schema.resolve type :=
  infer_stable schema _ context (decided_stable schema type (bean_decided schema type properties isBean) context)

end

end Schema
end YamlDialects
