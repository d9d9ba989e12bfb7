import YamlDialects.Proofs.Schema.Inference
import YamlDialects.Proofs.Validation.Silence
import YamlDialects.Proofs.Yaml.Lookup
import YamlDialects.Schema.ValueRule
import YamlDialects.Yaml.Node

/-!
Well-formed workflow documents, by a grammar over nodes that knows of no types: the parts that a document is made of,
the keys of each part, and what the keys hold. Lists of steps occur below steps in several places, so that one
relation is inductive in all the parts together.
-/

set_option autoImplicit false

namespace YamlDialects.Workflows

open Yaml (Node)

inductive Scalar where
  | text
  | word (known : List String)
  | whole (least : Int)
deriving DecidableEq

def Scalar.Reads : Scalar → String → Prop
  | .text, _ => True
  | .word known, value => value ∈ known
  | .whole least, value => ∃ number, ValueRule.integer? (Text.trim value.toList) = some number ∧ least ≤ number

inductive Body where
  | workflow
  | step
  | condition
  | loop
  | parallel
  | branch
  | attempt
  | policy
  | backoff
  | handler
deriving DecidableEq

inductive Part where
  | anything
  | scalar (kind : Scalar)
  | list (each : Part)
  | table (each : Part)
  | body (body : Body)
  | namedStep
  | retry
  | document
deriving DecidableEq

namespace Part

def text : Part :=
  .scalar .text

def steps : Part :=
  .list .namedStep

def arguments : Part :=
  .table .anything

def assignments : Part :=
  .list .arguments

end Part

namespace Body

def keys : Body → List (String × Part)
  | .workflow => [("params", .list .anything), ("steps", .steps)]
  | .step => [("assign", .assignments), ("call", .text), ("args", .arguments), ("result", .text), ("next", .text),
      ("switch", .list (.body .condition)), ("for", .body .loop), ("parallel", .body .parallel), ("try", .body .attempt),
      ("retry", .retry), ("except", .body .handler), ("raise", .anything), ("return", .anything), ("steps", .steps)]
  | .condition => [("condition", .text), ("next", .text), ("steps", .steps), ("assign", .assignments),
      ("return", .anything), ("raise", .anything)]
  | .loop => [("value", .text), ("index", .text), ("in", .anything), ("range", .list .text), ("steps", .steps)]
  | .parallel => [("shared", .list .text), ("concurrency_limit", .scalar (.whole 1)),
      ("exception_policy", .scalar (.word ["continueAll"])), ("branches", .list (.table (.body .branch))),
      ("for", .body .loop)]
  | .branch => [("steps", .steps)]
  | .attempt => [("steps", .steps), ("call", .text), ("args", .arguments), ("result", .text)]
  | .policy => [("predicate", .text), ("max_retries", .scalar (.whole 0)), ("backoff", .body .backoff)]
  | .backoff => [("initial_delay", .text), ("max_delay", .text), ("multiplier", .text)]
  | .handler => [("as", .text), ("steps", .steps)]

def required : Body → List String
  | .condition => ["condition"]
  | .loop => ["value", "steps"]
  | .policy => ["predicate", "max_retries"]
  | .workflow | .branch | .handler => ["steps"]
  | .step | .parallel | .attempt | .backoff => []

def exclusive : Body → List String
  | .step => ["assign", "call", "switch", "for", "parallel", "try", "raise", "return", "steps"]
  | .condition => ["next", "steps", "return", "raise"]
  | .loop => ["in", "range"]
  | .parallel => ["branches", "for"]
  | .workflow | .branch | .attempt | .policy | .backoff | .handler => []

def companions : Body → List (String × String)
  | .step => [("args", "call"), ("result", "call")]
  | _ => []

end Body

inductive WellFormed : Part → Node → Prop
  | anything (node : Node) : WellFormed .anything node
  | scalar (kind : Scalar) (text : String) (region : Region) (reads : kind.Reads text) :
      WellFormed (.scalar kind) (.scalar text region)
  | list (each : Part) (items : List Node) (region : Region) (inside : ∀ item ∈ items, WellFormed each item) :
      WellFormed (.list each) (.sequence items region)
  | table (each : Part) (entries : List (Node × Node)) (region : Region)
      (inside : ∀ entry ∈ entries, WellFormed each entry.2) : WellFormed (.table each) (.mapping entries region)
  | body (body : Body) (entries : List (Node × Node)) (region : Region)
      (declared : ∀ entry ∈ entries, ∃ name part, entry.1.scalar? = some name ∧ (name, part) ∈ body.keys)
      (complete : ∀ name ∈ body.required, name ∈ (Node.mapping entries region).keyNames)
      (exclusive : ((Node.mapping entries region).keyNames.filter (body.exclusive.contains ·)).length ≤ 1)
      (accompanied : ∀ name companion, (name, companion) ∈ body.companions →
        name ∈ (Node.mapping entries region).keyNames → companion ∈ (Node.mapping entries region).keyNames)
      (inside : ∀ entry ∈ entries, ∀ name part, entry.1.scalar? = some name → (name, part) ∈ body.keys →
        WellFormed part entry.2) : WellFormed (.body body) (.mapping entries region)
  -- the one key is the name of the step
  | namedStep (entries : List (Node × Node)) (region : Region) (single : (Node.mapping entries region).keyNames.length = 1)
      (inside : ∀ entry ∈ entries, WellFormed (.body .step) entry.2) : WellFormed .namedStep (.mapping entries region)
  | retryExpression (text : String) (region : Region) : WellFormed .retry (.scalar text region)
  | retryPolicy (entries : List (Node × Node)) (region : Region)
      (policy : WellFormed (.body .policy) (.mapping entries region)) : WellFormed .retry (.mapping entries region)
  | stepsDocument (items : List Node) (region : Region) (steps : WellFormed .steps (.sequence items region)) :
      WellFormed .document (.sequence items region)
  | workflowsDocument (entries : List (Node × Node)) (region : Region)
      (main : "main" ∈ (Node.mapping entries region).keyNames)
      (workflows : WellFormed (.table (.body .workflow)) (.mapping entries region)) :
      WellFormed .document (.mapping entries region)

end YamlDialects.Workflows

namespace YamlDialects.Workflows

open Validation (HasEntry Silent isTemplated nodeContext)
open Yaml (Node Tree)

def Body.permits (form : Body) : Constraint → Bool
  | .atMostOneOf names => names == form.exclusive
  | .requireWith names companion => names.all fun name => form.companions.contains (name, companion)
  | _ => false

structure Body.Fits (takes : Part → TypeId → Prop) (form : Body) (properties : List Property)
    (constraints : List Constraint) : Prop where
  keys : ∀ name part, (name, part) ∈ form.keys → ∃ property, properties.find? (·.name == name) = some property ∧
    takes part property.type
  current : ∀ property ∈ properties, property.deprecated = false
  required : ∀ property ∈ properties, property.required = true → property.name ∈ form.required
  permitted : ∀ constraint ∈ constraints, form.permits constraint = true

-- A type of this definition takes the part, given what the types inside it take.
def Part.Fits (takes : Part → TypeId → Prop) (definition : TypeDef) : Part → Prop
  | .anything => definition.kind = .any ∧ definition.rule = none ∧ definition.constraints = []
  | .scalar kind => definition.kind = .atomic ∧ definition.constraints = [] ∧
      ∀ index value, kind.Reads value → definition.rule.bind (·.check index value) = none
  | .list each => ∃ element, definition.kind = .sequence element ∧ definition.constraints = [] ∧ takes each element
  | .table each => ∃ keyType valueType, definition.kind = .map keyType valueType ∧ definition.constraints = [] ∧
      takes .text keyType ∧ takes each valueType
  | .body form => ∃ properties, definition.kind = .bean properties ∧ form.Fits takes properties definition.constraints
  | .namedStep => ∃ keyType valueType message, definition.kind = .map keyType valueType ∧
      definition.constraints = [.singleKey message] ∧ takes .text keyType ∧ takes (.body .step) valueType
  | .retry => ∃ expression policy shape, definition.kind = .contextual (.byScalar expression policy) shape ∧
      takes .text expression ∧ takes (.body .policy) policy
  | .document => ∃ listed other shape, definition.kind = .contextual (.bySequence listed other) shape ∧
      takes .steps listed ∧ takes (.table (.body .workflow)) other

theorem required_plain (form : Body) : ∀ name ∈ form.required, isTemplated name = false := by
  cases form <;> decide

theorem property_found (schema : Schema) (type : TypeId) (properties : List Property) (name : String) (property : Property)
    (isBean : schema.kind type = .bean properties) (found : properties.find? (·.name == name) = some property) :
    schema.property? type name = some property := by
  simp [Schema.property?, Schema.properties, isBean, found]

section

variable (schema : Schema) (takes : Part → TypeId → Prop)

def Accepts (part : Part) (node : Node) : Prop :=
  ∀ (parent key : Option Region) (declared : TypeId) (path : Path), takes part declared →
    Silent schema parent key declared path node

variable (fits : ∀ part type, takes part type → part.Fits takes (schema.definition type))
include fits

theorem anything_accepted (node : Node) (distinct : node.KeysDistinct) : Accepts schema takes .anything node := by
  intro parent key declared path taken
  obtain ⟨isAny, unruled, unbound⟩ := fits _ _ taken
  have same := schema.decided_definition declared (by rw [Schema.kind, isAny]; rfl) (nodeContext path node [])
  refine Validation.any_silent schema parent key declared path _ node rfl ?_ ?_ ?_ ?_
  · simp [Schema.constraints, same, unbound]
  · cases distinct with
    | mapping _ _ distinct _ _ => exact distinct
    | _ => exact List.nodup_nil
  · rw [Schema.kind, same, isAny]
  · rw [Schema.rule?, same, unruled]

theorem scalar_accepted (kind : Scalar) (value : String) (region : Region) (reads : kind.Reads value) :
    Accepts schema takes (.scalar kind) (.scalar value region) := by
  intro parent key declared path taken
  obtain ⟨isAtomic, unbound, passes⟩ := fits _ _ taken
  have same := schema.decided_definition declared (by rw [Schema.kind, isAtomic]; rfl)
    (nodeContext path (.scalar value region) [])
  refine Validation.scalar_silent schema parent key declared path _ value region rfl ?_ ?_ ?_
  · simp [Schema.constraints, same, unbound]
  · simp [Schema.isAtomic, Schema.kind, same, isAtomic]
  · rw [Schema.fault?, Schema.rule?, same]
    exact passes schema.index value reads

theorem list_accepted (each : Part) (items : List Node) (region : Region)
    (inside : ∀ item ∈ items, Accepts schema takes each item) :
    Accepts schema takes (.list each) (.sequence items region) := by
  intro parent key declared path taken
  obtain ⟨element, isSequence, unbound, takesEach⟩ := fits _ _ taken
  have same := schema.decided_definition declared (by rw [Schema.kind, isSequence]; rfl)
    (nodeContext path (.sequence items region) [])
  refine Validation.sequence_silent schema parent key declared path _ items region rfl ?_ element ?_ ?_
  · simp [Schema.constraints, same, unbound]
  · rw [Schema.kind, same, isSequence]
  · intro index item found
    exact inside item (List.mem_of_getElem? found) _ _ element _ takesEach

theorem map_accepted (each : Part) (entries : List (Node × Node)) (region : Region)
    (distinct : (Node.mapping entries region).keyNames.Nodup)
    (inside : ∀ entry ∈ entries, Accepts schema takes each entry.2) (parent key : Option Region) (declared : TypeId)
    (path : Path) (keyType valueType : TypeId) (isMap : (schema.definition declared).kind = .map keyType valueType)
    (allowed : ∀ constraint ∈ (schema.definition declared).constraints, constraint.Allows (.mapping entries region))
    (takesKey : takes .text keyType) (takesValue : takes each valueType) :
    Silent schema parent key declared path (.mapping entries region) := by
  have same := schema.decided_definition declared (by rw [Schema.kind, isMap]; rfl)
    (nodeContext path (.mapping entries region) [])
  refine Validation.map_silent schema parent key declared path _ entries region rfl ?_ distinct keyType valueType ?_ ?_ ?_
  · rwa [Schema.constraints, same]
  · rw [Schema.kind, same, isMap]
  · intro key value name member named
    cases key with
    | scalar text region => exact scalar_accepted schema takes fits .text text region trivial _ _ keyType _ takesKey
    | _ => cases named
  · intro key value name member named
    exact inside (key, value) member _ _ valueType _ takesValue

theorem body_accepted (form : Body) (entries : List (Node × Node)) (region : Region)
    (distinct : (Node.mapping entries region).keyNames.Nodup)
    (declared : ∀ entry ∈ entries, ∃ name part, entry.1.scalar? = some name ∧ (name, part) ∈ form.keys)
    (complete : ∀ name ∈ form.required, name ∈ (Node.mapping entries region).keyNames)
    (exclusive : ((Node.mapping entries region).keyNames.filter (form.exclusive.contains ·)).length ≤ 1)
    (accompanied : ∀ name companion, (name, companion) ∈ form.companions →
      name ∈ (Node.mapping entries region).keyNames → companion ∈ (Node.mapping entries region).keyNames)
    (inside : ∀ entry ∈ entries, ∀ name part, entry.1.scalar? = some name → (name, part) ∈ form.keys →
      Accepts schema takes part entry.2) : Accepts schema takes (.body form) (.mapping entries region) := by
  intro parent key type path taken
  obtain ⟨properties, isBean, formFits⟩ := fits _ _ taken
  have same := schema.decided_definition type (by rw [Schema.kind, isBean]; rfl)
    (nodeContext path (.mapping entries region) [])
  have kind : schema.kind (schema.infer type (nodeContext path (.mapping entries region) [])) = .bean properties := by
    rw [Schema.kind, same, isBean]
  have known (key value : Node) (name : String) (member : (key, value) ∈ entries) (named : key.scalar? = some name) :
      ∃ part property, (name, part) ∈ form.keys ∧ properties.find? (·.name == name) = some property ∧
        takes part property.type := by
    obtain ⟨own, part, ofKey, listed⟩ := declared (key, value) member
    obtain rfl : own = name := Option.some.inj (ofKey.symm.trans named)
    obtain ⟨property, found, takesPart⟩ := formFits.keys own part listed
    exact ⟨part, property, listed, found, takesPart⟩
  refine Validation.bean_silent schema parent key type path _ entries region rfl ?_ distinct properties kind ?_ ?_ ?_
  · rw [Schema.constraints, same]
    intro constraint listed
    have permitted := formFits.permitted constraint listed
    cases constraint with
    | atMostOneOf names =>
        obtain rfl : names = form.exclusive := eq_of_beq permitted
        exact Constraint.at_most_one_allows _ _ exclusive
    | requireWith names companion =>
        refine Constraint.require_with_allows names companion _ fun name among => ?_
        exact accompanied name companion (by simpa using List.all_eq_true.mp permitted name among)
    | _ => cases permitted
  · rintro name value ⟨key, member, named, _⟩
    obtain ⟨part, property, _, found, _⟩ := known key value name member named
    exact ⟨property, property_found schema _ properties name property kind found,
      formFits.current property (List.mem_of_find?_eq_some found)⟩
  · intro property listed required
    have needed := formFits.required property listed required
    obtain ⟨⟨key, value⟩, member, named⟩ := List.mem_filterMap.mp (complete property.name needed)
    obtain ⟨part, found, _, first, _⟩ := known key value property.name member named
    exact ⟨value, found, ⟨key, member, named, required_plain form property.name needed⟩,
      property_found schema _ properties property.name found kind first, by simpa using List.find?_some first⟩
  · intro key value name property member named resolved
    obtain ⟨part, own, listed, found, takesPart⟩ := known key value name member named
    obtain rfl : own = property :=
      Option.some.inj ((property_found schema _ properties name own kind found).symm.trans resolved)
    exact inside (key, value) member name part named listed _ _ own.type _ takesPart

def Part.isPlain : Part → Bool
  | .retry | .document => false
  | _ => true

theorem plain_decided (part : Part) (type : TypeId) (taken : takes part type) (plain : part.isPlain = true) :
    (schema.kind type).isDecided = true := by
  have own := fits part type taken
  rw [Schema.kind]
  cases part with
  | anything => rw [own.1]; rfl
  | scalar kind => rw [own.1]; rfl
  | list each => rw [own.choose_spec.1]; rfl
  | table each => rw [own.choose_spec.choose_spec.1]; rfl
  | body form => rw [own.choose_spec.1]; rfl
  | namedStep => rw [own.choose_spec.choose_spec.choose_spec.1]; rfl
  | retry => cases plain
  | document => cases plain

theorem chosen_accepted (part : Part) (node : Node) (plain : part.isPlain = true) (accepted : Accepts schema takes part node)
    (parent key : Option Region) (declared choice : TypeId) (path : Path) (guess : Guess) (shape : Shape)
    (isContextual : (schema.definition declared).kind = .contextual guess shape)
    (chosen : guess.choose (nodeContext path node []) = some choice) (takesChoice : takes part choice) :
    Silent schema parent key declared path node := by
  have chooses : schema.choice? (nodeContext path node []) (schema.resolve declared) = some choice := by
    rw [Schema.choice?, show (schema.graph.get (schema.resolve declared)).kind = _ from isContextual]
    exact chosen
  rw [Silent, Validation.visits_inferred schema parent key declared choice path node
    (schema.infer_chosen choice (plain_decided schema takes fits part choice takesChoice plain) declared _ chooses)]
  exact accepted parent key choice path takesChoice

-- Steps below steps are smaller documents, so the induction on the grammar covers every way to nest them; the circles of
-- the types are no obstacle, since the types on both ends of an edge are only asked to be related.
theorem well_formed_accepted (part : Part) (node : Node) (wellFormed : WellFormed part node) (distinct : node.KeysDistinct) :
    Accepts schema takes part node := by
  induction wellFormed with
  | anything node => exact anything_accepted schema takes fits node distinct
  | scalar kind text region reads => exact scalar_accepted schema takes fits kind text region reads
  | list each items region _ ih =>
      cases distinct with
      | sequence _ _ distinct =>
          exact list_accepted schema takes fits each items region fun item member => ih item member (distinct item member)
  | table each entries region _ ih =>
      cases distinct with
      | mapping _ _ distinct _ values =>
          intro parent key declared path taken
          obtain ⟨keyType, valueType, isMap, unbound, takesKey, takesValue⟩ := fits _ _ taken
          refine map_accepted schema takes fits each entries region distinct
            (fun entry member => ih entry member (values entry member)) parent key declared path keyType valueType isMap ?_
            takesKey takesValue
          rw [unbound]
          exact List.forall_mem_nil _
  | body form entries region declared complete exclusive accompanied _ ih =>
      cases distinct with
      | mapping _ _ distinct _ values =>
          exact body_accepted schema takes fits form entries region distinct declared complete exclusive accompanied
            fun entry member name part named listed => ih entry member name part named listed (values entry member)
  | namedStep entries region single _ ih =>
      cases distinct with
      | mapping _ _ distinct _ values =>
          intro parent key declared path taken
          obtain ⟨keyType, valueType, message, isMap, bound, takesKey, takesValue⟩ := fits _ _ taken
          refine map_accepted schema takes fits (.body .step) entries region distinct
            (fun entry member => ih entry member (values entry member)) parent key declared path keyType valueType isMap ?_
            takesKey takesValue
          rw [bound, List.forall_mem_singleton]
          exact Constraint.single_key_allows message _ (Nat.le_of_eq single)
  | retryExpression text region =>
      intro parent key declared path taken
      obtain ⟨expression, policy, shape, isContextual, takesExpression, _⟩ := fits _ _ taken
      exact chosen_accepted schema takes fits .text _ rfl (scalar_accepted schema takes fits .text text region trivial)
        parent key declared expression path _ shape isContextual rfl takesExpression
  | retryPolicy entries region _ ih =>
      intro parent key declared path taken
      obtain ⟨expression, policy, shape, isContextual, _, takesPolicy⟩ := fits _ _ taken
      exact chosen_accepted schema takes fits _ _ rfl (ih distinct) parent key declared policy path _ shape isContextual
        rfl takesPolicy
  | stepsDocument items region _ ih =>
      intro parent key declared path taken
      obtain ⟨listed, other, shape, isContextual, takesListed, _⟩ := fits _ _ taken
      exact chosen_accepted schema takes fits _ _ rfl (ih distinct) parent key declared listed path _ shape isContextual
        rfl takesListed
  | workflowsDocument entries region _ _ ih =>
      intro parent key declared path taken
      obtain ⟨listed, other, shape, isContextual, _, takesOther⟩ := fits _ _ taken
      exact chosen_accepted schema takes fits _ _ rfl (ih distinct) parent key declared other path _ shape isContextual
        rfl takesOther

end

end YamlDialects.Workflows
