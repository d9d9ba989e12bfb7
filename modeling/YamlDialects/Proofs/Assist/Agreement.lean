import YamlDialects.Assist.Context
import YamlDialects.Proofs.Path.Descent
import YamlDialects.Proofs.Schema.Loading
import YamlDialects.Proofs.Validation.Conformance
import YamlDialects.Proofs.Yaml.Lookup

/-!
Validation and assistance find the same types. Both follow a path from the root of a document, one by walking down
the nodes and one segment by segment; wherever validation comes to a value, assistance that follows its path arrives
there with the type that validation infers.
-/

set_option autoImplicit false

namespace YamlDialects

open Yaml (Node Place Tree)

namespace Validation

theorem entries_with_key (entries : List (Node × Node)) (region : Region) (key value : Node) (name : String)
    (distinct : (Node.mapping entries region).keyNames.Nodup) (member : (key, value) ∈ entries)
    (named : key.scalar? = some name) :
    (Node.mapping entries region).entriesWithKey name = [(key, value)] := by
  simp only [Node.keyNames, Node.entriesWithKey, Node.entries] at distinct ⊢
  induction entries with
  | nil => cases member
  | cons entry rest ih =>
      rcases List.mem_cons.mp member with rfl | later
      · simp only [List.filterMap_cons, named, List.nodup_cons, List.mem_filterMap, not_exists, not_and] at distinct
        have none : rest.filter (fun other => other.1.scalar? == some name) = [] :=
          List.filter_eq_nil_iff.mpr fun other among same => distinct.1 other among (beq_iff_eq.mp same)
        simp [named, none]
      · cases first : entry.1.scalar? with
        | none =>
            simp only [List.filterMap_cons, first] at distinct
            simpa [first] using ih distinct later
        | some other =>
            simp only [List.filterMap_cons, first, List.nodup_cons, List.mem_filterMap, not_exists, not_and] at distinct
            have apart : other ≠ name := fun same => distinct.1 (key, value) later (same ▸ named)
            simpa [first, apart] using ih distinct.2 later

def AtNode (tree : Tree) (path : Path) (node : Node) : Prop :=
  path.results (Place.file tree) = [.node node]

theorem at_root (tree : Tree) (position : Nat) (root : Node) (found : tree.documents[position]? = some root) :
    AtNode tree [.index position] root := by
  simp [AtNode, Path.results, Traversal.resultsWithin, Navigable.step, Place.step, found]

theorem at_step (tree : Tree) (path : Path) (segment : Segment) (node next : Node) (here : AtNode tree path node)
    (leads : node.step segment = [next]) : AtNode tree (path ++ [segment]) next := by
  unfold AtNode at here ⊢
  rw [Path.results_append, here]
  simp [Navigable.step, Place.step, leads]

theorem context_at (tree : Tree) (path : Path) (node : Node) (here : AtNode tree path node) :
    (AssistSource.tree tree).context path = nodeContext path node [] := by
  simp [AssistSource.context, AssistSource.find?, Path.first?, show path.results (Place.file tree) = _ from here,
    Place.node?, nodeContext]

-- Assistance that follows the path arrives with the type.
def Offers (schema : Schema) (tree : Tree) (root : TypeId) (path : Path) (type : TypeId) : Prop :=
  ∃ context ∈ path.results (AssistContext.top schema (.tree tree) root),
    context.schema = schema ∧ context.source = .tree tree ∧ context.path = path ∧ context.expected = .value type

theorem offers_child (schema : Schema) (tree : Tree) (root : TypeId) (path : Path) (segment : Segment)
    (type inner : TypeId) (next : Node) (there : AtNode tree (path ++ [segment]) next)
    (offered : Offers schema tree root path type)
    (leads : ∀ context : AssistContext, context.schema = schema →
      ∃ property, context.child segment inner property ∈ context.stepInto type segment) :
    Offers schema tree root (path ++ [segment]) (schema.infer inner (nodeContext (path ++ [segment]) next [])) := by
  obtain ⟨context, reached, rfl, source, rfl, expected⟩ := offered
  obtain ⟨property, member⟩ := leads context rfl
  refine ⟨context.child segment inner property, ?_, rfl, source, rfl, ?_⟩
  · rw [Path.results_append]
    refine List.mem_flatMap.mpr ⟨context, reached, ?_⟩
    simpa only [Navigable.step, AssistContext.step, expected] using member
  · simp only [AssistContext.child, source, context_at tree _ next there]

theorem bean_not_collection (schema : Schema) (type : TypeId) (bound : isUnconstrained schema type = false)
    (isBean : schema.isBean type = true) :
    (schema.isMap type || (schema.isSequence type && !schema.isBean type)) = false := by
  unfold isUnconstrained Schema.isAny Schema.isAtomic Schema.isMap Schema.isSequence at bound
  unfold Schema.isMap Schema.isSequence
  unfold Schema.isBean at isBean bound ⊢
  cases kind : schema.kind type with
  | contextual guess shape => cases shape <;> simp [kind] at isBean bound ⊢
  | _ => simp [kind] at isBean bound ⊢

theorem resolved_owner (schema : Schema) (type : TypeId) (name : String) (property : Property)
    (resolves : Resolves schema type name property) :
    ∃ owner ∈ AssistContext.owners schema type, schema.property? owner name = some property := by
  unfold Resolves at resolves
  unfold AssistContext.owners
  by_cases isUnion : schema.isUnion type = true
  · rw [if_pos isUnion] at resolves ⊢
    have only : property ∈ (schema.members type).filterMap (schema.property? · name) := by simp [resolves]
    exact List.mem_filterMap.mp only
  · rw [if_neg isUnion] at resolves ⊢
    exact ⟨type, List.mem_singleton_self type, resolves⟩

theorem bean_steps (schema : Schema) (type : TypeId) (name : String) (property : Property) (context : AssistContext)
    (same : context.schema = schema) (bound : isUnconstrained schema type = false) (isBean : schema.isBean type = true)
    (resolves : Resolves schema type name property) :
    ∃ owner, context.child (.value name) property.type owner ∈ context.stepInto type (.value name) := by
  subst same
  obtain ⟨owner, among, found⟩ := resolved_owner context.schema type name property resolves
  refine ⟨some (owner, property), ?_⟩
  simp only [AssistContext.stepInto, bean_not_collection context.schema type bound isBean, Bool.false_eq_true, if_false]
  exact List.mem_filterMap.mpr ⟨owner, among, by simp [found]⟩

theorem map_steps (schema : Schema) (type keyType valueType : TypeId) (name : String) (context : AssistContext)
    (same : context.schema = schema) (kind : schema.kind type = .map keyType valueType) :
    ∃ owner, context.child (.value name) valueType owner ∈ context.stepInto type (.value name) := by
  subst same
  refine ⟨none, ?_⟩
  simp [AssistContext.stepInto, AssistContext.inner?, Schema.isMap, Schema.isAny, Schema.domain?, kind]

theorem sequence_steps (schema : Schema) (type element : TypeId) (position : Nat) (context : AssistContext)
    (same : context.schema = schema) (kind : schema.kind type = .sequence element) :
    ∃ owner, context.child (.index position) element owner ∈ context.stepInto type (.index position) := by
  subst same
  refine ⟨none, ?_⟩
  simp [AssistContext.stepInto, AssistContext.inner?, Schema.isSequence, Schema.isAny, Schema.domain?, kind]

theorem key_visit_path (schema : Schema) (parent : Option Region) (keyType : TypeId) (path : Path) (name : String)
    (key : Node) (named : key.scalar? = some name) (visit : Visit)
    (visited : visit ∈ visits schema parent none keyType (path ++ [.key name]) key) :
    visit.path = path ++ [.key name] := by
  cases key with
  | scalar text region =>
      simp only [visits, List.mem_singleton] at visited
      rw [visited]
  | mapping entries region => cases named
  | sequence items region => cases named

section

variable (schema : Schema) (tree : Tree) (root : TypeId)

-- The induction is on the node: at each value below it the path leads nowhere else, and its type is offered.
theorem visits_offered (node : Node) (distinct : node.KeysDistinct) (parent key : Option Region) (declared : TypeId)
    (path : Path) (here : AtNode tree path node)
    (offered : Offers schema tree root path (schema.infer declared (nodeContext path node [])))
    (visit : Visit) (visited : visit ∈ visits schema parent key declared path node)
    (isValue : visit.path.pointsAtKey = false) : Offers schema tree root visit.path visit.type := by
  induction distinct generalizing parent key declared path visit with
  | scalar text region =>
      simp only [visits, List.mem_singleton] at visited
      subst visited
      exact offered
  | mapping entries region distinct keys values _ below =>
      rw [visits] at visited
      rcases List.mem_cons.mp visited with rfl | inside
      · exact offered
      generalize schema.infer declared (nodeContext path (.mapping entries region) []) = type at offered inside
      have leads (key value : Node) (name : String) (member : (key, value) ∈ entries)
          (named : key.scalar? = some name) : AtNode tree (path ++ [.value name]) value :=
        at_step tree path _ _ value here
          (by simp [Node.step, entries_with_key entries region key value name distinct member named])
      cases free : isUnconstrained schema type with
      | true => simp [free] at inside
      | false =>
        cases isBean : schema.isBean type with
        | true =>
            simp only [free, isBean, Bool.false_eq_true, if_false, if_true, mem_property_visits] at inside
            obtain ⟨key, value, name, property, member, checked, known, inside⟩ := inside
            have named : key.scalar? = some name := (Option.filter_eq_some_iff.mp checked).1
            have there := leads key value name member named
            refine below (key, value) member _ _ _ _ there ?_ visit inside isValue
            exact offers_child schema tree root path _ type _ value there offered fun context same =>
              bean_steps schema type name property context same free isBean ((property_iff_resolves _ _ _ _).mp known)
        | false =>
          cases isMap : schema.isMap type with
          | false => simp [free, isBean, isMap] at inside
          | true =>
              obtain ⟨keyType, valueType, kind⟩ := map_kind schema type free isMap
              simp only [free, isBean, isMap, Bool.false_eq_true, if_false, if_true, Schema.keyType?, Schema.domain?,
                kind, mem_pair_visits] at inside
              obtain ⟨key, value, name, member, named, onKey | inside⟩ := inside
              · simp [key_visit_path schema _ keyType path name key named visit onKey, Path.pointsAtKey] at isValue
              · have there := leads key value name member named
                refine below (key, value) member _ _ _ _ there ?_ visit inside isValue
                exact offers_child schema tree root path _ type _ value there offered fun context same =>
                  map_steps schema type keyType valueType name context same kind
  | sequence items region _ below =>
      rw [visits] at visited
      rcases List.mem_cons.mp visited with rfl | inside
      · exact offered
      generalize schema.infer declared (nodeContext path (.sequence items region) []) = type at offered inside
      cases free : isUnconstrained schema type with
      | true => simp [free] at inside
      | false =>
        cases known : schema.element? type with
        | none => simp [free, known] at inside
        | some element =>
            simp only [free, known, Bool.false_eq_true, if_false, mem_element_visits, Nat.zero_add] at inside
            obtain ⟨position, item, found, inside⟩ := inside
            have there : AtNode tree (path ++ [.index position]) item :=
              at_step tree path _ _ item here (by simp [Node.step, Node.items, found])
            refine below item (List.mem_of_getElem? found) _ _ _ _ there ?_ visit inside isValue
            exact offers_child schema tree root path _ type _ item there offered fun context same =>
              sequence_steps schema type element position context same ((element_iff_kind _ _ _).mp known)

theorem root_offered (position : Nat) (node : Node) (here : AtNode tree [.index position] node) :
    Offers schema tree root [.index position] (schema.infer root (nodeContext [.index position] node [])) := by
  refine ⟨(AssistContext.top schema (.tree tree) root).child (.index position) root, ?_, rfl, rfl, rfl, ?_⟩
  · simp [Path.results, Traversal.resultsWithin, Navigable.step, AssistContext.step, AssistContext.top]
  · rw [← context_at tree _ node here]
    rfl

end

-- The first part says that the visits are what validation does; the second, that assistance gets to their types.
theorem types_agree (dialect : Dialect) (options : SchemaOptions) (index : Option PropertyIndex) (tree : Tree)
    (served : dialect.IsServed) (whole : tree.damage = []) (distinct : ∀ root ∈ tree.documents, root.KeysDistinct) :
    let schema := dialect.schema options index
    let visited := documentVisits dialect schema 0 tree.documents
    (findings dialect ⟨schema, tree⟩).Perm
        (documentChecks dialect schema 0 tree.documents ++ visited.flatMap (Visit.findings schema)) ∧
      ∀ visit ∈ visited, visit.path.pointsAtKey = false →
        ∃ context ∈ visit.path.results (AssistContext.top schema (.tree tree) dialect.root),
          context.type? = some visit.type := by
  intro schema visited
  refine ⟨findings_perm dialect ⟨schema, tree⟩ whole, fun visit member isValue => ?_⟩
  obtain ⟨position, root, found, inside⟩ := (mem_document_visits dialect schema 0 tree.documents visit).mp member
  rw [Nat.zero_add] at inside
  have here := at_root tree position root found
  -- validation infers the type of a root a second time, which changes nothing
  have offered : Offers schema tree dialect.root [.index position]
      (schema.infer (rootType dialect schema position root) (nodeContext [.index position] root [])) := by
    rw [rootType, Schema.infer_infer schema (dialect.served_settled served)]
    exact root_offered schema tree dialect.root position root here
  obtain ⟨context, reached, -, -, -, expected⟩ := visits_offered schema tree dialect.root root
    (distinct root (List.mem_of_getElem? found)) none none _ _ here offered visit inside isValue
  exact ⟨context, reached, by simp [AssistContext.type?, expected]⟩

def returningSteps : Node :=
  .sequence [.mapping [(.scalar "init" ⟨2, 6⟩, .mapping [(.scalar "return" ⟨10, 16⟩, .scalar "ok" ⟨18, 20⟩)] ⟨10, 20⟩)]
    ⟨2, 20⟩] ⟨0, 20⟩

theorem returning_steps_distinct : returningSteps.KeysDistinct :=
  Node.keys_distinct_of_check _ (by decide)

theorem types_agree_returning_steps : ∃ dialect, Workflows.dialect = .ok dialect ∧
    ∃ visit ∈ documentVisits dialect (dialect.schema {} none) 0 [returningSteps],
      visit.path = [.index 0, .index 0, .value "init", .value "return"] ∧
        ∃ context ∈ visit.path.results
            (AssistContext.top (dialect.schema {} none) (.tree ⟨[returningSteps], [], [], default⟩) dialect.root),
          context.type? = some visit.type := by
  have walked : (Workflows.dialect.toOption.any fun dialect =>
      (documentVisits dialect (dialect.schema {} none) 0 [returningSteps]).any fun visit =>
        visit.path == [.index 0, .index 0, .value "init", .value "return"]) = true := by decide +kernel
  obtain ⟨dialect, loaded, listed⟩ := SchemaError.ok_of_any _ _ walked
  obtain ⟨visit, member, path⟩ := List.any_eq_true.mp listed
  have path := beq_iff_eq.mp path
  refine ⟨dialect, loaded, visit, member, path, ?_⟩
  have agree := types_agree dialect {} none ⟨[returningSteps], [], [], default⟩ ⟨Pattern.ofText?, .inr loaded⟩ rfl
    (fun root among => List.mem_singleton.mp among ▸ returning_steps_distinct)
  exact agree.2 visit member (by rw [path]; rfl)

end Validation
end YamlDialects
