import YamlDialects.Proofs.Validation.Conformance

/-!
Trees in which validation finds nothing, the constraints of the schema included. A constraint is verified when the
whole tree has been seen, but what it says about a node depends on the keys of that node alone, so that a tree can
be checked node by node.
-/

set_option autoImplicit false

namespace YamlDialects

open Yaml (Node Tree)

def Finding.IsSilent : Finding → Prop
  | .problem _ => False
  | .check deferred => deferred.problems = []

namespace Constraint

def Allows (constraint : Constraint) (node : Node) : Prop :=
  ∀ (context : SchemaContext) (target : ConstraintTarget), context.source = .node node →
    target.found = Validation.foundKeys node [] → (Check.mk constraint context target).problems = []

theorem found_names (node : Node) : (Validation.foundKeys node []).map (·.name) = node.keyNames := by
  simp [Validation.foundKeys, Node.keyNames, List.map_filterMap, Option.map_map, Function.comp_def]

theorem has_found (target : ConstraintTarget) (node : Node) (found : target.found = Validation.foundKeys node [])
    (name : String) : target.has name = true ↔ name ∈ node.keyNames := by
  rw [← found_names, ← found]
  simp [ConstraintTarget.has]

theorem matching_names (target : ConstraintTarget) (node : Node) (found : target.found = Validation.foundKeys node [])
    (names : List String) : (target.matching names).map (·.name) = node.keyNames.filter (names.contains ·) := by
  rw [← found_names, ← found, List.filter_map]
  rfl

theorem at_most_one_allows (names : List String) (node : Node)
    (single : (node.keyNames.filter (names.contains ·)).length ≤ 1) : (atMostOneOf names).Allows node := by
  intro context target _ found
  rw [← matching_names target node found, List.length_map] at single
  simp [Check.problems, verify, exclusive, Nat.lt_succ_of_le single]

theorem require_with_allows (names : List String) (companion : String) (node : Node)
    (beside : ∀ name ∈ names, name ∈ node.keyNames → companion ∈ node.keyNames) :
    (requireWith names companion).Allows node := by
  intro context target _ found
  by_cases present : target.has companion = true
  · simp [Check.problems, verify, present]
  · have absent : target.matching names = [] := by
      rw [← List.map_eq_nil_iff (f := (·.name)), matching_names target node found, List.filter_eq_nil_iff]
      intro name among listed
      exact present ((has_found target node found companion).mpr (beside name (by simpa using listed) among))
    simp [Check.problems, verify, present, absent]

theorem single_key_allows (message : String) (node : Node) (single : node.keyNames.length ≤ 1) :
    (singleKey message).Allows node := by
  intro context target _ found
  rw [← found_names, ← found, List.length_map] at single
  simp [Check.problems, verify, List.drop_eq_nil_of_le single]

theorem require_key_allows (name message : String) (node : Node)
    (present : node.entries = [] ∨ name ∈ node.keyNames) : (requireKey name message).Allows node := by
  intro context target source found
  rcases present with empty | listed
  · simp [Check.problems, verify, source, ContextSource.hasKeys, empty]
  · simp [Check.problems, verify, (has_found target node found name).mpr listed]

end Constraint

namespace Validation

def Silent (schema : Schema) (parent key : Option Region) (declared : TypeId) (path : Path) (node : Node) : Prop :=
  ∀ visit ∈ visits schema parent key declared path node, ∀ finding ∈ visit.findings schema, finding.IsSilent

theorem checks_silent (constraints : List Constraint) (context : SchemaContext) (target : ConstraintTarget) (node : Node)
    (source : context.source = .node node) (found : target.found = foundKeys node [])
    (allowed : ∀ constraint ∈ constraints, constraint.Allows node) :
    ∀ finding ∈ checks constraints context target, finding.IsSilent := by
  intro finding member
  obtain ⟨constraint, listed, rfl⟩ := List.mem_map.mp member
  exact allowed constraint listed context target source found

theorem visits_inferred (schema : Schema) (parent key : Option Region) (declared other : TypeId) (path : Path) (node : Node)
    (same : schema.infer declared (nodeContext path node []) = schema.infer other (nodeContext path node [])) :
    visits schema parent key declared path node = visits schema parent key other path node := by
  rw [visits.eq_def, same, ← visits.eq_def]

section

variable (schema : Schema) (parent key : Option Region) (declared : TypeId) (path : Path) (type : TypeId)

theorem scalar_silent (text : String) (region : Region)
    (inferred : schema.infer declared (nodeContext path (.scalar text region) []) = type)
    (allowed : ∀ constraint ∈ schema.constraints type, constraint.Allows (.scalar text region))
    (atomic : schema.isAtomic type = true) (accepted : schema.fault? type text = none) :
    Silent schema parent key declared path (.scalar text region) := by
  intro visit visited finding found
  simp only [visits, inferred, List.mem_singleton] at visited
  subst visited
  have none := (value_findings_nil schema type text region).mpr ⟨atomic, accepted⟩
  simp only [Visit.findings, none, ite_self, List.nil_append] at found
  exact checks_silent _ _ _ _ rfl rfl allowed finding found

theorem bean_silent (entries : List (Node × Node)) (region : Region)
    (inferred : schema.infer declared (nodeContext path (.mapping entries region) []) = type)
    (allowed : ∀ constraint ∈ schema.constraints type, constraint.Allows (.mapping entries region))
    (distinct : (Node.mapping entries region).keyNames.Nodup)
    (properties : List Property) (kind : schema.kind type = .bean properties)
    (keys : ∀ name value, HasEntry entries name value →
      ∃ property, schema.property? type name = some property ∧ property.deprecated = false)
    (complete : ∀ property ∈ properties, property.required = true → ∃ value found,
      HasEntry entries property.name value ∧ schema.property? type property.name = some found ∧ found.name = property.name)
    (values : ∀ key value name property, (key, value) ∈ entries → key.scalar? = some name →
      schema.property? type name = some property →
        Silent schema (some region) (some key.region) property.type (path ++ [.value name]) value) :
    Silent schema parent key declared path (.mapping entries region) := by
  have isBean : schema.isBean type = true := by simp [Schema.isBean, kind]
  have isUnion : schema.isUnion type = false := by simp [Schema.isUnion, kind]
  have bound : isUnconstrained schema type = false := by simp [isUnconstrained, Schema.isAny, Schema.isAtomic, kind]
  have resolves : ∀ name property, Resolves schema type name property ↔ schema.property? type name = some property := by
    intro name property
    simp [Resolves, isUnion]
  intro visit visited finding found
  rw [visits] at visited
  simp only [inferred, bound, isBean, Bool.false_eq_true, if_false, if_true, List.mem_cons] at visited
  rcases visited with rfl | inside
  · have fitting (name : String) (value : Node) (entry : HasEntry entries name value) :
        (∃ property, Resolves schema type name property ∧ property.deprecated = false) ∨ IsAmbiguous schema type name := by
      simp only [resolves]
      exact .inl (keys name value entry)
    have present (property : Property) (listed : property ∈ schema.properties type) (required : property.required = true) :
        ∃ name value found, HasEntry entries name value ∧ Resolves schema type name found ∧ found.name = property.name := by
      simp only [Schema.properties, kind] at listed
      obtain ⟨value, found, entry, known, same⟩ := complete property listed required
      exact ⟨property.name, value, found, entry, (resolves _ _).mpr known, same⟩
    have clean := (bean_findings_nil schema type entries (key.getD region)).mpr ⟨fitting, fun _ => present⟩
    have duplicates := (duplicate_findings_nil entries region).mpr distinct
    simp only [Visit.findings, bound, isBean, duplicates, clean, Bool.false_eq_true, if_false, if_true, List.nil_append] at found
    exact checks_silent _ _ _ _ rfl rfl allowed finding found
  · obtain ⟨ofEntry, value, name, property, member, checked, known, below⟩ :=
      (mem_property_visits schema region type path entries visit).mp inside
    exact values ofEntry value name property member (Option.filter_eq_some_iff.mp checked).1
      ((resolves _ _).mp ((property_iff_resolves _ _ _ _).mp known)) visit below finding found

theorem map_silent (entries : List (Node × Node)) (region : Region)
    (inferred : schema.infer declared (nodeContext path (.mapping entries region) []) = type)
    (allowed : ∀ constraint ∈ schema.constraints type, constraint.Allows (.mapping entries region))
    (distinct : (Node.mapping entries region).keyNames.Nodup)
    (keyType valueType : TypeId) (kind : schema.kind type = .map keyType valueType)
    (keys : ∀ key value name, (key, value) ∈ entries → key.scalar? = some name →
      Silent schema (some region) none keyType (path ++ [.key name]) key)
    (values : ∀ key value name, (key, value) ∈ entries → key.scalar? = some name →
      Silent schema (some region) (some key.region) valueType (path ++ [.value name]) value) :
    Silent schema parent key declared path (.mapping entries region) := by
  have isBean : schema.isBean type = false := by simp [Schema.isBean, kind]
  have isMap : schema.isMap type = true := by simp [Schema.isMap, kind]
  have bound : isUnconstrained schema type = false := by simp [isUnconstrained, Schema.isAny, Schema.isAtomic, kind]
  intro visit visited finding found
  rw [visits] at visited
  simp only [inferred, bound, isBean, isMap, Bool.false_eq_true, if_false, if_true, List.mem_cons, Schema.keyType?,
    Schema.domain?, kind] at visited
  rcases visited with rfl | inside
  · have duplicates := (duplicate_findings_nil entries region).mpr distinct
    simp only [Visit.findings, bound, isBean, isMap, duplicates, Bool.false_eq_true, if_false, if_true, List.nil_append] at found
    exact checks_silent _ _ _ _ rfl rfl allowed finding found
  · obtain ⟨ofEntry, value, name, member, named, onKey | below⟩ :=
      (mem_pair_visits schema region keyType valueType path entries visit).mp inside
    · exact keys ofEntry value name member named visit onKey finding found
    · exact values ofEntry value name member named visit below finding found

theorem sequence_silent (items : List Node) (region : Region)
    (inferred : schema.infer declared (nodeContext path (.sequence items region) []) = type)
    (allowed : ∀ constraint ∈ schema.constraints type, constraint.Allows (.sequence items region))
    (element : TypeId) (kind : schema.kind type = .sequence element)
    (each : ∀ index item, items[index]? = some item →
      Silent schema (some region) none element (path ++ [.index index]) item) :
    Silent schema parent key declared path (.sequence items region) := by
  have known : schema.element? type = some element := (element_iff_kind schema type element).mpr kind
  have bound : isUnconstrained schema type = false := by simp [isUnconstrained, Schema.isAny, Schema.isAtomic, kind]
  intro visit visited finding found
  rw [visits] at visited
  simp only [inferred, bound, known, Bool.false_eq_true, if_false, List.mem_cons] at visited
  rcases visited with rfl | inside
  · simp only [Visit.findings, bound, known, Option.isSome_some, Bool.or_true, if_true, List.nil_append] at found
    exact checks_silent _ _ _ _ rfl rfl allowed finding found
  · obtain ⟨index, item, listed, below⟩ := (mem_element_visits schema region element path 0 items visit).mp inside
    rw [Nat.zero_add] at below
    exact each index item listed visit below finding found

theorem any_silent (node : Node) (inferred : schema.infer declared (nodeContext path node []) = type)
    (allowed : ∀ constraint ∈ schema.constraints type, constraint.Allows node) (distinct : node.keyNames.Nodup)
    (kind : schema.kind type = .any) (unruled : schema.rule? type = none) :
    Silent schema parent key declared path node := by
  have free : isUnconstrained schema type = true := by simp [isUnconstrained, Schema.isAny, kind]
  have atomic : schema.isAtomic type = true := by simp [Schema.isAtomic, kind]
  have accepted : ∀ text, schema.fault? type text = none := fun text => by simp [Schema.fault?, unruled]
  cases node with
  | scalar text region =>
      exact scalar_silent schema parent key declared path type text region inferred allowed atomic (accepted text)
  | mapping entries region =>
      intro visit visited finding found
      simp only [visits, inferred, free, if_true, List.mem_singleton] at visited
      subst visited
      have duplicates := (duplicate_findings_nil entries region).mpr distinct
      simp only [Visit.findings, free, duplicates, if_true, List.nil_append] at found
      exact checks_silent _ _ _ _ rfl rfl allowed finding found
  | sequence items region =>
      intro visit visited finding found
      simp only [visits, inferred, free, if_true, List.mem_singleton] at visited
      subst visited
      simp only [Visit.findings, free, Bool.true_or, if_true, List.nil_append] at found
      exact checks_silent _ _ _ _ rfl rfl allowed finding found

end

theorem document_checks_silent (dialect : Dialect) (schema : Schema) (position : Nat) (roots : List Node)
    (allowed : ∀ root ∈ roots, ∀ constraint ∈ dialect.constraints, constraint.Allows root) :
    ∀ finding ∈ documentChecks dialect schema position roots, finding.IsSilent := by
  induction roots generalizing position with
  | nil => exact List.forall_mem_nil _
  | cons root rest ih =>
      obtain ⟨here, later⟩ := List.forall_mem_cons.mp allowed
      rw [documentChecks, List.forall_mem_append]
      exact ⟨checks_silent _ _ _ root rfl rfl here, ih (position + 1) later⟩

theorem silent_problems (found : List Finding) (silent : ∀ finding ∈ found, finding.IsSilent) :
    found.filterMap Finding.problem? = [] ∧ (found.filterMap Finding.check?).flatMap Check.problems = [] := by
  rw [List.filterMap_eq_nil_iff, List.flatMap_eq_nil_iff]
  constructor
  · intro finding member
    cases finding with
    | problem some => exact (silent _ member).elim
    | check deferred => rfl
  · intro deferred member
    obtain ⟨finding, listed, same⟩ := List.mem_filterMap.mp member
    cases finding with
    | problem some => cases same
    | check own =>
        cases same
        exact silent _ listed

theorem problems_nil_of_silent (dialect : Dialect) (schema : Schema) (tree : Tree) (readable : tree.errors = [])
    (whole : tree.damage = [])
    (allowed : ∀ root ∈ tree.documents, ∀ constraint ∈ dialect.constraints, constraint.Allows root)
    (silent : ∀ position root, tree.documents[position]? = some root →
      Silent schema none none (rootType dialect schema position root) [.index position] root) :
    problems dialect ⟨schema, tree⟩ = [] := by
  rw [problems_nil_iff]
  refine ⟨readable, silent_problems _ fun finding member => ?_⟩
  have perm := findings_perm dialect ⟨schema, tree⟩ whole
  rcases List.mem_append.mp (perm.mem_iff.mp member) with ofDocument | ofVisit
  · exact document_checks_silent dialect schema 0 tree.documents allowed finding ofDocument
  · obtain ⟨visit, listed, found⟩ := List.mem_flatMap.mp ofVisit
    obtain ⟨position, root, placed, visited⟩ := (mem_document_visits dialect schema 0 tree.documents visit).mp listed
    rw [Nat.zero_add] at visited
    exact silent position root placed visit visited finding found

end Validation
end YamlDialects
