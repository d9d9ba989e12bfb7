import YamlDialects.Proofs.Validation.Visits

/-!
Which documents a schema without constraints accepts. `Conforms` says what it means for a node to have a type,
one rule for each shape that a node can take; validation finds nothing in a tree exactly when the root of each
of its documents conforms.
-/

set_option autoImplicit false

namespace YamlDialects.Validation

open Yaml (Node Tree)

-- What a declared type is for a node at a path.
def typeAt (schema : Schema) (declared : TypeId) (path : Path) (node : Node) : TypeId :=
  schema.infer declared { path, source := .node node }

def Resolves (schema : Schema) (type : TypeId) (key : String) (property : Property) : Prop :=
  if schema.isUnion type then (schema.members type).filterMap (schema.property? · key) = [property]
  else schema.property? type key = some property

-- A key that several members of an undecided union have.
def IsAmbiguous (schema : Schema) (type : TypeId) (key : String) : Prop :=
  schema.isUnion type = true ∧ 2 ≤ ((schema.members type).filterMap (schema.property? · key)).length

-- The mapping has an entry of the given key. Keys with placeholders, whose text is not known yet, are left out.
def HasEntry (entries : List (Node × Node)) (name : String) (value : Node) : Prop :=
  ∃ key, (key, value) ∈ entries ∧ key.scalar? = some name ∧ isTemplated name = false

inductive Conforms (schema : Schema) : TypeId → Path → Node → Prop
  | blank (declared : TypeId) (path : Path) (text : String) (region : Region)
      (blank : (Node.scalar text region).isEmptyScalar = true) : Conforms schema declared path (.scalar text region)
  | templated (declared : TypeId) (path : Path) (text : String) (region : Region)
      (templated : isTemplated text = true) : Conforms schema declared path (.scalar text region)
  | value (declared : TypeId) (path : Path) (text : String) (region : Region)
      (atomic : schema.isAtomic (typeAt schema declared path (.scalar text region)) = true)
      (accepted : schema.fault? (typeAt schema declared path (.scalar text region)) text = none) :
      Conforms schema declared path (.scalar text region)
  | anyMapping (declared : TypeId) (path : Path) (entries : List (Node × Node)) (region : Region)
      (distinct : (Node.mapping entries region).keyNames.Nodup)
      (free : isUnconstrained schema (typeAt schema declared path (.mapping entries region)) = true) :
      Conforms schema declared path (.mapping entries region)
  | bean (declared : TypeId) (path : Path) (entries : List (Node × Node)) (region : Region) (type : TypeId)
      (inferred : typeAt schema declared path (.mapping entries region) = type)
      (distinct : (Node.mapping entries region).keyNames.Nodup)
      (isBean : schema.isBean type = true)
      (keys : ∀ name value, HasEntry entries name value →
        (∃ property, Resolves schema type name property ∧ property.deprecated = false) ∨ IsAmbiguous schema type name)
      (values : ∀ name value property, HasEntry entries name value → Resolves schema type name property →
        Conforms schema property.type (path ++ [.value name]) value)
      (complete : schema.isUnion type = false → ∀ property ∈ schema.properties type, property.required = true →
        ∃ name value found, HasEntry entries name value ∧ Resolves schema type name found ∧ found.name = property.name) :
      Conforms schema declared path (.mapping entries region)
  | map (declared : TypeId) (path : Path) (entries : List (Node × Node)) (region : Region) (keyType valueType : TypeId)
      (distinct : (Node.mapping entries region).keyNames.Nodup)
      (isMap : schema.kind (typeAt schema declared path (.mapping entries region)) = .map keyType valueType)
      (keys : ∀ key value name, (key, value) ∈ entries → key.scalar? = some name →
        Conforms schema keyType (path ++ [.key name]) key)
      (values : ∀ key value name, (key, value) ∈ entries → key.scalar? = some name →
        Conforms schema valueType (path ++ [.value name]) value) :
      Conforms schema declared path (.mapping entries region)
  | anySequence (declared : TypeId) (path : Path) (items : List Node) (region : Region)
      (free : isUnconstrained schema (typeAt schema declared path (.sequence items region)) = true) :
      Conforms schema declared path (.sequence items region)
  | sequence (declared : TypeId) (path : Path) (items : List Node) (region : Region) (element : TypeId)
      (isSequence : schema.kind (typeAt schema declared path (.sequence items region)) = .sequence element)
      (each : ∀ index item, items[index]? = some item → Conforms schema element (path ++ [.index index]) item) :
      Conforms schema declared path (.sequence items region)

theorem mem_drop_repeats (names : List String) (name : String) :
    name ∈ SchemaContext.dropRepeats names ↔ name ∈ names := by
  fun_induction SchemaContext.dropRepeats names with
  | case1 first rest ih => simp [ih]
  | case2 first second rest different ih => simp [ih]
  | case3 rest shape => rfl

theorem mem_sorted_names (names : List String) (name : String) :
    name ∈ SchemaContext.sortedNames names ↔ name ∈ names := by
  rw [SchemaContext.sortedNames, mem_drop_repeats, List.mem_mergeSort]

def repeatedFindings (name : String) (same : List FoundKey) : List Finding :=
  match same with
  | first :: second :: rest => (first :: second :: rest).map fun key =>
      .problem (Problem.of .duplicateKey key.region ("Duplicate key '" ++ name ++ "'"))
  | _ => []

theorem repeated_findings_nil (name : String) (same : List FoundKey) :
    repeatedFindings name same = [] ↔ same.length ≤ 1 := by
  cases same with
  | nil => simp [repeatedFindings]
  | cons first rest => cases rest <;> simp [repeatedFindings]

theorem duplicate_findings_nil (entries : List (Node × Node)) (region : Region) :
    duplicateFindings entries = [] ↔ (Node.mapping entries region).keyNames.Nodup := by
  let keys := entries.filterMap fun each => each.1.scalar?.map fun name => FoundKey.mk name each.1.region
  have names : keys.map (·.name) = (Node.mapping entries region).keyNames := by
    simp [keys, Node.keyNames, Node.entries, List.map_filterMap, Option.map_map, Function.comp_def]
  have single : ∀ name, repeatedFindings name (keys.filter (·.name == name)) = [] ↔ (keys.map (·.name)).count name ≤ 1 := by
    intro name
    have length : (keys.map (·.name)).count name = (keys.filter (·.name == name)).length := by
      rw [List.count_eq_countP, List.countP_map, List.countP_eq_length_filter]
      rfl
    rw [length]
    exact repeated_findings_nil name _
  rw [← names, List.nodup_iff_count]
  simp only [duplicateFindings, List.flatMap_eq_nil_iff, mem_sorted_names]
  constructor
  · intro clean name
    by_cases known : name ∈ keys.map (·.name)
    · exact (single name).mp (clean name known)
    · rw [List.count_eq_zero_of_not_mem known]
      exact Nat.zero_le 1
  · exact fun distinct name _ => (single name).mpr (distinct name)

theorem lookup_known_iff (schema : Schema) (type : TypeId) (key : String) (property : Property) :
    lookup schema type key = .known property ↔ Resolves schema type key property := by
  unfold lookup Resolves
  by_cases isUnion : schema.isUnion type = true
  · rw [if_pos isUnion, if_pos isUnion]
    generalize (schema.members type).filterMap (schema.property? · key) = found
    match found with
    | [] => simp
    | [only] => simp
    | first :: second :: rest => simp
  · rw [if_neg isUnion, if_neg isUnion]
    cases schema.property? type key with
    | none => simp
    | some found => simp

theorem lookup_ambiguous_iff (schema : Schema) (type : TypeId) (key : String) :
    lookup schema type key = .ambiguous ↔ IsAmbiguous schema type key := by
  unfold lookup IsAmbiguous
  by_cases isUnion : schema.isUnion type = true
  · rw [if_pos isUnion]
    generalize (schema.members type).filterMap (schema.property? · key) = found
    match found with
    | [] => simp
    | [only] => simp
    | first :: second :: rest => simp [isUnion]
  · rw [if_neg isUnion]
    cases schema.property? type key with
    | none => simp [isUnion]
    | some found => simp [isUnion]

theorem property_iff_resolves (schema : Schema) (type : TypeId) (key : String) (property : Property) :
    (lookup schema type key).property? = some property ↔ Resolves schema type key property := by
  rw [← lookup_known_iff]
  cases lookup schema type key <;> simp [KeyLookup.property?]

theorem key_findings_nil (schema : Schema) (type : TypeId) (key : String) (region : Region) :
    keyFindings schema type key region = [] ↔
      (∃ property, Resolves schema type key property ∧ property.deprecated = false) ∨ IsAmbiguous schema type key := by
  rw [← lookup_ambiguous_iff]
  simp only [← lookup_known_iff, keyFindings]
  cases lookup schema type key with
  | unknown => simp
  | ambiguous => simp
  | known property => cases deprecated : property.deprecated <;> simp [deprecated]

theorem has_entry_iff (entries : List (Node × Node)) (name : String) (value : Node) :
    HasEntry entries name value ↔ ∃ key, (key, value) ∈ entries ∧ checkedKey? key = some name := by
  have checked : ∀ key : Node, checkedKey? key = some name ↔ key.scalar? = some name ∧ isTemplated name = false := by
    intro key
    simp [checkedKey?, Option.filter_eq_some_iff]
  simp only [HasEntry, checked]

theorem missing_findings_nil (schema : Schema) (type : TypeId) (defined : List String) (region : Region) :
    missingFindings schema type defined region = [] ↔
      ∀ property ∈ schema.properties type, property.required = true → property.name ∈ defined := by
  have none : missingFindings schema type defined region = [] ↔ missingNames schema type defined = [] := by
    unfold missingFindings
    match missingNames schema type defined with
    | [] => simp
    | [name] => simp
    | first :: second :: rest => simp
  rw [none, missingNames, List.map_eq_nil_iff, List.filter_eq_nil_iff]
  simp

theorem absent_findings_nil (schema : Schema) (type : TypeId) (keys : List String) (region : Region)
    (fits : ∀ key ∈ keys, (∃ property, Resolves schema type key property ∧ property.deprecated = false) ∨
      IsAmbiguous schema type key) :
    absentFindings schema type keys region = [] ↔
      (schema.isUnion type = false → ∀ property ∈ schema.properties type, property.required = true →
        ∃ key ∈ keys, ∃ found, Resolves schema type key found ∧ found.name = property.name) := by
  have known : (keys.map (lookup schema type)).any KeyLookup.isUnknown = false := by
    rw [List.any_eq_false]
    intro found member
    obtain ⟨key, listed, rfl⟩ := List.mem_map.mp member
    rcases fits key listed with ⟨property, resolves, _⟩ | ambiguous
    · rw [(lookup_known_iff schema type key property).mpr resolves]
      simp [KeyLookup.isUnknown]
    · rw [(lookup_ambiguous_iff schema type key).mpr ambiguous]
      simp [KeyLookup.isUnknown]
  have defined : ∀ name, name ∈ (keys.map (lookup schema type)).filterMap (fun each => each.property?.map (·.name)) ↔
      ∃ key ∈ keys, ∃ found, Resolves schema type key found ∧ found.name = name := by
    intro name
    simp [List.mem_filterMap, Option.map_eq_some_iff, property_iff_resolves]
  cases isUnion : schema.isUnion type with
  | true => simp [absentFindings, isUnion]
  | false =>
      simp only [absentFindings, known, isUnion, Bool.or_self, Bool.false_eq_true, if_false, missing_findings_nil, defined,
        true_implies]

theorem atomic_of_unconstrained (schema : Schema) (type : TypeId) (free : isUnconstrained schema type = true) :
    schema.isAtomic type = true := by
  unfold isUnconstrained at free
  rcases Bool.or_eq_true_iff.mp free with isAny | shapes
  · unfold Schema.isAny at isAny
    unfold Schema.isAtomic
    cases kind : schema.kind type <;> simp [kind] at isAny ⊢
  · simp only [Bool.and_eq_true] at shapes
    exact shapes.1.1.1

theorem map_kind (schema : Schema) (type : TypeId) (bound : isUnconstrained schema type = false)
    (isMap : schema.isMap type = true) : ∃ key value, schema.kind type = .map key value := by
  unfold isUnconstrained Schema.isAny Schema.isAtomic Schema.isBean Schema.isSequence at bound
  unfold Schema.isMap at isMap bound
  cases kind : schema.kind type with
  | map key value => exact ⟨key, value, rfl⟩
  | contextual guess shape => cases shape <;> simp [kind] at isMap bound
  | _ => simp [kind] at isMap bound

theorem element_iff_kind (schema : Schema) (type element : TypeId) :
    schema.element? type = some element ↔ schema.kind type = .sequence element := by
  unfold Schema.element?
  cases schema.kind type <;> simp

theorem value_findings_nil (schema : Schema) (type : TypeId) (text : String) (region : Region) :
    valueFindings schema type text region = [] ↔ schema.isAtomic type = true ∧ schema.fault? type text = none := by
  unfold valueFindings
  cases atomic : schema.isAtomic type with
  | true => cases schema.fault? type text <;> simp
  | false =>
      have bound : isUnconstrained schema type = false := by
        apply Bool.eq_false_iff.mpr
        intro free
        simp [atomic_of_unconstrained schema type free] at atomic
      simp [bound]

theorem bean_findings_nil (schema : Schema) (type : TypeId) (entries : List (Node × Node)) (region : Region) :
    (entries.flatMap fun (key, _) => entryFindings schema type key) ++
        absentFindings schema type (entries.filterMap fun (key, _) => checkedKey? key) region = [] ↔
      (∀ name value, HasEntry entries name value →
        (∃ property, Resolves schema type name property ∧ property.deprecated = false) ∨ IsAmbiguous schema type name) ∧
      (schema.isUnion type = false → ∀ property ∈ schema.properties type, property.required = true →
        ∃ name value found, HasEntry entries name value ∧ Resolves schema type name found ∧ found.name = property.name) := by
  have listed : ∀ name, name ∈ (entries.filterMap fun (key, _) => checkedKey? key) ↔ ∃ value, HasEntry entries name value := by
    intro name
    simp only [List.mem_filterMap, has_entry_iff, Prod.exists]
    exact exists_comm
  have keys : (entries.flatMap fun (key, _) => entryFindings schema type key) = [] ↔
      ∀ name value, HasEntry entries name value →
        (∃ property, Resolves schema type name property ∧ property.deprecated = false) ∨ IsAmbiguous schema type name := by
    rw [List.flatMap_eq_nil_iff]
    constructor
    · intro clean name value entry
      obtain ⟨key, member, checked⟩ := (has_entry_iff entries name value).mp entry
      have own := clean (key, value) member
      simp only [entryFindings, checked] at own
      exact (key_findings_nil schema type name key.region).mp own
    · rintro fits ⟨key, value⟩ member
      dsimp only [entryFindings]
      cases checked : checkedKey? key with
      | none => rfl
      | some name =>
          exact (key_findings_nil schema type name key.region).mpr
            (fits name value ((has_entry_iff entries name value).mpr ⟨key, member, checked⟩))
  rw [List.append_eq_nil_iff, keys]
  refine and_congr_right fun fits => ?_
  rw [absent_findings_nil]
  · simp only [listed]
    refine forall_congr' fun decided => forall_congr' fun property => forall_congr' fun member => forall_congr' fun required => ?_
    constructor
    · rintro ⟨name, ⟨value, entry⟩, found⟩
      exact ⟨name, value, found.choose, entry, found.choose_spec⟩
    · rintro ⟨name, value, found, entry, resolves⟩
      exact ⟨name, ⟨value, entry⟩, found, resolves⟩
  · intro key member
    obtain ⟨value, entry⟩ := (listed key).mp member
    exact fits key value entry

def Clean (schema : Schema) (parent key : Option Region) (declared : TypeId) (path : Path) (node : Node) : Prop :=
  ∀ visit ∈ visits schema parent key declared path node, visit.findings schema = []

theorem scalar_clean (schema : Schema) (unbound : ∀ type, schema.constraints type = []) (parent key : Option Region)
    (declared : TypeId) (path : Path) (text : String) (region : Region) :
    Clean schema parent key declared path (.scalar text region) ↔ Conforms schema declared path (.scalar text region) := by
  have own : Clean schema parent key declared path (.scalar text region) ↔
      (if (Node.scalar text region).isEmptyScalar || isTemplated text then []
        else valueFindings schema (typeAt schema declared path (.scalar text region)) text region) = [] := by
    simp only [Clean, visits, List.mem_singleton, forall_eq, Visit.findings, unbound, checks, List.map_nil, List.append_nil]
    rfl
  rw [own]
  by_cases passed : ((Node.scalar text region).isEmptyScalar || isTemplated text) = true
  · simp only [passed, if_true, true_iff]
    rcases Bool.or_eq_true_iff.mp passed with blank | templated
    · exact .blank declared path text region blank
    · exact .templated declared path text region templated
  · rw [if_neg passed, value_findings_nil]
    constructor
    · rintro ⟨atomic, accepted⟩
      exact .value declared path text region atomic accepted
    · intro conforms
      cases conforms with
      | blank _ _ _ _ blank => simp [blank] at passed
      | templated _ _ _ _ templated => simp [templated] at passed
      | value _ _ _ _ atomic accepted => exact ⟨atomic, accepted⟩

section

variable (schema : Schema) (declared : TypeId) (path : Path) (entries : List (Node × Node)) (region : Region) (type : TypeId)
  (inferred : typeAt schema declared path (.mapping entries region) = type)
include inferred

theorem free_mapping_conforms_iff (free : isUnconstrained schema type = true) :
    Conforms schema declared path (.mapping entries region) ↔ (Node.mapping entries region).keyNames.Nodup := by
  constructor
  · intro conforms
    cases conforms <;> assumption
  · exact fun distinct => .anyMapping declared path entries region distinct (inferred ▸ free)

theorem bean_conforms_iff (bound : isUnconstrained schema type = false) (isBean : schema.isBean type = true) :
    Conforms schema declared path (.mapping entries region) ↔ (Node.mapping entries region).keyNames.Nodup ∧
      ((∀ name value, HasEntry entries name value →
          (∃ property, Resolves schema type name property ∧ property.deprecated = false) ∨ IsAmbiguous schema type name) ∧
        (schema.isUnion type = false → ∀ property ∈ schema.properties type, property.required = true →
          ∃ name value found, HasEntry entries name value ∧ Resolves schema type name found ∧ found.name = property.name)) ∧
      ∀ name value property, HasEntry entries name value → Resolves schema type name property →
        Conforms schema property.type (path ++ [.value name]) value := by
  constructor
  · intro conforms
    cases conforms with
    | anyMapping _ _ _ _ _ free => simp [inferred, bound] at free
    | map _ _ _ _ _ _ _ kind =>
        rw [inferred] at kind
        simp [Schema.isBean, kind] at isBean
    | bean _ _ _ _ other same distinct _ keys values complete =>
        obtain rfl : type = other := inferred.symm.trans same
        exact ⟨distinct, ⟨keys, complete⟩, values⟩
  · rintro ⟨distinct, ⟨keys, complete⟩, values⟩
    exact .bean declared path entries region type inferred distinct isBean keys values complete

theorem map_conforms_iff (bound : isUnconstrained schema type = false) (keyType valueType : TypeId)
    (kind : schema.kind type = .map keyType valueType) :
    Conforms schema declared path (.mapping entries region) ↔ (Node.mapping entries region).keyNames.Nodup ∧
      (∀ key value name, (key, value) ∈ entries → key.scalar? = some name →
        Conforms schema keyType (path ++ [.key name]) key) ∧
      ∀ key value name, (key, value) ∈ entries → key.scalar? = some name →
        Conforms schema valueType (path ++ [.value name]) value := by
  constructor
  · intro conforms
    cases conforms with
    | anyMapping _ _ _ _ _ free => simp [inferred, bound] at free
    | bean _ _ _ _ other same _ isBean =>
        obtain rfl : type = other := inferred.symm.trans same
        simp [Schema.isBean, kind] at isBean
    | map _ _ _ _ _ _ distinct otherKind keys values =>
        rw [inferred, kind] at otherKind
        obtain ⟨rfl, rfl⟩ := TypeKind.map.inj otherKind
        exact ⟨distinct, keys, values⟩
  · rintro ⟨distinct, keys, values⟩
    exact .map declared path entries region keyType valueType distinct (inferred ▸ kind) keys values

theorem mapping_conforms_kind (bound : isUnconstrained schema type = false)
    (conforms : Conforms schema declared path (.mapping entries region)) :
    schema.isBean type = true ∨ schema.isMap type = true := by
  cases conforms with
  | anyMapping _ _ _ _ _ free => simp [inferred, bound] at free
  | bean _ _ _ _ other same _ isBean => exact .inl (inferred.symm.trans same ▸ isBean)
  | map _ _ _ _ _ _ _ kind =>
      rw [inferred] at kind
      exact .inr (by simp [Schema.isMap, kind])

end

section

variable (schema : Schema) (path : Path) (entries : List (Node × Node)) (region : Region)

theorem property_visits_clean (type : TypeId)
    (below : ∀ entry ∈ entries, ∀ parent key declared path,
      Clean schema parent key declared path entry.2 ↔ Conforms schema declared path entry.2) :
    (∀ visit ∈ propertyVisits schema region type path entries, visit.findings schema = []) ↔
      ∀ name value property, HasEntry entries name value → Resolves schema type name property →
        Conforms schema property.type (path ++ [.value name]) value := by
  constructor
  · intro clean name value property entry resolves
    obtain ⟨key, member, checked⟩ := (has_entry_iff entries name value).mp entry
    refine (below (key, value) member (some region) (some key.region) _ _).mp fun visit visited => ?_
    exact clean visit ((mem_property_visits schema region type path entries visit).mpr
      ⟨key, value, name, property, member, checked, (property_iff_resolves _ _ _ _).mpr resolves, visited⟩)
  · intro conforms visit visited
    obtain ⟨key, value, name, property, member, checked, known, inside⟩ :=
      (mem_property_visits schema region type path entries visit).mp visited
    have fits := conforms name value property ((has_entry_iff entries name value).mpr ⟨key, member, checked⟩)
      ((property_iff_resolves _ _ _ _).mp known)
    exact (below (key, value) member (some region) (some key.region) _ _).mpr fits visit inside

theorem pair_visits_clean (keyType valueType : TypeId)
    (below : ∀ entry ∈ entries, ∀ parent key declared path,
      (Clean schema parent key declared path entry.1 ↔ Conforms schema declared path entry.1) ∧
      (Clean schema parent key declared path entry.2 ↔ Conforms schema declared path entry.2)) :
    (∀ visit ∈ pairVisits schema region (some keyType) (some valueType) path entries, visit.findings schema = []) ↔
      (∀ key value name, (key, value) ∈ entries → key.scalar? = some name →
        Conforms schema keyType (path ++ [.key name]) key) ∧
      ∀ key value name, (key, value) ∈ entries → key.scalar? = some name →
        Conforms schema valueType (path ++ [.value name]) value := by
  simp only [mem_pair_visits]
  constructor
  · intro clean
    constructor
    · intro key value name member named
      refine (below (key, value) member (some region) none _ _).1.mp fun visit visited => ?_
      exact clean visit ⟨key, value, name, member, named, .inl visited⟩
    · intro key value name member named
      refine (below (key, value) member (some region) (some key.region) _ _).2.mp fun visit visited => ?_
      exact clean visit ⟨key, value, name, member, named, .inr visited⟩
  · rintro ⟨keys, values⟩ visit ⟨key, value, name, member, named, inKey | inValue⟩
    · exact (below (key, value) member (some region) none _ _).1.mpr (keys key value name member named) visit inKey
    · exact (below (key, value) member (some region) (some key.region) _ _).2.mpr (values key value name member named)
        visit inValue

end

theorem mapping_clean (schema : Schema) (unbound : ∀ type, schema.constraints type = []) (parent key : Option Region)
    (declared : TypeId) (path : Path) (entries : List (Node × Node)) (region : Region)
    (below : ∀ entry ∈ entries, ∀ parent key declared path,
      (Clean schema parent key declared path entry.1 ↔ Conforms schema declared path entry.1) ∧
      (Clean schema parent key declared path entry.2 ↔ Conforms schema declared path entry.2)) :
    Clean schema parent key declared path (.mapping entries region) ↔
      Conforms schema declared path (.mapping entries region) := by
  obtain ⟨type, inferred⟩ : ∃ type, typeAt schema declared path (.mapping entries region) = type := ⟨_, rfl⟩
  have context : schema.infer declared (nodeContext path (.mapping entries region) []) = type := inferred
  have own : (Visit.mk parent key path (.mapping entries region) type).findings schema =
      duplicateFindings entries ++
        (if isUnconstrained schema type then []
        else if schema.isBean type then
          (entries.flatMap fun (key, _) => entryFindings schema type key) ++
            absentFindings schema type (entries.filterMap fun (key, _) => checkedKey? key) (key.getD region)
        else if schema.isMap type then []
        else [mismatch schema type "Map" region]) := by
    simp only [Visit.findings, unbound, checks, List.map_nil, List.append_nil]
  rw [Clean, visits]
  simp only [List.mem_cons, forall_eq_or_imp, context, own, List.append_eq_nil_iff, duplicate_findings_nil entries region]
  cases free : isUnconstrained schema type with
  | true =>
      rw [free_mapping_conforms_iff schema declared path entries region type inferred free]
      simp
  | false =>
      cases isBean : schema.isBean type with
      | true =>
          have inside := property_visits_clean schema path entries region type fun entry member parent key declared path =>
            (below entry member parent key declared path).2
          rw [bean_conforms_iff schema declared path entries region type inferred free isBean]
          simp only [if_true, Bool.false_eq_true, if_false, bean_findings_nil, inside, and_assoc]
      | false =>
          cases isMap : schema.isMap type with
          | true =>
              obtain ⟨keyType, valueType, kind⟩ := map_kind schema type free isMap
              have inside := pair_visits_clean schema path entries region keyType valueType below
              rw [map_conforms_iff schema declared path entries region type inferred free keyType valueType kind]
              simp only [if_true, Bool.false_eq_true, if_false, and_true, Schema.keyType?, Schema.domain?, kind, inside]
          | false =>
              simp only [Bool.false_eq_true, if_false, List.cons_ne_nil, and_false, false_and, false_iff]
              intro conforms
              have suits := mapping_conforms_kind schema declared path entries region type inferred free conforms
              simp [isBean, isMap] at suits

theorem sequence_conforms_iff (schema : Schema) (declared : TypeId) (path : Path) (items : List Node) (region : Region)
    (type : TypeId) (inferred : typeAt schema declared path (.sequence items region) = type)
    (bound : isUnconstrained schema type = false) :
    Conforms schema declared path (.sequence items region) ↔ ∃ element, schema.element? type = some element ∧
      ∀ index item, items[index]? = some item → Conforms schema element (path ++ [.index index]) item := by
  constructor
  · intro conforms
    cases conforms with
    | anySequence _ _ _ _ free => simp [inferred, bound] at free
    | sequence _ _ _ _ element kind each => exact ⟨element, (element_iff_kind _ _ _).mpr (inferred ▸ kind), each⟩
  · rintro ⟨element, known, each⟩
    exact .sequence declared path items region element (inferred ▸ (element_iff_kind _ _ _).mp known) each

theorem element_visits_clean (schema : Schema) (path : Path) (items : List Node) (region : Region) (element : TypeId)
    (below : ∀ item ∈ items, ∀ parent key declared path,
      Clean schema parent key declared path item ↔ Conforms schema declared path item) :
    (∀ visit ∈ elementVisits schema region element path 0 items, visit.findings schema = []) ↔
      ∀ index item, items[index]? = some item → Conforms schema element (path ++ [.index index]) item := by
  simp only [mem_element_visits, Nat.zero_add]
  constructor
  · intro clean index item found
    refine (below item (List.mem_of_getElem? found) (some region) none _ _).mp fun visit visited => ?_
    exact clean visit ⟨index, item, found, visited⟩
  · rintro each visit ⟨index, item, found, inside⟩
    exact (below item (List.mem_of_getElem? found) (some region) none _ _).mpr (each index item found) visit inside

theorem sequence_clean (schema : Schema) (unbound : ∀ type, schema.constraints type = []) (parent key : Option Region)
    (declared : TypeId) (path : Path) (items : List Node) (region : Region)
    (below : ∀ item ∈ items, ∀ parent key declared path,
      Clean schema parent key declared path item ↔ Conforms schema declared path item) :
    Clean schema parent key declared path (.sequence items region) ↔
      Conforms schema declared path (.sequence items region) := by
  obtain ⟨type, inferred⟩ : ∃ type, typeAt schema declared path (.sequence items region) = type := ⟨_, rfl⟩
  have context : schema.infer declared (nodeContext path (.sequence items region) []) = type := inferred
  have own : (Visit.mk parent key path (.sequence items region) type).findings schema =
      if isUnconstrained schema type || (schema.element? type).isSome then []
      else [mismatch schema type "Sequence" region] := by
    simp only [Visit.findings, unbound, checks, List.map_nil, List.append_nil]
  rw [Clean, visits]
  simp only [List.mem_cons, forall_eq_or_imp, context, own]
  cases free : isUnconstrained schema type with
  | true =>
      simp only [if_true, Bool.true_or, true_and, List.not_mem_nil, false_implies, implies_true, true_iff]
      exact .anySequence declared path items region (inferred ▸ free)
  | false =>
      rw [sequence_conforms_iff schema declared path items region type inferred free]
      cases known : schema.element? type with
      | none => simp
      | some element =>
          simp [element_visits_clean schema path items region element below]

theorem clean_iff_conforms (schema : Schema) (unbound : ∀ type, schema.constraints type = []) (node : Node)
    (parent key : Option Region) (declared : TypeId) (path : Path) :
    Clean schema parent key declared path node ↔ Conforms schema declared path node := by
  match node with
  | .scalar text region => exact scalar_clean schema unbound parent key declared path text region
  | .mapping entries region =>
      refine mapping_clean schema unbound parent key declared path entries region fun entry member parent key declared path => ?_
      have smaller := @Node.height_entry_lt (.mapping entries region) entry member
      exact ⟨clean_iff_conforms schema unbound entry.1 parent key declared path,
        clean_iff_conforms schema unbound entry.2 parent key declared path⟩
  | .sequence items region =>
      refine sequence_clean schema unbound parent key declared path items region fun item member parent key declared path => ?_
      have smaller := @Node.height_item_lt (.sequence items region) item member
      exact clean_iff_conforms schema unbound item parent key declared path
termination_by node.height
decreasing_by
  · exact smaller.1
  · exact smaller.2
  · exact smaller

theorem missing_findings_problems (schema : Schema) (type : TypeId) (defined : List String) (region : Region) :
    (missingFindings schema type defined region).filterMap Finding.check? = [] := by
  unfold missingFindings
  match missingNames schema type defined with
  | [] => rfl
  | [name] => rfl
  | first :: second :: rest => rfl

theorem entry_findings_problems (schema : Schema) (type : TypeId) (key : Node) :
    (entryFindings schema type key).filterMap Finding.check? = [] := by
  unfold entryFindings
  cases checkedKey? key with
  | none => rfl
  | some name =>
      dsimp only [keyFindings]
      cases lookup schema type name with
      | unknown => rfl
      | ambiguous => rfl
      | known property =>
          dsimp only
          cases property.deprecated <;> rfl

theorem duplicate_findings_problems (entries : List (Node × Node)) :
    (duplicateFindings entries).filterMap Finding.check? = [] := by
  rw [List.filterMap_eq_nil_iff]
  intro finding member
  obtain ⟨name, _, inside⟩ := List.mem_flatMap.mp member
  split at inside
  · obtain ⟨key, _, rfl⟩ := List.mem_map.mp inside
    rfl
  · simp at inside

theorem visit_findings_problems (schema : Schema) (unbound : ∀ type, schema.constraints type = []) (visit : Visit) :
    (visit.findings schema).filterMap Finding.check? = [] := by
  obtain ⟨parent, key, path, node, type⟩ := visit
  simp only [Visit.findings, unbound, checks, List.map_nil, List.append_nil]
  cases node with
  | scalar text region =>
      dsimp only
      split
      · rfl
      · unfold valueFindings
        cases schema.isAtomic type <;> cases isUnconstrained schema type <;> cases schema.fault? type text <;> rfl
  | mapping entries region =>
      simp only [List.filterMap_append, duplicate_findings_problems, List.nil_append]
      cases isUnconstrained schema type with
      | true => rfl
      | false =>
          cases schema.isBean type with
          | true =>
              simp only [Bool.false_eq_true, if_false, if_true, List.filterMap_append, List.append_eq_nil_iff]
              constructor
              · rw [List.filterMap_flatMap, List.flatMap_eq_nil_iff]
                exact fun entry _ => entry_findings_problems schema type entry.1
              · unfold absentFindings
                dsimp only
                split
                · rfl
                · exact missing_findings_problems schema type _ _
          | false => cases schema.isMap type <;> rfl
  | sequence items region =>
      dsimp only
      split
      · rfl
      · rfl

theorem findings_nil_of_problems (found : List Finding) (problems : found.filterMap Finding.problem? = [])
    (checks : found.filterMap Finding.check? = []) : found = [] := by
  cases found with
  | nil => rfl
  | cons first rest =>
      cases first with
      | problem some => simp [Finding.problem?] at problems
      | check some => simp [Finding.check?] at checks

theorem document_checks_nil (dialect : Dialect) (schema : Schema) (position : Nat) (roots : List Node)
    (unbound : dialect.constraints = []) : documentChecks dialect schema position roots = [] := by
  induction roots generalizing position with
  | nil => rfl
  | cons root rest ih => simp [documentChecks, unbound, checks, ih]

theorem constraints_nil (dialect : Dialect) (options : SchemaOptions) (index : Option PropertyIndex)
    (unbound : ∀ definition ∈ dialect.graph.types, definition.constraints = []) (type : TypeId) :
    (dialect.schema options index).constraints type = [] := by
  have all : ∀ id, (dialect.graph.get id).constraints = [] := by
    intro id
    rw [TypeGraph.get, Array.getD_eq_getD_getElem?]
    cases found : dialect.graph.types[id]? with
    | none => rfl
    | some definition => exact unbound definition (Array.mem_of_getElem? found)
  exact all _

theorem problems_nil_iff (dialect : Dialect) (validation : Validation) :
    problems dialect validation = [] ↔ validation.tree.errors = [] ∧
      (findings dialect validation).filterMap Finding.problem? = [] ∧
      ((findings dialect validation).filterMap Finding.check?).flatMap Check.problems = [] := by
  rw [problems, ← List.length_eq_zero_iff, List.length_mergeSort, List.length_eq_zero_iff]
  simp only [syntaxProblems, List.append_eq_nil_iff, List.map_eq_nil_iff, and_assoc]

theorem problems_nil_iff_clean (dialect : Dialect) (options : SchemaOptions) (index : Option PropertyIndex) (tree : Tree)
    (unbound : dialect.constraints = []) (unboundTypes : ∀ definition ∈ dialect.graph.types, definition.constraints = [])
    (readable : tree.errors = []) (whole : tree.damage = []) :
    problems dialect ⟨dialect.schema options index, tree⟩ = [] ↔
      ∀ visit ∈ documentVisits dialect (dialect.schema options index) 0 tree.documents,
        visit.findings (dialect.schema options index) = [] := by
  have perm := findings_perm dialect ⟨dialect.schema options index, tree⟩ whole
  rw [document_checks_nil dialect _ 0 _ unbound, List.nil_append] at perm
  have deferred : (findings dialect ⟨dialect.schema options index, tree⟩).filterMap Finding.check? = [] := by
    refine List.Perm.eq_nil ((perm.filterMap Finding.check?).trans (List.Perm.of_eq ?_))
    rw [List.filterMap_flatMap, List.flatMap_eq_nil_iff]
    exact fun visit _ => visit_findings_problems _ (constraints_nil dialect options index unboundTypes) visit
  have empty : problems dialect ⟨dialect.schema options index, tree⟩ = [] ↔
      findings dialect ⟨dialect.schema options index, tree⟩ = [] := by
    simp only [problems_nil_iff, readable, deferred, List.flatMap_nil, true_and, and_true]
    constructor
    · exact fun none => findings_nil_of_problems _ none deferred
    · intro none
      rw [none]
      rfl
  rw [empty, ← List.flatMap_eq_nil_iff]
  constructor
  · intro none
    rw [none] at perm
    exact perm.symm.eq_nil
  · intro none
    rw [none] at perm
    exact perm.eq_nil

theorem accepts_iff_conforms (dialect : Dialect) (options : SchemaOptions) (index : Option PropertyIndex) (tree : Tree)
    (unbound : dialect.constraints = []) (unboundTypes : ∀ definition ∈ dialect.graph.types, definition.constraints = [])
    (readable : tree.errors = []) (whole : tree.damage = []) :
    problems dialect ⟨dialect.schema options index, tree⟩ = [] ↔
      ∀ position root, tree.documents[position]? = some root →
        Conforms (dialect.schema options index)
          (typeAt (dialect.schema options index) dialect.root [.index position] root) [.index position] root := by
  rw [problems_nil_iff_clean dialect options index tree unbound unboundTypes readable whole]
  have nodes := clean_iff_conforms (dialect.schema options index) (constraints_nil dialect options index unboundTypes)
  constructor
  · intro clean position root found
    refine (nodes root none none _ _).mp fun visit visited => ?_
    refine clean visit ((mem_document_visits dialect _ 0 tree.documents visit).mpr ⟨position, root, found, ?_⟩)
    rw [Nat.zero_add]
    exact visited
  · intro conforms visit visited
    obtain ⟨position, root, found, inside⟩ := (mem_document_visits dialect _ 0 tree.documents visit).mp visited
    rw [Nat.zero_add] at inside
    exact (nodes root none none _ _).mpr (conforms position root found) visit inside

def services : Dialect where
  name := "services"
  root := 3
  graph := { types := #[
    { name := "String", kind := .atomic },
    { name := "Port", kind := .atomic, rule := some (.integer (some 1) (some 65535)) },
    { name := "Service", kind := .bean [{ name := "name", type := 0, required := true }, { name := "port", type := 1 }] },
    { name := "List<Service>", kind := .sequence 2 }] }

def nameless : Tree where
  documents := [.sequence [.mapping [(.scalar "port" ⟨2, 6⟩, .scalar "80" ⟨8, 10⟩)] ⟨2, 10⟩] ⟨0, 10⟩]
  errors := []
  damage := []
  outline := Outline.ofText "- port: 80"

theorem accepts_iff_conforms_nameless :
    (services.constraints = [] ∧ nameless.errors = [] ∧ nameless.damage = []) ∧
      (problems services ⟨services.schema {} none, nameless⟩ = [] ↔
        ∀ position root, nameless.documents[position]? = some root →
          Conforms (services.schema {} none) (typeAt (services.schema {} none) services.root [.index position] root)
            [.index position] root) :=
  ⟨⟨rfl, rfl, rfl⟩, accepts_iff_conforms services {} none nameless rfl (by decide) rfl rfl⟩

end YamlDialects.Validation
