import Mathlib.Data.List.Forall2
import YamlDialects.Schema.Basic

/-!
Constraints and the spelling of keys. A key names a property by its declared name, by an alias or by a relaxed name;
a constraint over properties only sees the keys that spell one of its names as declared. Two nodes whose keys name
the same properties are therefore judged alike exactly when as many of these keys are spelled that way.
-/

set_option autoImplicit false

namespace YamlDialects

namespace Schema

def namesOneOf (schema : Schema) (type : TypeId) (names : List String) (key : FoundKey) : Bool :=
  (schema.property? type key.name).any fun property => names.contains property.name

def isAsDeclared (schema : Schema) (type : TypeId) (key : FoundKey) : Bool :=
  (schema.property? type key.name).any fun property => property.name == key.name

-- The one key stands in the place of the other: it is the same key, or another spelling of its property.
def Respells (schema : Schema) (type : TypeId) (key other : FoundKey) : Prop :=
  key.name = other.name ∨
    ∃ property, schema.property? type key.name = some property ∧ schema.property? type other.name = some property

theorem Respells.names_one_of (schema : Schema) (type : TypeId) (names : List String) (key other : FoundKey)
    (respells : schema.Respells type key other) :
    schema.namesOneOf type names key = true ↔ schema.namesOneOf type names other = true := by
  rcases respells with same | ⟨property, first, second⟩
  · simp [namesOneOf, same]
  · simp [namesOneOf, first, second]

theorem declared_resolves (schema : Schema) (type : TypeId) (name : String)
    (declared : ∃ property ∈ schema.properties type, property.name = name) :
    ∃ property, schema.property? type name = some property ∧ property.name = name := by
  obtain ⟨property, among, named⟩ := declared
  have present : ((schema.properties type).find? (·.name == name)).isSome := by
    rw [List.find?_isSome]
    exact ⟨property, among, beq_iff_eq.mpr named⟩
  obtain ⟨found, first⟩ := Option.isSome_iff_exists.mp present
  have sameName := List.find?_some first
  exact ⟨found, by simp [property?, first], beq_iff_eq.mp sameName⟩

theorem contains_iff (schema : Schema) (type : TypeId) (names : List String) (key : FoundKey)
    (declared : ∀ name ∈ names, ∃ property ∈ schema.properties type, property.name = name) :
    names.contains key.name = (schema.namesOneOf type names key && schema.isAsDeclared type key) := by
  unfold namesOneOf isAsDeclared
  cases found : schema.property? type key.name with
  | none =>
      have unlisted : key.name ∉ names := by
        intro listed
        obtain ⟨property, resolves, -⟩ := schema.declared_resolves type key.name (declared key.name listed)
        rw [found] at resolves
        cases resolves
      simp [unlisted]
  | some property =>
      by_cases same : property.name = key.name
      · simp [same]
      · have unlisted : key.name ∉ names := by
          intro listed
          obtain ⟨other, resolves, spelled⟩ := schema.declared_resolves type key.name (declared key.name listed)
          rw [found] at resolves
          cases resolves
          exact same spelled
        simp [same, unlisted]

end Schema

namespace ConstraintTarget

def asDeclared (target : ConstraintTarget) (schema : Schema) (type : TypeId) (names : List String) : List FoundKey :=
  (target.found.filter (schema.namesOneOf type names)).filter (schema.isAsDeclared type)

theorem matching_eq_as_declared (target : ConstraintTarget) (schema : Schema) (type : TypeId) (names : List String)
    (declared : ∀ name ∈ names, ∃ property ∈ schema.properties type, property.name = name) :
    target.matching names = target.asDeclared schema type names := by
  unfold matching asDeclared
  rw [List.filter_filter]
  apply List.filter_congr
  intro key _
  rw [schema.contains_iff type names key declared, Bool.and_comm]

end ConstraintTarget

namespace Constraint

-- A constraint over the named properties: one of them, at most one of them, or each of them deprecated.
inductive IsOver (names : List String) : Constraint → Prop
  | requireOneOf : IsOver names (.requireOneOf names)
  | atMostOneOf : IsOver names (.atMostOneOf names)
  | deprecated (template : String) : IsOver names (.deprecated names template)

def kinds (constraint : Constraint) (context : SchemaContext) (target : ConstraintTarget) :
    Except ConstraintError (List ProblemKind) :=
  (constraint.verify context target).map (·.map (·.kind))

-- Of two numbers of matching keys the constraint makes no difference.
def judgesAlike (constraint : Constraint) (count other : Nat) : Prop :=
  count = other ∨ match constraint with
    | .atMostOneOf _ => count < 2 ∧ other < 2
    | _ => False

theorem exclusive_kinds (names : List String) (found : List FoundKey) :
    (exclusive names found).map (·.kind) =
      if found.length < 2 then [] else List.replicate found.length .mutuallyExclusive := by
  unfold exclusive
  split
  · rfl
  · rw [List.map_map]
    exact List.map_const' ..

theorem kinds_require_one_of (names : List String) (context : SchemaContext) (target : ConstraintTarget) :
    (requireOneOf names).kinds context target = .ok (
      if (target.matching names).length = 0 then [.missingRequired]
      else if (target.matching names).length < 2 then []
      else List.replicate (target.matching names).length .mutuallyExclusive) := by
  have none : (target.matching names).isEmpty = true ↔ (target.matching names).length = 0 := by simp
  by_cases empty : (target.matching names).length = 0
  · simp only [kinds, verify, if_pos (none.mpr empty), if_pos empty]
    rfl
  · simp only [kinds, verify, if_neg (mt none.mp empty), if_neg empty, Except.map, exclusive_kinds]

theorem kinds_at_most_one_of (names : List String) (context : SchemaContext) (target : ConstraintTarget) :
    (atMostOneOf names).kinds context target = .ok (
      if (target.matching names).length < 2 then []
      else List.replicate (target.matching names).length .mutuallyExclusive) := by
  simp only [kinds, verify, Except.map, exclusive_kinds]

theorem kinds_deprecated (names : List String) (template : String) (context : SchemaContext)
    (target : ConstraintTarget) :
    (deprecated names template).kinds context target =
      .ok (List.replicate (target.matching names).length .deprecated) := by
  simp only [kinds, verify, Except.map, List.map_map]
  congr 1
  exact List.map_const' ..

theorem kinds_eq_iff (names : List String) (constraint : Constraint) (about : constraint.IsOver names)
    (context : SchemaContext) (target other : ConstraintTarget) :
    constraint.kinds context target = constraint.kinds context other ↔
      constraint.judgesAlike (target.matching names).length (other.matching names).length := by
  generalize counted : (target.matching names).length = count
  generalize countedOther : (other.matching names).length = countOther
  cases about with
  | requireOneOf =>
      rw [kinds_require_one_of, kinds_require_one_of, counted, countedOther, Except.ok.injEq]
      refine ⟨fun same => .inl ?_, fun alike => by simp [alike.resolve_right id]⟩
      have lengths := congrArg List.length same
      split_ifs at same lengths <;> simp at same lengths <;> omega
  | atMostOneOf =>
      rw [kinds_at_most_one_of, kinds_at_most_one_of, counted, countedOther, Except.ok.injEq]
      constructor
      · intro same
        have lengths := congrArg List.length same
        unfold judgesAlike
        split_ifs at lengths <;> simp at lengths ⊢ <;> omega
      · rintro (rfl | ⟨few, fewOther⟩)
        · rfl
        · rw [if_pos few, if_pos fewOther]
  | deprecated template =>
      rw [kinds_deprecated, kinds_deprecated, counted, countedOther, Except.ok.injEq]
      refine ⟨fun same => .inl ?_, fun alike => by rw [alike.resolve_right id]⟩
      simpa using congrArg List.length same

end Constraint

theorem Schema.named_length_eq (schema : Schema) (type : TypeId) (names : List String) (first second : List FoundKey)
    (respelled : List.Forall₂ (schema.Respells type) first second) :
    (first.filter (schema.namesOneOf type names)).length = (second.filter (schema.namesOneOf type names)).length := by
  induction respelled with
  | nil => rfl
  | cons head tail ih =>
      rename_i key other _ _
      have same := Schema.Respells.names_one_of schema type names key other head
      by_cases named : schema.namesOneOf type names key = true
      · simp [named, same.mp named, ih]
      · simp [named, mt same.mpr named, ih]

namespace Constraint

theorem respelled_judged_alike_iff (schema : Schema) (type : TypeId) (properties : List Property)
    (isBean : schema.kind type = .bean properties) (names : List String)
    (declared : ∀ name ∈ names, ∃ property ∈ properties, property.name = name)
    (constraint : Constraint) (about : constraint.IsOver names) (context : SchemaContext)
    (target other : ConstraintTarget) (respelled : List.Forall₂ (schema.Respells type) target.found other.found) :
    (target.found.filter (schema.namesOneOf type names)).length =
        (other.found.filter (schema.namesOneOf type names)).length ∧
      (constraint.kinds context target = constraint.kinds context other ↔
        constraint.judgesAlike (target.asDeclared schema type names).length
          (other.asDeclared schema type names).length) := by
  have known : ∀ name ∈ names, ∃ property ∈ schema.properties type, property.name = name := by
    simpa only [Schema.properties, isBean] using declared
  refine ⟨schema.named_length_eq type names _ _ respelled, ?_⟩
  rw [kinds_eq_iff names constraint about, target.matching_eq_as_declared schema type names known,
    other.matching_eq_as_declared schema type names known]

def person : Schema where
  options := { relaxedNames := true }
  graph := { types := #[
    { name := "Person", kind := .bean [{ name := "given-name", type := 1, aliases := ["forename"] }] },
    { name := "String", kind := .atomic }] }

def person.target (keys : List String) : ConstraintTarget where
  parent := none
  node := ⟨0, 0⟩
  key := none
  typeName := "Person"
  found := keys.map (⟨·, ⟨0, 0⟩⟩)

theorem person.respells (key other : String) (first second : Region) (property : Property)
    (found : person.property? 0 key = some property) (same : person.property? 0 other = some property) :
    person.Respells 0 ⟨key, first⟩ ⟨other, second⟩ :=
  .inr ⟨property, found, same⟩

theorem person_forename_once :
    (atMostOneOf ["given-name"]).kinds {} (person.target ["given-name", "givenName"]) =
      (atMostOneOf ["given-name"]).kinds {} (person.target ["forename", "givenName"]) := by
  refine (respelled_judged_alike_iff person 0 _ rfl ["given-name"] (by simp) _ .atMostOneOf {} _ _ ?_).2.mpr ?_
  · exact .cons (person.respells _ _ _ _ _ rfl rfl) (.cons (.inl rfl) .nil)
  · exact .inr (by decide +kernel)

-- The alias names the property that is asked for, and is not seen.
theorem person_forename_missing :
    person.Respells 0 ⟨"given-name", ⟨0, 0⟩⟩ ⟨"forename", ⟨0, 0⟩⟩ ∧
      (requireOneOf ["given-name"]).kinds {} (person.target ["given-name"]) = .ok [] ∧
        (requireOneOf ["given-name"]).kinds {} (person.target ["forename"]) = .ok [.missingRequired] :=
  ⟨person.respells _ _ _ _ _ rfl rfl, rfl, rfl⟩

end Constraint
end YamlDialects
