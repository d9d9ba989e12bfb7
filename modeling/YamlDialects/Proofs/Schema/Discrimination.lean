import Mathlib.Data.List.TakeWhile
import YamlDialects.Proofs.Schema.Description

/-!
Telling the members of a union apart. A key marks a member if it names the property of the member that its primary
property is, as keys are looked up: by name, by an alias or by a relaxed name. Inference only looks at the names of the
primary properties. So where the keys mark one member, inference chooses it exactly if a key is spelled like the name of
its primary property, and no key is spelled like that of an earlier member which it does not mark.
-/

set_option autoImplicit false

namespace YamlDialects

theorem find_named (items : List Property) (test : String → Bool) (item : Property)
    (first : items.find? (fun each => test each.name) = some item) : items.find? (·.name == item.name) = some item := by
  obtain ⟨holds, before, after, rfl, earlier⟩ := List.find?_eq_some_iff_append.mp first
  refine List.find?_eq_some_iff_append.mpr ⟨beq_self_eq_true item.name, before, after, rfl, fun other among => ?_⟩
  have fails := earlier other among
  by_cases same : other.name = item.name
  · simp [same, holds] at fails
  · simpa using same

namespace Schema

-- A defined key names the property of the member that its primary property is.
def Marks (schema : Schema) (context : SchemaContext) (member : TypeId) (primary : Property) : Prop :=
  ∃ key ∈ context.definedKeys, ∃ property, schema.property? member key = some property ∧
    { property with primary := true } = primary

theorem chosen_iff (schema : Schema) (context : SchemaContext) (primary : Property) :
    schema.isChosen context primary = true ↔ primary.name ∈ context.definedKeys ∨
      schema.options.relaxedNames = true ∧
        ∃ key ∈ context.definedKeys, Names.canonical primary.name = Names.canonical key := by
  simp only [isChosen, List.any_eq_true, Bool.or_eq_true, Bool.and_eq_true, beq_iff_eq, and_or_left, exists_or,
    exists_eq_right']
  refine or_congr_right ⟨?_, ?_⟩
  · rintro ⟨key, defined, relaxed, same⟩
    exact ⟨relaxed, key, defined, same⟩
  · rintro ⟨relaxed, key, defined, same⟩
    exact ⟨key, defined, relaxed, same⟩

section

variable (schema : Schema) (unionName : String) (members : List TypeId) (primaries : List Property)
  (made : schema.graph.unionKind unionName members = .ok (.union members primaries))
include made

theorem primary_of_pair (member : TypeId) (primary : Property) (among : (member, primary) ∈ members.zip primaries) :
    schema.graph.primary unionName members member = .ok primary := by
  obtain ⟨-, found, marked, same⟩ := (schema.graph.union_kind_iff unionName members _).mp made
  obtain rfl := (TypeKind.union.inj same).2
  exact (List.forall₂_iff_zip.mp marked).2 among

theorem pair_of_member (member : TypeId) (primary : Property) (among : (member, primary) ∈ members.zip primaries)
    (pair : TypeId × Property) (other : pair ∈ members.zip primaries) (same : pair.1 = member) :
    pair = (member, primary) := by
  have found := primary_of_pair schema unionName members primaries made pair.1 pair.2 other
  rw [same, primary_of_pair schema unionName members primaries made member primary among] at found
  exact Prod.ext same (Except.ok.inj found).symm

theorem member_bean (member : TypeId) (primary : Property) (among : (member, primary) ∈ members.zip primaries) :
    ∃ properties, schema.kind member = .bean properties ∧ schema.resolve member = member := by
  have found := primary_of_pair schema unionName members primaries made member primary among
  obtain ⟨properties, _, bean, -, -⟩ := (schema.graph.primary_iff _ _ _ _).mp found
  have kind := (schema.graph.bean_properties_iff member properties).mp bean
  have direct := schema.no_target_of_direct member (by simp [kind, TypeKind.isReference])
  have stays := schema.resolve_of_no_target member direct
  exact ⟨properties, by rw [Schema.kind, definition, stays, kind], stays⟩

theorem marks_of_name (context : SchemaContext) (member : TypeId) (primary : Property)
    (among : (member, primary) ∈ members.zip primaries) (defined : primary.name ∈ context.definedKeys) :
    schema.Marks context member primary := by
  have found := primary_of_pair schema unionName members primaries made member primary among
  obtain ⟨properties, property, bean, first, rfl⟩ := (schema.graph.primary_iff _ _ _ _).mp found
  obtain ⟨known, kind, stays⟩ := member_bean schema unionName members primaries made member _ among
  have named := find_named properties (fun name => !schema.graph.isShared members member name) property first
  have same : schema.properties member = properties := by
    have plain := (schema.graph.bean_properties_iff member properties).mp bean
    rw [Schema.properties, Schema.kind, definition, stays, plain]
  exact ⟨property.name, defined, property, by simp [property?, same, named], rfl⟩

theorem infer_union_iff (type : TypeId) (isUnion : schema.kind type = .union members primaries)
    (context : SchemaContext) (member : TypeId) (primary : Property)
    (among : (member, primary) ∈ members.zip primaries) : schema.infer type context = member ↔
      (members.zip primaries).find? (fun pair => schema.isChosen context pair.2) = some (member, primary) := by
  have choice : schema.choice? context (schema.resolve type) =
      ((members.zip primaries).find? fun pair => schema.isChosen context pair.2).map (·.1) := by
    have kind : (schema.graph.get (schema.resolve type)).kind = .union members primaries := isUnion
    simp only [choice?, kind]
  obtain ⟨properties, bean, stays⟩ := member_bean schema unionName members primaries made member primary among
  cases found : (members.zip primaries).find? fun pair => schema.isChosen context pair.2 with
  | none =>
      rw [found] at choice
      have ends : schema.infer type context = schema.resolve type := by simp [infer, maxSteps, inferWithin, choice]
      refine iff_of_false (fun same => ?_) (Option.some_ne_none _).symm
      -- the union itself is none of its members
      rw [ends] at same
      have kind : schema.kind member = .union members primaries := by
        rw [← same, Schema.kind, definition, same, stays, ← same]
        exact isUnion
      rw [bean] at kind
      cases kind
  | some pair =>
      rw [found] at choice
      have listed := List.mem_of_find?_eq_some found
      obtain ⟨others, otherBean, otherStays⟩ := member_bean schema unionName members primaries made pair.1 pair.2 listed
      have ends : schema.infer type context = pair.1 := by
        rw [schema.infer_chosen pair.1 (schema.bean_decided pair.1 others otherBean) type context choice,
          schema.infer_bean pair.1 others otherBean, otherStays]
      rw [ends, Option.some.injEq]
      constructor
      · exact pair_of_member schema unionName members primaries made member primary among pair listed
      · rintro rfl
        rfl

theorem first_chosen_iff (context : SchemaContext) (member : TypeId) (primary : Property)
    (among : (member, primary) ∈ members.zip primaries) :
    (members.zip primaries).find? (fun pair => schema.isChosen context pair.2) = some (member, primary) ↔
      schema.isChosen context primary = true ∧
        ∀ pair ∈ (members.zip primaries).takeWhile (·.1 != member), schema.isChosen context pair.2 = false := by
  have own := pair_of_member schema unionName members primaries made member primary among
  constructor
  · intro found
    obtain ⟨chosen, before, after, split, earlier⟩ := List.find?_eq_some_iff_append.mp found
    refine ⟨chosen, fun pair listed => ?_⟩
    rw [split, List.takeWhile_append] at listed
    have inside : pair ∈ before := by
      split at listed
      next => simpa using listed
      next => exact List.takeWhile_sublist _ |>.mem listed
    simpa using earlier pair inside
  · rintro ⟨chosen, unchosen⟩
    cases found : (members.zip primaries).find? fun pair => schema.isChosen context pair.2 with
    | none => simpa [chosen] using List.find?_eq_none.mp found (member, primary) among
    | some pair =>
        obtain ⟨otherChosen, before, after, split, earlier⟩ := List.find?_eq_some_iff_append.mp found
        by_cases same : pair.1 = member
        · rw [own pair (List.mem_of_find?_eq_some found) same]
        · -- the chosen pair stands before the member, as all that stand before it do
          have apart : ∀ each ∈ before, (each.1 != member) = true := by
            intro each inside
            refine bne_iff_ne.mpr fun here => ?_
            rw [own each (split ▸ List.mem_append_left _ inside) here] at inside
            simpa [chosen] using earlier _ inside
          have listed : pair ∈ (members.zip primaries).takeWhile (·.1 != member) := by
            have here : (pair.1 != member) = true := bne_iff_ne.mpr same
            rw [split, List.takeWhile_append_of_pos apart, List.takeWhile_cons, if_pos here]
            exact List.mem_append_right _ List.mem_cons_self
          rw [unchosen pair listed] at otherChosen
          cases otherChosen

end

theorem infer_marked_iff (schema : Schema) (type : TypeId) (unionName : String) (members : List TypeId)
    (primaries : List Property) (made : schema.graph.unionKind unionName members = .ok (.union members primaries))
    (isUnion : schema.kind type = .union members primaries) (context : SchemaContext) (member : TypeId)
    (primary : Property) (among : (member, primary) ∈ members.zip primaries)
    (marked : ∀ pair ∈ members.zip primaries, schema.Marks context pair.1 pair.2 ↔ pair.1 = member) :
    schema.infer type context = member ↔
      (primary.name ∈ context.definedKeys ∨ schema.options.relaxedNames = true ∧
        ∃ key ∈ context.definedKeys, Names.canonical primary.name = Names.canonical key) ∧
      (schema.options.relaxedNames = true → ∀ pair ∈ (members.zip primaries).takeWhile (·.1 != member),
        ∀ key ∈ context.definedKeys, Names.canonical pair.2.name ≠ Names.canonical key) := by
  rw [infer_union_iff schema unionName members primaries made type isUnion context member primary among,
    first_chosen_iff schema unionName members primaries made context member primary among, chosen_iff]
  refine and_congr_right fun _ => ⟨?_, ?_⟩
  · intro unchosen relaxed pair before key defined same
    have chosen := (schema.chosen_iff context pair.2).mpr (.inr ⟨relaxed, key, defined, same⟩)
    rw [unchosen pair before] at chosen
    cases chosen
  · intro apart pair before
    refine Bool.eq_false_iff.mpr fun chosen => ?_
    rcases (schema.chosen_iff context pair.2).mp chosen with defined | ⟨relaxed, key, defined, same⟩
    · -- an earlier member of which the name itself is a key would be marked as well
      have listed := List.takeWhile_sublist _ |>.mem before
      have marks := schema.marks_of_name unionName members primaries made context pair.1 pair.2 listed defined
      have other := List.mem_takeWhile_imp before
      simp [(marked pair listed).mp marks] at other
    · exact apart relaxed pair before key defined same

-- Two ways to deliver something, of which one may be given under another name.
def delivery (options : SchemaOptions) : Schema where
  options := options
  graph := { types := #[
    { name := "Http", kind := .bean [{ name := "targetUrl", type := 3, aliases := ["uri"] }] },
    { name := "Queue", kind := .bean [{ name := "topic", type := 3 }] },
    { name := "Delivery", kind := .union [0, 1] [
      { name := "targetUrl", type := 3, aliases := ["uri"], primary := true },
      { name := "topic", type := 3, primary := true }] },
    { name := "String", kind := .atomic }] }

theorem defined_single (key : String) : ({ extra := [key] } : SchemaContext).definedKeys = [key] := by
  simp [SchemaContext.definedKeys, ContextSource.keys, SchemaContext.sortedNames, SchemaContext.dropRepeats]

theorem delivery_marked (options : SchemaOptions) (key : String)
    (known : (delivery options).property? 0 key = (delivery options).property? 0 "targetUrl")
    (unknown : (delivery options).property? 1 key = none) :
    ∀ pair ∈ [0, 1].zip ((delivery options).properties 2),
      (delivery options).Marks { extra := [key] } pair.1 pair.2 ↔ pair.1 = 0 := by
  intro pair among
  simp only [Marks, defined_single, List.mem_singleton, exists_eq_left]
  rcases List.mem_pair.mp among with rfl | rfl
  · rw [known]
    exact iff_of_true ⟨_, rfl, rfl⟩ rfl
  · rw [unknown]
    exact iff_of_false (by simp) (by simp)

-- The alias is looked up, and decides nothing.
theorem alias_undecided :
    (delivery {}).graph.unionKind "Delivery" [0, 1] = .ok ((delivery {}).kind 2) ∧
      (∀ pair ∈ [0, 1].zip ((delivery {}).properties 2),
        (delivery {}).Marks { extra := ["uri"] } pair.1 pair.2 ↔ pair.1 = 0) ∧
      (delivery {}).infer 2 { extra := ["uri"] } = 2 :=
  ⟨rfl, delivery_marked {} "uri" rfl rfl, by decide +kernel⟩

theorem canonical_hyphenated : Names.canonical "target-url" = Names.canonical "targetUrl" := by decide +kernel

theorem delivery_hyphenated :
    (delivery { relaxedNames := true }).property? 0 "target-url" =
        (delivery { relaxedNames := true }).property? 0 "targetUrl" ∧
      (delivery { relaxedNames := true }).property? 1 "target-url" = none := by
  have http : (delivery { relaxedNames := true }).properties 0 =
      [{ name := "targetUrl", type := 3, aliases := ["uri"] }] := rfl
  have queue : (delivery { relaxedNames := true }).properties 1 = [{ name := "topic", type := 3 }] := rfl
  have apart : (Names.canonical "topic" == Names.canonical "targetUrl") = false := by decide +kernel
  have relaxed : (delivery { relaxedNames := true }).options.relaxedNames = true := rfl
  constructor
  · simp [property?, relaxedProperty?, Property.isNamed, canonical_hyphenated, http, relaxed]
  · simp [property?, relaxedProperty?, Property.isNamed, canonical_hyphenated, apart, queue, relaxed]

theorem infer_marked_hyphenated :
    (delivery { relaxedNames := true }).graph.unionKind "Delivery" [0, 1] =
        .ok ((delivery { relaxedNames := true }).kind 2) ∧
      (delivery { relaxedNames := true }).infer 2 { extra := ["target-url"] } = 0 := by
  obtain ⟨known, unknown⟩ := delivery_hyphenated
  refine ⟨rfl, (infer_marked_iff (delivery { relaxedNames := true }) 2 "Delivery" [0, 1] _ rfl rfl _ 0 _
    List.mem_cons_self (delivery_marked _ "target-url" known unknown)).mpr ⟨.inr ⟨rfl, "target-url", ?_, ?_⟩, ?_⟩⟩
  · simp [defined_single]
  · exact canonical_hyphenated.symm
  · intro _ pair before
    cases before

end Schema
end YamlDialects
