import YamlDialects.Proofs.Assist.Keys
import YamlDialects.Proofs.Assist.Keeping
import YamlDialects.Proofs.Outline.Navigation
import YamlDialects.Proofs.Validation.Conformance

/-!
Which keys of a block are proposed again. The surroundings of a context are read from the first block that its path
leads to, and with several blocks of one path that is not the block at hand. So a key of a block is proposed again where
an earlier block of the same path, or of one that is spelled alike, lacks it.
-/

set_option autoImplicit false

namespace YamlDialects

namespace AssistContext

theorem step_place (context next : AssistContext) (segment : Segment) (plain : segment.isPlain = true)
    (leads : next ∈ context.step segment) :
    next.path = context.path ++ [segment] ∧ next.source = context.source ∧ next.schema = context.schema := by
  have child (type : TypeId) (property : Option (TypeId × Property)) :
      (context.child segment type property).path = context.path ++ [segment] ∧
        (context.child segment type property).source = context.source ∧
          (context.child segment type property).schema = context.schema := ⟨rfl, rfl, rfl⟩
  have inside (type : TypeId) (among : next ∈ ((inner? context.schema type).map fun inner => context.child segment inner).toList) :
      next.path = context.path ++ [segment] ∧ next.source = context.source ∧ next.schema = context.schema := by
    obtain ⟨inner, -, rfl⟩ := Option.map_eq_some_iff.mp (Option.mem_toList.mp among)
    exact child inner none
  unfold step at leads
  cases expected : context.expected with
  | documents root =>
      cases segment with
      | index position =>
          simp only [expected, List.mem_singleton] at leads
          exact leads ▸ child root none
      | _ => simp [expected] at leads
  | value type =>
      simp only [expected] at leads
      cases segment with
      | value key =>
          unfold stepInto at leads
          dsimp only at leads
          split at leads
          · exact inside type leads
          · obtain ⟨owner, -, found⟩ := List.mem_filterMap.mp leads
            obtain ⟨property, -, rfl⟩ := Option.map_eq_some_iff.mp found
            exact child property.type (some (owner, property))
      | index position =>
          unfold stepInto at leads
          dsimp only at leads
          split at leads
          · exact inside type leads
          · cases leads
      | _ => cases plain

theorem results_place (schema : Schema) (source : AssistSource) (root : TypeId) (path : Path)
    (plain : ∀ segment ∈ path, segment.isPlain = true) (context : AssistContext)
    (reached : context ∈ path.results (top schema source root)) :
    context.path = path ∧ context.source = source ∧ context.schema = schema := by
  induction path using List.reverseRecOn generalizing context with
  | nil =>
      obtain rfl := List.mem_singleton.mp (show context ∈ [top schema source root] from reached)
      exact ⟨rfl, rfl, rfl⟩
  | append_singleton path segment ih =>
      obtain ⟨before, last⟩ := List.forall_mem_append.mp plain
      rw [Path.results_append] at reached
      obtain ⟨previous, earlier, leads⟩ := List.mem_flatMap.mp reached
      obtain ⟨rfl, sameSource, sameSchema⟩ := ih before previous earlier
      obtain ⟨further, source, schema⟩ := step_place previous context segment (last segment (List.mem_singleton_self _)) leads
      exact ⟨further, source.trans sameSource, schema.trans sameSchema⟩

end AssistContext

theorem Block.path_plain (block : Block) : ∀ segment ∈ block.path, segment.isPlain = true := by
  intro segment member
  obtain ⟨above, -, own⟩ := List.mem_filterMap.mp member
  unfold segment? at own
  cases kind : above.kind with
  | key =>
      simp only [kind] at own
      obtain ⟨name, -, rfl⟩ := Option.map_eq_some_iff.mp own
      rfl
  | item =>
      simp only [kind] at own
      exact Option.some.inj own ▸ rfl
  | document =>
      simp only [kind] at own
      exact Option.some.inj own ▸ rfl
  | _ => simp [kind] at own

-- The first of the blocks whose paths are spelled alike; raw lines do not count.
structure Outline.IsFirstAlike (outline : Outline) (block first : Block) : Prop where
  listed : first ∈ outline.blocks
  notRaw : first.kind ≠ .raw
  alike : Path.IsAlike outline.relaxedNames first.path block.path
  least : ∀ other ∈ outline.blocks, other.kind ≠ .raw → Path.IsAlike outline.relaxedNames other.path block.path →
    first.id ≤ other.id

theorem Outline.path_listed (text : String) (relaxed : Bool) (block : Block) (listed : block ∈ (ofText text relaxed).blocks) :
    ∃ named ∈ (ofText text relaxed).blocks, named.kind ≠ .raw ∧ named.path = block.path := by
  by_cases isRaw : block.kind = .raw
  · have notRoot : block ≠ (ofText text relaxed).root := by
      rintro rfl
      rw [(root_spec text relaxed).1] at isRaw
      cases isRaw
    obtain ⟨parent, parentListed, hangs, -, member, -⟩ := parent_listed text relaxed block listed notRoot
    have sound := block_sound text relaxed block ((mem_blocks _ block).mp listed).1
    refine ⟨parent, parentListed, fun alsoRaw => ?_, ?_⟩
    · rw [raw_childless text relaxed parent ((mem_blocks _ parent).mp parentListed).1 alsoRaw] at member
      cases member
    · simp [Block.path_of_child text.toList block parent sound hangs, Block.segment?, isRaw]
  · exact ⟨block, listed, isRaw, rfl⟩

theorem Outline.first_alike (text : String) (relaxed : Bool) (block : Block) (listed : block ∈ (ofText text relaxed).blocks) :
    ∃ first, block.path.first? (ofText text relaxed).root = some first ∧ (ofText text relaxed).IsFirstAlike block first := by
  obtain ⟨named, namedListed, notRaw, samePath⟩ := path_listed text relaxed block listed
  have plain := block.path_plain
  have members := mem_alike_results text relaxed block.path plain
  have own : named ∈ block.path.results (ofText text relaxed).root :=
    (members named).mpr ⟨namedListed, notRaw, samePath ▸ List.forall₂_same.mpr fun segment member =>
      Segment.is_alike_self relaxed segment (named.path_plain segment member)⟩
  have sorted := path_results_sorted text relaxed block.path plain
  unfold Path.first?
  generalize block.path.results (ofText text relaxed).root = results at own sorted members
  cases results with
  | nil => cases own
  | cons first rest =>
      obtain ⟨firstListed, firstNotRaw, alike⟩ := (members first).mp List.mem_cons_self
      refine ⟨first, rfl, firstListed, firstNotRaw, alike, fun other otherListed otherNotRaw otherAlike => ?_⟩
      rcases List.mem_cons.mp ((members other).mpr ⟨otherListed, otherNotRaw, otherAlike⟩) with rfl | later
      · exact Nat.le_refl _
      · exact Nat.le_of_lt ((List.pairwise_cons.mp sorted).1 other later)

namespace Schema

theorem property_listed (schema : Schema) (type : TypeId) (key : String) (property : Property)
    (named : schema.property? type key = some property) : property ∈ schema.properties type := by
  unfold property? relaxedProperty? at named
  rcases Option.or_eq_some_iff.mp named with byName | ⟨-, rest⟩
  · exact List.mem_of_find?_eq_some byName
  · rcases Option.or_eq_some_iff.mp rest with byAlias | ⟨-, byVariant⟩
    · exact List.mem_of_find?_eq_some byAlias
    · split at byVariant
      · exact List.mem_of_find?_eq_some byVariant
      · cases byVariant

theorem offered_of_property (schema : Schema) (type : TypeId) (context : SchemaContext) (property : Property)
    (listed : property ∈ schema.properties type) : Completion.offered schema type context = schema.properties type := by
  have isBean : schema.isBean type = true := by
    unfold properties at listed
    unfold Schema.isBean
    cases kind : schema.kind type <;> simp_all
  rw [Completion.offered, if_pos isBean]

end Schema

namespace Completion

theorem stands_of_named (schema : Schema) (type : TypeId) (key : String) (property : Property)
    (named : schema.property? type key = some property) : StandsFor schema key property := by
  unfold Schema.property? Schema.relaxedProperty? at named
  rcases Option.or_eq_some_iff.mp named with byName | ⟨-, rest⟩
  · have same := List.find?_some byName
    exact .inl (beq_iff_eq.mp same).symm
  · rcases Option.or_eq_some_iff.mp rest with byAlias | ⟨-, byVariant⟩
    · have same := List.find?_some byAlias
      rw [Property.isNamed, Bool.or_eq_true, beq_iff_eq, List.contains_iff_mem] at same
      exact same.imp Eq.symm .inl
    · split at byVariant
      next relaxed =>
        have same := List.find?_some byVariant
        exact .inr (.inr ⟨relaxed, (beq_iff_eq.mp same).symm⟩)
      next => cases byVariant

theorem missing_congr (schema : Schema) (defined other : List String) (same : ∀ key, key ∈ defined ↔ key ∈ other)
    (property : Property) : Missing schema defined property ↔ Missing schema other property := by
  rw [missing_iff, missing_iff]
  simp only [same]

theorem proposed_congr (schema : Schema) (defined other : List String) (same : ∀ key, key ∈ defined ↔ key ∈ other)
    (properties : List Property) (query : String) (property : Property) :
    Proposed schema defined properties query property ↔ Proposed schema other properties query property := by
  rw [proposed_iff, proposed_iff]
  simp only [missing_congr schema defined other same]

section

variable (completion : Completion) (context : AssistContext) (current : Block) (type : TypeId)

def keyProperties : List Property :=
  match completion.values (completion.query current) type context.surroundings current with
  | [] => (openTiers completion.schema context.surroundings.definedKeys
      (tiers completion.schema.options.tieredProposals (offered completion.schema type context.surroundings))).filter
        fun property => (completion.ofProperty? (completion.query current) type current property).isSome
  | _ => []

theorem of_property_kind (query : String) (property : Property) (proposal : Proposal)
    (made : completion.ofProperty? query type current property = some proposal) : proposal.kind = .property := by
  obtain ⟨⟨score, spelling⟩, -, rfl⟩ := Option.map_eq_some_iff.mp made
  dsimp only
  split <;> rfl

theorem own_key_proposals : (completion.own context current type).filter (·.kind == .property) =
    (completion.keyProperties context current type).filterMap
      (completion.ofProperty? (completion.query current) type current) := by
  unfold own keyProperties
  dsimp only
  cases valued : completion.values (completion.query current) type context.surroundings current with
  | nil =>
      dsimp only
      rw [keys, List.filterMap_filter, List.filter_filterMap]
      refine List.filterMap_congr fun property _ => ?_
      cases made : completion.ofProperty? (completion.query current) type current property with
      | none => rfl
      | some proposal => simp [of_property_kind completion current type _ property proposal made]
  | cons first rest =>
      refine List.filter_eq_nil_iff.mpr fun proposal (member : proposal ∈ first :: rest) => ?_
      rw [← valued] at member
      obtain ⟨hint, -, made⟩ := List.mem_filterMap.mp member
      simp [(of_hint_spec completion current type _ hint proposal _ made).1]

theorem mem_key_properties (property : Property) : property ∈ completion.keyProperties context current type ↔
    completion.values (completion.query current) type context.surroundings current = [] ∧
      property ∈ offered completion.schema type context.surroundings ∧
        Proposed completion.schema context.surroundings.definedKeys (offered completion.schema type context.surroundings)
          (completion.query current) property := by
  unfold keyProperties
  cases completion.values (completion.query current) type context.surroundings current with
  | nil =>
      have among := (in_order_perm completion.schema (offered completion.schema type context.surroundings)).mem_iff (a := property)
      dsimp only
      rw [tiers_placed, open_tiers, List.mem_filter, List.mem_filter, decide_eq_true_iff, of_property_some, proposed_iff,
        show property ∈ (List.range' 0 3).flatMap _ ↔ _ from among]
      simp only [ReachedFrom, Nat.zero_le, true_implies]
      tauto
  | cons first rest => simp

end

section

variable (schema : Schema) (root : TypeId) (mayDedent : Bool) (text : String) (offset : Nat) (around : Block)

theorem surroundings_first (context : AssistContext) (first : Block)
    (reached : context ∈ (between schema root mayDedent text offset).contextsAt around)
    (leads : around.path.first? (Outline.ofText text schema.options.relaxedNames).root = some first) :
    context.surroundings.source = .block first := by
  obtain ⟨path, source, -⟩ := AssistContext.results_place schema _ root around.path around.path_plain context reached
  rw [AssistContext.surroundings, path, source, AssistSource.context, AssistSource.find?]
  dsimp only
  rw [show (between schema root mayDedent text offset).cursor.outline = Outline.ofText text schema.options.relaxedNames from rfl,
    leads]
  rfl

-- A key of the block names a property that is proposed as a key.
def RepeatsKey (completion : Completion) (context : AssistContext) (around current : Block) (type : TypeId) : Prop :=
  ∃ key ∈ around.childKeys, ∃ property, completion.schema.property? type key = some property ∧
    property ∈ completion.keyProperties context current type

-- The keys of the block at hand do not matter, but those of the first block whose path is spelled alike.
theorem repeats_key_iff (listed : around ∈ (Outline.ofText text schema.options.relaxedNames).blocks) (context : AssistContext)
    (reached : context ∈ (between schema root mayDedent text offset).contextsAt around) (current : Block) (type : TypeId) :
    let completion := between schema root mayDedent text offset
    (completion.own context current type).filter (·.kind == .property) =
      (completion.keyProperties context current type).filterMap
        (completion.ofProperty? (completion.query current) type current) ∧
    ∃ first, (Outline.ofText text schema.options.relaxedNames).IsFirstAlike around first ∧
      (RepeatsKey completion context around current type ↔ first ≠ around ∧
        completion.values (completion.query current) type context.surroundings current = [] ∧
          ∃ key ∈ around.childKeys, ∃ property, schema.property? type key = some property ∧
            Proposed schema first.childKeys (schema.properties type) (completion.query current) property) := by
  intro completion
  obtain ⟨first, leads, isFirst⟩ := Outline.first_alike text schema.options.relaxedNames around listed
  refine ⟨own_key_proposals completion context current type, first, isFirst, ?_⟩
  have source := surroundings_first schema root mayDedent text offset around context first reached leads
  have defined (key : String) : key ∈ context.surroundings.definedKeys ↔ key ∈ first.childKeys := by
    rw [SchemaContext.definedKeys, Validation.mem_sorted_names, source, show context.surroundings.extra = [] from rfl, List.append_nil]
    rfl
  have proposed (key : String) (property : Property) (named : schema.property? type key = some property) :
      property ∈ completion.keyProperties context current type ↔
        completion.values (completion.query current) type context.surroundings current = [] ∧
          Proposed schema first.childKeys (schema.properties type) (completion.query current) property := by
    have among := schema.property_listed type key property named
    have offers : offered completion.schema type context.surroundings = schema.properties type :=
      schema.offered_of_property type _ property among
    rw [mem_key_properties, offers, proposed_congr completion.schema _ _ defined]
    exact and_congr_right fun _ => and_iff_right among
  constructor
  · rintro ⟨key, own, property, named, repeated⟩
    obtain ⟨valueless, proposes⟩ := (proposed key property named).mp repeated
    refine ⟨?_, valueless, key, own, property, named, proposes⟩
    -- in the first block itself the key stands for its property
    rintro rfl
    exact proposes.undefined key own (stands_of_named schema type key property named)
  · rintro ⟨-, valueless, key, own, property, named, proposes⟩
    exact ⟨key, own, property, named, (proposed key property named).mpr ⟨valueless, proposes⟩⟩

end

-- Two blocks of one path, of which the second has a key and a blank line below it.
def twiceSchema : Schema :=
  { graph := { types := #[⟨"string", .atomic, [], none, none, []⟩,
      ⟨"A", .bean [{ name := "b", type := 0 }], [], none, none, []⟩,
      ⟨"Root", .bean [{ name := "a", type := 1 }], [], none, none, []⟩] } }

def twice : Completion :=
  between twiceSchema 2 true "a:\na:\n  b: 1\n  \n" 15

def twiceBlock (id : Nat) : Block :=
  ⟨twice.cursor.outline, id⟩

theorem twice_repeats : ∃ context ∈ twice.contextsAt (twiceBlock 3),
    (twice.inContext (twiceBlock 5) context).map (·.label) = ["b"] ∧
      context.type? = some 1 ∧ RepeatsKey twice context (twiceBlock 3) (twiceBlock 5) 1 := by
  have check : ((twice.contextsAt (twiceBlock 3)).any fun context =>
      (twice.inContext (twiceBlock 5) context).map (·.label) == ["b"] && context.type? == some 1 &&
        !(twice.keyProperties context (twiceBlock 5) 1).isEmpty) = true := by decide +kernel
  obtain ⟨context, reached, holds⟩ := List.any_eq_true.mp check
  simp only [Bool.and_eq_true, beq_iff_eq, Bool.not_eq_true', List.isEmpty_eq_false_iff] at holds
  obtain ⟨⟨labels, type⟩, some⟩ := holds
  obtain ⟨property, member⟩ := List.exists_mem_of_ne_nil _ some
  have offers : offered twice.schema 1 context.surroundings = [{ name := "b", type := 0 }] := rfl
  have listed := ((twice.mem_key_properties context (twiceBlock 5) 1 property).mp member).2.1
  rw [offers, List.mem_singleton] at listed
  exact ⟨context, reached, labels, type, "b", by decide +kernel, property, listed ▸ rfl, member⟩

theorem repeats_key_iff_twice : ∃ first, twice.cursor.outline.IsFirstAlike (twiceBlock 3) first ∧ first ≠ twiceBlock 3 ∧
    Proposed twiceSchema first.childKeys (twiceSchema.properties 1) (twice.query (twiceBlock 5)) { name := "b", type := 0 } := by
  obtain ⟨context, reached, -, -, repeats⟩ := twice_repeats
  obtain ⟨-, first, isFirst, iff⟩ := repeats_key_iff twiceSchema 2 true "a:\na:\n  b: 1\n  \n" 15 (twiceBlock 3)
    ((Outline.mem_blocks _ _).mpr ⟨rfl, by decide +kernel⟩) context reached (twiceBlock 5) 1
  obtain ⟨earlier, -, key, -, property, named, proposes⟩ := iff.mp repeats
  have listed := twiceSchema.property_listed 1 key property named
  obtain rfl := List.mem_singleton.mp (show property ∈ [{ name := "b", type := 0 }] from listed)
  exact ⟨first, isFirst, earlier, proposes⟩

-- The cursor is in the second of the blocks, whose only key is proposed there.
theorem own_key_proposed_again : (twice.cursor.outline.find? 15).map Block.id = some 5 ∧
    3 ∈ (candidates twice.cursor (twiceBlock 5) 2).map Block.id ∧ (twiceBlock 3).childKeys = ["b"] ∧
      ∃ context ∈ twice.contextsAt (twiceBlock 3), (twice.inContext (twiceBlock 5) context).map (·.label) = ["b"] ∧
        context.type? = some 1 ∧ RepeatsKey twice context (twiceBlock 3) (twiceBlock 5) 1 :=
  ⟨by decide +kernel, by decide +kernel, by decide +kernel, twice_repeats⟩

end Completion

end YamlDialects
