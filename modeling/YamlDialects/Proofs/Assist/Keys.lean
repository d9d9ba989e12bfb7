import Mathlib.Data.List.Forall2
import Mathlib.Tactic.Tauto
import YamlDialects.Assist.Completion
import YamlDialects.Proofs.Names

set_option autoImplicit false

namespace YamlDialects

namespace Score

theorem align_sublist (so_far : Alignment) (pattern data : List Char) :
    (align so_far pattern data).isSome = true ↔ pattern.Sublist data := by
  induction data generalizing so_far pattern with
  | nil => cases pattern <;> simp [align]
  | cons c data ih =>
      cases pattern with
      | nil => simp [align]
      | cons wanted pattern =>
          rw [align]
          by_cases same : c = wanted
          · rw [if_pos same, ih, same, List.cons_sublist_cons]
          · rw [if_neg same, ih]
            refine ⟨List.Sublist.cons c, fun found => ?_⟩
            cases found with
            | cons _ later => exact later
            | cons_cons _ later => exact absurd rfl same

theorem rate_some_iff (query text : String) : (rate? query text).isSome = true ↔
    (Text.lowerAll query.toList).Sublist (Text.lowerAll text.toList) := by
  unfold rate?
  split
  next isEmpty =>
    rw [String.isEmpty_iff.mp isEmpty]
    exact ⟨fun _ => List.nil_sublist _, fun _ => rfl⟩
  next => rw [Option.isSome_map, align?, align_sublist]

end Score

namespace Completion

variable (schema : Schema) (defined : List String) (properties : List Property)

-- A key stands for a property as its name or an alias, and with relaxed names as a variant of the name.
def StandsFor (key : String) (property : Property) : Prop :=
  key = property.name ∨ key ∈ property.aliases ∨
    (schema.options.relaxedNames = true ∧ Names.canonical key = Names.canonical property.name)

instance (key : String) (property : Property) : Decidable (StandsFor schema key property) :=
  inferInstanceAs (Decidable (_ ∨ _ ∨ _))

-- A property that may be added: no key is there for it, and it is not held back as deprecated.
structure Missing (property : Property) : Prop where
  undefined : ∀ key ∈ defined, ¬StandsFor schema key property
  suggested : property.deprecated = true → schema.options.suggestDeprecated = true

theorem missing_iff (property : Property) : Missing schema defined property ↔
    (∀ key ∈ defined, ¬StandsFor schema key property) ∧
      (property.deprecated = true → schema.options.suggestDeprecated = true) :=
  ⟨fun missing => ⟨missing.undefined, missing.suggested⟩, fun ⟨undefined, suggested⟩ => ⟨undefined, suggested⟩⟩

instance (property : Property) : Decidable (Missing schema defined property) :=
  decidable_of_iff _ (missing_iff schema defined property).symm

-- The place of a property's tier: the primary properties come first, then the required ones, then the others. Without
-- tiers of optional properties the others are placed with the required ones.
def place (property : Property) : Nat :=
  if property.primary then 0
  else if !schema.options.tieredProposals || property.required then 1
  else 2

def placedAt (own : Nat) : List Property :=
  properties.filter (place schema · = own)

def inOrder : List Property :=
  (List.range 3).flatMap (placedAt schema properties)

theorem mem_placed (own : Nat) (property : Property) : property ∈ placedAt schema properties own ↔
    property ∈ properties ∧ place schema property = own := by
  rw [placedAt, List.mem_filter, decide_eq_true_iff]

theorem placed_perm (count : Nat) :
    ((List.range count).flatMap (placedAt schema properties)).Perm (properties.filter (place schema · < count)) := by
  induction count with
  | zero => simp
  | succ count ih =>
      -- The properties before the next place are those before the last one and those at it.
      have before : (properties.filter (place schema · < count + 1)).filter (place schema · < count) =
          properties.filter (place schema · < count) := by
        rw [List.filter_filter]
        refine List.filter_congr fun property _ => ?_
        simp only [← Bool.decide_and, decide_eq_decide]
        omega
      have last : (properties.filter (place schema · < count + 1)).filter (fun property => !decide (place schema property < count)) =
          placedAt schema properties count := by
        rw [List.filter_filter]
        refine List.filter_congr fun property _ => ?_
        simp only [← decide_not, ← Bool.decide_and, decide_eq_decide]
        omega
      have parts := List.filter_append_perm (place schema · < count) (properties.filter (place schema · < count + 1))
      rw [before, last] at parts
      rw [List.range_succ, List.flatMap_append, List.flatMap_singleton]
      exact (ih.append_right _).trans parts

theorem in_order_perm : (inOrder schema properties).Perm properties := by
  have all : properties.filter (place schema · < 3) = properties := by
    refine List.filter_eq_self.mpr fun property _ => decide_eq_true ?_
    unfold place
    split
    · omega
    · split <;> omega
  have parts := placed_perm schema properties 3
  rwa [all] at parts

-- What the properties are proposed for: they are missing and match, and no tier before theirs lacks a required one.
structure Proposed (query : String) (property : Property) : Prop extends Missing schema defined property where
  scores : ∃ spelling ∈ spellings schema property, (Score.rate? query spelling).isSome = true
  reached : ∀ other ∈ properties, place schema other < place schema property → other.required = true →
    ¬Missing schema defined other

theorem proposed_iff (query : String) (property : Property) : Proposed schema defined properties query property ↔
    Missing schema defined property ∧ (∃ spelling ∈ spellings schema property, (Score.rate? query spelling).isSome = true) ∧
      ∀ other ∈ properties, place schema other < place schema property → other.required = true →
        ¬Missing schema defined other :=
  ⟨fun proposed => ⟨proposed.toMissing, proposed.scores, proposed.reached⟩,
    fun ⟨missing, scores, reached⟩ => ⟨missing, scores, reached⟩⟩

instance (query : String) (property : Property) : Decidable (Proposed schema defined properties query property) :=
  decidable_of_iff _ (proposed_iff schema defined properties query property).symm

theorem defined_iff (property : Property) : isDefined schema defined property = true ↔
    ∃ key ∈ defined, StandsFor schema key property := by
  simp only [isDefined, StandsFor, Property.isNamed, List.any_eq_true, Bool.or_eq_true, Bool.and_eq_true, beq_iff_eq,
    List.contains_iff_mem, or_assoc, eq_comm (a := property.name)]

theorem addable_missing (tier : List Property) : addable schema defined tier = tier.filter (Missing schema defined) := by
  refine List.filter_congr fun property _ => ?_
  rw [Bool.eq_iff_iff, decide_eq_true_iff, missing_iff, Bool.and_eq_true, Bool.not_eq_true', ← Bool.not_eq_true, defined_iff]
  simp [imp_iff_or_not, or_comm]

theorem tiers_placed : tiers schema.options.tieredProposals properties =
    (List.range' 0 3).map (placedAt schema properties) := by
  have places (property : Property) : property.primary = decide (place schema property = 0) ∧
      (!property.primary && (!schema.options.tieredProposals || property.required)) = decide (place schema property = 1) ∧
      (!property.primary && !(!schema.options.tieredProposals || property.required)) = decide (place schema property = 2) := by
    unfold place
    cases property.primary <;> cases (!schema.options.tieredProposals || property.required) <;> exact ⟨rfl, rfl, rfl⟩
  rw [tiers, List.filter_congr fun property _ => (places property).1, List.filter_congr fun property _ => (places property).2.1,
    List.filter_congr fun property _ => (places property).2.2]
  rfl

def ReachedFrom (first : Nat) (property : Property) : Prop :=
  ∀ other ∈ properties, first ≤ place schema other → place schema other < place schema property →
    other.required = true → ¬Missing schema defined other

instance (first : Nat) (property : Property) : Decidable (ReachedFrom schema defined properties first property) :=
  inferInstanceAs (Decidable (∀ _ ∈ _, _ → _ → _ → ¬_))

theorem reached_first (first : Nat) (property : Property) (own : place schema property = first) :
    ReachedFrom schema defined properties first property := by
  intro other _ onward before
  omega

theorem reached_next (first : Nat) (property : Property)
    (complete : ∀ other ∈ properties, place schema other = first → other.required = true → ¬Missing schema defined other) :
    ReachedFrom schema defined properties first property ↔ ReachedFrom schema defined properties (first + 1) property := by
  refine ⟨fun reached other member onward => reached other member (by omega), fun reached other member onward before required => ?_⟩
  by_cases here : place schema other = first
  · exact complete other member here required
  · exact reached other member (by omega) before required

theorem not_reached (first : Nat) (property lacking : Property) (member : lacking ∈ properties)
    (own : place schema lacking = first) (required : lacking.required = true) (missing : Missing schema defined lacking)
    (later : first < place schema property) : ¬ReachedFrom schema defined properties first property :=
  fun reached => reached lacking member (by omega) (by omega) required missing

theorem placed_later (first count : Nat) (property : Property)
    (member : property ∈ (List.range' (first + 1) count).flatMap (placedAt schema properties)) :
    first < place schema property := by
  obtain ⟨own, listed, inside⟩ := List.mem_flatMap.mp member
  have same := ((mem_placed schema properties own property).mp inside).2
  have bounds := List.mem_range'_1.mp listed
  omega

-- The tiers from `first` on are gone through until one lacks a required property, so that a property of any of them
-- is left exactly if it is missing and reached.
theorem open_tiers (count first : Nat) :
    openTiers schema defined ((List.range' first count).map (placedAt schema properties)) =
      ((List.range' first count).flatMap (placedAt schema properties)).filter fun property =>
        Missing schema defined property ∧ ReachedFrom schema defined properties first property := by
  induction count generalizing first with
  | zero => rfl
  | succ count ih =>
      have ownTier : (placedAt schema properties first).filter (fun property =>
            Missing schema defined property ∧ ReachedFrom schema defined properties first property) =
          (placedAt schema properties first).filter (Missing schema defined) := by
        refine List.filter_congr fun property member => decide_eq_decide.mpr (and_iff_left ?_)
        exact reached_first schema defined properties first property ((mem_placed schema properties first property).mp member).2
      rw [List.range'_succ, List.map_cons, List.flatMap_cons, List.filter_append, openTiers, addable_missing, ownTier]
      split
      next lacks =>
        obtain ⟨lacking, member, required⟩ := List.any_eq_true.mp lacks
        obtain ⟨placed, missing⟩ := List.mem_filter.mp member
        obtain ⟨listed, own⟩ := (mem_placed schema properties first lacking).mp placed
        have closed : ((List.range' (first + 1) count).flatMap (placedAt schema properties)).filter (fun property =>
            Missing schema defined property ∧ ReachedFrom schema defined properties first property) = [] := by
          refine List.filter_eq_nil_iff.mpr fun property inside => decide_eq_true_iff.not.mpr fun ⟨_, reached⟩ => ?_
          exact not_reached schema defined properties first property lacking listed own required (of_decide_eq_true missing)
            (placed_later schema properties first count property inside) reached
        rw [closed, List.append_nil]
      next lacksNone =>
        have complete : ∀ other ∈ properties, place schema other = first → other.required = true →
            ¬Missing schema defined other := by
          intro other member own required missing
          have placed := (mem_placed schema properties first other).mpr ⟨member, own⟩
          exact lacksNone (List.any_eq_true.mpr ⟨other, List.mem_filter.mpr ⟨placed, decide_eq_true missing⟩, required⟩)
        rw [ih (first + 1)]
        congr 1
        refine List.filter_congr fun property _ => decide_eq_decide.mpr (and_congr_right fun _ => ?_)
        exact (reached_next schema defined properties first property complete).symm

section

variable (query : String)

theorem better_cases (best : Option (Float × String)) (spelling : String) : better query best spelling = best ∨
    ∃ score, Score.rate? query spelling = some score ∧ better query best spelling = some (score, spelling) := by
  cases rated : Score.rate? query spelling with
  | none => exact .inl (by simp [better, rated])
  | some score =>
      by_cases larger : (best.all fun known => score > known.1) = true
      · exact .inr ⟨score, rfl, by simp [better, rated, larger]⟩
      · exact .inl (by simp [better, rated, larger])

theorem better_some (best : Option (Float × String)) (spelling : String) : (better query best spelling).isSome = true ↔
    best.isSome = true ∨ (Score.rate? query spelling).isSome = true := by
  cases rated : Score.rate? query spelling with
  | none => simp [better, rated]
  | some score =>
      rcases better_cases query best spelling with kept | ⟨_, _, taken⟩
      · cases best with
        | none => simp [better, rated] at kept
        | some known => simp [kept]
      · simp [taken]

theorem best_spelling_some (names : List String) : (bestSpelling? query names).isSome = true ↔
    ∃ spelling ∈ names, (Score.rate? query spelling).isSome = true := by
  have onward (best : Option (Float × String)) : (names.foldl (better query) best).isSome = true ↔
      best.isSome = true ∨ ∃ spelling ∈ names, (Score.rate? query spelling).isSome = true := by
    induction names generalizing best with
    | nil => simp
    | cons spelling rest ih =>
        rw [List.foldl_cons, ih, better_some]
        simp [or_assoc]
  simpa [bestSpelling?] using onward none

theorem best_spelling_mem (names : List String) (score : Float) (spelling : String)
    (best : bestSpelling? query names = some (score, spelling)) : spelling ∈ names := by
  have onward (others : List String) (known : Option (Float × String)) (found : Float × String)
      (last : others.foldl (better query) known = some found) : known = some found ∨ found.2 ∈ others := by
    induction others generalizing known with
    | nil => exact .inl last
    | cons first rest ih =>
        rcases ih (better query known first) last with now | later
        · rcases better_cases query known first with kept | ⟨_, _, taken⟩
          · exact .inl (kept ▸ now)
          · rw [taken] at now
            obtain rfl := Option.some.inj now
            exact .inr (List.mem_cons_self ..)
        · exact .inr (List.mem_cons_of_mem _ later)
  rcases onward names none _ best with nothing | member
  · cases nothing
  · exact member

end

section

variable (completion : Completion) (query : String) (type : TypeId) (current : Block)

theorem of_property_some (property : Property) : (completion.ofProperty? query type current property).isSome = true ↔
    ∃ spelling ∈ spellings completion.schema property, (Score.rate? query spelling).isSome = true := by
  rw [ofProperty?, Option.isSome_map, best_spelling_some]

theorem of_property_label (property : Property) (proposal : Proposal)
    (made : completion.ofProperty? query type current property = some proposal) :
    proposal.label ∈ spellings completion.schema property := by
  obtain ⟨⟨score, spelling⟩, best, rfl⟩ := Option.map_eq_some_iff.mp made
  have member := best_spelling_mem query _ score spelling best
  dsimp only
  split <;> exact member

theorem made_each (listed : List Property) :
    List.Forall₂ (fun property proposal => completion.ofProperty? query type current property = some proposal ∧
        proposal.label ∈ spellings completion.schema property)
      (listed.filter fun property => (completion.ofProperty? query type current property).isSome)
      (listed.filterMap (completion.ofProperty? query type current)) := by
  induction listed with
  | nil => exact .nil
  | cons property rest ih =>
      cases made : completion.ofProperty? query type current property with
      | none =>
          rw [List.filter_cons_of_neg (by simp [made]), List.filterMap_cons_none made]
          exact ih
      | some proposal =>
          rw [List.filter_cons_of_pos (by simp [made]), List.filterMap_cons_some made]
          exact .cons ⟨made, of_property_label completion query type current property proposal made⟩ ih

end

section

variable (type : TypeId) (context : SchemaContext)

theorem offered_bean (listed : List Property) (bean : schema.kind type = .bean listed) :
    offered schema type context = listed := by
  simp [offered, Schema.isBean, Schema.properties, bean]

theorem offered_union (members : List TypeId) (primaries : List Property) (union : schema.kind type = .union members primaries) :
    offered schema type context = primaries := by
  simp [offered, Schema.isBean, Schema.properties, union]

theorem offered_map (key value : TypeId) (map : schema.kind type = .map key value) :
    offered schema type context = (schema.hints key context).map fun hint =>
      { name := hint.value, type := value, description := hint.documentation.getD .empty } := by
  simp [offered, Schema.isBean, Schema.isMap, Schema.isAny, Schema.keyType?, Schema.domain?, map]

theorem mem_spellings (property : Property) (spelling : String) : spelling ∈ spellings schema property ↔
    if schema.options.relaxedNames then spelling ∈ Names.variants property.name ∨
      ∃ earlier later, property.aliases = earlier ++ spelling :: later ∧
        ∀ other ∈ Names.variants property.name ++ earlier, Names.canonical other ≠ Names.canonical spelling
    else spelling = property.name := by
  unfold spellings
  split
  · exact property.mem_spellings spelling
  · exact List.mem_singleton

end

-- Keys are proposed for the properties that are missing, match the query and are reached, and only for these: once for
-- each time that a property is listed, tier by tier.
theorem keys_proposed (completion : Completion) (query : String) (type : TypeId) (context : SchemaContext) (current : Block) :
    (∀ spelling, (Score.rate? query spelling).isSome = true ↔
      (Text.lowerAll query.toList).Sublist (Text.lowerAll spelling.toList)) ∧
    (inOrder completion.schema (offered completion.schema type context)).Perm (offered completion.schema type context) ∧
    List.Forall₂ (fun property proposal => completion.ofProperty? query type current property = some proposal ∧
        proposal.label ∈ spellings completion.schema property)
      ((inOrder completion.schema (offered completion.schema type context)).filter
        (Proposed completion.schema context.definedKeys (offered completion.schema type context) query))
      (completion.keys query type context current) := by
  refine ⟨Score.rate_some_iff query, in_order_perm _ _, ?_⟩
  rw [keys, tiers_placed, open_tiers]
  generalize offered completion.schema type context = properties
  have kept : (inOrder completion.schema properties).filter (Proposed completion.schema context.definedKeys properties query) =
      (((List.range' 0 3).flatMap (placedAt completion.schema properties)).filter fun property =>
        Missing completion.schema context.definedKeys property ∧
          ReachedFrom completion.schema context.definedKeys properties 0 property).filter fun property =>
            (completion.ofProperty? query type current property).isSome := by
    rw [List.filter_filter]
    refine List.filter_congr fun property _ => ?_
    rw [Bool.eq_iff_iff, Bool.and_eq_true, decide_eq_true_iff, decide_eq_true_iff, proposed_iff, of_property_some]
    simp only [ReachedFrom, Nat.zero_le, true_implies]
    tauto
  rw [kept]
  exact made_each completion query type current _

-- A required property keeps back those of later tiers also when it does not match the query itself.
example :
    let schema : Schema := { graph := { } }
    let kind : Property := { name := "kind", type := 0, primary := true, required := true }
    let size : Property := { name := "size", type := 0 }
    ¬Proposed schema [] [kind, size] "si" size ∧ Proposed schema ["kind"] [kind, size] "si" size := by
  decide +kernel

end Completion
end YamlDialects
