import Mathlib.Data.List.Nodup
import YamlDialects.Proofs.Validation.Damaged
import YamlDialects.Proofs.Yaml.Regions

set_option autoImplicit false

namespace YamlDialects

open Yaml (Damage Node Tree)

namespace Validation

def unknownAt (region : Region) (found : List Finding) : Nat :=
  found.countP fun finding => finding.unknownKey? = some region

section

variable (region : Region)

theorem unknown_at_append (first second : List Finding) :
    unknownAt region (first ++ second) = unknownAt region first + unknownAt region second :=
  List.countP_append

theorem unknown_at_absent (found : List Finding)
    (absent : ∀ finding ∈ found, finding.unknownKey? ≠ some region) : unknownAt region found = 0 := by
  apply List.countP_eq_zero.mpr
  intro finding member blamed
  exact absent finding member (of_decide_eq_true blamed)

theorem unknown_at_present (found : List Finding) (counted : unknownAt region found ≠ 0) :
    ∃ finding ∈ found, finding.unknownKey? = some region := by
  by_contra none
  apply counted
  apply unknown_at_absent
  intro finding member blamed
  exact none ⟨finding, member, blamed⟩

theorem unknown_at_quiet (found : List Finding) (quiet : Quiet found) : unknownAt region found = 0 := by
  apply unknown_at_absent
  intro finding member
  rw [quiet finding member]
  exact nofun

theorem unknown_at_flat_map {α : Type} (walk : α → List Finding) (items : List α)
    (each : ∀ item ∈ items, unknownAt region (walk item) ≤ 1)
    (single : items.Pairwise fun first second => unknownAt region (walk first) = 0 ∨ unknownAt region (walk second) = 0) :
    unknownAt region (items.flatMap walk) ≤ 1 := by
  induction items with
  | nil => exact Nat.zero_le 1
  | cons item rest ih =>
      obtain ⟨here, others⟩ := List.forall_mem_cons.mp each
      obtain ⟨apart, restSingle⟩ := List.pairwise_cons.mp single
      rw [List.flatMap_cons, unknown_at_append]
      by_cases nothing : unknownAt region (walk item) = 0
      · rw [nothing, Nat.zero_add]
        exact ih others restSingle
      · have silent : unknownAt region (rest.flatMap walk) = 0 := by
          apply unknown_at_absent
          intro finding member blamed
          obtain ⟨other, listed, found⟩ := List.mem_flatMap.mp member
          have none := (apart other listed).resolve_left nothing
          exact List.countP_eq_zero.mp none finding found (decide_eq_true blamed)
        omega

theorem key_findings_once (schema : Schema) (type : TypeId) (key : String) (place : Region) :
    unknownAt region (keyFindings schema type key place) ≤ if region = place then 1 else 0 := by
  by_cases same : region = place
  · rw [if_pos same]
    refine Nat.le_trans List.countP_le_length ?_
    rw [keyFindings]
    split
    · exact Nat.le_refl 1
    · exact Nat.zero_le 1
    · split
      · exact Nat.le_refl 1
      · exact Nat.zero_le 1
  · rw [if_neg same]
    apply Nat.le_of_eq
    apply unknown_at_absent
    intro finding member blamed
    exact same (key_findings_region schema type key place region finding member blamed)

end

end Validation

namespace Block

variable (text : String) (relaxedNames : Bool) (region : Region)

theorem holds_key_unique (first second : Block) (firstBelongs : first.outline = Outline.ofText text relaxedNames)
    (secondBelongs : second.outline = Outline.ofText text relaxedNames) (firstHolds : first.HoldsKey region)
    (secondHolds : second.HoldsKey region) : ∃ inner : Block, inner.outline = Outline.ofText text relaxedNames ∧
      inner.kind = .key ∧ inner.keyRegion? = some region ∧
        (Outline.ofText text relaxedNames).table.Under first.id inner.id ∧
          (Outline.ofText text relaxedNames).table.Under second.id inner.id := by
  obtain ⟨inner, same, under, isKey, shown⟩ := firstHolds
  obtain ⟨other, otherSame, otherUnder, otherKey, otherShown⟩ := secondHolds
  have belongs := same.trans firstBelongs
  have otherBelongs := otherSame.trans secondBelongs
  obtain ⟨start, -⟩ := inner.key_region_spec text relaxedNames belongs isKey region shown
  obtain ⟨otherStart, -⟩ := other.key_region_spec text relaxedNames otherBelongs otherKey region otherShown
  obtain rfl := inner.key_eq_of_start text relaxedNames other belongs otherBelongs isKey otherKey (start.symm.trans otherStart)
  rw [firstBelongs] at under
  rw [secondBelongs] at otherUnder
  exact ⟨inner, belongs, isKey, shown, under, otherUnder⟩

theorem holds_key_linear (first second : Block) (firstBelongs : first.outline = Outline.ofText text relaxedNames)
    (secondBelongs : second.outline = Outline.ofText text relaxedNames) (firstHolds : first.HoldsKey region)
    (secondHolds : second.HoldsKey region) (order : first.id ≤ second.id) :
    (Outline.ofText text relaxedNames).table.Under first.id second.id := by
  obtain ⟨inner, -, -, -, above, near⟩ :=
    holds_key_unique text relaxedNames region first second firstBelongs secondBelongs firstHolds secondHolds
  have sound := Outline.of_text_sound text relaxedNames
  exact Outline.Table.under_linear _ (Outline.sound_descending _ _ sound) first.id second.id inner.id order above near

theorem children_hold_apart (block : Block) (belongs : block.outline = Outline.ofText text relaxedNames) :
    block.children.Pairwise fun first second => ¬ (first.HoldsKey region ∧ second.HoldsKey region) := by
  refine block.children_sorted.imp_of_mem ?_
  rintro first second firstMember secondMember order ⟨firstHolds, secondHolds⟩
  have sound := Outline.block_sound text relaxedNames block belongs
  obtain ⟨firstSame, firstEntry, readFirst, firstChild⟩ := (block.mem_children text.toList first sound).mp firstMember
  obtain ⟨secondSame, secondEntry, readSecond, secondChild⟩ := (block.mem_children text.toList second sound).mp secondMember
  have under := holds_key_linear text relaxedNames region first second (firstSame.trans belongs) (secondSame.trans belongs)
    firstHolds secondHolds (Nat.le_of_lt order)
  rw [← belongs] at under
  exact Outline.siblings_separate text.toList _ sound block.id first.id second.id firstEntry secondEntry order readFirst
    readSecond firstChild secondChild under

theorem own_key_above (block child : Block) (belongs : block.outline = Outline.ofText text relaxedNames)
    (isKey : block.kind = .key) (shown : block.keyRegion? = some region) (member : child ∈ block.children) :
    ¬ child.HoldsKey region := by
  intro holds
  have sound := Outline.block_sound text relaxedNames block belongs
  obtain ⟨same, entry, read, isChild⟩ := (block.mem_children text.toList child sound).mp member
  have below := Outline.sound_descending _ _ sound child.id entry block.id read isChild
  obtain ⟨inner, innerSame, under, innerKey, innerShown⟩ := holds
  have innerBelongs := innerSame.trans (same.trans belongs)
  obtain ⟨start, -⟩ := block.key_region_spec text relaxedNames belongs isKey region shown
  obtain ⟨innerStart, -⟩ := inner.key_region_spec text relaxedNames innerBelongs innerKey region innerShown
  obtain rfl := block.key_eq_of_start text relaxedNames inner belongs innerBelongs isKey innerKey (start.symm.trans innerStart)
  rw [same] at under
  have above := Outline.Table.under_le _ (Outline.sound_descending _ _ sound) child.id block.id under
  omega

end Block

namespace Validation

section

variable (schema : Schema) (text : String) (relaxedNames : Bool) (region : Region)

theorem block_within_child (depth : Nat) (block : Block) (type : TypeId) (path : Path) (finding : Finding)
    (member : finding ∈ blockWithin schema depth block type path) (unknown : finding.unknownKey? = some region) :
    ∃ child ∈ block.children, child.HoldsKey region := by
  cases depth with
  | zero => cases member
  | succ depth =>
      rw [blockWithin] at member
      split at member
      · cases member
      · rcases List.mem_append.mp member with inside | deferred
        · obtain ⟨child, isChild, found⟩ := List.mem_flatMap.mp inside
          refine ⟨child, isChild, child_block_keys schema _ _ path child finding region (fun type path deeper => ?_) found unknown⟩
          exact block_within_keys schema depth child type path finding region deeper unknown
        · rw [quiet_checks _ _ _ finding deferred] at unknown
          cases unknown

theorem child_block_once (below : Block → TypeId → Path → List Finding) (type : TypeId) (path : Path) (child : Block)
    (deeper : ∀ type path, unknownAt region (below child type path) ≤ 1)
    (own : child.kind = .key → child.keyRegion? = some region → ∀ type path, unknownAt region (below child type path) = 0) :
    unknownAt region (childBlock schema below type path child) ≤ 1 := by
  rw [childBlock]
  split
  next isKey =>
    rw [keyBlock]
    split
    next key shown _ shownEq =>
      have here := key_findings_once region schema type key shown
      dsimp only
      split
      · exact Nat.zero_le 1
      · split
        · rw [unknown_at_append]
          cases (lookup schema type key).property? with
          | none =>
              have single : (if region = shown then 1 else 0) ≤ 1 := by split <;> omega
              exact Nat.le_trans here single
          | some property =>
              dsimp only
              by_cases same : region = shown
              · rw [if_pos same] at here
                have inside := own isKey (same ▸ shownEq) property.type (path ++ [Segment.value key])
                omega
              · rw [if_neg same] at here
                have inside := deeper property.type (path ++ [Segment.value key])
                omega
        · split
          · split
            · exact deeper _ _
            · exact Nat.zero_le 1
          · exact Nat.zero_le 1
    next => exact Nat.zero_le 1
  next =>
    rw [itemBlock]
    split
    · exact deeper _ _
    · exact Nat.zero_le 1
  next => exact Nat.zero_le 1

theorem block_within_once (depth : Nat) (block : Block) (belongs : block.outline = Outline.ofText text relaxedNames)
    (type : TypeId) (path : Path) : unknownAt region (blockWithin schema depth block type path) ≤ 1 := by
  induction depth generalizing block type path with
  | zero => exact Nat.zero_le 1
  | succ depth ih =>
      rw [blockWithin]
      split
      · exact Nat.zero_le 1
      · rw [unknown_at_append, unknown_at_quiet region (blockChecks _ _ _ _) (quiet_checks _ _ _), Nat.add_zero]
        apply unknown_at_flat_map
        · intro child member
          have childBelongs := (block.children_outline child member).trans belongs
          apply child_block_once
          · exact ih child childBelongs
          · intro isKey shown type path
            apply unknown_at_absent
            intro finding found unknown
            obtain ⟨inner, isChild, holds⟩ := block_within_child schema region depth child type path finding found unknown
            exact child.own_key_above text relaxedNames region inner childBelongs isKey shown isChild holds
        · refine (block.children_hold_apart text relaxedNames region belongs).imp fun {first second} apart => ?_
          by_contra both
          rw [not_or] at both
          have holds : ∀ child : Block, unknownAt region (childBlock schema (blockWithin schema depth)
              (schema.infer type { path, source := .block block }) path child) ≠ 0 → child.HoldsKey region := by
            intro child counted
            obtain ⟨finding, found, unknown⟩ := unknown_at_present region _ counted
            refine child_block_keys schema _ _ path child finding region (fun type path deeper => ?_) found unknown
            exact block_within_keys schema depth child type path finding region deeper unknown
          exact apart ⟨holds first both.1, holds second both.2⟩

end

def Spends {α : Type} (walk : StateM Handled α) (good : α → List Nat → Prop) : Prop :=
  ∀ before : Handled, before.Nodup → ∃ fresh, (walk.run before).2 = before ++ fresh ∧ (before ++ fresh).Nodup ∧
    good (walk.run before).1 fresh

theorem spends_pure {α : Type} (given : α) (good : α → List Nat → Prop) (holds : good given []) :
    Spends (pure given) good := by
  intro before distinct
  exact ⟨[], (List.append_nil _).symm, by rwa [List.append_nil], holds⟩

theorem spends_bind {α β : Type} (first : StateM Handled α) (rest : α → StateM Handled β) (good : α → List Nat → Prop)
    (fine : β → List Nat → Prop) (begins : Spends first good)
    (continues : ∀ given spent, good given spent → Spends (rest given) fun found more => fine found (spent ++ more)) :
    Spends (first >>= rest) fine := by
  intro before distinct
  obtain ⟨spent, after, apart, holds⟩ := begins before distinct
  obtain ⟨more, ends, further, also⟩ := continues _ spent holds (before ++ spent) apart
  refine ⟨spent ++ more, ?_, by rwa [← List.append_assoc], ?_⟩
  · rw [← List.append_assoc, ← ends, ← after]
    rfl
  · rw [← after] at also
    exact also

-- A key is called unknown no more often than is allowed, and once more where the damage that holds it is dealt with.
def Costs (region : Region) (home : Option Nat) (allowed : Nat) (found : List Finding) (spent : List Nat) : Prop :=
  unknownAt region found ≤ allowed + spent.countP fun number => home = some number

-- The damage that holds the key at a place is the one with the number of its home.
def IsHome (validation : Validation) (region : Region) (home : Option Nat) : Prop :=
  ∀ number damage, validation.tree.damage[number]? = some damage →
    Block.HoldsKey ⟨validation.tree.outline, damage.block⟩ region → home = some number

section

variable (region : Region) (home : Option Nat)

theorem costs_append (first second : List Finding) (allowed more : Nat) (spent further : List Nat)
    (firstCosts : Costs region home allowed first spent) (secondCosts : Costs region home more second further) :
    Costs region home (allowed + more) (first ++ second) (spent ++ further) := by
  rw [Costs, unknown_at_append, List.countP_append]
  rw [Costs] at firstCosts secondCosts
  omega

theorem costs_quiet (found : List Finding) (quiet : Quiet found) : Costs region home 0 found [] := by
  rw [Costs, unknown_at_quiet region found quiet]
  exact Nat.zero_le _

theorem costs_more (found : List Finding) (allowed more : Nat) (spent : List Nat) (le : allowed ≤ more)
    (costs : Costs region home allowed found spent) : Costs region home more found spent :=
  Nat.le_trans costs (Nat.add_le_add_right le _)

theorem spends_costs (found : List Finding) (allowed : Nat) (costs : Costs region home allowed found []) :
    Spends (pure found) (Costs region home allowed) :=
  spends_pure found _ costs

theorem spends_append (first second : StateM Handled (List Finding)) (allowed more : Nat)
    (begins : Spends first (Costs region home allowed)) (continues : Spends second (Costs region home more)) :
    Spends (first >>= fun found => second >>= fun further => pure (found ++ further))
      (Costs region home (allowed + more)) := by
  refine spends_bind _ _ _ _ begins fun found spent costs => ?_
  refine spends_bind _ _ _ _ continues fun further after also => ?_
  apply spends_pure
  rw [List.append_nil]
  exact costs_append region home found further allowed more spent after costs also

theorem spends_take (validation : Validation) (path : Path) :
    Spends (validation.takeDamage path) fun taken spent => ∀ walk : Damage → List Finding,
      (∀ number damage, validation.tree.damage[number]? = some damage →
        unknownAt region (walk damage) ≤ if home = some number then 1 else 0) →
      Costs region home 0 (taken.flatMap walk) spent := by
  intro before distinct
  generalize picked : (validation.tree.damage.zipIdx.filter fun each =>
    isAt path each.1 && !before.contains each.2) = pairs
  have listed : ∀ pair ∈ pairs, validation.tree.damage[pair.2]? = some pair.1 ∧ pair.2 ∉ before := by
    intro pair member
    rw [← picked] at member
    obtain ⟨inside, fresh⟩ := List.mem_filter.mp member
    refine ⟨List.mk_mem_zipIdx_iff_getElem?.mp inside, ?_⟩
    simpa using (Bool.and_eq_true_iff.mp fresh).2
  have numbers : (pairs.map (·.2)).Nodup := by
    rw [← picked]
    refine List.Nodup.sublist (List.filter_sublist.map _) ?_
    rw [List.zipIdx_map_snd]
    exact List.nodup_range'
  refine ⟨pairs.map (·.2), ?_, ?_, ?_⟩
  · rw [← picked]
    rfl
  · refine List.nodup_append.mpr ⟨distinct, numbers, ?_⟩
    rintro number old _ fresh rfl
    obtain ⟨pair, member, rfl⟩ := List.mem_map.mp fresh
    exact (listed pair member).2 old
  · intro walk each
    change Costs region home 0 (List.flatMap walk (List.map (·.1) (validation.tree.damage.zipIdx.filter _))) _
    rw [picked, Costs, Nat.zero_add]
    clear picked numbers
    induction pairs with
    | nil => exact Nat.zero_le _
    | cons pair rest ih =>
        obtain ⟨⟨recorded, -⟩, others⟩ := List.forall_mem_cons.mp listed
        have here := each pair.2 pair.1 recorded
        have onward := ih others
        rw [List.map_cons, List.flatMap_cons, unknown_at_append, List.map_cons, List.countP_cons]
        simp only [decide_eq_true_eq]
        omega

end

section

variable (validation : Validation) (text : String) (relaxedNames : Bool) (region : Region) (home : Option Nat)
  (outlined : validation.tree.outline = Outline.ofText text relaxedNames) (isHome : validation.IsHome region home)

include outlined isHome

theorem damage_costs (type : TypeId) (path : Path) (number : Nat) (damage : Damage)
    (recorded : validation.tree.damage[number]? = some damage) :
    unknownAt region (validation.damageFindings type path damage) ≤ if home = some number then 1 else 0 := by
  rw [damageFindings]
  split
  next found placed =>
    obtain ⟨-, rfl⟩ := (Outline.block_iff _ _ _).mp placed
    have counted := child_block_once validation.schema region (block validation.schema) type path
      ⟨validation.tree.outline, damage.block⟩
      (fun type path => block_within_once validation.schema text relaxedNames region _ _ outlined type path)
      (fun isKey shown type path => by
        apply unknown_at_absent
        intro finding member unknown
        obtain ⟨child, isChild, holds⟩ := block_within_child validation.schema region _ _ type path finding member unknown
        exact Block.own_key_above text relaxedNames region _ child outlined isKey shown isChild holds)
    by_cases here : home = some number
    · rw [if_pos here]
      exact counted
    · rw [if_neg here]
      apply Nat.le_of_eq
      apply unknown_at_absent
      intro finding member unknown
      refine here (isHome number damage recorded ?_)
      refine child_block_keys validation.schema _ type path _ finding region (fun type path deeper => ?_) member unknown
      exact block_within_keys validation.schema _ _ type path finding region deeper unknown
  next => exact Nat.zero_le _

theorem lost_costs (dialect : Dialect) : Spends (lostDocuments dialect validation) (Costs region home 0) := by
  refine spends_bind _ _ _ _ (spends_take region home validation []) fun taken spent costs => ?_
  apply spends_pure
  rw [List.append_nil]
  apply costs
  intro number damage recorded
  split
  next found placed =>
    obtain ⟨-, rfl⟩ := (Outline.block_iff _ _ _).mp placed
    split
    · by_cases here : home = some number
      · rw [if_pos here]
        exact block_within_once validation.schema text relaxedNames region _ _ outlined _ _
      · rw [if_neg here]
        apply Nat.le_of_eq
        apply unknown_at_absent
        intro finding member unknown
        refine here (isHome number damage recorded ?_)
        exact block_within_keys validation.schema _ _ _ _ finding region member unknown
    · exact Nat.zero_le _
  next => exact Nat.zero_le _

end

structure Homed (validation : Validation) (region : Region) (home : Option Nat) : Prop where
  room : region.start < region.stop
  once : ∀ type path number damage, validation.tree.damage[number]? = some damage →
    unknownAt region (validation.damageFindings type path damage) ≤ if home = some number then 1 else 0

section

variable (validation : Validation) (region : Region) (home : Option Nat)

theorem key_costs (room : region.start < region.stop) (type : TypeId) (key : Node) (name : String)
    (checked : checkedKey? key = some name) :
    Costs region home (key.rooms.count region) (keyFindings validation.schema type name key.region) [] := by
  refine Nat.le_trans (key_findings_once region validation.schema type name key.region) ?_
  rw [List.countP_nil, Nat.add_zero]
  cases key with
  | scalar text place =>
      by_cases same : region = place
      · subst same
        simp [Node.rooms, Node.region, room]
      · rw [Node.region, if_neg same]
        exact Nat.zero_le _
  | mapping entries place => cases checked
  | sequence items place => cases checked

section

variable (rooms : Nat) (deferred damaged : List Finding) (quiet : Quiet deferred) (spent : List Nat)
  (costs : Costs region home 0 damaged spent)
include quiet costs

theorem finish_costs (own : List Finding) (more : List Nat) (within_ : Costs region home rooms own more) :
    Spends (pure (own ++ deferred ++ damaged)) fun found later => Costs region home rooms found (spent ++ (more ++ later)) := by
  apply spends_pure
  have silent : unknownAt region deferred = 0 := unknown_at_quiet region deferred quiet
  rw [Costs] at within_ costs ⊢
  rw [unknown_at_append, unknown_at_append, List.append_nil, List.countP_append]
  omega

theorem finish_quiet (own : List Finding) (silent : Quiet own) :
    Spends (pure own >>= fun own => pure (own ++ deferred ++ damaged))
      fun found later => Costs region home rooms found (spent ++ later) := by
  refine spends_bind _ _ _ _ (spends_costs region home own rooms ?_)
    (finish_costs region home rooms deferred damaged quiet spent costs)
  rw [Costs, unknown_at_quiet region own silent]
  exact Nat.zero_le _

theorem finish_inside (walk : StateM Handled (List Finding)) (before after : List Finding) (quietBefore : Quiet before)
    (quietAfter : Quiet after) (spends : Spends walk (Costs region home rooms)) :
    Spends (walk >>= fun values => pure (before ++ values ++ after) >>= fun own => pure (own ++ deferred ++ damaged))
      fun found later => Costs region home rooms found (spent ++ later) := by
  refine spends_bind _ _ _ _ spends fun values more within_ => ?_
  refine spends_bind _ _ _ (fun found later => Costs region home rooms found (spent ++ (more ++ later)))
    (spends_pure _ (fun own later => Costs region home rooms own (more ++ later)) ?_) fun own later also => by
      simpa only [List.append_assoc] using
        finish_costs region home rooms deferred damaged quiet spent costs own (more ++ later) also
  rw [Costs] at within_ ⊢
  rw [unknown_at_append, unknown_at_append, unknown_at_quiet region before quietBefore, unknown_at_quiet region after quietAfter,
    List.append_nil]
  omega

end

mutual

theorem node_costs (homed : validation.Homed region home) (parent key : Option Region) (declared : TypeId) (path : Path) (found : Node) :
    Spends (validation.node parent key declared path found) (Costs region home (found.rooms.count region)) := by
  rw [node]
  refine spends_bind _ _ _ _ (spends_take region home validation path) fun taken spent costs => ?_
  dsimp only
  generalize validation.schema.infer declared _ = type
  generalize checked : checks (validation.schema.constraints type) _ _ = deferred
  have quiet : Quiet deferred := checked ▸ quiet_checks _ _ _
  have damaged := costs _ (homed.once type path)
  have quietly := finish_quiet region home (found.rooms.count region) deferred _ quiet spent damaged
  have inside := finish_inside region home (found.rooms.count region) deferred _ quiet spent damaged
  cases found with
  | scalar text place =>
      dsimp only
      split
      · exact quietly _ (List.forall_mem_nil _)
      · exact quietly _ (quiet_values _ _ _ _)
  | mapping entries place =>
      dsimp only
      split
      · exact quietly _ (quiet_duplicates entries)
      · split
        · exact inside _ _ _ (quiet_duplicates entries) (quiet_absent _ _ _ _) (properties_cost homed place type path entries)
        · split
          · simpa only [List.append_nil] using inside _ _ [] (quiet_duplicates entries) (List.forall_mem_nil _)
              (pairs_cost homed place _ _ path entries)
          · exact quietly _ (quiet_append _ _ (quiet_duplicates entries) (quiet_problem _ _ _ _ (by decide)))
  | sequence items place =>
      dsimp only
      split
      · exact quietly _ (List.forall_mem_nil _)
      · split
        · exact spends_bind _ _ _ _ (elements_cost homed place _ path 0 items)
            (finish_costs region home _ deferred _ quiet spent damaged)
        · exact quietly _ (quiet_problem _ _ _ _ (by decide))

theorem properties_cost (homed : validation.Homed region home) (parent : Region) (type : TypeId) (path : Path)
    (entries : List (Node × Node)) :
    Spends (validation.properties parent type path entries) (Costs region home ((Node.entryRooms entries).count region)) := by
  match entries with
  | [] =>
      rw [properties]
      exact spends_costs region home [] 0 (costs_quiet region home [] (List.forall_mem_nil _))
  | (key, value) :: rest =>
      have later := properties_cost homed parent type path rest
      rw [properties, Node.entryRooms, List.count_append, List.count_append, ← Nat.add_assoc]
      dsimp only
      cases checked : checkedKey? key with
      | none =>
          have nothing := costs_quiet region home [] (List.forall_mem_nil _)
          exact spends_append region home _ _ _ _
            (spends_costs region home [] _ (costs_more region home [] 0 _ [] (Nat.zero_le _) nothing)) later
      | some name =>
          have own := key_costs validation region home homed.room type key name checked
          dsimp only
          cases (lookup validation.schema type name).property? with
          | none =>
              exact spends_append region home _ _ _ _
                (spends_costs region home _ _ (costs_more region home _ _ _ [] (Nat.le_add_right _ _) own)) later
          | some property =>
              have inside := spends_append region home _ _ _ _ (spends_costs region home _ _ own)
                (node_costs homed (some parent) (some key.region) property.type (path ++ [.value name]) value)
              simpa only [bind_assoc, pure_bind] using spends_append region home _ _ _ _ inside later

theorem pairs_cost (homed : validation.Homed region home) (parent : Region) (keyType valueType : Option TypeId) (path : Path)
    (entries : List (Node × Node)) :
    Spends (validation.pairs parent keyType valueType path entries)
      (Costs region home ((Node.entryRooms entries).count region)) := by
  match entries with
  | [] =>
      rw [pairs]
      exact spends_costs region home [] 0 (costs_quiet region home [] (List.forall_mem_nil _))
  | (key, value) :: rest =>
      have later := pairs_cost homed parent keyType valueType path rest
      have nothing : ∀ allowed, Spends (pure []) (Costs region home allowed) := fun allowed =>
        spends_costs region home [] allowed (costs_more region home [] 0 allowed [] (Nat.zero_le _)
          (costs_quiet region home [] (List.forall_mem_nil _)))
      rw [pairs, Node.entryRooms, List.count_append, List.count_append, ← Nat.add_assoc]
      cases key.scalar? with
      | none => exact spends_append region home _ _ _ _ (nothing _) later
      | some name =>
          have keys : Spends (match keyType with
              | none => pure []
              | some keyType => validation.node (some parent) none keyType (path ++ [.key name]) key)
              (Costs region home (key.rooms.count region)) := by
            cases keyType with
            | none => exact nothing _
            | some keyType => exact node_costs homed (some parent) none keyType (path ++ [.key name]) key
          have values : Spends (match valueType with
              | none => pure []
              | some valueType => validation.node (some parent) (some key.region) valueType (path ++ [.value name]) value)
              (Costs region home (value.rooms.count region)) := by
            cases valueType with
            | none => exact nothing _
            | some valueType => exact node_costs homed (some parent) (some key.region) valueType (path ++ [.value name]) value
          have both := spends_append region home _ _ _ _ keys values
          have all := spends_append region home _ _ _ _ both later
          cases keyType <;> cases valueType <;> simpa only [bind_assoc, pure_bind] using all

theorem elements_cost (homed : validation.Homed region home) (parent : Region) (element : TypeId) (path : Path) (first : Nat)
    (items : List Node) :
    Spends (validation.elements parent element path first items) (Costs region home ((Node.itemRooms items).count region)) := by
  match items with
  | [] =>
      rw [elements]
      exact spends_costs region home [] 0 (costs_quiet region home [] (List.forall_mem_nil _))
  | item :: rest =>
      rw [elements, Node.itemRooms, List.count_append]
      exact spends_append region home _ _ _ _ (node_costs homed (some parent) none element (path ++ [.index first]) item)
        (elements_cost homed parent element path (first + 1) rest)

end

theorem documents_cost (homed : validation.Homed region home) (dialect : Dialect) (first : Nat) (roots : List Node) :
    Spends (documents dialect validation first roots) (Costs region home ((Node.itemRooms roots).count region)) := by
  induction roots generalizing first with
  | nil => exact spends_costs region home [] 0 (costs_quiet region home [] (List.forall_mem_nil _))
  | cons root rest ih =>
      rw [documents, Node.itemRooms, List.count_append]
      refine spends_append region home _ _ _ _ ?_ (ih (first + 1))
      rw [document]
      refine spends_bind _ _ _ _ (node_costs validation region home homed none none _ [.index first] root) fun found spent costs => ?_
      apply spends_pure
      rw [List.append_nil]
      rw [Costs] at costs ⊢
      rw [unknown_at_append, unknown_at_quiet region _ (quiet_checks _ _ _), Nat.zero_add]
      exact costs

end

theorem damaged_key_enclosed (read : Yaml.TextReader) (text : String) (relaxedNames : Bool) (region : Region) (damage : Damage)
    (member : damage ∈ (Tree.parseBy read text relaxedNames).damage)
    (holds : Block.HoldsKey ⟨Outline.ofText text relaxedNames, damage.block⟩ region) :
    damage.region.encloses region = true := by
  obtain ⟨upper, suspect, rfl⟩ := Tree.damage_source read text relaxedNames damage member
  obtain ⟨inner, belongs, under, isKey, shown⟩ := holds
  obtain ⟨-, -, around⟩ := inner.key_region_spec text relaxedNames belongs isKey region shown
  have plain : Yaml.blankRegion inner = inner.treeRegion := by rw [Yaml.blankRegion, isKey]
  have upperBelongs := suspect.belongs
  by_cases same : upper.id = inner.id
  · obtain ⟨outline, id⟩ := upper
    obtain ⟨other, otherId⟩ := inner
    obtain rfl : outline = other := upperBelongs.trans belongs.symm
    obtain rfl : id = otherId := same
    rw [← plain] at around
    exact around
  · have encloses := Yaml.blank_region_encloses text.toList upper inner
      (Outline.block_sound text relaxedNames upper upperBelongs) (upperBelongs ▸ suspect)
      ⟨belongs.trans upperBelongs.symm, .inl (by rw [isKey]; rfl)⟩ (upperBelongs ▸ under) same
    rw [plain] at encloses
    rw [Region.encloses_iff] at encloses around
    exact (Region.encloses_iff _ _).mpr ⟨Nat.le_trans encloses.1 around.1, Nat.le_trans around.2 encloses.2⟩

theorem damage_number_unique (read : Yaml.TextReader) (text : String) (relaxedNames : Bool) (number other : Nat) (first second : Damage)
    (firstRecorded : (Tree.parseBy read text relaxedNames).damage[number]? = some first)
    (secondRecorded : (Tree.parseBy read text relaxedNames).damage[other]? = some second)
    (under : (Outline.ofText text relaxedNames).table.Under first.block second.block) : number = other := by
  obtain rfl := Tree.damage_not_nested read text relaxedNames first second (List.mem_of_getElem? firstRecorded)
    (List.mem_of_getElem? secondRecorded) under
  have recorded := Tree.parse_recorded read text relaxedNames
  have distinct : (Tree.parseBy read text relaxedNames).damage.Nodup := by
    refine (List.mergeSort_perm _ _).nodup_iff.mpr ?_
    refine recorded.apart.imp_of_mem ?_
    rintro damage _ member _ apart rfl
    have room := recorded.nonEmpty damage member
    rw [Region.apart_iff] at apart
    omega
  exact (List.getElem?_inj (List.getElem?_eq_some_iff.mp firstRecorded).1 distinct).mp
    (firstRecorded.trans secondRecorded.symm)

theorem exists_home (read : Yaml.TextReader) (validation : Validation) (text : String) (relaxedNames : Bool)
    (parsed : validation.tree = Tree.parseBy read text relaxedNames) (region : Region) (room : region.start < region.stop) :
    ∃ home, validation.IsHome region home ∧
      (home ≠ none → (Node.itemRooms validation.tree.documents).count region = 0) := by
  by_cases damaged : ∃ (number : Nat) (damage : Damage), validation.tree.damage[number]? = some damage ∧
      Block.HoldsKey ⟨validation.tree.outline, damage.block⟩ region
  · obtain ⟨number, damage, recorded, holds⟩ := damaged
    rw [parsed] at recorded holds
    refine ⟨some number, ?_, fun _ => ?_⟩
    · intro other further also inside
      rw [parsed] at also inside
      rcases Nat.le_total damage.block further.block with order | order
      · have under := Block.holds_key_linear text relaxedNames region ⟨Outline.ofText text relaxedNames, damage.block⟩
          ⟨Outline.ofText text relaxedNames, further.block⟩ rfl rfl holds inside order
        exact congrArg some (damage_number_unique read text relaxedNames number other damage further recorded also under)
      · have under := Block.holds_key_linear text relaxedNames region ⟨Outline.ofText text relaxedNames, further.block⟩
          ⟨Outline.ofText text relaxedNames, damage.block⟩ rfl rfl inside holds order
        exact congrArg some (damage_number_unique read text relaxedNames other number further damage also recorded under).symm
    · rw [parsed]
      apply List.count_eq_zero.mpr
      intro member
      obtain ⟨-, root, listed, scalar, inside⟩ := Node.mem_item_rooms _ region member
      have recordedDamage := List.mem_of_getElem? recorded
      have empty := Tree.scalar_not_damaged read text relaxedNames damage recordedDamage root listed scalar region inside
        (damaged_key_enclosed read text relaxedNames region damage recordedDamage holds)
      omega
  · refine ⟨none, ?_, fun some => absurd rfl some⟩
    intro number damage recorded holds
    exact absurd ⟨number, damage, recorded, holds⟩ damaged

def dealtWith (dialect : Dialect) (validation : Validation) : Handled :=
  ((lostDocuments dialect validation).run
    ((documents dialect validation 0 validation.tree.documents).run []).2).2

theorem findings_once (read : Yaml.TextReader) (spans : read.Apart) (dialect : Dialect) (validation : Validation) (text : String) (relaxedNames : Bool)
    (parsed : validation.tree = Tree.parseBy read text relaxedNames) (region : Region) (room : region.start < region.stop) :
    unknownAt region (findings dialect validation) ≤ 1 ∧ (dealtWith dialect validation).Nodup := by
  obtain ⟨home, isHome, apart⟩ := exists_home read validation text relaxedNames parsed region room
  have outlined : validation.tree.outline = Outline.ofText text relaxedNames := by rw [parsed]; rfl
  have homed : validation.Homed region home :=
    ⟨room, fun type path => damage_costs validation text relaxedNames region home outlined isHome type path⟩
  obtain ⟨spent, after, distinct, cost⟩ := spends_append region home _ _ _ _
    (documents_cost validation region home homed dialect 0 validation.tree.documents)
    (lost_costs validation text relaxedNames region home outlined isHome dialect) [] List.nodup_nil
  rw [List.nil_append] at after distinct
  constructor
  · refine Nat.le_trans cost ?_
    cases home with
    | none =>
        have single : (Node.itemRooms validation.tree.documents).count region ≤ 1 := by
          rw [parsed]
          exact List.nodup_iff_count_le_one.mp (Tree.rooms_nodup read spans text relaxedNames) region
        simpa using single
    | some number =>
        have once := List.nodup_iff_count_le_one.mp distinct number
        have same : (spent.countP fun each => some number = some each) = spent.count number :=
          List.countP_congr fun each _ => by
            simp only [decide_eq_true_eq, Option.some.injEq, beq_iff_eq]
            exact eq_comm
        rw [apart (by simp), same]
        omega
  · rw [← after] at distinct
    exact distinct

theorem problems_count (dialect : Dialect) (validation : Validation) (region : Region) :
    (problems dialect validation).countP (fun problem => problem.kind = .unknownProperty ∧ problem.region = region) =
      unknownAt region (findings dialect validation) := by
  have syntactic : (syntaxProblems validation.tree).countP
      (fun problem => problem.kind = .unknownProperty ∧ problem.region = region) = 0 := by
    apply List.countP_eq_zero.mpr
    intro problem member
    obtain ⟨error, -, rfl⟩ := List.mem_map.mp member
    simp [Problem.of]
  have deferred : (((findings dialect validation).filterMap Finding.check?).flatMap Check.problems).countP
      (fun problem => problem.kind = .unknownProperty ∧ problem.region = region) = 0 := by
    apply List.countP_eq_zero.mpr
    intro problem member
    obtain ⟨check, -, inside⟩ := List.mem_flatMap.mp member
    simp [check_kinds check problem inside]
  rw [problems, (List.mergeSort_perm _ _).countP_eq, List.countP_append, List.countP_append, syntactic, deferred,
    Nat.zero_add, Nat.add_zero, List.countP_filterMap, unknownAt]
  apply List.countP_congr
  intro finding member
  cases finding with
  | problem found => by_cases kind : found.kind = .unknownProperty <;> simp [Finding.problem?, Finding.unknownKey?, kind]
  | check deferred => simp [Finding.problem?, Finding.unknownKey?]

-- A key is called unknown at most once. Each damaged block is dealt with at most once, and none of them lies in another.
theorem key_judged_once (read : Yaml.TextReader) (spans : read.Apart) (dialect : Dialect) (options : SchemaOptions)
    (index : Option PropertyIndex) (text : String) (region : Region) (room : region.start < region.stop) :
    (dialect.problems options index text read).countP
        (fun problem => problem.kind = .unknownProperty ∧ problem.region = region) ≤ 1 ∧
      (dealtWith dialect ⟨dialect.schema options index, Tree.parseBy read text options.relaxedNames⟩).Nodup ∧
        ∀ (number other : Nat) (first second : Damage),
          (Tree.parseBy read text options.relaxedNames).damage[number]? = some first →
          (Tree.parseBy read text options.relaxedNames).damage[other]? = some second →
          (Tree.parseBy read text options.relaxedNames).outline.table.Under first.block second.block → number = other := by
  obtain ⟨once, distinct⟩ := findings_once read spans dialect ⟨dialect.schema options index, Tree.parseBy read text options.relaxedNames⟩
    text options.relaxedNames rfl region room
  refine ⟨?_, distinct, damage_number_unique read text options.relaxedNames⟩
  rw [Dialect.problems, problems_count]
  exact once

-- A key that occurs twice, the first time with a damaged value.
def damagedThenRead : String :=
  "foo: [1\nfoo: 2\n"

theorem damaged_occurrence_judged_once :
    (settings.problems {} none damagedThenRead).countP
        (fun problem => problem.kind = .unknownProperty ∧ problem.region = ⟨0, 3⟩) = 1 ∧
      (dealtWith settings ⟨settings.schema {} none, Tree.parse damagedThenRead⟩).Nodup := by
  obtain ⟨once, distinct, -⟩ := key_judged_once Yaml.readText
    (Yaml.TextReader.apart_of_ordered Yaml.readText Yaml.read_text_ordered) settings {} none damagedThenRead ⟨0, 3⟩ (by decide)
  have reported : 1 ≤ (settings.problems {} none damagedThenRead).countP
      (fun problem => problem.kind = .unknownProperty ∧ problem.region = ⟨0, 3⟩) := by
    rw [Dialect.problems, problems_count]
    decide +kernel
  exact ⟨Nat.le_antisymm once reported, distinct⟩

end Validation
end YamlDialects
