import Mathlib.Data.List.NodupEquivFin
import Mathlib.Order.Interval.Finset.Fin
import Mathlib.Order.Lattice.Nat
import YamlDialects.Proofs.Assist.Keys
import YamlDialects.Proofs.Names

/-!
How a query is matched. Each character is taken at its first occurrence behind the one before. That finds the query
whenever it is there with gaps, and it ends no later than any other way to place its characters: the characters passed
over are those of the shortest beginning of the text that holds the query, less the query itself.
-/

set_option autoImplicit false

namespace YamlDialects.Score

-- A place for each character of the pattern, in their order, where the data has the same character.
structure Matching (pattern data : List Char) where
  place : Fin pattern.length ↪o Fin data.length
  same : ∀ index, pattern.get index = data.get (place index)

namespace Matching

variable {pattern data : List Char} (matching : Matching pattern data)

def stop : Nat :=
  Finset.univ.sup fun index => (matching.place index).val + 1

def matched : Finset Nat :=
  Finset.univ.image fun index => (matching.place index).val

def passedOver : Finset Nat :=
  (Finset.range data.length).filter fun spot =>
    (∃ index, spot < (matching.place index).val) ∧ ∀ index, (matching.place index).val ≠ spot

theorem before_stop_iff (spot : Nat) : spot < matching.stop ↔ ∃ index, spot ≤ (matching.place index).val := by
  simp only [stop, Finset.lt_sup_iff, Finset.mem_univ, true_and, Nat.lt_succ_iff]

theorem matched_card : matching.matched.card = pattern.length := by
  rw [matched, Finset.card_image_of_injective _ fun one other same => matching.place.injective (Fin.ext same),
    Finset.card_univ, Fintype.card_fin]

theorem matched_before_stop : matching.matched ⊆ Finset.range matching.stop := by
  intro spot found
  obtain ⟨index, -, rfl⟩ := Finset.mem_image.mp found
  exact Finset.mem_range.mpr ((matching.before_stop_iff _).mpr ⟨index, Nat.le_refl _⟩)

theorem passed_over_eq : matching.passedOver = Finset.range matching.stop \ matching.matched := by
  ext spot
  simp only [passedOver, matched, Finset.mem_filter, Finset.mem_sdiff, Finset.mem_range, Finset.mem_image, Finset.mem_univ,
    true_and, before_stop_iff, not_exists]
  constructor
  · rintro ⟨-, ⟨index, before⟩, free⟩
    exact ⟨⟨index, before.le⟩, free⟩
  · rintro ⟨⟨index, before⟩, free⟩
    have lower := lt_of_le_of_ne before fun same => free index same.symm
    exact ⟨lower.trans (matching.place index).isLt, ⟨index, lower⟩, free⟩

theorem passed_over_card : matching.passedOver.card + pattern.length = matching.stop := by
  have parts := Finset.card_sdiff_add_card_eq_card matching.matched_before_stop
  rwa [matched_card, Finset.card_range, ← passed_over_eq] at parts

theorem sublist_take : pattern.Sublist (data.take matching.stop) := by
  have within (index : Fin pattern.length) : (matching.place index).val < (data.take matching.stop).length := by
    rw [List.length_take]
    exact lt_min ((matching.before_stop_iff _).mpr ⟨index, Nat.le_refl _⟩) (matching.place index).isLt
  refine List.sublist_iff_exists_fin_orderEmbedding_get_eq.mpr
    ⟨OrderEmbedding.ofStrictMono (fun index => ⟨_, within index⟩) fun one other before => ?_, fun index => ?_⟩
  · exact matching.place.strictMono before
  · change pattern.get index = (data.take matching.stop).get ⟨_, within index⟩
    simpa using matching.same index

end Matching

theorem matching_of_take (pattern data : List Char) (size : Nat) (found : pattern.Sublist (data.take size)) :
    ∃ matching : Matching pattern data, matching.stop ≤ size := by
  obtain ⟨place, same⟩ := List.sublist_iff_exists_fin_orderEmbedding_get_eq.mp found
  have shorter : (data.take size).length ≤ data.length := List.length_take_le' size data
  refine ⟨⟨place.trans (Fin.castLEOrderEmb shorter), fun index => ?_⟩, ?_⟩
  · rw [same index, List.get_eq_getElem, List.getElem_take]
    rfl
  · refine Finset.sup_le fun index _ => ?_
    exact Nat.lt_of_lt_of_le (place index).isLt (List.length_take_le size data)

def holding (pattern data : List Char) : Set Nat :=
  {size | pattern.Sublist (data.take size)}

theorem least_nil (data : List Char) : IsLeast (holding [] data) 0 :=
  ⟨List.nil_sublist _, fun _ _ => Nat.zero_le _⟩

theorem least_same (c : Char) (pattern data : List Char) (stop : Nat) (least : IsLeast (holding pattern data) stop) :
    IsLeast (holding (c :: pattern) (c :: data)) (stop + 1) := by
  refine ⟨List.cons_sublist_cons.mpr least.1, fun size holds => ?_⟩
  cases size with
  | zero => cases holds
  | succ size => exact Nat.succ_le_succ (least.2 (List.cons_sublist_cons.mp holds))

theorem least_other (c wanted : Char) (other : c ≠ wanted) (pattern data : List Char) (stop : Nat)
    (least : IsLeast (holding (wanted :: pattern) data) stop) :
    IsLeast (holding (wanted :: pattern) (c :: data)) (stop + 1) := by
  refine ⟨List.Sublist.cons c least.1, fun size holds => ?_⟩
  cases size with
  | zero => cases holds
  | succ size =>
      cases holds with
      | cons _ later => exact Nat.succ_le_succ (least.2 later)
      | cons_cons _ later => exact absurd rfl other

theorem align_least (so_far found : Alignment) (pattern data : List Char) (aligned : align so_far pattern data = some found) :
    ∃ stop, IsLeast (holding pattern data) stop ∧ pattern.length ≤ stop ∧
      found = ⟨so_far.matched + pattern.length, so_far.skipped + (stop - pattern.length)⟩ := by
  induction data generalizing so_far pattern with
  | nil =>
      cases pattern with
      | nil =>
          cases aligned
          exact ⟨0, least_nil [], Nat.le_refl _, rfl⟩
      | cons wanted pattern => cases aligned
  | cons c data ih =>
      cases pattern with
      | nil =>
          cases aligned
          exact ⟨0, least_nil _, Nat.le_refl _, rfl⟩
      | cons wanted pattern =>
          rw [align] at aligned
          split at aligned
          next same =>
            obtain ⟨stop, least, enough, rfl⟩ := ih _ pattern aligned
            refine ⟨stop + 1, same ▸ least_same c pattern data stop least, Nat.succ_le_succ enough, ?_⟩
            simp only [List.length_cons, Nat.add_sub_add_right, Alignment.mk.injEq, and_true]
            omega
          next other =>
            obtain ⟨stop, least, enough, rfl⟩ := ih _ (wanted :: pattern) aligned
            refine ⟨stop + 1, least_other c wanted other pattern data stop least, Nat.le_succ_of_le enough, ?_⟩
            simp only [Alignment.mk.injEq, true_and]
            omega

theorem passed_over_least (pattern data : List Char) (stop : Nat) (least : IsLeast (holding pattern data) stop) :
    (∀ matching : Matching pattern data, stop - pattern.length ≤ matching.passedOver.card) ∧
      ∃ matching : Matching pattern data, matching.passedOver.card = stop - pattern.length := by
  have spans (matching : Matching pattern data) : stop ≤ matching.stop := least.2 matching.sublist_take
  constructor
  · intro matching
    have parts := matching.passed_over_card
    have spans := spans matching
    omega
  · obtain ⟨matching, within⟩ := matching_of_take pattern data stop least.1
    have parts := matching.passed_over_card
    have spans := spans matching
    exact ⟨matching, by omega⟩

theorem lower_all_pos (text : String) (typed : text ≠ "") : 0 < (Text.lowerAll text.toList).length := by
  cases chars : text.toList with
  | nil => exact absurd (String.toList_eq_nil_iff.mp chars) typed
  | cons c rest =>
      rw [Text.lower_all_cons, List.length_append]
      exact Nat.add_pos_left (Text.to_lower_pos c) _

theorem least_le (pattern data : List Char) (stop : Nat) (least : IsLeast (holding pattern data) stop)
    (found : pattern.Sublist data) : stop ≤ data.length :=
  least.2 (by simpa [holding] using found)

theorem match_exact (query text : String) (typed : query ≠ "") :
    let wanted := Text.lowerAll query.toList
    let given := Text.lowerAll text.toList
    (rate? query text = none ↔ ¬wanted.Sublist given) ∧
      (rate? query text = none → score query text = 0) ∧
      (wanted.Sublist given → ∃ stop, IsLeast (holding wanted given) stop ∧ 0 < wanted.length ∧ wanted.length ≤ stop ∧
        stop ≤ given.length ∧ align? query text = some ⟨wanted.length, stop - wanted.length⟩ ∧
        (∀ matching : Matching wanted given, stop - wanted.length ≤ matching.passedOver.card) ∧
        ∃ matching : Matching wanted given, matching.passedOver.card = stop - wanted.length) := by
  intro wanted given
  refine ⟨?_, fun none_ => by rw [score, none_]; rfl, fun found => ?_⟩
  · rw [← rate_some_iff, Bool.not_eq_true, Option.isSome_eq_false_iff, Option.isNone_iff_eq_none]
  · obtain ⟨alignment, aligned⟩ := Option.isSome_iff_exists.mp ((align_sublist ⟨0, 0⟩ wanted given).mpr found)
    obtain ⟨stop, least, enough, rfl⟩ := align_least ⟨0, 0⟩ alignment wanted given aligned
    rw [Nat.zero_add, Nat.zero_add] at aligned
    exact ⟨stop, least, lower_all_pos query typed, enough, least_le wanted given stop least found, aligned,
      passed_over_least wanted given stop least⟩

-- The dotted capital becomes two characters, and the dot is passed over.
theorem match_exact_dotted : "IN" ≠ "" ∧ align? "IN" "M\u0130n" = some ⟨2, 2⟩ ∧
    IsLeast (holding (Text.lowerAll "IN".toList) (Text.lowerAll "M\u0130n".toList)) 4 := by
  have typed : "IN" ≠ "" := by decide
  have matched : align? "IN" "M\u0130n" = some ⟨2, 2⟩ := by decide +kernel
  obtain ⟨stop, least, -, enough, -, aligned, -⟩ := (match_exact "IN" "M\u0130n" typed).2.2 (by decide +kernel)
  have wanted : (Text.lowerAll "IN".toList).length = 2 := by decide +kernel
  rw [wanted] at enough
  rw [matched, wanted, Option.some.injEq, Alignment.mk.injEq] at aligned
  have ends : stop = 4 := by omega
  exact ⟨typed, matched, ends ▸ least⟩

end YamlDialects.Score
