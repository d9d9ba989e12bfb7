import Mathlib.Data.Finset.Card
import Mathlib.Data.Nat.Find
import YamlDialects.Proofs.Yaml.Recovery

/-!
Recovery ends before its rounds run out. A block that has been blanked is not chosen again, whatever the
reader says of the text that is left, so there are no more rounds than blocks that can be blanked, and one
more to find that the text can be read or that nothing helps.
-/

set_option autoImplicit false

namespace YamlDialects.Yaml

open Outline

namespace Recovery

def choice (read : TextReader) (outline : Outline) (chars : List Char) (round : Nat) : Option Isolated :=
  chosen read outline (after read outline chars round).working

-- The two ways to leave the loop.
inductive Leaves (read : TextReader) (outline : Outline) (chars : List Char) (recovery : Recovery) : Recovery → Prop
  | readable (events : List LocatedEvent) (reads : read recovery.working = .ok events) :
      Leaves read outline chars recovery { recovery with events := some events }
  | stuck (failure : Failure) (fails : read recovery.working = .error failure)
      (helpless : isolate read outline recovery.working failure = none) :
      Leaves read outline chars recovery (recovery.fail chars failure)

theorem chosen_cases (read : TextReader) (outline : Outline) (working : List Char) (isolated : Isolated)
    (result : chosen read outline working = some isolated) :
    ∃ failure, read working = .error failure ∧ isolate read outline working failure = some isolated := by
  unfold chosen at result
  cases outcome : read working with
  | ok events => simp [outcome] at result
  | error failure => exact ⟨failure, rfl, by simpa [outcome] using result⟩

theorem rounds_blanked (read : TextReader) (outline : Outline) (chars : List Char) (recovery : Recovery)
    (blanks : (chosen read outline recovery.working).isSome) :
    ∃ failure isolated, ∀ more, rounds read outline chars (more + 1) recovery =
      rounds read outline chars more ((recovery.fail chars failure).blankOut isolated) := by
  obtain ⟨isolated, result⟩ := Option.isSome_iff_exists.mp blanks
  obtain ⟨failure, fails, helps⟩ := chosen_cases read outline recovery.working isolated result
  refine ⟨failure, isolated, fun more => ?_⟩
  simp [rounds, fails, helps]

theorem rounds_left (read : TextReader) (outline : Outline) (chars : List Char) (recovery : Recovery) (more : Nat)
    (ends : chosen read outline recovery.working = none) :
    Leaves read outline chars recovery (rounds read outline chars (more + 1) recovery) := by
  unfold chosen at ends
  cases outcome : read recovery.working with
  | ok events =>
      simp only [rounds, outcome]
      exact .readable events outcome
  | error failure =>
      rw [outcome] at ends
      simp only [rounds, outcome, ends]
      exact .stuck failure outcome ends

theorem leaves_spec (read : TextReader) (outline : Outline) (chars : List Char) (recovery final : Recovery)
    (opened : recovery.events = none) (leaves : Leaves read outline chars recovery final) :
    final.errors.length ≤ recovery.errors.length + 1 ∧
      ((∃ events, read final.working = .ok events ∧ final.events = some events) ∨
        (∃ failure, read final.working = .error failure ∧ isolate read outline final.working failure = none ∧
          final.events = none)) := by
  cases leaves with
  | readable events reads => exact ⟨Nat.le_succ _, .inl ⟨events, reads, rfl⟩⟩
  | stuck failure fails helpless => exact ⟨by simp [fail], .inr ⟨failure, fails, helpless, opened⟩⟩

theorem rounds_add (read : TextReader) (outline : Outline) (chars : List Char) (first second : Nat) (recovery : Recovery)
    (blanks : ∀ round < first, (chosen read outline (rounds read outline chars round recovery).working).isSome) :
    rounds read outline chars (first + second) recovery =
      rounds read outline chars second (rounds read outline chars first recovery) := by
  induction first generalizing recovery with
  | zero => rw [Nat.zero_add, rounds]
  | succ first ih =>
      obtain ⟨failure, isolated, next⟩ :=
        rounds_blanked read outline chars recovery (by simpa [rounds] using blanks 0 (Nat.succ_pos first))
      rw [Nat.add_right_comm, next, next first]
      refine ih _ fun round before => ?_
      rw [← next round]
      exact blanks (round + 1) (Nat.succ_lt_succ before)

theorem rounds_open (read : TextReader) (outline : Outline) (chars : List Char) (count : Nat) (recovery : Recovery)
    (blanks : ∀ round < count, (chosen read outline (rounds read outline chars round recovery).working).isSome) :
    (rounds read outline chars count recovery).errors.length = recovery.errors.length + count ∧
      (rounds read outline chars count recovery).events = recovery.events := by
  induction count generalizing recovery with
  | zero => exact ⟨rfl, rfl⟩
  | succ count ih =>
      obtain ⟨failure, isolated, next⟩ :=
        rounds_blanked read outline chars recovery (by simpa [rounds] using blanks 0 (Nat.succ_pos count))
      obtain ⟨errors, events⟩ := ih ((recovery.fail chars failure).blankOut isolated) fun round before => by
        rw [← next round]
        exact blanks (round + 1) (Nat.succ_lt_succ before)
      rw [next count, errors, events]
      constructor
      · simp [blankOut, fail]
        omega
      · simp [blankOut, fail]

theorem choice_blanked (read : TextReader) (outline : Outline) (chars : List Char) (first count : Nat) (isolated : Isolated)
    (before : first < count) (result : choice read outline chars first = some isolated) :
    isolated.region ∈ blankedIn read outline chars count := by
  refine List.mem_filterMap.mpr ⟨first, List.mem_range.mpr before, ?_⟩
  rw [choice] at result
  rw [result]
  rfl

-- What has been blanked stays blank, so blanking it again would not change the text.
theorem choice_fresh (read : TextReader) (outline : Outline) (chars : List Char) (first second : Nat)
    (earlier later : Isolated) (sound : Sound chars outline.table) (order : first < second)
    (firstChoice : choice read outline chars first = some earlier)
    (secondChoice : choice read outline chars second = some later) : earlier.block.id ≠ later.block.id := by
  intro same
  have earlierIsolates := chosen_isolates read outline _ earlier firstChoice
  have laterIsolates := chosen_isolates read outline _ later secondChoice
  have blocks : earlier.block = later.block := by
    have outlines := earlierIsolates.suspect.belongs.trans laterIsolates.suspect.belongs.symm
    cases earlierBlock : earlier.block
    cases laterBlock : later.block
    simp_all
  have regions : earlier.region = later.region := by
    rw [earlierIsolates.region, laterIsolates.region, blocks]
  apply laterIsolates.changes
  rw [laterIsolates.text, (after_recorded read outline chars second sound).text, ← regions]
  apply blank_covered
  intro offset inside
  exact List.any_eq_true.mpr
    ⟨earlier.region, choice_blanked read outline chars first second earlier order firstChoice, inside⟩

theorem choice_distinct (read : TextReader) (outline : Outline) (chars : List Char) (first second : Nat)
    (one other : Isolated) (sound : Sound chars outline.table) (different : first ≠ second)
    (firstChoice : choice read outline chars first = some one)
    (secondChoice : choice read outline chars second = some other) : one.block.id ≠ other.block.id := by
  rcases Nat.lt_or_gt_of_ne different with order | order
  · exact choice_fresh read outline chars first second one other sound order firstChoice secondChoice
  · exact (choice_fresh read outline chars second first other one sound order secondChoice firstChoice).symm

end Recovery

def blankable (outline : Outline) : List Block :=
  outline.blocks.filter fun block => block.kind.isStep || block.kind == .document

theorem suspect_blankable (chars : List Char) (outline : Outline) (block : Block) (sound : Sound chars outline.table)
    (suspect : Suspect outline block) : block ∈ blankable outline := by
  have belongs := suspect.belongs
  obtain ⟨_, bound, _⟩ := blank_region_spec chars block (belongs ▸ sound) (belongs ▸ suspect)
  refine List.mem_filter.mpr ⟨(mem_blocks outline block).mpr ⟨belongs, by rw [← belongs]; exact bound⟩, ?_⟩
  rcases suspect.kind with isStep | isDocument
  · simp [isStep]
  · simp [isDocument]

theorem blankable_le_size (outline : Outline) : (blankable outline).length ≤ outline.size := by
  have bound := List.length_filter_le (fun block : Block => block.kind.isStep || block.kind == .document) outline.blocks
  simpa [blankable, blocks] using bound

namespace Recovery

theorem blanking_rounds_le (read : TextReader) (outline : Outline) (chars : List Char) (count : Nat)
    (sound : Sound chars outline.table) (blanks : ∀ round < count, (choice read outline chars round).isSome) :
    count ≤ (blankable outline).length := by
  let blanked : Nat → Nat := fun round => ((choice read outline chars round).map (·.block.id)).getD 0
  have maps : ∀ round ∈ Finset.range count, blanked round ∈ ((blankable outline).map Block.id).toFinset := by
    intro round inside
    obtain ⟨isolated, result⟩ := Option.isSome_iff_exists.mp (blanks round (Finset.mem_range.mp inside))
    have suspect := (chosen_isolates read outline _ isolated result).suspect
    simp only [blanked, result, Option.map_some, Option.getD_some, List.mem_toFinset]
    exact List.mem_map.mpr ⟨isolated.block, suspect_blankable chars outline isolated.block sound suspect, rfl⟩
  have injective : Set.InjOn blanked (Finset.range count) := by
    intro first firstInside second secondInside same
    obtain ⟨one, firstChoice⟩ := Option.isSome_iff_exists.mp (blanks first (Finset.mem_range.mp firstInside))
    obtain ⟨other, secondChoice⟩ := Option.isSome_iff_exists.mp (blanks second (Finset.mem_range.mp secondInside))
    by_contra different
    refine choice_distinct read outline chars first second one other sound different firstChoice secondChoice ?_
    simpa [blanked, firstChoice, secondChoice] using same
  calc count = (Finset.range count).card := (Finset.card_range count).symm
    _ ≤ ((blankable outline).map Block.id).toFinset.card := Finset.card_le_card_of_injOn blanked maps injective
    _ ≤ ((blankable outline).map Block.id).length := List.toFinset_card_le _
    _ = (blankable outline).length := List.length_map _

theorem last_round (read : TextReader) (outline : Outline) (chars : List Char) (sound : Sound chars outline.table) :
    ∃ last ≤ (blankable outline).length, (∀ round < last, (choice read outline chars round).isSome) ∧
      choice read outline chars last = none := by
  have some : ∃ round, choice read outline chars round = none := by
    by_contra never
    simp only [not_exists, ← Option.isSome_iff_ne_none] at never
    have bound := blanking_rounds_le read outline chars ((blankable outline).length + 1) sound fun round _ => never round
    omega
  refine ⟨Nat.find some, ?_, ?_, Nat.find_spec some⟩
  · exact blanking_rounds_le read outline chars _ sound fun round before =>
      Option.isSome_iff_ne_none.mpr (Nat.find_min some before)
  · exact fun round before => Option.isSome_iff_ne_none.mpr (Nat.find_min some before)

end Recovery

theorem recovery_never_runs_out (read : TextReader) (text : String) (relaxed : Bool) :
    let outline := Outline.ofText text relaxed
    let chars := text.toList
    let final := Recovery.run read outline chars
    let tree := Tree.parseWith read text outline
    (∃ last < outline.size + 2, (∀ round < last, (Recovery.choice read outline chars round).isSome) ∧
      Recovery.Leaves read outline chars (Recovery.after read outline chars last) final) ∧
    ((∃ events, read final.working = .ok events ∧ tree.documents = composeDocuments ⟨final.working, chars⟩ events) ∨
      (∃ failure, read final.working = .error failure ∧ isolate read outline final.working failure = none ∧
        tree.documents = [])) ∧
    (∀ first second one other, first ≠ second → Recovery.choice read outline chars first = some one →
      Recovery.choice read outline chars second = some other → one.block.id ≠ other.block.id) ∧
    tree.errors.length ≤ (blankable outline).length + 1 := by
  intro outline chars final tree
  have sound : Sound chars outline.table := of_text_sound text relaxed
  obtain ⟨last, bound, blanks, ends⟩ := Recovery.last_round read outline chars sound
  have enough := blankable_le_size outline
  have leaves : Recovery.Leaves read outline chars (Recovery.after read outline chars last) final := by
    obtain ⟨more, rest⟩ : ∃ more, outline.size + 2 = last + (more + 1) := ⟨outline.size + 1 - last, by omega⟩
    have split : final = Recovery.rounds read outline chars (more + 1) (Recovery.after read outline chars last) := by
      rw [show final = Recovery.rounds read outline chars (outline.size + 2) ⟨chars, [], [], none⟩ from rfl, rest]
      exact Recovery.rounds_add read outline chars last (more + 1) _ blanks
    rw [split]
    exact Recovery.rounds_left read outline chars _ more ends
  obtain ⟨errors, events⟩ := Recovery.rounds_open read outline chars last ⟨chars, [], [], none⟩ blanks
  obtain ⟨counted, exits⟩ := Recovery.leaves_spec read outline chars _ final events leaves
  refine ⟨⟨last, by omega, blanks, leaves⟩, ?_, ?_, ?_⟩
  · have documents : tree.documents = (final.events.map (composeDocuments ⟨final.working, chars⟩)).getD [] := rfl
    rw [documents]
    rcases exits with ⟨events, reads, found⟩ | ⟨failure, fails, helpless, missing⟩
    · exact .inl ⟨events, reads, by rw [found]; rfl⟩
    · exact .inr ⟨failure, fails, helpless, by rw [missing]; rfl⟩
  · exact fun first second one other different firstChoice secondChoice =>
      Recovery.choice_distinct read outline chars first second one other sound different firstChoice secondChoice
  · calc tree.errors.length ≤ (Recovery.after read outline chars last).errors.length + 1 := counted
      _ = last + 1 := by rw [Recovery.after, errors, List.length_nil, Nat.zero_add]
      _ ≤ (blankable outline).length + 1 := Nat.succ_le_succ bound

end YamlDialects.Yaml
