import YamlDialects.Proofs.Outline.WellFormed
import YamlDialects.Proofs.Text.Offset
import YamlDialects.Proofs.Yaml.Suspect
import YamlDialects.Yaml.Recovery
import YamlDialects.Yaml.Tree

/-!
Recovery keeps every offset, and its record of damage is what was blanked: the regions in the record do not
touch, and together they cover exactly the regions that were blanked in any round. The text that is left after some
regions have been blanked depends only on the offsets that they cover, so blanking once more is the same as covering
more offsets.
-/

set_option autoImplicit false

namespace YamlDialects.Yaml

def shownAs (covered : Nat → Bool) (offset : Nat) (c : Char) : List Char :=
  if covered offset && !isBreak c then List.replicate c.utf8Size ' ' else [c]

def hideFrom (covered : Nat → Bool) : Nat → List Char → List Char
  | _, [] => []
  | offset, c :: rest => shownAs covered offset c ++ hideFrom covered (offset + c.utf8Size) rest

theorem shown_length (covered : Nat → Bool) (offset : Nat) (c : Char) :
    Text.byteLength (shownAs covered offset c) = c.utf8Size := by
  unfold shownAs
  by_cases hidden : (covered offset && !isBreak c) = true
  · rw [if_pos hidden, Text.byte_length_spaces]
  · rw [if_neg hidden]
    simp

theorem hide_length (covered : Nat → Bool) (offset : Nat) (chars : List Char) :
    Text.byteLength (hideFrom covered offset chars) = Text.byteLength chars := by
  induction chars generalizing offset with
  | nil => rfl
  | cons c rest ih => rw [hideFrom, Text.byte_length_append, shown_length, ih, Text.byte_length_cons]

theorem hide_append (covered : Nat → Bool) (offset : Nat) (before after : List Char) :
    hideFrom covered offset (before ++ after) =
      hideFrom covered offset before ++ hideFrom covered (offset + Text.byteLength before) after := by
  induction before generalizing offset with
  | nil => rfl
  | cons c rest ih =>
      rw [List.cons_append, hideFrom, ih, hideFrom, Text.byte_length_cons, List.append_assoc, Nat.add_assoc]

theorem hide_nothing (offset : Nat) (chars : List Char) : hideFrom (fun _ => false) offset chars = chars := by
  induction chars generalizing offset with
  | nil => rfl
  | cons c rest ih =>
      rw [hideFrom, ih]
      rfl

theorem hide_boundary (covered : Nat → Bool) (chars : List Char) (offset : Nat)
    (boundary : Text.IsBoundary chars offset) : Text.IsBoundary (hideFrom covered 0 chars) offset := by
  obtain ⟨before, after, rfl, rfl⟩ := (Text.boundary_iff_split chars offset).mp boundary
  refine (Text.boundary_iff_split _ _).mpr ⟨_, _, hide_append covered 0 before after, ?_⟩
  exact hide_length covered 0 before

theorem hide_slice (covered : Nat → Bool) (before after : List Char) (c : Char) :
    Text.slice? (hideFrom covered 0 (before ++ c :: after)) (Text.byteLength before)
        (Text.byteLength before + c.utf8Size) =
      some (shownAs covered (Text.byteLength before) c) := by
  rw [hide_append, Nat.zero_add, hideFrom]
  have sliced := Text.slice_append (hideFrom covered 0 before) (shownAs covered (Text.byteLength before) c)
    (hideFrom covered (Text.byteLength before + c.utf8Size) after)
  rwa [hide_length, shown_length] at sliced

theorem shown_cases (covered : Nat → Bool) (offset : Nat) (first c : Char) (ahead behind : List Char)
    (split : shownAs covered offset first = ahead ++ c :: behind) :
    (covered offset = true ∧ c = ' ') ∨ (ahead = [] ∧ c = first) := by
  unfold shownAs at split
  by_cases hidden : (covered offset && !isBreak first) = true
  · rw [if_pos hidden] at split
    have member : c ∈ List.replicate first.utf8Size ' ' := by simp [split]
    exact .inl ⟨(Bool.and_eq_true_iff.mp hidden).1, (List.mem_replicate.mp member).2⟩
  · rw [if_neg hidden] at split
    cases ahead with
    | nil => exact .inr ⟨rfl, (List.cons.inj split).1.symm⟩
    | cons other more => simp at split

theorem hide_origin (covered : Nat → Bool) (offset : Nat) (chars before : List Char) (c : Char) (after : List Char)
    (split : hideFrom covered offset chars = before ++ c :: after) :
    ∃ earlier first later ahead behind, chars = earlier ++ first :: later ∧
      shownAs covered (offset + Text.byteLength earlier) first = ahead ++ c :: behind ∧
      Text.byteLength before = Text.byteLength earlier + Text.byteLength ahead := by
  induction chars generalizing offset before with
  | nil => simp [hideFrom] at split
  | cons first rest ih =>
      have onward : ∀ further, before = shownAs covered offset first ++ further →
          hideFrom covered (offset + first.utf8Size) rest = further ++ c :: after →
          ∃ earlier own later ahead behind, first :: rest = earlier ++ own :: later ∧
            shownAs covered (offset + Text.byteLength earlier) own = ahead ++ c :: behind ∧
            Text.byteLength before = Text.byteLength earlier + Text.byteLength ahead := by
        rintro further rfl left
        obtain ⟨earlier, own, later, ahead, behind, rfl, shown, length⟩ := ih (offset + first.utf8Size) further left
        refine ⟨first :: earlier, own, later, ahead, behind, rfl, ?_, ?_⟩
        · rwa [Text.byte_length_cons, ← Nat.add_assoc]
        · rw [Text.byte_length_append, shown_length, length, Text.byte_length_cons, Nat.add_assoc]
      rw [hideFrom] at split
      rcases List.append_eq_append_iff.mp split with ⟨further, within_, left⟩ | ⟨behind, ends, left⟩
      · exact onward further within_ left
      · cases behind with
        | nil => exact onward [] (by simpa using ends.symm) (by simpa using left.symm)
        | cons other more =>
            obtain ⟨rfl, -⟩ := List.cons.inj left
            exact ⟨[], first, rest, before, more, rfl, ends, by simp⟩

theorem hide_visible (covered : Nat → Bool) (offset : Nat) (chars before : List Char) (c : Char) (after : List Char)
    (split : hideFrom covered offset chars = before ++ c :: after) (notSpace : c ≠ ' ') :
    ∃ earlier later, chars = earlier ++ c :: later ∧ Text.byteLength earlier = Text.byteLength before := by
  obtain ⟨earlier, first, later, ahead, behind, rfl, shown, length⟩ := hide_origin covered offset chars before c after split
  rcases shown_cases covered _ first c ahead behind shown with ⟨-, space⟩ | ⟨rfl, rfl⟩
  · exact absurd space notSpace
  · exact ⟨earlier, later, rfl, by simpa using length.symm⟩

theorem byte_of_append (before after : List Char) (index : Nat) :
    byteOf (before ++ after) (before.length + index) = Text.byteLength before + byteOf after index := by
  unfold byteOf
  rw [List.take_length_add_append, Text.byte_length_append]

theorem hide_floor (covered : Nat → Bool) (offset : Nat) (chars : List Char) (index : Nat) :
    Text.floorBoundary chars (byteOf (hideFrom covered offset chars) index) = byteOf (hideFrom covered offset chars) index ∨
      ∃ rest, Text.dropBytes? (hideFrom covered offset chars)
        (Text.floorBoundary chars (byteOf (hideFrom covered offset chars) index)) = some (' ' :: rest) := by
  induction chars generalizing offset index with
  | nil => exact .inl (by simp [hideFrom, byteOf, Text.floorBoundary])
  | cons c rest ih =>
      have width := c.utf8Size_pos
      rw [hideFrom]
      generalize hidden : hideFrom covered (offset + c.utf8Size) rest = others
      by_cases behind : (shownAs covered offset c).length ≤ index
      · obtain ⟨more, rfl⟩ := Nat.exists_eq_add_of_le behind
        have onward := ih (offset + c.utf8Size) more
        rw [hidden] at onward
        rw [byte_of_append, shown_length, Text.floor_boundary_cons]
        rcases onward with same | ⟨after, drops⟩
        · exact .inl (congrArg _ same)
        · obtain ⟨before, rfl, length⟩ := (Text.drop_bytes_iff_split _ _ _).mp drops
          refine .inr ⟨after, (Text.drop_bytes_iff_split _ _ _).mpr ⟨shownAs covered offset c ++ before, by simp, ?_⟩⟩
          rw [Text.byte_length_append, shown_length, length]
      · unfold shownAs at behind ⊢
        split at behind
        next blanked =>
          rw [List.length_replicate, Nat.not_le] at behind
          have bytes : byteOf (List.replicate c.utf8Size ' ' ++ others) index = index := by
            rw [byteOf, List.take_append_of_le_length (by simpa using Nat.le_of_lt behind), List.take_replicate,
              Nat.min_eq_left (Nat.le_of_lt behind), Text.byte_length_spaces]
          obtain ⟨count, size⟩ := Nat.exists_eq_succ_of_ne_zero (Nat.ne_of_gt width)
          rw [if_pos blanked, bytes, Text.floorBoundary, if_neg (Nat.not_le.mpr behind), size, List.replicate_succ]
          exact .inr ⟨_, by rw [Text.dropBytes?]; rfl⟩
        next visible =>
          obtain rfl : index = 0 := by simpa using behind
          rw [if_neg visible, Text.floorBoundary]
          exact .inl (if_neg (Nat.not_le.mpr width))

theorem blank_append (region : Region) (offset : Nat) (before after : List Char) :
    blankFrom region offset (before ++ after) =
      blankFrom region offset before ++ blankFrom region (offset + Text.byteLength before) after := by
  induction before generalizing offset with
  | nil => rfl
  | cons c rest ih =>
      rw [List.cons_append, blankFrom, ih, blankFrom, Text.byte_length_cons, List.append_assoc, Nat.add_assoc]

theorem blank_spaces (region : Region) (offset count : Nat) :
    blankFrom region offset (List.replicate count ' ') = List.replicate count ' ' := by
  induction count generalizing offset with
  | zero => rfl
  | succ count ih =>
      have width : Char.utf8Size ' ' = 1 := rfl
      rw [List.replicate_succ, blankFrom, ih, width]
      cases region.contains offset <;> rfl

theorem blank_shown (covered : Nat → Bool) (region : Region) (offset : Nat) (c : Char) :
    blankFrom region offset (shownAs covered offset c) =
      shownAs (fun each => covered each || region.contains each) offset c := by
  unfold shownAs
  cases breaks : isBreak c with
  | true => simp [blankFrom, breaks]
  | false =>
      cases hidden : covered offset with
      | true => simpa [hidden] using blank_spaces region offset c.utf8Size
      | false => simp [blankFrom, breaks, hidden]

theorem blank_hidden (covered : Nat → Bool) (region : Region) (offset : Nat) (chars : List Char) :
    blankFrom region offset (hideFrom covered offset chars) =
      hideFrom (fun each => covered each || region.contains each) offset chars := by
  induction chars generalizing offset with
  | nil => rfl
  | cons c rest ih => rw [hideFrom, blank_append, shown_length, ih, blank_shown, hideFrom]

theorem blank_covered (covered : Nat → Bool) (region : Region) (chars : List Char)
    (inside : ∀ offset, region.contains offset = true → covered offset = true) :
    blank region (hideFrom covered 0 chars) = hideFrom covered 0 chars := by
  have same : (fun each => covered each || region.contains each) = covered := by
    funext each
    cases holds : region.contains each with
    | false => simp
    | true => simp [inside each holds]
  rw [blank, blank_hidden, same]

open Outline

namespace Recovery

def chosen (read : TextReader) (outline : Outline) (working : List Char) : Option Isolated :=
  match read working with
  | .ok _ => none
  | .error failure => isolate read outline working failure

def after (read : TextReader) (outline : Outline) (chars : List Char) (count : Nat) : Recovery :=
  rounds read outline chars count ⟨chars, [], [], none⟩

def blankedIn (read : TextReader) (outline : Outline) (chars : List Char) (count : Nat) : List Region :=
  (List.range count).filterMap fun round =>
    (chosen read outline (after read outline chars round).working).map Isolated.region

end Recovery

theorem choose_mem (read : TextReader) (failure : Failure) (progress : Option Isolated) (candidates : List Isolated)
    (found : Isolated) (result : choose read failure progress candidates = some found) :
    progress = some found ∨ found ∈ candidates := by
  induction candidates generalizing progress with
  | nil => exact .inl result
  | cons candidate rest ih =>
      rw [choose] at result
      cases outcome : read candidate.text with
      | ok events =>
          rw [outcome] at result
          exact .inr (by simp [Option.some.inj result])
      | error next =>
          rw [outcome] at result
          dsimp only at result
          split at result
          · rcases ih _ result with earlier | later
            · cases progress with
              | none => exact .inr (by simp [Option.some.inj earlier])
              | some first => exact .inl earlier
            · exact .inr (by simp [later])
          · rcases ih _ result with earlier | later
            · exact .inl earlier
            · exact .inr (by simp [later])

-- Whatever the reader says, a block that is blanked out is a suspect, and blanking it changes the text.
structure Isolates (outline : Outline) (working : List Char) (isolated : Isolated) : Prop where
  suspect : Suspect outline isolated.block
  region : isolated.region = blankRegion isolated.block
  nonEmpty : isolated.region.isEmpty = false
  text : isolated.text = blank isolated.region working
  changes : isolated.text ≠ working

theorem chosen_isolates (read : TextReader) (outline : Outline) (working : List Char) (isolated : Isolated)
    (result : Recovery.chosen read outline working = some isolated) : Isolates outline working isolated := by
  unfold Recovery.chosen at result
  cases outcome : read working with
  | ok events => simp [outcome] at result
  | error failure =>
      rw [outcome] at result
      rcases choose_mem read failure none _ isolated result with missing | member
      · simp at missing
      · obtain ⟨block, listed, made⟩ := List.mem_filterMap.mp member
        simp only [isolated?] at made
        split at made
        · simp at made
        · next usable =>
            simp only [Bool.or_eq_true, decide_eq_true_eq, not_or, Bool.not_eq_true] at usable
            rw [← Option.some.inj made]
            exact ⟨suspects_spec outline working failure block listed, rfl, usable.1, rfl, usable.2⟩

namespace Recovery

def advance (recovery : Recovery) (isolated : Option Isolated) : Recovery :=
  isolated.elim recovery recovery.blankOut

theorem rounds_succ (read : TextReader) (outline : Outline) (chars : List Char) (count : Nat) (recovery reached : Recovery)
    (reaches : rounds read outline chars count recovery = reached) :
    (rounds read outline chars (count + 1) recovery).working =
        (reached.advance (chosen read outline reached.working)).working ∧
      (rounds read outline chars (count + 1) recovery).damage =
        (reached.advance (chosen read outline reached.working)).damage := by
  subst reaches
  induction count generalizing recovery with
  | zero =>
      cases outcome : read recovery.working with
      | ok events => simp [chosen, rounds, outcome, advance]
      | error failure =>
          cases result : isolate read outline recovery.working failure with
          | none => simp [chosen, rounds, outcome, result, fail, advance]
          | some isolated => simp [chosen, rounds, outcome, result, fail, blankOut, advance]
  | succ count ih =>
      cases outcome : read recovery.working with
      | ok events => simp [chosen, rounds, outcome, advance]
      | error failure =>
          cases result : isolate read outline recovery.working failure with
          | none => simp [chosen, rounds, outcome, result, fail, advance]
          | some isolated =>
              have next : ∀ more, rounds read outline chars (more + 1) recovery =
                  rounds read outline chars more ((recovery.fail chars failure).blankOut isolated) := by
                intro more
                simp [rounds, outcome, result]
              rw [next (count + 1), next count]
              exact ih _

theorem rounds_read (read : TextReader) (outline : Outline) (chars : List Char) (fuel : Nat) (recovery : Recovery)
    (unread : recovery.events = none) (events : List LocatedEvent)
    (found : (rounds read outline chars fuel recovery).events = some events) :
    read (rounds read outline chars fuel recovery).working = .ok events := by
  induction fuel generalizing recovery with
  | zero =>
      rw [rounds, unread] at found
      cases found
  | succ fuel ih =>
      rw [rounds] at found ⊢
      cases outcome : read recovery.working with
      | ok result =>
          simp only [outcome] at found ⊢
          rw [← Option.some.inj found]
      | error failure =>
          simp only [outcome] at found ⊢
          cases result : isolate read outline recovery.working failure with
          | none =>
              simp only [result, fail, unread] at found
              cases found
          | some isolated =>
              simp only [result] at found ⊢
              exact ih _ unread found

theorem fail_errors (recovery : Recovery) (chars : List Char) (failure : Failure) : (recovery.fail chars failure).errors ≠ [] := by
  simp [fail]

theorem rounds_errors (read : TextReader) (outline : Outline) (chars : List Char) (fuel : Nat) (recovery : Recovery)
    (faulty : recovery.errors ≠ []) : (rounds read outline chars fuel recovery).errors ≠ [] := by
  induction fuel generalizing recovery with
  | zero => exact faulty
  | succ fuel ih =>
      rw [rounds]
      cases outcome : read recovery.working with
      | ok events => exact faulty
      | error failure =>
          have failed := fail_errors recovery chars failure
          simp only
          cases result : isolate read outline recovery.working failure with
          | none => exact failed
          | some isolated => exact ih _ failed

theorem run_faultless (read : TextReader) (outline : Outline) (chars : List Char)
    (faultless : (run read outline chars).errors = []) :
    ∃ events, read chars = .ok events ∧ run read outline chars = ⟨chars, [], [], some events⟩ := by
  rw [run, rounds] at faultless ⊢
  cases outcome : read chars with
  | ok events => exact ⟨events, rfl, rfl⟩
  | error failure =>
      have failed := fail_errors ⟨chars, [], [], none⟩ chars failure
      simp only [outcome] at faultless
      cases result : isolate read outline chars failure with
      | none =>
          rw [result] at faultless
          exact absurd faultless failed
      | some isolated =>
          rw [result] at faultless
          exact absurd faultless (rounds_errors read outline chars _ _ failed)

-- What holds between two rounds. The record may drop what a wider region covers, but nothing else.
structure Recorded (outline : Outline) (chars : List Char) (recovery : Recovery) (regions : List Region) : Prop where
  text : recovery.working = hideFrom (fun offset => regions.any (·.contains offset)) 0 chars
  boundaries : ∀ region ∈ regions, Text.IsBoundary chars region.start ∧ Text.IsBoundary chars region.stop
  sources : ∀ damage ∈ recovery.damage, ∃ block, Suspect outline block ∧ damage.region = blankRegion block
  nonEmpty : ∀ damage ∈ recovery.damage, damage.region.start < damage.region.stop
  apart : recovery.damage.Pairwise fun first second => first.region.overlaps second.region = false
  union : ∀ offset, recovery.damage.any (·.region.contains offset) = regions.any (·.contains offset)

theorem old_not_encloses (outline : Outline) (chars : List Char) (recovery : Recovery) (regions : List Region)
    (isolated : Isolated) (recorded : Recorded outline chars recovery regions)
    (isolates : Isolates outline recovery.working isolated) (old : Damage) (member : old ∈ recovery.damage) :
    old.region.encloses isolated.region = false := by
  apply Bool.eq_false_iff.mpr
  intro encloses
  obtain ⟨starts, ends⟩ := (Region.encloses_iff _ _).mp encloses
  apply isolates.changes
  rw [isolates.text, recorded.text]
  apply blank_covered
  intro offset inside
  obtain ⟨above, below⟩ := (Region.contains_iff _ _).mp inside
  rw [← recorded.union offset, List.any_eq_true]
  exact ⟨old, member, (Region.contains_iff _ _).mpr ⟨by omega, by omega⟩⟩

theorem blank_out_apart (outline : Outline) (chars : List Char) (recovery : Recovery) (regions : List Region)
    (isolated : Isolated) (sound : Sound chars outline.table) (recorded : Recorded outline chars recovery regions)
    (isolates : Isolates outline recovery.working isolated) :
    (recovery.blankOut isolated).damage.Pairwise fun first second => first.region.overlaps second.region = false := by
  refine List.pairwise_append.mpr ⟨recorded.apart.filter _, List.pairwise_singleton _ _, ?_⟩
  intro old kept fresh last
  obtain rfl := List.mem_singleton.mp last
  obtain ⟨member, outside⟩ := List.mem_filter.mp kept
  obtain ⟨block, suspect, source⟩ := recorded.sources old member
  have notInside := old_not_encloses outline chars recovery regions isolated recorded isolates old member
  rw [isolates.region, source] at notInside outside
  rcases blank_regions_laminar chars outline block isolated.block sound suspect isolates.suspect with
    inside | around | apart
  · rw [inside] at notInside
    simp at notInside
  · rw [around] at outside
    simp at outside
  · rw [source, show (Damage.ofBlock isolated.block isolated.region).region = _ from isolates.region]
    exact apart

theorem blank_out_union (recovery : Recovery) (isolated : Isolated) (offset : Nat) :
    (recovery.blankOut isolated).damage.any (·.region.contains offset) =
      (recovery.damage.any (·.region.contains offset) || isolated.region.contains offset) := by
  rw [Bool.eq_iff_iff]
  simp only [blankOut, List.any_append, List.any_filter, List.any_cons, List.any_nil, Bool.or_false, Bool.or_eq_true]
  constructor
  · rintro (old | fresh)
    · obtain ⟨damage, member, holds⟩ := List.any_eq_true.mp old
      simp only [Bool.and_eq_true] at holds
      exact .inl (List.any_eq_true.mpr ⟨damage, member, holds.2⟩)
    · exact .inr fresh
  · rintro (old | fresh)
    · obtain ⟨damage, member, holds⟩ := List.any_eq_true.mp old
      cases encloses : isolated.region.encloses damage.region with
      | false => exact .inl (List.any_eq_true.mpr ⟨damage, member, by simp [encloses, holds]⟩)
      | true =>
          -- What is dropped from the record lies in the new region.
          obtain ⟨starts, ends⟩ := (Region.encloses_iff _ _).mp encloses
          obtain ⟨above, below⟩ := (Region.contains_iff _ _).mp holds
          exact .inr ((Region.contains_iff _ _).mpr ⟨Nat.le_trans starts above, Nat.lt_of_lt_of_le below ends⟩)
    · exact .inr fresh

theorem blank_out_recorded (outline : Outline) (chars : List Char) (recovery : Recovery) (regions : List Region)
    (isolated : Isolated) (sound : Sound chars outline.table) (recorded : Recorded outline chars recovery regions)
    (isolates : Isolates outline recovery.working isolated) :
    Recorded outline chars (recovery.blankOut isolated) (regions ++ [isolated.region]) := by
  have belongs := isolates.suspect.belongs
  obtain ⟨_, _, _, order, _, startBoundary, stopBoundary⟩ :=
    blank_region_spec chars isolated.block (belongs ▸ sound) (belongs ▸ isolates.suspect)
  rw [← isolates.region] at order startBoundary stopBoundary
  have damageCases : ∀ damage ∈ (recovery.blankOut isolated).damage,
      damage ∈ recovery.damage ∨ damage.region = isolated.region := by
    intro damage member
    rcases List.mem_append.mp member with old | fresh
    · exact .inl (List.mem_filter.mp old).1
    · rw [List.mem_singleton.mp fresh]
      exact .inr rfl
  refine ⟨?_, ?_, ?_, ?_, blank_out_apart outline chars recovery regions isolated sound recorded isolates, ?_⟩
  · have text : (recovery.blankOut isolated).working = blank isolated.region recovery.working := isolates.text
    rw [text, recorded.text, blank, blank_hidden]
    simp
  · intro region member
    rcases List.mem_append.mp member with old | fresh
    · exact recorded.boundaries region old
    · rw [List.mem_singleton.mp fresh]
      exact ⟨startBoundary, stopBoundary⟩
  · intro damage member
    rcases damageCases damage member with old | fresh
    · exact recorded.sources damage old
    · exact ⟨isolated.block, isolates.suspect, fresh.trans isolates.region⟩
  · intro damage member
    rcases damageCases damage member with old | fresh
    · exact recorded.nonEmpty damage old
    · have different : isolated.region.start ≠ isolated.region.stop := by simpa [Region.isEmpty] using isolates.nonEmpty
      rw [fresh]
      omega
  · intro offset
    rw [blank_out_union, recorded.union]
    simp

theorem recorded_of_eq (outline : Outline) (chars : List Char) (first second : Recovery) (regions : List Region)
    (working : second.working = first.working) (damage : second.damage = first.damage)
    (recorded : Recorded outline chars first regions) : Recorded outline chars second regions := by
  obtain ⟨text, boundaries, sources, nonEmpty, apart, union⟩ := recorded
  rw [← working] at text
  rw [← damage] at sources nonEmpty apart
  simp only [← damage] at union
  exact ⟨text, boundaries, sources, nonEmpty, apart, union⟩

theorem blanked_in_succ (read : TextReader) (outline : Outline) (chars : List Char) (count : Nat) :
    blankedIn read outline chars (count + 1) = blankedIn read outline chars count ++
      ((chosen read outline (after read outline chars count).working).map Isolated.region).toList := by
  rw [blankedIn, List.range_succ, List.filterMap_append]
  cases result : chosen read outline (after read outline chars count).working with
  | none => simp [blankedIn, result]
  | some isolated => simp [blankedIn, result]

theorem after_recorded (read : TextReader) (outline : Outline) (chars : List Char) (count : Nat)
    (sound : Sound chars outline.table) :
    Recorded outline chars (after read outline chars count) (blankedIn read outline chars count) := by
  induction count with
  | zero =>
      refine ⟨(hide_nothing 0 chars).symm, ?_, ?_, ?_, List.Pairwise.nil, fun _ => rfl⟩
      · intro region member
        simp [blankedIn] at member
      · intro damage member
        simp [after, rounds] at member
      · intro damage member
        simp [after, rounds] at member
  | succ count ih =>
      obtain ⟨working, damage⟩ := rounds_succ read outline chars count ⟨chars, [], [], none⟩ _ rfl
      refine recorded_of_eq outline chars _ _ _ working damage ?_
      rw [blanked_in_succ]
      change Recorded outline chars ((after read outline chars count).advance
        (chosen read outline (after read outline chars count).working)) _
      cases result : chosen read outline (after read outline chars count).working with
      | none => simpa [advance] using ih
      | some isolated =>
          exact blank_out_recorded outline chars _ _ isolated sound ih (chosen_isolates read outline _ isolated result)

end Recovery

structure BlankedText (chars working : List Char) (regions : List Region) : Prop where
  length : Text.byteLength working = Text.byteLength chars
  boundaries : ∀ offset, Text.IsBoundary chars offset → Text.IsBoundary working offset
  wholeChars : ∀ region ∈ regions, Text.IsBoundary chars region.start ∧ Text.IsBoundary chars region.stop
  kept : ∀ before c after, chars = before ++ c :: after →
    regions.any (·.contains (Text.byteLength before)) = false ∨ isBreak c = true →
      Text.slice? working (Text.byteLength before) (Text.byteLength before + c.utf8Size) = some [c]
  blanked : ∀ before c after, chars = before ++ c :: after →
    regions.any (·.contains (Text.byteLength before)) = true → isBreak c = false →
      Text.slice? working (Text.byteLength before) (Text.byteLength before + c.utf8Size) =
        some (List.replicate c.utf8Size ' ')

structure RecordOf (regions record : List Region) : Prop where
  sorted : record.Pairwise fun first second => first.before second = true
  nonEmpty : ∀ region ∈ record, region.start < region.stop
  apart : record.Pairwise fun first second => first.overlaps second = false
  union : ∀ offset, record.any (·.contains offset) = regions.any (·.contains offset)

theorem hidden_blanked_text (chars : List Char) (regions : List Region)
    (wholeChars : ∀ region ∈ regions, Text.IsBoundary chars region.start ∧ Text.IsBoundary chars region.stop) :
    BlankedText chars (hideFrom (fun offset => regions.any (·.contains offset)) 0 chars) regions := by
  refine ⟨hide_length _ 0 chars, hide_boundary _ chars, wholeChars, ?_, ?_⟩
  · intro before c after split kept
    rw [split, hide_slice, shownAs, if_neg]
    rcases kept with outside | breaks
    · simp [outside]
    · simp [breaks]
  · intro before c after split inside printed
    rw [split, hide_slice, shownAs, if_pos]
    simp [inside, printed]

theorem damage_sorted (damage : List Damage) : (damage.mergeSort fun first second =>
    !second.region.before first.region).Pairwise fun first second => second.region.before first.region = false := by
  have trans : ∀ first second third : Damage, (!second.region.before first.region) = true →
      (!third.region.before second.region) = true → (!third.region.before first.region) = true := by
    intro first second third
    simp only [Bool.not_eq_true', Bool.eq_false_iff, ne_eq, Region.before_iff]
    omega
  have total : ∀ first second : Damage,
      (!second.region.before first.region || !first.region.before second.region) = true := by
    intro first second
    simp only [Bool.or_eq_true, Bool.not_eq_true', Bool.eq_false_iff, ne_eq, Region.before_iff]
    omega
  simpa using List.pairwise_mergeSort trans total damage

theorem record_of_recorded (outline : Outline) (chars : List Char) (recovery : Recovery) (regions : List Region)
    (recorded : Recovery.Recorded outline chars recovery regions) :
    RecordOf regions ((recovery.damage.mergeSort fun first second => !second.region.before first.region).map
      Damage.region) := by
  have perm := List.mergeSort_perm recovery.damage fun first second => !second.region.before first.region
  have sorted := damage_sorted recovery.damage
  have nonEmpty : ∀ damage ∈ recovery.damage.mergeSort fun first second => !second.region.before first.region,
      damage.region.start < damage.region.stop :=
    fun damage member => recorded.nonEmpty damage (perm.mem_iff.mp member)
  have apart := perm.symm.pairwise recorded.apart fun holds => Region.apart_symm _ _ holds
  refine ⟨List.pairwise_map.mpr ?_, ?_, List.pairwise_map.mpr apart, ?_⟩
  · refine (sorted.and apart).imp_of_mem ?_
    rintro first second firstMember secondMember ⟨order, separate⟩
    have firstSpan := nonEmpty first firstMember
    have secondSpan := nonEmpty second secondMember
    rw [Bool.eq_false_iff, ne_eq, Region.before_iff] at order
    rw [Region.apart_iff] at separate
    rw [Region.before_iff]
    omega
  · intro region member
    obtain ⟨damage, listed, rfl⟩ := List.mem_map.mp member
    exact nonEmpty damage listed
  · intro offset
    rw [List.any_map, ← recorded.union offset]
    exact perm.any_eq

theorem recovery_isolates (read : TextReader) (text : String) (relaxed : Bool) :
    (∀ count, BlankedText text.toList
      (Recovery.after read (Outline.ofText text relaxed) text.toList count).working
      (Recovery.blankedIn read (Outline.ofText text relaxed) text.toList count)) ∧
    RecordOf (Recovery.blankedIn read (Outline.ofText text relaxed) text.toList ((Outline.ofText text relaxed).size + 2))
      ((Tree.parseWith read text (Outline.ofText text relaxed)).damage.map Damage.region) := by
  have recorded := fun count =>
    Recovery.after_recorded read (Outline.ofText text relaxed) text.toList count (of_text_sound text relaxed)
  constructor
  · intro count
    rw [(recorded count).text]
    exact hidden_blanked_text text.toList _ (recorded count).boundaries
  · exact record_of_recorded _ text.toList _ _ (recorded ((Outline.ofText text relaxed).size + 2))

end YamlDialects.Yaml
