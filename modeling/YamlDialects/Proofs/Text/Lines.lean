import Mathlib.Algebra.Group.Nat.Defs
import YamlDialects.Proofs.Text.Offset
import YamlDialects.Text.Lines

/-!
Positions and byte offsets. The line of an offset is the number of line feeds before it, and its column is what stands
between the last of them and the offset. An offset can be read back from its position, later offsets have later
positions, and any position stands for an offset on its line.
-/

set_option autoImplicit false

namespace YamlDialects

namespace Text

theorem units16_pos (c : Char) : 0 < units16 c := by
  unfold units16
  split <;> decide

theorem units16_le_size (c : Char) : units16 c ≤ c.utf8Size := by
  by_cases narrow : c.toNat < 0x10000
  · rw [units16, if_pos narrow]
    exact c.utf8Size_pos
  · have notOne : ¬ c.val ≤ 0x7f := fun le => narrow (Nat.lt_of_le_of_lt (UInt32.le_iff_toNat_le.mp le) (by decide))
    have notTwo : ¬ c.val ≤ 0x7ff := fun le => narrow (Nat.lt_of_le_of_lt (UInt32.le_iff_toNat_le.mp le) (by decide))
    have notThree : ¬ c.val ≤ 0xffff := fun le => narrow (Nat.lt_of_le_of_lt (UInt32.le_iff_toNat_le.mp le) (by decide))
    have size : c.utf8Size = 4 := (if_neg notOne).trans ((if_neg notTwo).trans (if_neg notThree))
    rw [units16, if_neg narrow, size]
    decide

@[simp]
theorem units16_all_append (first second : List Char) : units16All (first ++ second) = units16All first + units16All second := by
  induction first with
  | nil => simp [units16All]
  | cons c rest ih => simp [units16All, ih, Nat.add_assoc]

theorem units16_all_le_length (chars : List Char) : units16All chars ≤ byteLength chars := by
  induction chars with
  | nil => exact Nat.le_refl _
  | cons c rest ih => exact Nat.add_le_add (units16_le_size c) ih

theorem units16_all_pos (chars : List Char) (some_ : chars ≠ []) : 0 < units16All chars := by
  cases chars with
  | nil => exact absurd rfl some_
  | cons c rest => exact Nat.add_pos_left (units16_pos c) _

theorem offset_at_column_append (before after : List Char) :
    offsetAtColumn? (before ++ after) (units16All before) = some (byteLength before) := by
  induction before with
  | nil => cases after <;> rfl
  | cons c rest ih =>
      obtain ⟨count, size⟩ := Nat.exists_eq_succ_of_ne_zero (Nat.ne_of_gt (units16_pos c))
      have column : units16All (c :: rest) = count + units16All rest + 1 := by
        rw [units16All, size]
        omega
      rw [List.cons_append, column, offsetAtColumn?, if_pos (by omega),
        show count + units16All rest + 1 - units16 c = units16All rest by omega, ih]
      rfl

theorem offset_at_column_boundary (chars : List Char) (column offset : Nat)
    (found : offsetAtColumn? chars column = some offset) : IsBoundary chars offset := by
  induction chars generalizing column offset with
  | nil =>
      cases column with
      | zero =>
          obtain rfl := Option.some.inj found
          exact boundary_zero []
      | succ column => cases found
  | cons c rest ih =>
      cases column with
      | zero =>
          obtain rfl := Option.some.inj found
          exact boundary_zero _
      | succ column =>
          by_cases fits : units16 c ≤ column + 1
          · rw [offsetAtColumn?, if_pos fits] at found
            obtain ⟨later, known, rfl⟩ := Option.map_eq_some_iff.mp found
            obtain ⟨before, after, rfl, rfl⟩ := (boundary_iff_split _ _).mp (ih _ _ known)
            exact (boundary_iff_split _ _).mpr ⟨c :: before, after, rfl, rfl⟩
          · simp [offsetAtColumn?, fits] at found

theorem starts_append (offset : Nat) (first second : List Char) :
    startsAfterBreaks offset (first ++ second) =
      startsAfterBreaks offset first ++ startsAfterBreaks (offset + byteLength first) second := by
  induction first generalizing offset with
  | nil => rfl
  | cons c rest ih =>
      have onward := ih (offset + c.utf8Size)
      rw [Nat.add_assoc] at onward
      by_cases feed : c = '\n'
      · simp only [List.cons_append, startsAfterBreaks, if_pos feed, onward, byte_length_cons]
      · simp only [List.cons_append, startsAfterBreaks, if_neg feed, onward, byte_length_cons]

theorem starts_within (offset : Nat) (chars : List Char) (start : Nat) (member : start ∈ startsAfterBreaks offset chars) :
    offset < start ∧ start ≤ offset + byteLength chars := by
  induction chars generalizing offset with
  | nil => cases member
  | cons c rest ih =>
      have size := c.utf8Size_pos
      have later (inside : start ∈ startsAfterBreaks (offset + c.utf8Size) rest) :
          offset < start ∧ start ≤ offset + byteLength (c :: rest) := by
        have bounds := ih (offset + c.utf8Size) inside
        rw [byte_length_cons]
        omega
      by_cases feed : c = '\n'
      · simp only [startsAfterBreaks, if_pos feed] at member
        rcases List.mem_cons.mp member with rfl | inside
        · rw [byte_length_cons]
          omega
        · exact later inside
      · simp only [startsAfterBreaks, if_neg feed] at member
        exact later member

theorem starts_length (offset : Nat) (chars : List Char) : (startsAfterBreaks offset chars).length = chars.count '\n' := by
  induction chars generalizing offset with
  | nil => rfl
  | cons c rest ih =>
      by_cases feed : c = '\n'
      · rw [startsAfterBreaks, if_pos feed, List.length_cons, ih, feed, List.count_cons_self]
      · rw [startsAfterBreaks, if_neg feed, ih, List.count_cons_of_ne feed]

theorem count_le_length (chars : List Char) : chars.count '\n' ≤ byteLength chars := by
  induction chars with
  | nil => exact Nat.le_refl _
  | cons c rest ih =>
      have size := c.utf8Size_pos
      have one : (c :: rest).count '\n' ≤ rest.count '\n' + 1 := by
        rw [List.count_cons]
        split <;> omega
      rw [byte_length_cons]
      omega

theorem last_line_split (chars : List Char) : ∃ head line, chars = head ++ line ∧ '\n' ∉ line ∧
    (head = [] ∨ ∃ above, head = above ++ [ '\n']) := by
  induction chars with
  | nil => exact ⟨[], [], rfl, List.not_mem_nil, .inl rfl⟩
  | cons c rest ih =>
      obtain ⟨head, line, rfl, unbroken, ends⟩ := ih
      rcases ends with rfl | ⟨above, rfl⟩
      · by_cases feed : c = '\n'
        · exact ⟨[c], line, rfl, unbroken, .inr ⟨[], by rw [feed]; rfl⟩⟩
        · exact ⟨[], c :: line, rfl, List.not_mem_cons_of_ne_of_not_mem (Ne.symm feed) unbroken, .inl rfl⟩
      · exact ⟨c :: (above ++ [ '\n']), line, rfl, unbroken, .inr ⟨c :: above, rfl⟩⟩

theorem first_line_split (chars : List Char) : ∃ line tail, chars = line ++ tail ∧ '\n' ∉ line ∧
    (tail = [] ∨ ∃ below, tail = '\n' :: below) := by
  induction chars with
  | nil => exact ⟨[], [], rfl, List.not_mem_nil, .inl rfl⟩
  | cons c rest ih =>
      by_cases feed : c = '\n'
      · exact ⟨[], c :: rest, rfl, List.not_mem_nil, .inr ⟨rest, by rw [feed]⟩⟩
      · obtain ⟨line, tail, rfl, unbroken, starts⟩ := ih
        exact ⟨c :: line, tail, rfl, List.not_mem_cons_of_ne_of_not_mem (Ne.symm feed) unbroken, starts⟩

end Text

def Position.Before (first second : Position) : Prop :=
  first.line < second.line ∨ (first.line = second.line ∧ first.column < second.column)

namespace LineIndex

open Text

structure Line (chars head line tail : List Char) : Prop where
  whole : chars = head ++ (line ++ tail)
  starts : head = [] ∨ ∃ above, head = above ++ [ '\n']
  unbroken : '\n' ∉ line
  stops : tail = [] ∨ ∃ below, tail = '\n' :: below

section

variable (text : String)

theorem line_of_split (before after : List Char) (split : text.toList = before ++ after) :
    (ofText text).lineOf (byteLength before) = before.count '\n' := by
  have passed : ∀ start ∈ 0 :: startsAfterBreaks 0 before, decide (start ≤ byteLength before) = true := by
    intro start member
    rcases List.mem_cons.mp member with rfl | inside
    · exact decide_eq_true (Nat.zero_le _)
    · have bounds := starts_within 0 before start inside
      exact decide_eq_true (by omega)
  have ahead : (startsAfterBreaks (0 + byteLength before) after).takeWhile (· ≤ byteLength before) = [] := by
    cases later : startsAfterBreaks (0 + byteLength before) after with
    | nil => rfl
    | cons start rest =>
        have bounds := starts_within (0 + byteLength before) after start (by rw [later]; exact List.mem_cons_self)
        exact List.takeWhile_cons_of_neg (by simp only [decide_eq_true_eq]; omega)
  unfold lineOf
  rw [ofText, split, starts_append, ← List.cons_append, List.takeWhile_append_of_pos passed, ahead, List.append_nil,
    List.length_cons, starts_length, Nat.add_sub_cancel]

theorem line_count_eq : (ofText text).lineCount = text.toList.count '\n' + 1 := by
  rw [lineCount, ofText, List.length_cons, starts_length]

theorem starts_at (head rest : List Char) (split : text.toList = head ++ rest)
    (starts : head = [] ∨ ∃ above, head = above ++ [ '\n']) :
    (ofText text).starts[head.count '\n']? = some (byteLength head) := by
  rcases starts with rfl | ⟨above, rfl⟩
  · rfl
  · have feed : startsAfterBreaks (0 + byteLength above) [ '\n'] = [byteLength (above ++ [ '\n'])] := by
      simp only [startsAfterBreaks, if_true, byte_length_append, byte_length_cons, byte_length_nil, Nat.zero_add, Nat.add_zero]
    have count : (above ++ [ '\n']).count '\n' = (startsAfterBreaks 0 above).length + 1 := by
      rw [List.count_append, starts_length]
      rfl
    rw [ofText, split, starts_append, starts_append, feed, count, List.getElem?_cons_succ, List.append_assoc,
      List.getElem?_append_right (Nat.le_refl _), Nat.sub_self]
    rfl

theorem line_start_eq (head line tail : List Char) (at_ : Line text.toList head line tail) :
    (ofText text).lineStart (head.count '\n') = byteLength head := by
  rw [lineStart, List.getD_eq_getElem?_getD, starts_at text head _ at_.whole at_.starts, Option.getD_some]

theorem line_stop_eq (head line tail : List Char) (at_ : Line text.toList head line tail) :
    ((ofText text).starts[head.count '\n' + 1]?.map (· - 1)).getD (ofText text).size = byteLength head + byteLength line := by
  have none_ : line.count '\n' = 0 := List.count_eq_zero.mpr at_.unbroken
  rcases at_.stops with rfl | ⟨below, rfl⟩
  · have count : text.toList.count '\n' = head.count '\n' := by
      rw [at_.whole, List.append_nil, List.count_append, none_, Nat.add_zero]
    have lines : (ofText text).starts.length = head.count '\n' + 1 := by
      rw [ofText, List.length_cons, starts_length, count]
    have beyond : (ofText text).starts[head.count '\n' + 1]? = none := List.getElem?_eq_none (Nat.le_of_eq lines)
    rw [beyond, Option.map_none, Option.getD_none, ofText, at_.whole, List.append_nil, byte_length_append]
  · have split : text.toList = (head ++ (line ++ [ '\n'])) ++ below := by
      rw [at_.whole]
      simp
    have next := starts_at text _ below split (.inr ⟨head ++ line, by rw [List.append_assoc]⟩)
    have count : (head ++ (line ++ [ '\n'])).count '\n' = head.count '\n' + 1 := by
      rw [List.count_append, List.count_append, none_]
      rfl
    rw [count] at next
    rw [next, Option.map_some, Option.getD_some, byte_length_append, byte_length_append, byte_length_cons, byte_length_nil,
      show Char.utf8Size '\n' = 1 from rfl]
    omega

theorem offset_of_line (head line tail : List Char) (at_ : Line text.toList head line tail) (column : Nat) :
    (ofText text).offsetOf text ⟨head.count '\n', column⟩ =
      byteLength head + (offsetAtColumn? line column).getD (byteLength line) := by
  have inside : head.count '\n' < (ofText text).lineCount := by
    rw [line_count_eq, at_.whole, List.count_append]
    omega
  have content : (slice? text.toList (byteLength head) (byteLength head + byteLength line)).getD [] = line := by
    rw [at_.whole, slice_append, Option.getD_some]
  simp only [offsetOf, if_pos inside, line_start_eq text head line tail at_, line_stop_eq text head line tail at_, content]

theorem position_of_line (head visible rest : List Char) (split : text.toList = head ++ (visible ++ rest))
    (starts : head = [] ∨ ∃ above, head = above ++ [ '\n']) (unbroken : '\n' ∉ visible) :
    (ofText text).positionOf text (byteLength head + byteLength visible) =
      ⟨Width.low 32 (head.count '\n'), Width.low 32 (units16All visible)⟩ := by
  have within_ : min (byteLength head + byteLength visible) (ofText text).size = byteLength (head ++ visible) := by
    rw [byte_length_append]
    apply Nat.min_eq_left
    simp only [ofText, split, byte_length_append]
    omega
  have line : (ofText text).lineOf (byteLength (head ++ visible)) = head.count '\n' := by
    rw [line_of_split text (head ++ visible) rest (by rw [split, List.append_assoc]), List.count_append,
      List.count_eq_zero.mpr unbroken, Nat.add_zero]
  have start : (ofText text).lineStart (head.count '\n') = byteLength head := by
    rw [lineStart, List.getD_eq_getElem?_getD, starts_at text head _ split starts, Option.getD_some]
  have before : (slice? text.toList (byteLength head) (byteLength (head ++ visible))).getD [] = visible := by
    rw [split, byte_length_append, slice_append, Option.getD_some]
  simp only [positionOf, within_, line, start, before]

theorem boundary_on_line (chars : List Char) (offset : Nat) (boundary : IsBoundary chars offset) :
    ∃ head visible hidden tail, Line chars head (visible ++ hidden) tail ∧ offset = byteLength head + byteLength visible := by
  obtain ⟨before, after, rfl, rfl⟩ := (boundary_iff_split chars offset).mp boundary
  obtain ⟨head, visible, rfl, noFeed, starts⟩ := last_line_split before
  obtain ⟨hidden, tail, rfl, noFeedAfter, stops⟩ := first_line_split after
  refine ⟨head, visible, hidden, tail, ⟨by simp, starts, ?_, stops⟩, byte_length_append _ _⟩
  intro member
  exact (List.mem_append.mp member).elim noFeed noFeedAfter

theorem line_exists (chars : List Char) (number : Nat) (le : number ≤ chars.count '\n') :
    ∃ head line tail, Line chars head line tail ∧ head.count '\n' = number := by
  induction number with
  | zero =>
      obtain ⟨line, tail, split, unbroken, stops⟩ := first_line_split chars
      exact ⟨[], line, tail, ⟨split, .inl rfl, unbroken, stops⟩, rfl⟩
  | succ number ih =>
      obtain ⟨head, line, tail, at_, count⟩ := ih (Nat.le_of_succ_le le)
      have none_ : line.count '\n' = 0 := List.count_eq_zero.mpr at_.unbroken
      rcases at_.stops with rfl | ⟨below, rfl⟩
      · rw [at_.whole, List.append_nil, List.count_append, none_] at le
        omega
      · obtain ⟨next, tail, rfl, unbroken, stops⟩ := first_line_split below
        refine ⟨head ++ (line ++ [ '\n']), next, tail, ⟨?_, .inr ⟨head ++ line, by rw [List.append_assoc]⟩, unbroken, stops⟩, ?_⟩
        · rw [at_.whole]
          simp
        · rw [List.count_append, List.count_append, none_, count]
          rfl

theorem low_position (short : byteLength text.toList < 2 ^ 32) (head visible rest : List Char)
    (split : text.toList = head ++ (visible ++ rest)) :
    Width.low 32 (head.count '\n') = head.count '\n' ∧ Width.low 32 (units16All visible) = units16All visible := by
  have feeds := count_le_length head
  have units := units16_all_le_length visible
  rw [split, byte_length_append, byte_length_append] at short
  have bound : Nat.pow 2 32 = 2 ^ 32 := rfl
  exact ⟨Nat.mod_eq_of_lt (by omega), Nat.mod_eq_of_lt (by omega)⟩

theorem offset_of_position (short : byteLength text.toList < 2 ^ 32) (offset : Nat) (boundary : IsBoundary text.toList offset) :
    (ofText text).offsetOf text ((ofText text).positionOf text offset) = offset := by
  obtain ⟨head, visible, hidden, tail, at_, rfl⟩ := boundary_on_line text.toList offset boundary
  have split : text.toList = head ++ (visible ++ (hidden ++ tail)) := by rw [at_.whole, List.append_assoc]
  have unbroken : '\n' ∉ visible := fun member => at_.unbroken (List.mem_append_left _ member)
  obtain ⟨line, column⟩ := low_position text short head visible _ split
  rw [position_of_line text head visible _ split at_.starts unbroken, line, column,
    offset_of_line text head _ tail at_, offset_at_column_append, Option.getD_some]

theorem position_strict_mono (short : byteLength text.toList < 2 ^ 32) (first second : Nat)
    (firstBoundary : IsBoundary text.toList first) (secondBoundary : IsBoundary text.toList second) (less : first < second) :
    ((ofText text).positionOf text first).Before ((ofText text).positionOf text second) := by
  obtain ⟨head, visible, hidden, tail, at_, rfl⟩ := boundary_on_line text.toList first firstBoundary
  obtain ⟨next, shown, covered, rest, atNext, rfl⟩ := boundary_on_line text.toList second secondBoundary
  have split : text.toList = head ++ (visible ++ (hidden ++ tail)) := by rw [at_.whole, List.append_assoc]
  have splitNext : text.toList = next ++ (shown ++ (covered ++ rest)) := by rw [atNext.whole, List.append_assoc]
  have unbroken : '\n' ∉ visible := fun member => at_.unbroken (List.mem_append_left _ member)
  have unbrokenNext : '\n' ∉ shown := fun member => atNext.unbroken (List.mem_append_left _ member)
  obtain ⟨line, column⟩ := low_position text short head visible _ split
  have place := position_of_line text head visible _ split at_.starts unbroken
  rw [line, column] at place
  obtain ⟨between, onward⟩ := longer_start text.toList (head ++ visible) (next ++ shown) (hidden ++ tail)
    (covered ++ rest) (by rw [split, List.append_assoc]) (by rw [splitNext, List.append_assoc])
    (by rw [byte_length_append, byte_length_append]; exact Nat.le_of_lt less)
  have lengths := congrArg byteLength onward
  rw [byte_length_append, byte_length_append, byte_length_append] at lengths
  by_cases feed : '\n' ∈ between
  · -- The later offset stands on a later line.
    obtain ⟨lineNext, columnNext⟩ := low_position text short next shown _ splitNext
    have placeNext := position_of_line text next shown _ splitNext atNext.starts unbrokenNext
    rw [lineNext, columnNext] at placeNext
    have count := congrArg (List.count '\n') onward
    rw [List.count_append, List.count_append, List.count_append, List.count_eq_zero.mpr unbroken,
      List.count_eq_zero.mpr unbrokenNext] at count
    have more := List.count_pos_iff.mpr feed
    rw [place, placeNext]
    left
    dsimp only
    omega
  · -- Both stand on the line of the earlier one.
    have splitLine : text.toList = head ++ ((visible ++ between) ++ (covered ++ rest)) := by
      rw [splitNext, ← List.append_assoc, onward]
      simp only [List.append_assoc]
    have unbrokenLine : '\n' ∉ visible ++ between := fun member => (List.mem_append.mp member).elim unbroken feed
    have length : byteLength next + byteLength shown = byteLength head + byteLength (visible ++ between) := by
      rw [lengths, byte_length_append, Nat.add_assoc]
    obtain ⟨lineNext, columnNext⟩ := low_position text short head (visible ++ between) _ splitLine
    have placeNext := position_of_line text head (visible ++ between) _ splitLine at_.starts unbrokenLine
    rw [lineNext, columnNext, units16_all_append] at placeNext
    rw [place, length, placeNext]
    right
    have something : between ≠ [] := by
      rintro rfl
      rw [byte_length_nil] at lengths
      omega
    exact ⟨rfl, Nat.lt_add_of_pos_right (units16_all_pos between something)⟩

theorem offset_on_line (position : Position) : IsBoundary text.toList ((ofText text).offsetOf text position) ∧
    (position.line < (ofText text).lineCount → (ofText text).lineOf ((ofText text).offsetOf text position) = position.line) := by
  by_cases inside : position.line < (ofText text).lineCount
  · have le : position.line ≤ text.toList.count '\n' := by
      rw [line_count_eq] at inside
      omega
    obtain ⟨head, line, tail, at_, count⟩ := line_exists text.toList position.line le
    obtain ⟨number, column⟩ := position
    obtain rfl : head.count '\n' = number := count
    rw [offset_of_line text head line tail at_ column]
    have within_ : IsBoundary line ((offsetAtColumn? line column).getD (byteLength line)) := by
      cases found : offsetAtColumn? line column with
      | none => exact boundary_whole line
      | some offset => exact offset_at_column_boundary line column offset found
    obtain ⟨visible, hidden, rfl, length⟩ := (boundary_iff_split _ _).mp within_
    have split : text.toList = (head ++ visible) ++ (hidden ++ tail) := by
      rw [at_.whole]
      simp
    rw [← length, ← byte_length_append]
    refine ⟨(boundary_iff_split _ _).mpr ⟨_, _, split, rfl⟩, fun _ => ?_⟩
    have unbroken : '\n' ∉ visible := fun member => at_.unbroken (List.mem_append_left _ member)
    rw [line_of_split text _ _ split, List.count_append, List.count_eq_zero.mpr unbroken, Nat.add_zero]
  · refine ⟨?_, fun exists_ => absurd exists_ inside⟩
    rw [offsetOf, if_neg inside]
    exact boundary_whole text.toList

end

theorem positions_faithful (text : String) (short : byteLength text.toList < 2 ^ 32) :
    (∀ offset, IsBoundary text.toList offset →
      (ofText text).offsetOf text ((ofText text).positionOf text offset) = offset) ∧
    (∀ first second, IsBoundary text.toList first → IsBoundary text.toList second → first < second →
      ((ofText text).positionOf text first).Before ((ofText text).positionOf text second)) ∧
    ∀ position, IsBoundary text.toList ((ofText text).offsetOf text position) ∧
      (ofText text).offsetOf text position ≤ byteLength text.toList ∧
      (position.line < (ofText text).lineCount → (ofText text).lineOf ((ofText text).offsetOf text position) = position.line) := by
  refine ⟨offset_of_position text short, position_strict_mono text short, fun position => ?_⟩
  obtain ⟨boundary, onLine⟩ := offset_on_line text position
  exact ⟨boundary, boundary_le _ _ boundary, onLine⟩

-- Characters of one to four bytes, of one and of two UTF-16 units, and a line without any.
def mixedText : String :=
  "k: é世\n\n😀x: y"

-- The offset 14 stands behind the two units of the first character of the last line. A column between them, or past the
-- end of its line, stands for the end of the line.
theorem positions_faithful_mixed :
    let index := ofText mixedText
    byteLength mixedText.toList < 2 ^ 32 ∧ IsBoundary mixedText.toList 14 ∧ IsBoundary mixedText.toList 15 ∧
      index.positionOf mixedText 14 = ⟨2, 2⟩ ∧ index.offsetOf mixedText (index.positionOf mixedText 14) = 14 ∧
      (index.positionOf mixedText 14).Before (index.positionOf mixedText 15) ∧
      index.offsetOf mixedText ⟨2, 1⟩ = 18 ∧ index.lineOf (index.offsetOf mixedText ⟨2, 1⟩) = 2 := by
  have short : byteLength mixedText.toList < 2 ^ 32 := by decide +kernel
  have boundary : IsBoundary mixedText.toList 14 := by decide +kernel
  have next : IsBoundary mixedText.toList 15 := by decide +kernel
  obtain ⟨back, ordered, placed⟩ := positions_faithful mixedText short
  exact ⟨short, boundary, next, by decide +kernel, back 14 boundary, ordered 14 15 boundary next (by decide), by decide +kernel,
    (placed ⟨2, 1⟩).2.2 (by decide +kernel)⟩

end LineIndex
end YamlDialects
