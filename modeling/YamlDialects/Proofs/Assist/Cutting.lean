import Mathlib.Data.List.DropRight
import YamlDialects.Proofs.Assist.Acceptance
import YamlDialects.Proofs.Outline.Cutting

/-!
A completion cuts the line up to the cursor out of the text, the word before the cursor out of that line, and white space
off what it inserts. Here every cut is checked: it has to start and to end between two characters, and no lookup may start
behind the end. None is refused as long as the cursor stands between two characters.
-/

set_option autoImplicit false

namespace YamlDialects

namespace Score

-- Each wanted character is looked up from a position on. The position has to be within the data.
def alignChecked (data : List Char) : Alignment → Nat → List Char → Option (Option Alignment)
  | so_far, _, [] => some (some so_far)
  | so_far, position, wanted :: pattern =>
      if position ≤ data.length then
        match (data.drop position).idxOf? wanted with
        | none => some none
        | some found => alignChecked data ⟨so_far.matched + 1, so_far.skipped + found⟩ (position + found + 1) pattern
      else none

def rateChecked (pattern data : String) : Option (Option Float) :=
  if pattern.isEmpty then some (some ofEmptyQuery)
  else
    (alignChecked (Text.lowerAll data.toList) ⟨0, 0⟩ 0 (Text.lowerAll pattern.toList)).map fun alignment? =>
      alignment?.map fun alignment =>
        let length := max (Text.lowerAll data.toList).length 1
        let coverage := Float.ofNat alignment.matched / Float.ofNat length
        coverage / (1 + Float.ofNat alignment.skipped)

theorem align_found (so_far : Alignment) (wanted : Char) (pattern data : List Char) :
    align so_far (wanted :: pattern) data = (data.idxOf? wanted).bind fun found =>
      align ⟨so_far.matched + 1, so_far.skipped + found⟩ pattern (data.drop (found + 1)) := by
  induction data generalizing so_far with
  | nil => rfl
  | cons c rest ih =>
      rw [align, List.idxOf?_cons]
      by_cases same : c = wanted
      · rw [if_pos same, if_pos (beq_iff_eq.mpr same)]
        rfl
      · rw [if_neg same, if_neg (mt beq_iff_eq.mp same), ih, Option.bind_map]
        refine congrArg _ (funext fun found => ?_)
        simp [Nat.add_assoc, Nat.add_comm 1 found]

theorem align_checked (data pattern : List Char) (so_far : Alignment) (position : Nat) (within : position ≤ data.length) :
    alignChecked data so_far position pattern = some (align so_far pattern (data.drop position)) := by
  induction pattern generalizing so_far position with
  | nil => rw [alignChecked, align]
  | cons wanted pattern ih =>
      rw [alignChecked, if_pos within, align_found]
      cases found : (data.drop position).idxOf? wanted with
      | none => rfl
      | some index =>
          obtain ⟨bound, -, -⟩ := List.idxOf?_eq_some_iff.mp found
          rw [List.length_drop] at bound
          dsimp only
          rw [ih _ _ (by omega), Option.bind_some, List.drop_drop, ← Nat.add_assoc]

theorem rate_checked (pattern data : String) : rateChecked pattern data = some (rate? pattern data) := by
  unfold rateChecked rate?
  split
  · rfl
  · rw [align_checked _ _ _ 0 (Nat.zero_le _)]
    rfl

end Score

namespace Snippet

def splitBlankChecked (text : String) : Option (String × String) := do
  let width := Text.byteLength text.toList - Text.byteLength (Text.trimLeft text.toList)
  let blank ← Text.takeBytes? text.toList width
  let rest ← Text.dropBytes? text.toList width
  return (String.ofList blank, String.ofList rest)

def dedentChecked (text : String) (amount : Nat) : Option String :=
  match text.toList.splitOn '\n' with
  | [] => some ""
  | first :: later => do
      let shortened ← later.mapM fun line => Text.dropBytes? line (min (Outline.leadingSpaces line) amount)
      return String.ofList (first ++ shortened.flatMap ( '\n' :: ·))

theorem split_blank_checked (text : String) : splitBlankChecked text = some (splitBlank text) := by
  have whole : text.toList = text.toList.takeWhile Text.isBlank ++ Text.trimLeft text.toList :=
    List.takeWhile_append_dropWhile.symm
  have width : Text.byteLength text.toList - Text.byteLength (Text.trimLeft text.toList) =
      Text.byteLength (text.toList.takeWhile Text.isBlank) := by
    have length := congrArg Text.byteLength whole
    rw [Text.byte_length_append] at length
    omega
  have taken := Text.take_bytes_append (text.toList.takeWhile Text.isBlank) (Text.trimLeft text.toList)
  have dropped := Text.drop_bytes_append (text.toList.takeWhile Text.isBlank) (Text.trimLeft text.toList)
  rw [← whole] at taken dropped
  rw [splitBlankChecked, width, taken, dropped]
  rfl

theorem drop_spaces (line : List Char) (count : Nat) (le : count ≤ Outline.leadingSpaces line) :
    Text.dropBytes? line count = some (line.drop count) := by
  obtain ⟨more, spaces⟩ := Nat.exists_eq_add_of_le le
  have split := Outline.leading_spaces_split line
  rw [spaces, List.replicate_add, List.append_assoc] at split
  have dropped := Text.drop_bytes_append (List.replicate count ' ') (List.replicate more ' ' ++ line.drop (count + more))
  rw [Text.byte_length_spaces, ← split] at dropped
  rw [dropped]
  refine congrArg some ?_
  conv => rhs; rw [split]
  exact (List.drop_left' List.length_replicate).symm

theorem dedent_split (amount left : Nat) (chars : List Char) : ∃ first later, chars.splitOn '\n' = first :: later ∧
    dedentChars amount left chars = first.drop (min (Outline.leadingSpaces first) left) ++
      later.flatMap fun line => '\n' :: line.drop (min (Outline.leadingSpaces line) amount) := by
  induction chars generalizing left with
  | nil => exact ⟨[], [], List.splitOn_nil _, by simp [dedentChars]⟩
  | cons c rest ih =>
      rw [List.splitOn_cons_eq_if_modifyHead, dedentChars]
      by_cases feed : c = '\n'
      · obtain ⟨first, later, split, dedented⟩ := ih amount
        rw [if_pos (beq_iff_eq.mpr feed), if_pos feed, split, dedented]
        exact ⟨[], first :: later, rfl, by simp⟩
      · rw [if_neg (mt beq_iff_eq.mp feed), if_neg feed]
        by_cases dropped : c = ' ' ∧ 0 < left
        · obtain ⟨first, later, split, dedented⟩ := ih (left - 1)
          obtain ⟨rfl, some⟩ := dropped
          obtain ⟨left, rfl⟩ := Nat.exists_eq_add_one_of_ne_zero (Nat.ne_zero_of_lt some)
          rw [if_pos ⟨rfl, some⟩, split, dedented]
          refine ⟨' ' :: first, later, rfl, ?_⟩
          rw [Outline.leading_spaces_space, Nat.add_min_add_right, List.drop_succ_cons, Nat.add_sub_cancel]
        · obtain ⟨first, later, split, dedented⟩ := ih 0
          have stays : min (Outline.leadingSpaces (c :: first)) left = 0 := by
            rcases not_and_or.mp dropped with other | none
            · rw [Outline.leading_spaces_other c first other, Nat.zero_min]
            · rw [Nat.eq_zero_of_not_pos none, Nat.min_zero]
          rw [if_neg dropped, split, dedented]
          exact ⟨c :: first, later, rfl, by rw [stays, Nat.min_zero]; rfl⟩

theorem dedent_checked (text : String) (amount : Nat) : dedentChecked text amount = some (dedent text amount) := by
  obtain ⟨first, later, split, dedented⟩ := dedent_split amount 0 text.toList
  have shortened := maps_checked later (fun line => Text.dropBytes? line (min (Outline.leadingSpaces line) amount))
    (fun line => line.drop (min (Outline.leadingSpaces line) amount))
    fun line _ => drop_spaces line _ (Nat.min_le_left _ _)
  rw [dedentChecked, split]
  dsimp only
  rw [shortened, dedent, dedented, Nat.min_zero, List.drop_zero, Option.bind_eq_bind, Option.bind_some, List.flatMap_map]
  rfl

end Snippet

namespace Cursor

def lineStartChecked (text : String) (offset : Nat) : Option Nat :=
  (Text.takeBytes? text.toList offset).map fun before => Text.byteLength (before.rdropWhile (· != '\n'))

def lineBeforeChecked (text : String) (offset : Nat) : Option (List Char) := do
  Text.slice? text.toList (← lineStartChecked text offset) offset

def columnChecked (text : String) (offset : Nat) : Option Nat :=
  (lineBeforeChecked text offset).map List.length

def isInCommentChecked (text : String) (offset : Nat) : Option Bool :=
  (lineBeforeChecked text offset).map (opensComment true)

def followsBlankChecked (text : String) (offset : Nat) : Option Bool :=
  (Text.takeBytes? text.toList offset).map fun before => before.getLast?.all Text.isBlank

def valueStartChecked (cursor : Cursor) (block : Block) : Option (Option Nat) := do
  if ← block.isInValueChecked cursor.offset then
    match block.kind with
    | .key => return block.colon?.map (· + 1)
    | .item => return some (block.start + 1)
    | _ => return none
  else return none

def queryChecked (cursor : Cursor) (block : Block) : Option (List Char) := do
  let lineStart ← lineStartChecked cursor.text cursor.offset
  match ← cursor.valueStartChecked block with
  | some start =>
      let start := min (max start lineStart) cursor.offset
      return Text.trimLeft (← Text.slice? cursor.text.toList start cursor.offset)
  | none =>
      let before ← Text.slice? cursor.text.toList lineStart cursor.offset
      Text.dropBytes? before (Text.byteLength (before.rdropWhile fun c => !Text.isBlank c))

structure Reads (text : String) (offset : Nat) (head line : List Char) : Prop where
  before : Text.takeBytes? text.toList offset = some (head ++ line)
  split : ∃ after, text.toList = head ++ (line ++ after)
  width : Text.byteLength head + Text.byteLength line = offset
  held : lineBefore text offset = line
  start : lineStart text offset = Text.byteLength head
  rest : (head ++ line).rdropWhile (· != '\n') = head
  single : '\n' ∉ line

theorem reads_line (text : String) (offset : Nat) (boundary : Text.IsBoundary text.toList offset) :
    ∃ head line, Reads text offset head line := by
  obtain ⟨before, after, split, rfl⟩ := (Text.boundary_iff_split _ _).mp boundary
  obtain ⟨head, line, rfl, single, ends⟩ := Text.last_line_split before
  have keeps : ∀ c ∈ line.reverse, (c != '\n') = true := by
    intro c member
    exact bne_iff_ne.mpr fun same => single (same ▸ List.mem_reverse.mp member)
  have stops : head.reverse.takeWhile (· != '\n') = [] ∧ head.reverse.dropWhile (· != '\n') = head.reverse := by
    rcases ends with rfl | ⟨above, rfl⟩
    · exact ⟨rfl, rfl⟩
    · simp
  have lineEq : lineBefore text (Text.byteLength (head ++ line)) = line := by
    rw [lineBefore, split_at text _ after split]
    dsimp only
    rw [List.reverse_append, List.takeWhile_append_of_pos keeps, stops.1, List.append_nil, List.reverse_reverse]
  refine ⟨head, line, ?_, ⟨after, by simpa using split⟩, (Text.byte_length_append _ _).symm, lineEq, ?_, ?_, single⟩
  · rw [split, Text.take_bytes_append]
  · rw [lineStart, lineEq, Text.byte_length_append, Nat.add_sub_cancel]
  · rw [List.rdropWhile, List.reverse_append, List.dropWhile_append_of_pos keeps, stops.2, List.reverse_reverse]

section

variable (text : String) (offset : Nat) (boundary : Text.IsBoundary text.toList offset)

include boundary

theorem line_start_checked : lineStartChecked text offset = some (lineStart text offset) := by
  obtain ⟨head, line, reads⟩ := reads_line text offset boundary
  rw [lineStartChecked, reads.before, Option.map_some, reads.rest, reads.start]

theorem line_slice : Text.slice? text.toList (lineStart text offset) offset = some (lineBefore text offset) := by
  obtain ⟨head, line, reads⟩ := reads_line text offset boundary
  obtain ⟨after, split⟩ := reads.split
  rw [reads.start, reads.held, split, ← reads.width, Text.slice_append]

theorem line_before_checked : lineBeforeChecked text offset = some (lineBefore text offset) := by
  rw [lineBeforeChecked, line_start_checked text offset boundary]
  exact line_slice text offset boundary

theorem column_checked : columnChecked text offset = some (column text offset) := by
  rw [columnChecked, line_before_checked text offset boundary]
  rfl

theorem in_comment_checked : isInCommentChecked text offset = some (isInComment text offset) := by
  rw [isInCommentChecked, line_before_checked text offset boundary]
  rfl

theorem follows_blank_checked : followsBlankChecked text offset = some (followsBlank text offset) := by
  obtain ⟨before, after, split, rfl⟩ := (Text.boundary_iff_split _ _).mp boundary
  rw [followsBlankChecked, followsBlank, split_at text before after split, split, Text.take_bytes_append, Option.map_some]
  cases before.getLast? <;> rfl

theorem rest_of_line (start : Nat) (starts : Text.IsBoundary text.toList start) :
    ∃ rest, Text.slice? text.toList (min (max start (lineStart text offset)) offset) offset = some rest ∧
      rest <:+ lineBefore text offset := by
  obtain ⟨head, line, reads⟩ := reads_line text offset boundary
  obtain ⟨after, split⟩ := reads.split
  have lineStarts : Text.IsBoundary text.toList (lineStart text offset) := by
    rw [reads.start]
    exact (Text.boundary_iff_split _ _).mpr ⟨head, line ++ after, split, rfl⟩
  have begins := Text.boundary_min _ _ _ (Text.boundary_max _ _ _ starts lineStarts) boundary
  obtain ⟨before, rest, behind, whole, length, width, cut⟩ := Text.slice_between _ _ _ begins boundary (Nat.min_le_right _ _)
  refine ⟨rest, cut, ?_⟩
  rw [reads.held]
  -- The part starts on the line, so only something of the line stands before it.
  have within : Text.byteLength head ≤ Text.byteLength before := by
    have inside : lineStart text offset ≤ offset := by
      rw [reads.start, ← reads.width]
      exact Nat.le_add_right _ _
    rw [length, ← reads.start]
    omega
  obtain ⟨lead, rfl⟩ := Text.longer_start text.toList head before _ _ split whole within
  have same := split.symm.trans whole
  rw [List.append_assoc, List.append_cancel_left_eq, ← List.append_assoc] at same
  have widths : Text.byteLength line = Text.byteLength (lead ++ rest) := by
    have total := reads.width
    rw [← length, Text.byte_length_append] at width
    rw [Text.byte_length_append]
    omega
  exact ⟨lead, (Text.prefix_unique line (lead ++ rest) after behind same widths).1.symm⟩

end

section

variable (cursor : Cursor) (block : Block) (relaxedNames : Bool) (belongs : block.outline = Outline.ofText cursor.text relaxedNames)

include belongs

theorem value_start_checked : cursor.valueStartChecked block = some (cursor.valueStart? block) := by
  rw [valueStartChecked, block.in_value_checked cursor.text relaxedNames belongs, Option.bind_eq_bind, Option.bind_some,
    valueStart?]
  cases block.isInValue cursor.offset with
  | false => rfl
  | true => cases block.kind <;> rfl

theorem value_start_boundary (start : Nat) (found : cursor.valueStart? block = some start) :
    Text.IsBoundary cursor.text.toList start := by
  unfold valueStart? at found
  split at found
  · cases found
  · split at found
    next isKey =>
      obtain ⟨colon, placed, rfl⟩ := Option.map_eq_some_iff.mp found
      exact block.behind_colon cursor.text relaxedNames belongs isKey colon placed
    next isItem =>
      obtain rfl := Option.some.inj found
      exact block.behind_dash cursor.text relaxedNames belongs isItem
    next => cases found

variable (boundary : Text.IsBoundary cursor.text.toList cursor.offset)

include boundary

theorem query_suffix : cursor.query block <:+ lineBefore cursor.text cursor.offset := by
  unfold query
  cases found : cursor.valueStart? block with
  | some start =>
      obtain ⟨rest, cut, suffix⟩ := rest_of_line cursor.text cursor.offset boundary start
        (value_start_boundary cursor block relaxedNames belongs start found)
      dsimp only
      rw [cut, Option.getD_some]
      exact (List.dropWhile_suffix _).trans suffix
  | none => exact List.rtakeWhile_suffix _ _

theorem query_checked : cursor.queryChecked block = some (cursor.query block) := by
  unfold queryChecked query
  rw [value_start_checked cursor block relaxedNames belongs, line_start_checked _ _ boundary]
  cases found : cursor.valueStart? block with
  | some start =>
      obtain ⟨rest, cut, suffix⟩ := rest_of_line cursor.text cursor.offset boundary start
        (value_start_boundary cursor block relaxedNames belongs start found)
      simp only [Option.bind_eq_bind, Option.bind_some, cut, Option.getD_some]
      rfl
  | none =>
      have split : (lineBefore cursor.text cursor.offset).rdropWhile (fun c => !Text.isBlank c) ++ _ =
        lineBefore cursor.text cursor.offset := List.rdropWhile_append_rtakeWhile
      have dropped := Text.drop_bytes_append ((lineBefore cursor.text cursor.offset).rdropWhile fun c => !Text.isBlank c)
        ((lineBefore cursor.text cursor.offset).rtakeWhile fun c => !Text.isBlank c)
      rw [split] at dropped
      simp only [Option.bind_eq_bind, Option.bind_some, line_slice _ _ boundary, dropped]
      rfl

end

end Cursor
end YamlDialects
