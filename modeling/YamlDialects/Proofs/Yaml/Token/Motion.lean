import YamlDialects.Yaml.Token.Next

set_option autoImplicit false

namespace YamlDialects.Yaml

theorem Fault.bind_ok {α β : Type} (result : Except Fault α) (next : α → Except Fault β) (value : β)
    (runs : result >>= next = .ok value) : ∃ found, result = .ok found ∧ next found = .ok value := by
  cases result with
  | error fault => cases runs
  | ok found => exact ⟨found, rfl, runs⟩

def Mark.Reaches (before : Mark) (count : Nat) (after : Mark) : Prop :=
  after.index = before.index + count ∧
    ((before.line < after.line ∧ 0 < count) ∨ (after.line = before.line ∧ after.column = before.column + count))

theorem Mark.reaches_trans {first second third : Mark} {count further : Nat} (one : first.Reaches count second)
    (two : second.Reaches further third) : first.Reaches (count + further) third := by
  unfold Mark.Reaches at one two ⊢
  omega

namespace Lexer

def held (lexer : Lexer) : Lexer :=
  { lexer with
    rest := []
    mark := default
    atLineStart := false
    keyAllowed := false
    adjacentValueAt := 0
    flowMappingStarted := false
    pairs := [] }

structure Moves (before after : Lexer) : Prop where
  reads : ∃ count, after.rest = before.rest.drop count ∧ before.mark.Reaches count after.mark
  held : after.held = before.held

namespace Moves

theorem refl (lexer : Lexer) : Moves lexer lexer :=
  ⟨⟨0, rfl, rfl, .inr ⟨rfl, rfl⟩⟩, rfl⟩

theorem trans {first second third : Lexer} (one : Moves first second) (two : Moves second third) : Moves first third := by
  obtain ⟨⟨count, rest, reaches⟩, held⟩ := one
  obtain ⟨⟨further, onward, later⟩, kept⟩ := two
  refine ⟨⟨count + further, ?_, Mark.reaches_trans reaches later⟩, kept.trans held⟩
  rw [onward, rest, List.drop_drop]

theorem index_le {before after : Lexer} (moves : Moves before after) : before.mark.index ≤ after.mark.index := by
  obtain ⟨count, -, index, -⟩ := moves.reads
  omega

theorem still {before after : Lexer} (rest : after.rest = before.rest) (mark : after.mark = before.mark)
    (held : after.held = before.held) : Moves before after := by
  refine ⟨⟨0, rest, ?_⟩, held⟩
  rw [mark]
  exact ⟨rfl, .inr ⟨rfl, rfl⟩⟩

theorem tokens {before after : Lexer} (moves : Moves before after) : after.tokens = before.tokens :=
  (congrArg Lexer.tokens moves.held : after.held.tokens = before.held.tokens)

theorem taken {before after : Lexer} (moves : Moves before after) : after.taken = before.taken :=
  (congrArg Lexer.taken moves.held : after.held.taken = before.held.taken)

theorem keys {before after : Lexer} (moves : Moves before after) : after.keys = before.keys :=
  (congrArg Lexer.keys moves.held : after.held.keys = before.held.keys)

theorem indent {before after : Lexer} (moves : Moves before after) : after.indent = before.indent :=
  (congrArg Lexer.indent moves.held : after.held.indent = before.held.indent)

theorem indents {before after : Lexer} (moves : Moves before after) : after.indents = before.indents :=
  (congrArg Lexer.indents moves.held : after.held.indents = before.held.indents)

theorem flow_level {before after : Lexer} (moves : Moves before after) : after.flowLevel = before.flowLevel :=
  (congrArg Lexer.flowLevel moves.held : after.held.flowLevel = before.held.flowLevel)

theorem set_none {before after : Lexer} (moves : Moves before after) : Moves (before.setKey none) (after.setKey none) :=
  ⟨moves.reads, (congrArg (fun lexer => lexer.setKey none) moves.held :
    after.held.setKey none = before.held.setKey none)⟩

end Moves

theorem forbid_key_moves (lexer : Lexer) : Moves lexer lexer.forbidKey :=
  .still rfl rfl rfl

theorem allow_key_moves (lexer : Lexer) : Moves lexer lexer.allowKey :=
  .still rfl rfl rfl

theorem advance_moves (lexer : Lexer) (count : Nat) : Moves lexer (lexer.advance count) :=
  ⟨⟨count, rfl, rfl, .inr ⟨rfl, rfl⟩⟩, rfl⟩

theorem advance_content_moves (lexer : Lexer) (count : Nat) : Moves lexer (lexer.advanceContent count) :=
  ⟨⟨count, rfl, rfl, .inr ⟨rfl, rfl⟩⟩, rfl⟩

theorem skip_break_moves (lexer : Lexer) : Moves lexer lexer.skipBreak := by
  unfold skipBreak
  generalize (if lexer.peek == '\r' && lexer.peekAt 1 == '\n' then 2 else if isBreak lexer.peek then 1 else 0) = length
  by_cases none : length = 0
  · simp only [none, if_true]
    exact .refl lexer
  · simp only [none, if_false]
    exact ⟨⟨length, rfl, rfl, .inl ⟨Nat.lt_succ_self _, Nat.pos_of_ne_zero none⟩⟩, rfl⟩

theorem skip_while_moves (lexer : Lexer) (test : Char → Bool) : Moves lexer (lexer.skipWhile test) :=
  advance_moves lexer _

theorem skip_to_line_end_moves (lexer after : Lexer) (gaps : Gaps) (found : lexer.skipToLineEnd = .ok (gaps, after)) :
    Moves lexer after ∧ lexer.mark.column ≤ after.mark.column := by
  unfold skipToLineEnd takeWhile at found
  simp only at found
  split at found
  next =>
    split at found
    next => cases found
    next =>
      cases found
      exact ⟨(skip_while_moves lexer _).trans (skip_while_moves _ _),
        Nat.le_trans (Nat.le_add_right _ _) (Nat.le_add_right _ _)⟩
  next =>
    cases found
    exact ⟨skip_while_moves lexer _, Nat.le_add_right _ _⟩

theorem allow_after_break_moves (lexer : Lexer) :
    Moves lexer (if lexer.skipBreak.flowLevel = 0 then lexer.skipBreak.allowKey else lexer.skipBreak) := by
  split
  next => exact (skip_break_moves lexer).trans (allow_key_moves _)
  next => exact skip_break_moves lexer

theorem skip_to_token_from_moves (fuel : Nat) (lexer after : Lexer) (found : skipToTokenFrom fuel lexer = .ok after) :
    Moves lexer after := by
  induction fuel generalizing lexer with
  | zero =>
      cases found
      exact .refl after
  | succ fuel ih =>
      rw [skipToTokenFrom] at found
      split at found
      next =>
        cases skipped : lexer.skipToLineEnd with
        | error fault => simp [skipped] at found
        | ok result =>
            simp only [skipped] at found
            split at found
            next => exact (skip_to_line_end_moves lexer result.2 result.1 skipped).1.trans (ih result.2 found)
            next => cases found
      next =>
        split at found
        next => exact (advance_moves lexer 1).trans (ih _ found)
        next =>
          split at found
          next => exact (allow_after_break_moves lexer).trans (ih _ found)
          next =>
            split at found
            next => exact (skip_while_moves lexer _).trans (ih _ found)
            next =>
              cases found
              exact .refl after

theorem skip_to_token_moves (lexer after : Lexer) (found : lexer.skipToToken = .ok after) : Moves lexer after :=
  skip_to_token_from_moves _ lexer after found

theorem skip_spaces_from_moves (fuel : Nat) (seen : Bool) (lexer : Lexer) :
    Moves lexer (skipSpacesFrom fuel seen lexer).2 := by
  induction fuel generalizing seen lexer with
  | zero => exact .refl lexer
  | succ fuel ih =>
      rw [skipSpacesFrom]
      split
      next => exact (advance_moves lexer 1).trans (ih _ _)
      next =>
        split
        next => exact (allow_after_break_moves lexer).trans (ih _ _)
        next =>
          split
          next => exact (skip_while_moves lexer _).trans (ih _ _)
          next => exact .refl lexer

theorem skip_spaces_moves (lexer after : Lexer) (found : lexer.skipSpaces = .ok after) : Moves lexer after := by
  have moves := skip_spaces_from_moves (lexer.rest.length + 1) false lexer
  unfold skipSpaces at found
  simp only at found
  split at found
  next =>
    cases found
    exact moves
  next => cases found

theorem plain_gap_moves (mark : Mark) (indent : Int) (fuel : Nat) (gap further : PlainGap) (lexer after : Lexer)
    (found : plainGap mark indent fuel gap lexer = .ok (further, after)) : Moves lexer after := by
  induction fuel generalizing gap lexer with
  | zero =>
      cases found
      exact .refl after
  | succ fuel ih =>
      rw [plainGap] at found
      split at found
      next =>
        split at found
        next => exact (advance_moves lexer 1).trans (ih _ _ found)
        next =>
          split at found
          next =>
            cases skipped : lexer.skipToLineEnd with
            | error fault => simp [skipped] at found
            | ok result =>
                simp only [skipped] at found
                split at found
                next => exact (skip_to_line_end_moves lexer result.2 result.1 skipped).1.trans (ih _ _ found)
                next => cases found
          next => exact (advance_moves lexer 1).trans (ih _ _ found)
      next =>
        split at found
        next => exact (skip_break_moves lexer).trans (ih _ _ found)
        next =>
          cases found
          exact .refl after

def plainOnward (mark : Mark) (indent : Int) (fuel : Nat) (inFlow : Bool) (gap : PlainGap) (text : List Char) (stop : Mark)
    (lexer : Lexer) : Except Fault (List Char × Mark × Lexer) :=
  if !(isGap lexer.peek || isBreak lexer.peek) then .ok (text, stop, lexer)
  else
    match plainGap mark indent (lexer.rest.length + 1) gap lexer with
    | .error fault => .error fault
    | .ok (gap, other) =>
        if !inFlow && other.column < indent then .ok (text, stop, other)
        else plainText mark indent fuel gap text stop other

structure EndsBehind (lexer : Lexer) (text : List Char) (stop : Mark) (result : List Char) (last : Mark) (after : Lexer) :
    Prop where
  moves : Moves lexer after
  stop_le : stop.index ≤ last.index
  last_le : last.index ≤ after.mark.index
  grows : text = [] → result ≠ [] → lexer.mark.index < last.index

theorem ends_behind_here (text : List Char) (stop : Mark) (lexer : Lexer) (stop_le : stop.index ≤ lexer.mark.index) :
    EndsBehind lexer text stop text stop lexer :=
  ⟨.refl lexer, Nat.le_refl _, stop_le, fun none some_ => absurd none some_⟩

theorem EndsBehind.trans {first second third : Lexer} {text more result : List Char} {stop next last : Mark}
    (one : EndsBehind first text stop more next second) (two : EndsBehind second more next result last third) :
    EndsBehind first text stop result last third := by
  refine ⟨one.moves.trans two.moves, Nat.le_trans one.stop_le two.stop_le, two.last_le, fun none some_ => ?_⟩
  by_cases empty : more = []
  · exact Nat.lt_of_le_of_lt one.moves.index_le (two.grows empty some_)
  · exact Nat.lt_of_lt_of_le (one.grows none empty) two.stop_le

theorem ends_behind_run (count : Nat) (text more : List Char) (stop : Mark) (lexer : Lexer) (long : 0 < count)
    (stop_le : stop.index ≤ lexer.mark.index) :
    EndsBehind lexer text stop more (lexer.advanceContent count).mark (lexer.advanceContent count) :=
  ⟨advance_content_moves lexer count, Nat.le_trans stop_le (Nat.le_add_right _ _), Nat.le_refl _,
    fun _ _ => Nat.lt_add_of_pos_right long⟩

section

variable (mark : Mark) (indent : Int) (fuel : Nat) (gap : PlainGap) (text result : List Char) (stop last : Mark)
  (lexer after : Lexer)

theorem plain_onward_moves (inFlow : Bool) (stop_le : stop.index ≤ lexer.mark.index)
    (rest : ∀ gap text stop lexer, stop.index ≤ lexer.mark.index →
      plainText mark indent fuel gap text stop lexer = .ok (result, last, after) → EndsBehind lexer text stop result last after)
    (found : plainOnward mark indent fuel inFlow gap text stop lexer = .ok (result, last, after)) :
    EndsBehind lexer text stop result last after := by
  unfold plainOnward at found
  split at found
  next =>
    cases found
    exact ends_behind_here _ _ _ stop_le
  next =>
    cases skipped : plainGap mark indent (lexer.rest.length + 1) gap lexer with
    | error fault => simp [skipped] at found
    | ok other =>
        have moves := plain_gap_moves mark indent _ gap other.1 lexer other.2 skipped
        have passed : EndsBehind lexer text stop text stop other.2 :=
          ⟨moves, Nat.le_refl _, Nat.le_trans stop_le moves.index_le, fun none some_ => absurd none some_⟩
        simp only [skipped] at found
        split at found
        next =>
          cases found
          exact passed
        next => exact passed.trans (rest _ _ _ _ passed.last_le found)

theorem plain_text_moves (stop_le : stop.index ≤ lexer.mark.index)
    (found : plainText mark indent fuel gap text stop lexer = .ok (result, last, after)) :
    EndsBehind lexer text stop result last after := by
  induction fuel generalizing gap text stop lexer with
  | zero =>
      cases found
      exact ends_behind_here _ _ _ stop_le
  | succ fuel ih =>
      rw [plainText] at found
      split at found
      next =>
        cases found
        exact ends_behind_here _ _ _ stop_le
      next =>
        split at found
        next => cases found
        next =>
          have tail := plain_onward_moves mark indent fuel
          by_cases none : (plainRun (decide (lexer.flowLevel > 0)) lexer.rest).isEmpty = true
          · simp only [none, if_true] at found
            exact tail _ _ _ _ _ _ _ _ stop_le ih found
          · simp only [none, Bool.false_eq_true, if_false] at found
            have long : 0 < (plainRun (decide (lexer.flowLevel > 0)) lexer.rest).length := by
              simpa [List.isEmpty_iff, List.length_pos_iff] using none
            exact (ends_behind_run _ text _ stop lexer long stop_le).trans
              (tail _ _ _ _ _ _ _ _ (Nat.le_refl _) ih found)

end

theorem escape_moves (mark : Mark) (lexer after : Lexer) (c : Char) (found : escape mark lexer = .ok (c, after)) :
    Moves lexer after := by
  unfold escape at found
  split at found
  next =>
    cases found
    exact advance_content_moves lexer 2
  next =>
    simp only at found
    split at found
    next =>
      split at found
      next =>
        cases found
        exact (advance_content_moves lexer 2).trans (advance_content_moves _ _)
      next => cases found
    next => cases found
  next => cases found

theorem quoted_run_moves (quote : Char) (mark : Mark) (fuel : Nat) (text result : List Char) (broken : Bool)
    (lexer after : Lexer) (found : quotedRun quote mark fuel text lexer = .ok (broken, result, after)) :
    Moves lexer after := by
  induction fuel generalizing text lexer with
  | zero =>
      cases found
      exact .refl after
  | succ fuel ih =>
      rw [quotedRun] at found
      split at found
      next =>
        cases found
        exact .refl after
      next =>
        split at found
        next =>
          split at found
          next => exact (advance_content_moves lexer 2).trans (ih _ _ found)
          next =>
            cases found
            exact .refl after
        next =>
          split at found
          next =>
            split at found
            next =>
              cases found
              exact (advance_content_moves lexer 1).trans (skip_break_moves _)
            next =>
              cases escaped : escape mark lexer with
              | error fault => simp [escaped] at found
              | ok other =>
                  simp only [escaped] at found
                  exact (escape_moves mark lexer other.2 other.1 escaped).trans (ih _ _ found)
          next => exact (advance_content_moves lexer 1).trans (ih _ _ found)

theorem quoted_gap_moves (fuel : Nat) (gap further : QuotedGap) (lexer after : Lexer)
    (found : quotedGap fuel gap lexer = .ok (further, after)) : Moves lexer after := by
  induction fuel generalizing gap lexer with
  | zero =>
      cases found
      exact .refl after
  | succ fuel ih =>
      rw [quotedGap] at found
      split at found
      next =>
        split at found
        next =>
          split at found
          next => cases found
          next => exact (advance_moves lexer 1).trans (ih _ _ found)
        next => exact (advance_moves lexer 1).trans (ih _ _ found)
      next =>
        split at found
        next =>
          split at found
          next => exact (skip_break_moves lexer).trans (ih _ _ found)
          next => exact (skip_break_moves lexer).trans (ih _ _ found)
        next =>
          cases found
          exact .refl after

theorem quoted_text_moves (quote : Char) (mark : Mark) (fuel : Nat) (text result : List Char) (lexer after : Lexer)
    (found : quotedText quote mark fuel text lexer = .ok (result, after)) : Moves lexer after := by
  induction fuel generalizing text lexer with
  | zero =>
      cases found
      exact .refl after
  | succ fuel ih =>
      rw [quotedText] at found
      split at found
      next => cases found
      next =>
        split at found
        next => cases found
        next =>
          split at found
          next => cases found
          next =>
            cases run : quotedRun quote mark (lexer.rest.length + 1) text lexer with
            | error fault => simp [run] at found
            | ok first =>
                obtain ⟨broken, text', middle⟩ := first
                have moves := quoted_run_moves quote mark _ text text' broken lexer middle run
                simp only [run] at found
                split at found
                next =>
                  cases found
                  exact moves
                next =>
                  cases skipped : quotedGap (middle.rest.length + 1) ⟨[], broken, false, 0⟩ middle with
                  | error fault => simp [skipped] at found
                  | ok other =>
                      simp only [skipped] at found
                      exact (moves.trans (quoted_gap_moves _ _ other.1 middle other.2 skipped)).trans (ih _ _ found)

theorem increment_moves (mark : Mark) (lexer after : Lexer) (count : Nat) (found : increment mark lexer = .ok (count, after)) :
    Moves lexer after := by
  unfold increment at found
  simp only at found
  split at found
  next => cases found
  next =>
    split at found
    next =>
      cases found
      exact advance_content_moves lexer 1
    next =>
      cases found
      exact .refl lexer

theorem block_header_moves (mark : Mark) (lexer after : Lexer) (chomping : Chomping) (count : Nat)
    (found : blockHeader mark lexer = .ok (chomping, count, after)) : Moves lexer after := by
  unfold blockHeader at found
  split at found
  next =>
    obtain ⟨counted, increments, same⟩ := Fault.bind_ok _ _ _ found
    cases same
    exact (advance_content_moves lexer 1).trans (increment_moves mark _ counted.2 counted.1 increments)
  next =>
    obtain ⟨⟨number, middle⟩, counted, rest⟩ := Fault.bind_ok _ _ _ found
    have moves := increment_moves mark lexer middle number counted
    simp only at rest
    split at rest
    next =>
      cases rest
      exact moves.trans (advance_content_moves _ 1)
    next =>
      cases rest
      exact moves

theorem skip_block_indent_moves (indent fuel breaks : Nat) (lexer : Lexer) :
    Moves lexer (skipBlockIndent indent fuel breaks lexer).2 := by
  induction fuel generalizing breaks lexer with
  | zero => exact .refl lexer
  | succ fuel ih =>
      rw [skipBlockIndent]
      split
      next => exact ((advance_moves lexer _).trans (skip_break_moves _)).trans (ih _ _)
      next => exact advance_moves lexer _

theorem skip_block_start_moves (fuel widest breaks : Nat) (lexer : Lexer) :
    Moves lexer (skipBlockStart fuel widest breaks lexer).2.2 := by
  induction fuel generalizing widest breaks lexer with
  | zero => exact .refl lexer
  | succ fuel ih =>
      rw [skipBlockStart]
      split
      next => exact ((skip_while_moves lexer _).trans (skip_break_moves _)).trans (ih _ _ _)
      next => exact skip_while_moves lexer _

theorem block_start_moves (count : Nat) (lexer : Lexer) : Moves lexer (blockStart count lexer).2.2 := by
  unfold blockStart
  split
  next => exact skip_block_indent_moves _ _ _ lexer
  next => exact skip_block_start_moves _ _ _ lexer

theorem block_lines_moves (folded : Bool) (indent fuel : Nat) (text : BlockText) (lexer : Lexer) :
    Moves lexer (blockLines folded indent fuel text lexer).2 := by
  induction fuel generalizing text lexer with
  | zero => exact .refl lexer
  | succ fuel ih =>
      rw [blockLines]
      split
      next => exact .refl lexer
      next =>
        have line : Moves lexer (lexer.takeWhile fun c => !isBreakOrEnd c).2 := skip_while_moves lexer _
        generalize (lexer.takeWhile fun c => !isBreakOrEnd c) = taken at line
        obtain ⟨found, middle⟩ := taken
        simp only at line ⊢
        split
        next => exact line
        next => exact ((line.trans (skip_break_moves _)).trans (skip_block_indent_moves _ _ _ _)).trans (ih _ _)

theorem uri_trail_moves (mark : Mark) (count code result : Nat) (lexer after : Lexer)
    (found : uriTrail mark count code lexer = .ok (result, after)) : Moves lexer after := by
  induction count generalizing code lexer with
  | zero =>
      cases found
      exact .refl after
  | succ count ih =>
      rw [uriTrail] at found
      split at found
      next => cases found
      next =>
        split at found
        next => exact (advance_content_moves lexer 3).trans (ih _ _ found)
        next => cases found

theorem uri_escape_moves (mark : Mark) (lexer after : Lexer) (c : Char) (found : uriEscape mark lexer = .ok (c, after)) :
    Moves lexer after := by
  unfold uriEscape at found
  split at found
  next => cases found
  next =>
    split at found
    next => cases found
    next =>
      obtain ⟨⟨code, middle⟩, trailed, rest⟩ := Fault.bind_ok _ _ _ found
      have moves := (advance_content_moves lexer 3).trans (uri_trail_moves mark _ _ code _ middle trailed)
      simp only at rest
      split at rest
      next =>
        cases rest
        exact moves
      next => cases rest

theorem uri_chars_from_moves (test : Char → Bool) (mark : Mark) (fuel : Nat) (text result : List Char) (lexer after : Lexer)
    (found : uriCharsFrom test mark fuel text lexer = .ok (result, after)) : Moves lexer after := by
  induction fuel generalizing text lexer with
  | zero =>
      cases found
      exact .refl after
  | succ fuel ih =>
      rw [uriCharsFrom] at found
      split at found
      next =>
        split at found
        next =>
          cases escaped : uriEscape mark lexer with
          | error fault => simp [escaped] at found
          | ok other =>
              simp only [escaped] at found
              exact (uri_escape_moves mark lexer other.2 other.1 escaped).trans (ih _ _ found)
        next => exact (advance_content_moves lexer 1).trans (ih _ _ found)
      next =>
        cases found
        exact .refl after

theorem uri_chars_moves (test : Char → Bool) (mark : Mark) (result : List Char) (lexer after : Lexer)
    (found : uriChars test mark lexer = .ok (result, after)) : Moves lexer after :=
  uri_chars_from_moves test mark _ _ result lexer after found

theorem tag_handle_moves (inDirective : Bool) (mark : Mark) (lexer after : Lexer) (handle : List Char)
    (found : tagHandle inDirective mark lexer = .ok (handle, after)) :
    Moves lexer after ∧ lexer.mark.index < after.mark.index := by
  unfold tagHandle at found
  split at found
  next =>
    have name : Moves lexer ((lexer.advanceContent 1).takeWhile isNameChar).2 :=
      (advance_content_moves lexer 1).trans (skip_while_moves _ _)
    have further : lexer.mark.index < ((lexer.advanceContent 1).takeWhile isNameChar).2.mark.index :=
      Nat.lt_of_lt_of_le (Nat.lt_succ_self _) (skip_while_moves (lexer.advanceContent 1) isNameChar).index_le
    generalize (lexer.advanceContent 1).takeWhile isNameChar = taken at name further found
    obtain ⟨text, middle⟩ := taken
    simp only at name further found
    split at found
    next =>
      cases found
      exact ⟨name.trans (advance_content_moves _ 1), Nat.lt_of_lt_of_le further (Nat.le_add_right _ _)⟩
    next =>
      split at found
      next => cases found
      next =>
        cases found
        exact ⟨name, further⟩
  next => cases found

theorem tag_start_moves (mark : Mark) (lexer after : Lexer) (start : List Char)
    (found : tagStart mark lexer = .ok (start, after)) : Moves lexer after := by
  unfold tagStart at found
  split at found
  next =>
    obtain ⟨read, reads, same⟩ := Fault.bind_ok _ _ _ found
    cases same
    exact (advance_content_moves lexer 1).trans (uri_chars_moves _ mark read.1 _ read.2 reads)
  next =>
    split at found
    next => exact uri_chars_moves _ mark start lexer after found
    next => cases found

theorem version_number_moves (mark : Mark) (lexer after : Lexer) (found : versionNumber mark lexer = .ok after) :
    Moves lexer after := by
  have digits : Moves lexer (lexer.takeWhile Char.isDigit).2 := skip_while_moves lexer _
  unfold versionNumber at found
  generalize lexer.takeWhile Char.isDigit = taken at digits found
  obtain ⟨text, middle⟩ := taken
  simp only at digits found
  split at found
  next => cases found
  next =>
    split at found
    next => cases found
    next =>
      cases found
      exact digits.trans (.still rfl rfl rfl)

theorem version_directive_moves (mark : Mark) (lexer after : Lexer) (kind : TokenKind)
    (found : versionDirective mark lexer = .ok (kind, after)) : Moves lexer after ∧ kind = .versionDirective := by
  obtain ⟨middle, major, rest⟩ := Fault.bind_ok _ _ _ found
  have moves := (skip_while_moves lexer isGap).trans (version_number_moves mark _ middle major)
  split at rest
  next =>
    obtain ⟨later, minor, same⟩ := Fault.bind_ok _ _ _ rest
    cases same
    exact ⟨(moves.trans (advance_content_moves _ 1)).trans (version_number_moves mark _ _ minor), rfl⟩
  next => cases rest

theorem tag_directive_moves (mark : Mark) (lexer after : Lexer) (kind : TokenKind)
    (found : tagDirective mark lexer = .ok (kind, after)) :
    Moves lexer after ∧ ∃ handle start, kind = .tagDirective handle start := by
  obtain ⟨⟨handle, middle⟩, handled, rest⟩ := Fault.bind_ok _ _ _ found
  obtain ⟨⟨start, later⟩, started, last⟩ := Fault.bind_ok _ _ _ rest
  have moves := ((skip_while_moves lexer isGap).trans (tag_handle_moves true mark _ middle handle handled).1).trans
    ((skip_while_moves middle isGap).trans (tag_start_moves mark _ later start started))
  simp only at last
  split at last
  next =>
    cases last
    exact ⟨moves, _, _, rfl⟩
  next => cases last

theorem verbatim_tag_moves (mark : Mark) (lexer after : Lexer) (kind : TokenKind)
    (found : verbatimTag mark lexer = .ok (kind, after)) : Moves lexer after ∧ ∃ handle rest, kind = .tag handle rest := by
  obtain ⟨⟨uri, middle⟩, reads, rest⟩ := Fault.bind_ok _ _ _ found
  have moves := uri_chars_moves _ mark uri lexer middle reads
  simp only at rest
  split at rest
  next =>
    cases rest
    exact ⟨moves.trans (advance_content_moves _ 1), _, _, rfl⟩
  next => cases rest

theorem short_tag_moves (mark : Mark) (lexer after : Lexer) (kind : TokenKind)
    (found : shortTag mark lexer = .ok (kind, after)) :
    Moves lexer after ∧ lexer.mark.index < after.mark.index ∧ ∃ handle rest, kind = .tag handle rest := by
  obtain ⟨⟨handle, middle⟩, handled, rest⟩ := Fault.bind_ok _ _ _ found
  obtain ⟨⟨text, later⟩, reads, last⟩ := Fault.bind_ok _ _ _ rest
  obtain ⟨first, further⟩ := tag_handle_moves false mark lexer middle handle handled
  have second := uri_chars_moves _ mark text middle later reads
  have moves := first.trans second
  have beyond := Nat.lt_of_lt_of_le further second.index_le
  simp only at last
  split at last
  next =>
    split at last
    next => cases last
    next =>
      cases last
      exact ⟨moves, beyond, _, _, rfl⟩
  next =>
    split at last
    next =>
      cases last
      exact ⟨moves, beyond, _, _, rfl⟩
    next =>
      cases last
      exact ⟨moves, beyond, _, _, rfl⟩

theorem after_colon_moves (lexer after : Lexer) (found : lexer.afterColon = .ok after) : Moves lexer after := by
  unfold afterColon at found
  split at found
  next =>
    obtain ⟨⟨gaps, middle⟩, skipped, rest⟩ := Fault.bind_ok _ _ _ found
    have moves := (skip_to_line_end_moves lexer middle gaps skipped).1
    simp only at rest
    split at rest
    next => cases rest
    next =>
      cases rest
      exact moves
  next =>
    cases found
    exact .refl lexer

end Lexer
end YamlDialects.Yaml
