import YamlDialects.Proofs.Yaml.Token.Motion

set_option autoImplicit false

namespace YamlDialects.Yaml

def written (chars : List Char) (start stop : Nat) : List Char :=
  (chars.drop start).take (stop - start)

theorem written_append (chars : List Char) (start middle stop : Nat) (lower : start ≤ middle) (upper : middle ≤ stop) :
    written chars start middle ++ written chars middle stop = written chars start stop := by
  unfold written
  obtain ⟨count, rfl⟩ := Nat.exists_eq_add_of_le lower
  obtain ⟨further, rfl⟩ := Nat.exists_eq_add_of_le upper
  rw [Nat.add_sub_cancel_left, Nat.add_sub_cancel_left, Nat.add_assoc, Nat.add_sub_cancel_left, ← List.drop_drop, List.take_add]

theorem written_of_drop (chars part more : List Char) (start : Nat) (rest : chars.drop start = part ++ more) :
    written chars start (start + part.length) = part := by
  rw [written, Nat.add_sub_cancel_left, rest, List.take_left]

def StartsLine (chars : List Char) (place : Nat) : Prop :=
  ∃ broken c, broken < place ∧ chars[broken]? = some c ∧ isBreak c = true ∧
    ∀ space ∈ written chars (broken + 1) place, space = ' '

def Marked (chars : List Char) (place : Nat) : Prop :=
  (∃ c ∈ [ '\'', '"', '|', '>'], chars[place]? = some c) ∨ StartsLine chars place

def Breaks (chars : List Char) : Prop :=
  ∃ blanks c rest, chars = blanks ++ c :: rest ∧ (∀ blank ∈ blanks, isGap blank = true) ∧ isBreak c = true

-- A plain scalar conveys what is written up to its first line break. From there on breaks are folded.
def Conveys (writing reading : List Char) : Prop :=
  ∃ line more told, writing = line ++ more ∧ reading = line ++ told ∧
    ((more = [] ∧ told = []) ∨ (Breaks more ∧ ∀ c ∈ told, c = ' ' ∨ c = '\n' ∨ c ∈ more))

def Spelled (chars : List Char) (span : Span) : ScalarStyle → String → Prop
  | .plain, text => Conveys (written chars span.start.index span.stop.index) text.toList
  | _, _ => Marked chars span.start.index

theorem spelled_of_marked (chars : List Char) (span : Span) (style : ScalarStyle) (text : String) (other : style ≠ .plain)
    (marked : Marked chars span.start.index) : Spelled chars span style text := by
  cases style with
  | plain => exact absurd rfl other
  | _ => exact marked

namespace Lexer

theorem moves_rest (chars : List Char) (before after : Lexer) (moves : Moves before after)
    (rest : before.rest = chars.drop before.mark.index) : after.rest = chars.drop after.mark.index := by
  obtain ⟨⟨count, onward, index, -⟩, -⟩ := moves
  rw [onward, rest, List.drop_drop, index]

theorem peek_cons (lexer : Lexer) (some_ : isEnd lexer.peek = false) : ∃ more, lexer.rest = lexer.peek :: more := by
  unfold peek at some_ ⊢
  cases rest : lexer.rest with
  | nil =>
      rw [rest] at some_
      cases some_
  | cons first more => exact ⟨more, rfl⟩

theorem gap_unended (c : Char) (gap : isGap c = true) : isEnd c = false := by
  have either : c = ' ' ∨ c = '\t' := by simpa [isGap] using gap
  rcases either with rfl | rfl <;> decide

theorem break_unended (c : Char) (broken : isBreak c = true) : isEnd c = false := by
  have either : c = '\n' ∨ c = '\r' := by simpa [isBreak] using broken
  rcases either with rfl | rfl <;> decide

theorem read_peek (chars : List Char) (lexer : Lexer) (rest : lexer.rest = chars.drop lexer.mark.index)
    (some_ : isEnd lexer.peek = false) : chars[lexer.mark.index]? = some lexer.peek := by
  obtain ⟨more, starts⟩ := peek_cons lexer some_
  rw [rest] at starts
  rw [← List.head?_drop, starts, List.head?_cons]

theorem skip_break_read (chars : List Char) (lexer : Lexer) (rest : lexer.rest = chars.drop lexer.mark.index)
    (broken : isBreak lexer.peek = true) : ∃ place c, chars[place]? = some c ∧ isBreak c = true ∧
      lexer.skipBreak.mark.index = place + 1 := by
  unfold skipBreak
  simp only [broken, if_true]
  split
  next both =>
    obtain ⟨-, feed⟩ := Bool.and_eq_true_iff.mp both
    have second : chars[lexer.mark.index + 1]? = some '\n' := by
      rw [beq_iff_eq, peekAt, rest, List.getD_eq_getElem?_getD, List.getElem?_drop] at feed
      cases read : chars[lexer.mark.index + 1]? with
      | none =>
          rw [read] at feed
          cases feed
      | some c =>
          rw [read] at feed
          exact congrArg some feed
    exact ⟨lexer.mark.index + 1, '\n', second, rfl, rfl⟩
  next => exact ⟨lexer.mark.index, lexer.peek, read_peek chars lexer rest (break_unended _ broken), broken, rfl⟩

theorem breaks_append (chars more : List Char) (breaks : Breaks chars) : Breaks (chars ++ more) := by
  obtain ⟨blanks, c, rest, rfl, gaps, broken⟩ := breaks
  exact ⟨blanks, c, rest ++ more, by rw [List.append_assoc, List.cons_append], gaps, broken⟩

structure PlainRead (chars : List Char) (start : Nat) (gap : PlainGap) (text : List Char) (stop : Mark) (lexer : Lexer) :
    Prop where
  rest : lexer.rest = chars.drop lexer.mark.index
  start_le : start ≤ stop.index
  stop_le : stop.index ≤ lexer.mark.index
  conveys : Conveys (written chars start stop.index) text.reverse
  blank : gap.breaks = 0 → gap.blanks.reverse = written chars stop.index lexer.mark.index ∧
    (∀ blank ∈ gap.blanks, isGap blank = true) ∧ lexer.atLineStart = false
  broken : 0 < gap.breaks → Breaks (written chars stop.index lexer.mark.index)

theorem peek_written (chars : List Char) (lexer : Lexer) (rest : lexer.rest = chars.drop lexer.mark.index)
    (some_ : isEnd lexer.peek = false) (stop : Nat) (further : lexer.mark.index < stop) :
    ∃ more, written chars lexer.mark.index stop = lexer.peek :: more := by
  obtain ⟨more, starts⟩ := peek_cons lexer some_
  obtain ⟨count, rfl⟩ := Nat.exists_eq_add_of_lt further
  refine ⟨more.take count, ?_⟩
  rw [written, ← rest, starts, show lexer.mark.index + count + 1 - lexer.mark.index = count + 1 by omega, List.take_succ_cons]

theorem plain_read_moves (chars : List Char) (start : Nat) (gap : PlainGap) (text : List Char) (stop : Mark) (lexer after : Lexer)
    (reads : PlainRead chars start gap text stop lexer) (behind : 0 < gap.breaks) (moves : Moves lexer after) :
    PlainRead chars start gap text stop after := by
  refine ⟨moves_rest chars lexer after moves reads.rest, reads.start_le, Nat.le_trans reads.stop_le moves.index_le, reads.conveys,
    fun none => by omega, fun _ => ?_⟩
  rw [← written_append chars stop.index lexer.mark.index _ reads.stop_le moves.index_le]
  exact breaks_append _ _ (reads.broken behind)

theorem skip_break_further (lexer : Lexer) (broken : isBreak lexer.peek = true) :
    lexer.mark.index < lexer.skipBreak.mark.index := by
  unfold skipBreak
  simp only [broken, if_true]
  split
  next => exact Nat.lt_add_of_pos_right (by decide)
  next => exact Nat.lt_succ_self _

theorem plain_read_break (chars : List Char) (start : Nat) (gap : PlainGap) (text : List Char) (stop : Mark) (lexer : Lexer)
    (reads : PlainRead chars start gap text stop lexer) (broken : isBreak lexer.peek = true) :
    PlainRead chars start { gap with breaks := gap.breaks + 1 } text stop lexer.skipBreak := by
  have further := skip_break_further lexer broken
  have moves := skip_break_moves lexer
  refine ⟨moves_rest chars lexer _ moves reads.rest, reads.start_le, Nat.le_trans reads.stop_le moves.index_le, reads.conveys,
    nofun, fun _ => ?_⟩
  rw [← written_append chars stop.index lexer.mark.index _ reads.stop_le moves.index_le]
  rcases Nat.eq_zero_or_pos gap.breaks with none | some_
  · obtain ⟨blanks, gaps, -⟩ := reads.blank none
    obtain ⟨more, starts⟩ := peek_written chars lexer reads.rest (break_unended _ broken) _ further
    rw [starts, ← blanks]
    exact ⟨gap.blanks.reverse, lexer.peek, more, rfl, fun blank member => gaps blank (List.mem_reverse.mp member), broken⟩
  · exact breaks_append _ _ (reads.broken some_)

theorem plain_gap_reads (chars : List Char) (start : Nat) (mark : Mark) (indent : Int) (fuel : Nat) (gap further : PlainGap)
    (text : List Char) (stop : Mark) (lexer after : Lexer) (reads : PlainRead chars start gap text stop lexer)
    (found : plainGap mark indent fuel gap lexer = .ok (further, after)) : PlainRead chars start further text stop after := by
  induction fuel generalizing gap lexer with
  | zero =>
      cases found
      exact reads
  | succ fuel ih =>
      rw [plainGap] at found
      split at found
      next isBlank =>
        split at found
        next inLine =>
          -- one more blank on the line
          refine ih _ _ ?_ found
          have longer := written_append chars stop.index lexer.mark.index (lexer.mark.index + 1) reads.stop_le (Nat.le_succ _)
          refine ⟨moves_rest chars lexer _ (advance_moves lexer 1) reads.rest, reads.start_le, Nat.le_succ_of_le reads.stop_le,
            reads.conveys, fun none => ?_, fun some_ => ?_⟩
          · obtain ⟨blanks, gaps, atStart⟩ := reads.blank none
            refine ⟨?_, List.forall_mem_cons.mpr ⟨isBlank, gaps⟩, atStart⟩
            change (lexer.peek :: gap.blanks).reverse = written chars stop.index (lexer.mark.index + 1)
            obtain ⟨more, starts⟩ := peek_cons lexer (gap_unended _ isBlank)
            rw [List.reverse_cons, blanks, ← longer]
            exact congrArg _ (written_of_drop chars [lexer.peek] more lexer.mark.index (by rw [← reads.rest, starts]; rfl)).symm
          · change Breaks (written chars stop.index (lexer.mark.index + 1))
            rw [← longer]
            exact breaks_append _ _ (reads.broken some_)
        next atStart =>
          have behind : 0 < gap.breaks := by
            refine Nat.pos_of_ne_zero fun none => atStart ?_
            rw [(reads.blank none).2.2]
            rfl
          split at found
          next =>
            cases skipped : lexer.skipToLineEnd with
            | error fault => simp [skipped] at found
            | ok result =>
                simp only [skipped] at found
                split at found
                next =>
                  exact ih _ _ (plain_read_moves chars start gap text stop lexer result.2 reads behind
                    (skip_to_line_end_moves lexer result.2 result.1 skipped).1) found
                next => cases found
          next => exact ih _ _ (plain_read_moves chars start gap text stop lexer _ reads behind (advance_moves lexer 1)) found
      next =>
        split at found
        next broken => exact ih _ _ (plain_read_break chars start gap text stop lexer reads broken) found
        next =>
          cases found
          exact reads

theorem plain_run_begins (inFlow : Bool) (chars : List Char) : plainRun inFlow chars <+: chars := by
  induction chars with
  | nil => exact List.prefix_rfl
  | cons c rest ih =>
      rw [plainRun]
      split
      · exact (List.prefix_cons_inj c).mpr ih
      · exact List.nil_prefix

theorem gap_text_spec (gap : PlainGap) (c : Char) (member : c ∈ gap.text) :
    c = ' ' ∨ c = '\n' ∨ (gap.breaks = 0 ∧ c ∈ gap.blanks) := by
  unfold PlainGap.text at member
  split at member
  next none => exact .inr (.inr ⟨none, member⟩)
  next => exact .inl (List.mem_singleton.mp member)
  next => exact .inr (.inl (List.eq_of_mem_replicate member))

theorem plain_read_run (chars : List Char) (start : Nat) (gap : PlainGap) (text : List Char) (stop : Mark) (lexer : Lexer)
    (run : List Char) (begins : run <+: lexer.rest) (reads : PlainRead chars start gap text stop lexer) :
    PlainRead chars start .none (run.reverse ++ (gap.text ++ text)) (lexer.advanceContent run.length).mark
      (lexer.advanceContent run.length) := by
  obtain ⟨after, whole⟩ := begins
  have lower := Nat.le_trans reads.start_le reads.stop_le
  have here : written chars lexer.mark.index (lexer.mark.index + run.length) = run :=
    written_of_drop chars run after _ (by rw [← reads.rest, whole])
  have all : written chars start (lexer.mark.index + run.length) =
      written chars start stop.index ++ (written chars stop.index lexer.mark.index ++ run) := by
    rw [← written_append chars start lexer.mark.index _ lower (Nat.le_add_right _ _), here,
      ← written_append chars start stop.index _ reads.start_le reads.stop_le, List.append_assoc]
  refine ⟨moves_rest chars lexer _ (advance_content_moves lexer _) reads.rest, Nat.le_trans lower (Nat.le_add_right _ _),
    Nat.le_refl _, ?_, fun _ => ⟨?_, List.forall_mem_nil _, rfl⟩, fun broken => absurd broken (Nat.lt_irrefl 0)⟩
  · change Conveys (written chars start (lexer.mark.index + run.length)) _
    have told : (run.reverse ++ (gap.text ++ text)).reverse = text.reverse ++ (gap.text.reverse ++ run) := by simp
    -- the gap and the run, once they are behind a break
    have behind : ∀ c ∈ gap.text.reverse ++ run, c = ' ' ∨ c = '\n' ∨ c ∈ written chars stop.index lexer.mark.index ++ run := by
      intro c member
      rcases List.mem_append.mp member with inGap | inRun
      · refine (gap_text_spec gap c (List.mem_reverse.mp inGap)).imp_right (Or.imp_right fun blank => ?_)
        rw [← (reads.blank blank.1).1]
        exact List.mem_append_left _ (List.mem_reverse.mpr blank.2)
      · exact .inr (.inr (List.mem_append_right _ inRun))
    rw [all, told]
    obtain ⟨line, more, rest, writing, reading, cases_⟩ := reads.conveys
    rw [writing, reading]
    rcases cases_ with ⟨rfl, rfl⟩ | ⟨breaks, folded⟩
    · rw [List.append_nil]
      rcases Nat.eq_zero_or_pos gap.breaks with none | some_
      · have spaces : gap.text = gap.blanks := by rw [PlainGap.text, none]
        refine ⟨line ++ (gap.blanks.reverse ++ run), [], [], ?_, ?_, .inl ⟨rfl, rfl⟩⟩
        · rw [List.append_nil, (reads.blank none).1]
        · rw [List.append_nil, spaces]
      · exact ⟨line, _, _, rfl, rfl, .inr ⟨breaks_append _ _ (reads.broken some_), behind⟩⟩
    · refine ⟨line, _, _, List.append_assoc _ _ _, List.append_assoc _ _ _, .inr ⟨breaks_append _ _ breaks, fun c member => ?_⟩⟩
      rcases List.mem_append.mp member with old | new
      · exact (folded c old).imp_right (Or.imp_right (List.mem_append_left _))
      · exact (behind c new).imp_right (Or.imp_right (List.mem_append_right _))
  · rw [written, Nat.sub_self, List.take_zero]
    rfl

section

variable (chars : List Char) (start : Nat) (mark : Mark) (indent : Int) (fuel : Nat) (gap : PlainGap) (text result : List Char)
  (stop last : Mark) (lexer after : Lexer)

theorem plain_onward_reads (inFlow : Bool) (reads : PlainRead chars start gap text stop lexer)
    (onward : ∀ gap text stop lexer, PlainRead chars start gap text stop lexer →
      plainText mark indent fuel gap text stop lexer = .ok (result, last, after) →
        ∃ further middle, PlainRead chars start further result last middle)
    (found : plainOnward mark indent fuel inFlow gap text stop lexer = .ok (result, last, after)) :
    ∃ further middle, PlainRead chars start further result last middle := by
  unfold plainOnward at found
  split at found
  next =>
    cases found
    exact ⟨gap, _, reads⟩
  next =>
    cases skipped : plainGap mark indent (lexer.rest.length + 1) gap lexer with
    | error fault => simp [skipped] at found
    | ok other =>
        have behind := plain_gap_reads chars start mark indent _ gap other.1 text stop lexer other.2 reads skipped
        simp only [skipped] at found
        split at found
        next =>
          cases found
          exact ⟨_, _, behind⟩
        next => exact onward _ _ _ _ behind found

theorem plain_text_reads (reads : PlainRead chars start gap text stop lexer)
    (found : plainText mark indent fuel gap text stop lexer = .ok (result, last, after)) :
    ∃ further middle, PlainRead chars start further result last middle := by
  induction fuel generalizing gap text stop lexer with
  | zero =>
      cases found
      exact ⟨gap, _, reads⟩
  | succ fuel ih =>
      rw [plainText] at found
      split at found
      next =>
        cases found
        exact ⟨gap, _, reads⟩
      next =>
        split at found
        next => cases found
        next =>
          have tail := plain_onward_reads chars start mark indent fuel
          by_cases none : (plainRun (decide (lexer.flowLevel > 0)) lexer.rest).isEmpty = true
          · simp only [none, if_true] at found
            exact tail _ _ _ _ _ _ _ _ reads ih found
          · simp only [none, Bool.false_eq_true, if_false] at found
            exact tail _ _ _ _ _ _ _ _ (plain_read_run chars start gap text stop lexer _
              (plain_run_begins _ lexer.rest) reads) ih found

end

theorem plain_text_starts (chars : List Char) (mark : Mark) (indent : Int) (fuel : Nat) (result : List Char) (last : Mark)
    (lexer after : Lexer) (rest : lexer.rest = chars.drop lexer.mark.index) (visible : isGap lexer.peek = false)
    (unbroken : isBreak lexer.peek = false) (some_ : result ≠ [])
    (found : plainText mark indent (fuel + 1) .none [] lexer.mark lexer = .ok (result, last, after)) :
    ∃ further middle, PlainRead chars lexer.mark.index further result last middle := by
  have nothing : written chars lexer.mark.index lexer.mark.index = [] := by rw [written, Nat.sub_self, List.take_zero]
  rw [plainText] at found
  split at found
  next =>
    cases found
    exact absurd rfl some_
  next =>
    split at found
    next => cases found
    next =>
      by_cases none : (plainRun (decide (lexer.flowLevel > 0)) lexer.rest).isEmpty = true
      · simp only [none, visible, unbroken, if_true, Bool.or_self, Bool.not_false] at found
        cases found
        exact absurd rfl some_
      · simp only [none, Bool.false_eq_true, if_false] at found
        -- a run can stand at the start of a line
        have begins : PlainRead chars lexer.mark.index .none [] lexer.mark { lexer with atLineStart := false } :=
          ⟨rest, Nat.le_refl _, Nat.le_refl _, by rw [nothing]; exact ⟨[], [], [], rfl, rfl, .inl ⟨rfl, rfl⟩⟩,
            fun _ => ⟨nothing.symm, List.forall_mem_nil _, rfl⟩, fun broken => absurd broken (Nat.lt_irrefl 0)⟩
        have run := plain_read_run chars lexer.mark.index .none [] lexer.mark { lexer with atLineStart := false } _
          (plain_run_begins (decide (lexer.flowLevel > 0)) lexer.rest) begins
        exact plain_onward_reads chars lexer.mark.index mark indent fuel _ _ _ _ _ _ _ _ run
          (fun gap text stop lexer => plain_text_reads chars _ mark indent fuel gap text result stop last lexer after) found

theorem plain_spelled (chars : List Char) (mark : Mark) (indent : Int) (fuel : Nat) (result : List Char) (last : Mark)
    (lexer after : Lexer) (rest : lexer.rest = chars.drop lexer.mark.index) (visible : isGap lexer.peek = false)
    (unbroken : isBreak lexer.peek = false) (some_ : result ≠ [])
    (found : plainText mark indent (fuel + 1) .none [] lexer.mark lexer = .ok (result, last, after)) :
    Spelled chars ⟨lexer.mark, last⟩ .plain (String.ofList result.reverse) := by
  obtain ⟨_, _, reads⟩ := plain_text_starts chars mark indent fuel result last lexer after rest visible unbroken some_ found
  have conveys := reads.conveys
  rwa [← String.toList_ofList (l := result.reverse)] at conveys

theorem skip_while_shorter (lexer : Lexer) (test : Char → Bool) (holds : test lexer.peek = true)
    (some_ : isEnd lexer.peek = false) : (lexer.skipWhile test).rest.length < lexer.rest.length := by
  obtain ⟨more, starts⟩ := peek_cons lexer some_
  generalize lexer.peek = c at holds starts
  change (lexer.rest.drop (lexer.rest.takeWhile test).length).length < lexer.rest.length
  rw [starts, List.takeWhile_cons_of_pos holds, List.length_cons, List.drop_succ_cons, List.length_drop, List.length_cons]
  omega

theorem advance_shorter (lexer : Lexer) (some_ : isEnd lexer.peek = false) : (lexer.advance 1).rest.length < lexer.rest.length := by
  obtain ⟨more, starts⟩ := peek_cons lexer some_
  change (lexer.rest.drop 1).length < lexer.rest.length
  rw [starts]
  exact Nat.lt_succ_self _

theorem skip_break_shorter (lexer : Lexer) (broken : isBreak lexer.peek = true) :
    lexer.skipBreak.rest.length < lexer.rest.length := by
  obtain ⟨more, starts⟩ := peek_cons lexer (break_unended _ broken)
  have long : 0 < lexer.rest.length := by rw [starts]; exact Nat.succ_pos _
  unfold skipBreak
  simp only [broken, if_true]
  split
  next => exact Nat.lt_of_le_of_lt (Nat.le_of_eq (List.length_drop ..)) (by omega)
  next => exact Nat.lt_of_le_of_lt (Nat.le_of_eq (List.length_drop ..)) (by omega)

theorem skip_to_line_end_shorter (lexer after : Lexer) (gaps : Gaps) (gap : isGap lexer.peek = true)
    (skips : lexer.skipToLineEnd = .ok (gaps, after)) : after.rest.length < lexer.rest.length := by
  have shorter := skip_while_shorter lexer isGap gap (gap_unended _ gap)
  unfold skipToLineEnd takeWhile at skips
  simp only at skips
  split at skips
  next =>
    split at skips
    next => cases skips
    next =>
      cases skips
      have comment : (lexer.skipWhile isGap).skipComment.rest.length ≤ (lexer.skipWhile isGap).rest.length :=
        Nat.le_trans (Nat.le_of_eq List.length_drop) (Nat.sub_le _ _)
      exact Nat.lt_of_le_of_lt comment shorter
  next =>
    cases skips
    exact shorter

theorem skip_to_token_from_ends (fuel : Nat) (lexer after : Lexer) (enough : lexer.rest.length < fuel)
    (found : skipToTokenFrom fuel lexer = .ok after) : isGap after.peek = false ∧ isBreak after.peek = false := by
  induction fuel generalizing lexer with
  | zero => omega
  | succ fuel ih =>
      rw [skipToTokenFrom] at found
      split at found
      next tab =>
        have isTab : lexer.peek = '\t' := by
          simp only [atTabIndentation, Bool.and_eq_true, beq_iff_eq] at tab
          exact tab.1.1.1
        cases skipped : lexer.skipToLineEnd with
        | error fault => simp [skipped] at found
        | ok result =>
            simp only [skipped] at found
            split at found
            next =>
              have shorter := skip_to_line_end_shorter lexer result.2 result.1 (by rw [isTab]; rfl) skipped
              exact ih result.2 (by omega) found
            next => cases found
      next =>
        split at found
        next gap =>
          have shorter := advance_shorter lexer (gap_unended _ gap)
          exact ih _ (by omega) found
        next noGap =>
          split at found
          next broken =>
            have shorter := skip_break_shorter lexer broken
            refine ih _ ?_ found
            split
            · exact Nat.lt_of_lt_of_le shorter (by omega)
            · omega
          next noBreak =>
            split at found
            next hash =>
              have isHash : lexer.peek = '#' := beq_iff_eq.mp hash
              have shorter := skip_while_shorter lexer (fun c => !isBreakOrEnd c) (by rw [isHash]; rfl) (by rw [isHash]; rfl)
              exact ih _ (Nat.lt_of_lt_of_le shorter (by omega)) found
            next =>
              cases found
              exact ⟨Bool.eq_false_iff.mpr noGap, Bool.eq_false_iff.mpr noBreak⟩

theorem skip_to_token_ends (lexer after : Lexer) (found : lexer.skipToToken = .ok after) :
    isGap after.peek = false ∧ isBreak after.peek = false :=
  skip_to_token_from_ends _ lexer after (Nat.lt_succ_self _) found

theorem starts_line_spaces (chars : List Char) (lexer : Lexer) (count : Nat) (rest : lexer.rest = chars.drop lexer.mark.index)
    (spaces : ∀ c ∈ lexer.rest.take count, c = ' ') (starts : StartsLine chars lexer.mark.index) :
    StartsLine chars (lexer.advance count).mark.index := by
  obtain ⟨place, c, lower, read, broken, before⟩ := starts
  refine ⟨place, c, Nat.lt_of_lt_of_le lower (Nat.le_add_right _ _), read, broken, ?_⟩
  change ∀ space ∈ written chars (place + 1) (lexer.mark.index + count), space = ' '
  rw [← written_append chars (place + 1) lexer.mark.index _ lower (Nat.le_add_right _ _)]
  refine List.forall_mem_append.mpr ⟨before, ?_⟩
  rw [written, Nat.add_sub_cancel_left, ← rest]
  exact spaces

theorem starts_line_break (chars : List Char) (lexer : Lexer) (rest : lexer.rest = chars.drop lexer.mark.index)
    (broken : isBreak lexer.peek = true) : StartsLine chars lexer.skipBreak.mark.index := by
  obtain ⟨place, c, read, isBroken, index⟩ := skip_break_read chars lexer rest broken
  rw [index]
  refine ⟨place, c, Nat.lt_succ_self _, read, isBroken, ?_⟩
  rw [written, Nat.sub_self, List.take_zero]
  exact List.forall_mem_nil _

theorem spaces_taken (chars : List Char) (count : Nat) :
    ∀ c ∈ chars.take ((chars.take count).takeWhile (· == ' ')).length, c = ' ' := by
  intro c member
  have inside : (chars.take count).takeWhile (· == ' ') <+: chars := (List.takeWhile_prefix _).trans (List.take_prefix _ _)
  rw [← List.prefix_iff_eq_take.mp inside] at member
  exact beq_iff_eq.mp (List.all_eq_true.mp List.all_takeWhile c member)

theorem skip_block_indent_starts (chars : List Char) (indent fuel breaks : Nat) (lexer : Lexer)
    (rest : lexer.rest = chars.drop lexer.mark.index) (starts : StartsLine chars lexer.mark.index) :
    StartsLine chars (skipBlockIndent indent fuel breaks lexer).2.mark.index := by
  induction fuel generalizing breaks lexer with
  | zero => exact starts
  | succ fuel ih =>
      rw [skipBlockIndent]
      have onward := moves_rest chars lexer _
        (advance_moves lexer ((lexer.rest.take (indent - lexer.mark.column)).takeWhile (· == ' ')).length) rest
      split
      next broken =>
        exact ih _ _ (moves_rest chars _ _ (skip_break_moves _) onward) (starts_line_break chars _ onward broken)
      next => exact starts_line_spaces chars lexer _ rest (spaces_taken lexer.rest _) starts

theorem skip_block_start_starts (chars : List Char) (fuel widest breaks : Nat) (lexer : Lexer)
    (rest : lexer.rest = chars.drop lexer.mark.index) (starts : StartsLine chars lexer.mark.index) :
    StartsLine chars (skipBlockStart fuel widest breaks lexer).2.2.mark.index := by
  induction fuel generalizing widest breaks lexer with
  | zero => exact starts
  | succ fuel ih =>
      rw [skipBlockStart]
      have onward := moves_rest chars lexer _ (skip_while_moves lexer (· == ' ')) rest
      split
      next broken =>
        exact ih _ _ _ (moves_rest chars _ _ (skip_break_moves _) onward) (starts_line_break chars _ onward broken)
      next =>
        have spaces := spaces_taken lexer.rest lexer.rest.length
        rw [List.take_length] at spaces
        exact starts_line_spaces chars lexer _ rest spaces starts

theorem block_start_starts (chars : List Char) (count : Nat) (lexer : Lexer) (rest : lexer.rest = chars.drop lexer.mark.index)
    (starts : StartsLine chars lexer.mark.index) : StartsLine chars (blockStart count lexer).2.2.mark.index := by
  rw [blockStart]
  split
  · exact skip_block_indent_starts chars _ _ _ lexer rest starts
  · exact skip_block_start_starts chars _ _ _ lexer rest starts

theorem block_start_ended (count : Nat) (lexer : Lexer) (ended : isEnd lexer.peek = true) :
    isEnd (blockStart count lexer).2.2.peek = true := by
  have none : ∀ limit, (lexer.rest.take limit).takeWhile (· == ' ') = [] := by
    intro limit
    unfold peek at ended
    cases rest : lexer.rest with
    | nil => rw [List.take_nil, List.takeWhile_nil]
    | cons c more =>
        rw [rest, List.headD_cons] at ended
        have other : (c == ' ') = false := by
          rw [beq_iff_eq.mp ended]
          decide
        cases limit with
        | zero => rfl
        | succ limit => rw [List.take_succ_cons, List.takeWhile_cons_of_neg (by simp [other])]
  have same : lexer.advance 0 = lexer := rfl
  have unbroken : isBreak lexer.peek = false := by
    rw [beq_iff_eq.mp ended]
    decide
  rw [blockStart]
  split
  · simp only [skipBlockIndent, none, List.length_nil, same, unbroken, Bool.false_eq_true, if_false]
    exact ended
  · have whole := none lexer.rest.length
    rw [List.take_length] at whole
    rw [skipBlockStart]
    simp only [skipWhile, whole, List.length_nil, same, unbroken, Bool.false_eq_true, if_false]
    exact ended

theorem block_starts_line (chars : List Char) (count : Nat) (line : Lexer) (rest : line.rest = chars.drop line.mark.index)
    (headed : isBreakOrEnd line.peek = true) (unended : isEnd (blockStart count line.skipBreak).2.2.peek = false) :
    StartsLine chars (blockStart count line.skipBreak).2.2.mark.index := by
  by_cases broken : isBreak line.peek = true
  · exact block_start_starts chars count _ (moves_rest chars _ _ (skip_break_moves line) rest) (starts_line_break chars line rest broken)
  · have ended : isEnd line.peek = true := by simpa [isBreakOrEnd, broken] using headed
    have same : line.skipBreak = line := by
      have other : line.peek ≠ '\r' := fun is => broken (by rw [is]; rfl)
      simp [skipBreak, broken, other]
    rw [same, block_start_ended count line ended] at unended
    cases unended

end Lexer
end YamlDialects.Yaml
