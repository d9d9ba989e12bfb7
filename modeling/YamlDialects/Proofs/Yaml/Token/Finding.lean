import YamlDialects.Proofs.Yaml.Token.Order

set_option autoImplicit false

namespace YamlDialects.Yaml.Lexer

def place (chars : List Char) (lexer : Lexer) : Nat :=
  Token.place chars ⟨.empty lexer.mark, .blockEnd⟩

theorem index_le_place (chars : List Char) (lexer : Lexer) : lexer.mark.index ≤ lexer.place chars :=
  Token.start_le_place chars ⟨.empty lexer.mark, .blockEnd⟩

theorem peek_eq (chars : List Char) (lexer : Lexer) (rest : lexer.rest = chars.drop lexer.mark.index) :
    lexer.peek = chars.getD lexer.mark.index nul := by
  rw [peek, rest, List.headD_eq_head?_getD, List.head?_drop, List.getD_eq_getElem?_getD]

theorem place_congr (chars : List Char) (first second : Lexer) (index : second.mark.index = first.mark.index) :
    second.place chars = first.place chars := by
  change second.mark.index + (if isEnd (chars.getD second.mark.index nul) then 1 else 0) = _
  rw [index]
  rfl

theorem place_eq (chars : List Char) (lexer : Lexer) (rest : lexer.rest = chars.drop lexer.mark.index) :
    lexer.place chars = lexer.mark.index + if isEnd lexer.peek then 1 else 0 := by
  rw [peek_eq chars lexer rest]
  rfl

-- What is known behind a dash: it was found last, and what is next on its line is indented more than its block.
structure AfterDash (chars : List Char) (lexer : Lexer) (dash : Token) : Prop where
  finish_le : dash.finish chars ≤ lexer.mark.index
  level : lexer.flowLevel = 0
  keys : lexer.keys = [none]
  deeper : dash.finish chars + 1 ≤ lexer.place chars ∨ (lexer.base < lexer.column ∧ 1 ≤ lexer.mark.column)

def Dashed (chars : List Char) (lexer : Lexer) : Prop :=
  ∀ last ∈ lexer.tokens.toList.getLast?, last.kind = .blockEntry → AfterDash chars lexer last

structure Steady (chars : List Char) (lexer : Lexer) : Prop where
  orderly : Orderly chars lexer (lexer.place chars)
  dashed : Dashed chars lexer

structure Ready (chars : List Char) (lexer : Lexer) : Prop where
  orderly : Orderly chars lexer lexer.mark.index
  dashed : Dashed chars lexer
  unended : isEnd lexer.peek = false
  visible : isGap lexer.peek = false
  unbroken : isBreak lexer.peek = false

structure Keeps (before after : Lexer) : Prop where
  taken : after.taken = before.taken
  past : after.tokens.toList.take before.taken = before.tokens.toList.take before.taken
  size_le : before.tokens.size ≤ after.tokens.size

structure Found (chars : List Char) (before after : Lexer) : Prop where
  steady : Steady chars after
  keeps : Keeps before after
  longer : before.tokens.size < after.tokens.size
  moved : before.mark.index < after.mark.index

theorem keeps_of_eq {before after : Lexer} (taken : after.taken = before.taken) (tokens : after.tokens = before.tokens) :
    Keeps before after :=
  ⟨taken, by rw [tokens], by rw [tokens]⟩

theorem keeps_append {before after : Lexer} (more : List Token) (taken : after.taken = before.taken)
    (bounded : before.taken ≤ before.tokens.size) (tokens : after.tokens.toList = before.tokens.toList ++ more) :
    Keeps before after := by
  refine ⟨taken, ?_, ?_⟩
  · rw [tokens, List.take_append_of_le_length (by rwa [Array.length_toList])]
  · rw [← Array.length_toList, ← Array.length_toList, tokens, List.length_append]
    exact Nat.le_add_right _ _

theorem Keeps.trans {first second third : Lexer} (one : Keeps first second) (two : Keeps second third) : Keeps first third := by
  refine ⟨two.taken.trans one.taken, ?_, Nat.le_trans one.size_le two.size_le⟩
  have past := two.past
  rw [one.taken] at past
  exact past.trans one.past

theorem Moves.keeps {before after : Lexer} (moves : Moves before after) : Keeps before after :=
  keeps_of_eq moves.taken moves.tokens

theorem keeps_push (lexer : Lexer) (span : Span) (kind : TokenKind) (bounded : lexer.taken ≤ lexer.tokens.size) :
    Keeps lexer (lexer.push span kind) :=
  keeps_append [⟨span, kind⟩] rfl bounded Array.toList_push

theorem last_of_push (lexer : Lexer) (span : Span) (kind : TokenKind) :
    (lexer.push span kind).tokens.toList.getLast? = some ⟨span, kind⟩ := by
  simp [push]

theorem found_push (chars : List Char) (lexer middle after : Lexer) (high : Nat) (orderly : Orderly chars middle high)
    (keeps : Keeps lexer middle) (moved : lexer.mark.index < middle.mark.index) (span : Span) (kind : TokenKind)
    (onward : Moves (middle.push span kind) after) (fits : Token.Fits chars ⟨span, kind⟩)
    (behind : high ≤ Token.place chars ⟨span, kind⟩)
    (roomy : ∀ last ∈ middle.tokens.toList.getLast?, last.kind = .blockEntry → kind.endsItem = true →
      last.finish chars + 1 ≤ Token.place chars ⟨span, kind⟩)
    (ends : Token.finish chars ⟨span, kind⟩ ≤ middle.mark.index) (noDash : kind ≠ .blockEntry) :
    Found chars lexer after := by
  have within_ := Nat.le_trans onward.index_le (index_le_place chars after)
  refine ⟨⟨(orderly.push span kind fits behind roomy _ ends).moves onward |>.mono _ within_, ?_⟩, ?_, ?_, ?_⟩
  · intro last member dash
    rw [onward.tokens, last_of_push] at member
    obtain rfl := Option.mem_some_iff.mp member
    exact absurd dash noDash
  · exact (keeps.trans (keeps_push middle span kind orderly.taken_le)).trans onward.keeps
  · rw [onward.tokens, show (middle.push span kind).tokens.size = middle.tokens.size + 1 from Array.size_push _]
    exact Nat.lt_succ_of_le keeps.size_le
  · exact Nat.lt_of_lt_of_le moved onward.index_le

theorem fits_from (chars : List Char) (lexer : Lexer) (orderly : Orderly chars lexer lexer.mark.index) (stop : Mark)
    (kind : TokenKind) (bare : kind.isScalar = false) (noTilde : lexer.peek ≠ '~') (forward : lexer.mark.index < stop.index) :
    Token.Fits chars ⟨⟨lexer.mark, stop⟩, kind⟩ := by
  refine ⟨Nat.le_of_lt forward, fun _ => forward, fun tilde _ => absurd ?_ noTilde, fun _ _ isScalar => by cases isScalar; cases bare⟩
  rw [peek_eq chars lexer orderly.rest, List.getD_eq_getElem?_getD, show chars[lexer.mark.index]? = some '~' from tilde]
  rfl

theorem saves_key (chars : List Char) (lexer : Lexer) (ready : Ready chars lexer) :
    Orderly chars lexer.saveKey lexer.mark.index ∧ Keeps lexer lexer.saveKey ∧ lexer.saveKey.mark = lexer.mark := by
  obtain ⟨orderly, dashed, unended, -, -⟩ := ready
  unfold saveKey
  split
  next =>
    have cleared := orderly.set_none
    refine ⟨⟨orderly.rest, orderly.taken_le, orderly.row, ⟨?_, ?_⟩, ?_, orderly.framed, cleared.levels⟩,
      keeps_of_eq rfl rfl, rfl⟩
    · rintro _ ⟨⟩
      refine ⟨⟨orderly.taken_le, ⟨0, rfl, .inr ⟨rfl, rfl⟩⟩, ?_⟩, ?_⟩
      · refine ⟨lexer.tokens.toList, [], by simp [setKey], rfl,
          fun last member => ⟨orderly.row.last last member, fun dash => ?_⟩, by simp⟩
        have after := dashed last member dash
        rcases after.deeper with clear | ⟨deeper, -⟩
        · rw [place_eq chars lexer orderly.rest, unended] at clear
          exact .inl clear
        · exact .inr ⟨by rw [after.keys]; rfl, deeper⟩
      · intro other member
        have among : some other ∈ lexer.keys := List.mem_of_mem_tail member
        refine ⟨?_, orderly.marks other among⟩
        obtain ⟨isBase, fits⟩ := key_fits_of_mem chars lexer lexer.keys other orderly.keys among
        obtain ⟨before, after, split, length, -⟩ := fits.splits
        change other.number ≤ lexer.tokens.size
        rw [← length, ← Array.length_toList, split, List.length_append]
        exact Nat.le_add_right _ _
    · exact keys_fit_same chars (lexer.setKey none) _ _ rfl rfl rfl rfl cleared.keys.2
    · intro key member
      rcases List.mem_cons.mp member with same | among
      · cases same
        exact Nat.le_refl _
      · exact orderly.marks key (List.mem_of_mem_tail among)
  next => exact ⟨orderly, keeps_of_eq rfl rfl, rfl⟩

theorem unrolls_prepared (chars : List Char) (lexer begun : Lexer) (ready : Ready chars lexer)
    (moves : Moves lexer.saveKey begun) : Orderly chars begun.unrollPrepared lexer.mark.index ∧
      Keeps lexer begun.unrollPrepared ∧ begun.unrollPrepared.mark = begun.mark := by
  obtain ⟨saved, keeps, -⟩ := saves_key chars lexer ready
  have start := saved.moves moves
  obtain ⟨indent, indents, unrolled, framed, base_le⟩ := unroll_prepared_spec begun start.framed
  rw [unrolled]
  exact ⟨start.indented indent indents framed (.inr base_le),
    (keeps.trans moves.keeps).trans (keeps_of_eq rfl rfl), rfl⟩

theorem rolls_one_column (chars : List Char) (lexer : Lexer) (ready : Ready chars lexer) :
    Orderly chars lexer.saveKey.rollOneColumn lexer.mark.index ∧ Keeps lexer lexer.saveKey.rollOneColumn ∧
      lexer.saveKey.rollOneColumn.mark = lexer.mark := by
  obtain ⟨saved, keeps, mark⟩ := saves_key chars lexer ready
  obtain ⟨indent, indents, rolled, framed, base⟩ := roll_one_column_spec lexer.saveKey saved.framed
  rw [rolled]
  exact ⟨saved.indented indent indents framed (.inr (Int.le_of_eq base)), keeps.trans (keeps_of_eq rfl rfl), mark⟩

theorem found_content (chars : List Char) (lexer middle after : Lexer) (orderly : Orderly chars middle lexer.mark.index)
    (keeps : Keeps lexer middle) (moved : lexer.mark.index < middle.mark.index) (span : Span) (kind : TokenKind)
    (onward : Moves (middle.push span kind) after) (spans : kind.spansText = true) (fits : Token.Fits chars ⟨span, kind⟩)
    (behind : lexer.mark.index ≤ span.start.index) (ends : span.stop.index ≤ middle.mark.index) : Found chars lexer after := by
  obtain ⟨endsNoItem, notClosing, trail, noDash⟩ := kind.spans_text_spec spans
  refine found_push chars lexer middle after _ orderly keeps moved span kind onward fits ?_ ?_ ?_ noDash
  · exact Nat.le_trans behind (Token.start_le_place chars ⟨span, kind⟩)
  · intro last _ _ close
    simp [endsNoItem] at close
  · rw [Token.finish, Token.shift_of_not_closing chars ⟨span, kind⟩ notClosing, trail]
    exact ends

theorem anchor_found (chars : List Char) (lexer after : Lexer) (isAlias : Bool) (ready : Ready chars lexer)
    (noTilde : lexer.peek ≠ '~') (found : lexer.anchor isAlias = .ok after) : Found chars lexer after := by
  obtain ⟨saved, keeps, mark⟩ := saves_key chars lexer ready
  have moves : Moves lexer.saveKey ((lexer.saveKey.forbidKey.advanceContent 1).takeWhile isAnchorChar).2 :=
    ((forbid_key_moves lexer.saveKey).trans (advance_content_moves _ 1)).trans (skip_while_moves _ _)
  have further : lexer.mark.index < ((lexer.saveKey.forbidKey.advanceContent 1).takeWhile isAnchorChar).2.mark.index := by
    rw [← mark]
    exact (skip_while_moves (lexer.saveKey.forbidKey.advanceContent 1) isAnchorChar).index_le
  unfold anchor at found
  generalize (lexer.saveKey.forbidKey.advanceContent 1).takeWhile isAnchorChar = read at moves further found
  obtain ⟨name, middle⟩ := read
  simp only at moves further found
  split at found
  next => cases found
  next =>
    obtain rfl := Except.ok.inj found
    exact found_content chars lexer middle _ (saved.moves moves) (keeps.trans moves.keeps) further
      _ _ (.refl _) (by cases isAlias <;> rfl)
      (fits_from chars lexer ready.orderly _ _ (by cases isAlias <;> rfl) noTilde further) (Nat.le_refl _) (Nat.le_refl _)

theorem tag_found (chars : List Char) (lexer after : Lexer) (ready : Ready chars lexer) (noTilde : lexer.peek ≠ '~')
    (found : lexer.tag = .ok after) : Found chars lexer after := by
  obtain ⟨saved, keeps, mark⟩ := saves_key chars lexer ready
  have start := forbid_key_moves lexer.saveKey
  have ending (kind : TokenKind) (middle : Lexer) (moves : Moves lexer.saveKey middle)
      (further : lexer.mark.index < middle.mark.index) (isTag : kind.spansText = true) (bare : kind.isScalar = false)
      (ends : (if (isGapOrEnd middle.peek || decide (middle.flowLevel > 0) && isFlow middle.peek) = true then
        .ok (middle.push ⟨lexer.mark, middle.mark⟩ kind) else .error ⟨.tagEnd, lexer.mark⟩ : Except Fault Lexer) = .ok after) :
      Found chars lexer after := by
    split at ends
    next =>
      obtain rfl := Except.ok.inj ends
      exact found_content chars lexer middle _ (saved.moves moves) (keeps.trans moves.keeps) further
        _ _ (.refl _) isTag (fits_from chars lexer ready.orderly _ _ bare noTilde further) (Nat.le_refl _) (Nat.le_refl _)
    next => cases ends
  unfold tag at found
  simp only at found
  split at found
  next =>
    obtain ⟨⟨kind, middle⟩, reads, ends⟩ := Fault.bind_ok _ _ _ found
    obtain ⟨onward, handle, name, rfl⟩ := verbatim_tag_moves _ _ middle kind reads
    refine ending _ middle ((start.trans (advance_content_moves _ 2)).trans onward) ?_ rfl rfl ends
    have index := onward.index_le
    have first : (lexer.saveKey.forbidKey.advanceContent 2).mark.index = lexer.saveKey.mark.index + 2 := rfl
    rw [first, mark] at index
    omega
  next =>
    obtain ⟨⟨kind, middle⟩, reads, ends⟩ := Fault.bind_ok _ _ _ found
    obtain ⟨onward, index, handle, name, rfl⟩ := short_tag_moves _ _ middle kind reads
    exact ending _ middle (start.trans onward) (mark ▸ index) rfl rfl ends

theorem plain_found (chars : List Char) (lexer after : Lexer) (ready : Ready chars lexer)
    (found : lexer.plain = .ok after) : Found chars lexer after := by
  obtain ⟨-, -, mark⟩ := saves_key chars lexer ready
  obtain ⟨start, same, place⟩ := unrolls_prepared chars lexer _ ready (forbid_key_moves lexer.saveKey)
  replace place := place.trans mark
  unfold plain at found
  simp only at found
  generalize lexer.saveKey.forbidKey.unrollPrepared = begun at start same place found
  split at found
  next => cases found
  next =>
    obtain ⟨⟨text, stop, middle⟩, reads, rest⟩ := Fault.bind_ok _ _ _ found
    have text_moves := plain_text_moves _ _ _ _ _ text _ stop begun middle (by rw [place]) reads
    obtain ⟨moves, -, stop_le, grows⟩ := text_moves
    have allowed : Moves begun (if middle.atLineStart = true then middle.allowKey else middle) := by
      split
      next => exact moves.trans (allow_key_moves _)
      next => exact moves
    simp only at rest
    split at rest
    next => cases rest
    next some_ =>
      have grown : lexer.mark.index < stop.index := by
        rw [← place]
        exact grows rfl (by simpa using some_)
      obtain rfl := Except.ok.inj rest
      have ends : stop.index ≤ (if middle.atLineStart = true then middle.allowKey else middle).mark.index := by
        split <;> exact stop_le
      have here : begun.peek = lexer.peek := by rw [peek_eq chars begun start.rest, place, ← peek_eq chars lexer ready.orderly.rest]
      have spelled := plain_spelled chars begun.mark _ _ text stop begun middle start.rest (here ▸ ready.visible) (here ▸ ready.unbroken)
        (by simpa using some_) (place ▸ reads)
      rw [place] at spelled
      exact found_content chars lexer _ _ (start.moves allowed) (same.trans allowed.keeps)
        (Nat.lt_of_lt_of_le grown ends) _ _ (.refl _) rfl
        ⟨Nat.le_of_lt grown, fun _ => grown, fun _ => nofun, fun _ _ isScalar => by cases isScalar; exact spelled⟩
        (Nat.le_refl _) ends

theorem mark_read (chars : List Char) (lexer : Lexer) (ready : Ready chars lexer) (among : lexer.peek ∈ [ '\'', '"', '|', '>']) :
    Marked chars lexer.mark.index :=
  .inl ⟨lexer.peek, among, read_peek chars lexer ready.orderly.rest ready.unended⟩

theorem quoted_found (chars : List Char) (lexer after : Lexer) (quote : Char) (ready : Ready chars lexer)
    (among : lexer.peek ∈ [ '\'', '"', '|', '>']) (found : lexer.quoted quote = .ok after) : Found chars lexer after := by
  obtain ⟨saved, keeps, mark⟩ := saves_key chars lexer ready
  have start := (forbid_key_moves lexer.saveKey).trans (advance_content_moves _ 1)
  unfold quoted at found
  obtain ⟨⟨text, inner⟩, reads, rest⟩ := Fault.bind_ok _ _ _ found
  obtain ⟨⟨gaps, outer⟩, skips, last⟩ := Fault.bind_ok _ _ _ rest
  have inside := start.trans (quoted_text_moves _ _ _ _ text _ inner reads)
  have closed := (inside.trans (advance_content_moves _ 1)).trans (skip_to_line_end_moves _ outer gaps skips).1
  have further : lexer.mark.index < outer.mark.index := by
    have one := inside.index_le
    have two := (skip_to_line_end_moves _ outer gaps skips).1.index_le
    have step : (inner.advanceContent 1).mark.index = inner.mark.index + 1 := rfl
    rw [mark] at one
    omega
  simp only at last
  split at last
  next =>
    obtain ⟨middle, skipped, ends⟩ := Fault.bind_ok _ _ _ last
    have onward := skip_to_token_moves outer middle skipped
    have moves : Moves lexer.saveKey { middle with adjacentValueAt := middle.mark.index } :=
      (closed.trans onward).trans (.still rfl rfl rfl)
    have within_ := onward.index_le
    obtain rfl := Except.ok.inj ends
    refine found_content chars lexer _ _ (saved.moves moves) (keeps.trans moves.keeps)
      (Nat.lt_of_lt_of_le further within_) _ _ (.refl _) rfl ?_ (Nat.le_refl _) within_
    refine ⟨Nat.le_of_lt further, fun _ => further, fun _ => nofun, fun style text isScalar => ?_⟩
    cases isScalar
    exact spelled_of_marked chars _ _ _ (by split <;> simp) (mark_read chars lexer ready among)
  next => cases last

theorem block_scalar_found (chars : List Char) (lexer after : Lexer) (folded : Bool) (ready : Ready chars lexer)
    (among : lexer.peek ∈ [ '\'', '"', '|', '>']) (found : lexer.blockScalar folded = .ok after) : Found chars lexer after := by
  obtain ⟨-, -, mark⟩ := saves_key chars lexer ready
  obtain ⟨start, same, place⟩ := unrolls_prepared chars lexer _ ready
    ((allow_key_moves lexer.saveKey).trans (advance_content_moves _ 1))
  have further : (lexer.saveKey.allowKey.advanceContent 1).unrollPrepared.mark.index = lexer.mark.index + 1 := by
    rw [place, ← mark]
    rfl
  -- the token starts at the first line of its text
  have ending (begun middle : Lexer) (text : String) (style : ScalarStyle) (notPlain : style ≠ .plain)
      (one : Moves (lexer.saveKey.allowKey.advanceContent 1).unrollPrepared begun) (two : Moves begun middle)
      (span : Span) (starts : span.start.index = lexer.mark.index ∨ span.start = begun.mark) (stops : span.stop = middle.mark)
      (marked : Marked chars span.start.index) :
      Found chars lexer (middle.push span (.scalar style text)) := by
    have moves := one.trans two
    have indexOne := one.index_le
    have indexTwo := two.index_le
    have between : lexer.mark.index ≤ span.start.index ∧ span.start.index ≤ middle.mark.index := by
      rcases starts with same | same
      · omega
      · rw [same]
        omega
    refine found_content chars lexer middle _ (start.moves moves) (same.trans moves.keeps) (by omega)
      span _ (.refl _) rfl ⟨by rw [stops]; exact between.2, ?_, fun _ => nofun, ?_⟩ between.1 (by rw [stops])
    · cases style with
      | plain => exact absurd rfl notPlain
      | _ => intro solid; cases solid
    · rintro _ _ ⟨⟩
      exact spelled_of_marked chars span style text notPlain marked
  have notPlain : (if folded = true then ScalarStyle.folded else .literal) ≠ .plain := by cases folded <;> simp
  unfold blockScalar at found
  obtain ⟨⟨chomping, count, header⟩, reads, rest⟩ := Fault.bind_ok _ _ _ found
  obtain ⟨⟨gaps, line⟩, skips, last⟩ := Fault.bind_ok _ _ _ rest
  have moves := (block_header_moves _ _ header chomping count reads).trans (skip_to_line_end_moves _ line gaps skips).1
  simp only at last
  split at last
  next => cases last
  next headed =>
    split at last
    next => cases last
    next =>
      have begins := (moves.trans (skip_break_moves line)).trans (block_start_moves count _)
      have starts := block_starts_line chars count line (moves_rest chars _ line moves start.rest) (by simpa using headed)
      generalize blockStart count line.skipBreak = lines at begins starts last
      obtain ⟨indent, breaks, begun⟩ := lines
      simp only at begins starts last
      split at last
      next =>
        obtain rfl := Except.ok.inj last
        exact ending begun begun _ _ notPlain begins (.refl _) _ (.inl rfl) rfl (mark_read chars lexer ready among)
      next unended =>
        split at last
        next => cases last
        next =>
          have reads := block_lines_moves folded indent (begun.rest.length + 2) ⟨[], false, breaks, false⟩ begun
          obtain rfl := Except.ok.inj last
          exact ending begun _ _ _ notPlain begins reads _ (.inr rfl) rfl (.inr (starts (by simpa using unended)))

theorem flow_start_found (chars : List Char) (lexer after : Lexer) (isMapping : Bool) (ready : Ready chars lexer)
    (noTilde : lexer.peek ≠ '~') (found : lexer.flowStart isMapping = .ok after) : Found chars lexer after := by
  obtain ⟨start, same, place⟩ := rolls_one_column chars lexer ready
  unfold flowStart at found
  simp only at found
  generalize lexer.saveKey.rollOneColumn = begun at start same place found
  split at found
  next => cases found
  next =>
    obtain ⟨⟨gaps, middle⟩, skips, ends⟩ := Fault.bind_ok _ _ _ found
    have opened := start.enter_flow
    have marked (inner : Lexer) : Moves inner
        (if isMapping = true then { inner with flowMappingStarted := true } else { inner with pairs := false :: inner.pairs }) := by
      split <;> exact .still rfl rfl rfl
    have first := ((allow_key_moves { begun with flowLevel := begun.flowLevel + 1, keys := none :: begun.keys }).trans
      (advance_content_moves _ 1)).trans (marked _)
    have second := (skip_to_line_end_moves _ middle gaps skips).1
    have moves := first.trans second
    have further : lexer.mark.index < middle.mark.index := by
      have onward := second.index_le
      rw [← place]
      cases isMapping <;> exact onward
    obtain rfl := Except.ok.inj ends
    exact found_content chars lexer middle _ (opened.moves moves) (same.trans (keeps_of_eq moves.taken moves.tokens)) further _ _
      (.refl _) (by cases isMapping <;> rfl)
      (fits_from chars lexer ready.orderly _ _ (by cases isMapping <;> rfl) noTilde further) (Nat.le_refl _) (Nat.le_refl _)

theorem end_pair_spec (chars : List Char) (lexer : Lexer) (orderly : Orderly chars lexer lexer.mark.index) :
    Orderly chars lexer.endPair lexer.mark.index ∧ Keeps lexer lexer.endPair ∧ lexer.endPair.mark = lexer.mark := by
  unfold endPair
  split
  next outer _ =>
    have moves : Moves lexer { lexer with flowMappingStarted := false, pairs := false :: outer } := .still rfl rfl rfl
    have kept := orderly.moves moves
    refine ⟨kept.push _ _ (Token.fits_empty chars _ _ rfl rfl) (Nat.le_refl _) (fun _ _ _ close => by cases close) _ (Nat.le_refl _), ?_, rfl⟩
    exact keeps_append [⟨.empty lexer.mark, .flowMappingEnd⟩] rfl orderly.taken_le Array.toList_push
  next => exact ⟨orderly, keeps_of_eq rfl rfl, rfl⟩

theorem flow_end_found (chars : List Char) (lexer after : Lexer) (isMapping : Bool) (ready : Ready chars lexer)
    (noTilde : lexer.peek ≠ '~') (found : lexer.flowEnd isMapping = .ok after) : Found chars lexer after := by
  unfold flowEnd at found
  obtain ⟨removed, removes, rest⟩ := Fault.bind_ok _ _ _ found
  obtain ⟨⟨gaps, outer⟩, skips, ends⟩ := Fault.bind_ok _ _ _ rest
  obtain rfl := remove_key_eq removes
  have cleared := ready.orderly.set_none
  have left : Orderly chars (lexer.setKey none).leaveFlow.forbidKey lexer.mark.index :=
    cleared.leave_flow.moves (forbid_key_moves _)
  have same : Keeps lexer (lexer.setKey none).leaveFlow.forbidKey ∧
      (lexer.setKey none).leaveFlow.forbidKey.mark = lexer.mark := by
    unfold leaveFlow
    split <;> exact ⟨keeps_of_eq rfl rfl, rfl⟩
  generalize (lexer.setKey none).leaveFlow.forbidKey = inner at left same skips
  obtain ⟨pairEnded, pairKeeps, pairMark⟩ := end_pair_spec chars inner (by rw [same.2]; exact left)
  -- only a sequence ends a pair
  have closed : ∃ middle, Orderly chars middle lexer.mark.index ∧ Keeps lexer middle ∧ middle.mark = lexer.mark ∧
      (middle.advanceContent 1).skipToLineEnd = .ok (gaps, outer) := by
    cases isMapping with
    | true => exact ⟨inner, left, same.1, same.2, skips⟩
    | false =>
        refine ⟨{ inner.endPair with pairs := inner.pairs.tail }, ?_, ?_, pairMark.trans same.2, skips⟩
        · rw [same.2] at pairEnded
          exact pairEnded.moves (.still rfl rfl rfl)
        · exact same.1.trans (pairKeeps.trans (keeps_of_eq rfl rfl))
  obtain ⟨middle, orderly, keeps, mark, skips⟩ := closed
  have second := (skip_to_line_end_moves _ outer gaps skips).1
  have adjacent : Moves outer (if outer.flowLevel > 0 then { outer with adjacentValueAt := outer.mark.index } else outer) := by
    split
    next => exact .still rfl rfl rfl
    next => exact .refl outer
  have moves := ((advance_content_moves middle 1).trans second).trans adjacent
  have further : lexer.mark.index < (if outer.flowLevel > 0 then { outer with adjacentValueAt := outer.mark.index } else outer).mark.index := by
    rw [← mark]
    exact Nat.lt_of_lt_of_le (Nat.lt_succ_self _) (second.trans adjacent).index_le
  obtain rfl := Except.ok.inj ends
  exact found_content chars lexer _ _ (orderly.moves moves) (keeps.trans moves.keeps) further _ _
    (.refl _) (by cases isMapping <;> rfl)
      (fits_from chars lexer ready.orderly _ _ (by cases isMapping <;> rfl) noTilde further) (Nat.le_refl _) (Nat.le_refl _)

theorem flow_entry_found (chars : List Char) (lexer after : Lexer) (ready : Ready chars lexer)
    (noTilde : lexer.peek ≠ '~') (found : lexer.flowEntry = .ok after) : Found chars lexer after := by
  unfold flowEntry at found
  obtain ⟨removed, removes, rest⟩ := Fault.bind_ok _ _ _ found
  obtain ⟨⟨gaps, middle⟩, skips, ends⟩ := Fault.bind_ok _ _ _ rest
  obtain rfl := remove_key_eq removes
  have cleared := ready.orderly.set_none
  obtain ⟨pairEnded, keeps, mark⟩ := end_pair_spec chars (lexer.setKey none).allowKey (cleared.moves (allow_key_moves _))
  have second := (skip_to_line_end_moves _ middle gaps skips).1
  have moves := (advance_content_moves (lexer.setKey none).allowKey.endPair 1).trans second
  have further : lexer.mark.index < middle.mark.index := by
    rw [show lexer.mark = (lexer.setKey none).allowKey.endPair.mark from mark.symm]
    exact second.index_le
  have first : Keeps lexer (lexer.setKey none).allowKey := keeps_of_eq rfl rfl
  have same := (first.trans keeps).trans moves.keeps
  obtain rfl := Except.ok.inj ends
  exact found_content chars lexer middle _ (pairEnded.moves moves) same further _ _ (.refl _) rfl
    (fits_from chars lexer ready.orderly _ _ rfl noTilde further) (Nat.le_refl _) (Nat.le_refl _)

theorem unroll_keeps (lexer : Lexer) (column : Int) (framed : Framed lexer.indent lexer.indents)
    (bounded : lexer.taken ≤ lexer.tokens.size) :
    Keeps lexer (lexer.unrollIndent column) ∧ (lexer.unrollIndent column).mark = lexer.mark := by
  obtain ⟨indent, indents, tokens, count, result, -, pushed, -⟩ := unroll_indent_spec lexer column framed
  rw [result]
  exact ⟨keeps_append _ rfl bounded pushed, rfl⟩

theorem unroll_set_none (lexer : Lexer) (column : Int) :
    (lexer.unrollIndent column).setKey none = (lexer.setKey none).unrollIndent column := by
  unfold unrollIndent setKey
  split <;> rfl

theorem closes_all (chars : List Char) (lexer after : Lexer) (ready : Ready chars lexer) (atStart : lexer.mark.column = 0)
    (removes : (lexer.unrollIndent (-1)).removeKey = .ok after) :
    Orderly chars after lexer.mark.index ∧ Keeps lexer after ∧ after.mark = lexer.mark := by
  obtain rfl := (remove_key_eq removes).trans (unroll_set_none lexer (-1))
  have cleared := ready.orderly.set_none
  have place : Token.place chars ⟨.empty (lexer.setKey none).mark, .blockEnd⟩ = lexer.mark.index := by
    have known := place_eq chars lexer ready.orderly.rest
    rw [ready.unended] at known
    exact known
  have closed := cleared.unroll (-1) (Nat.le_of_eq place.symm) ?_ ?_
  · rw [place] at closed
    obtain ⟨keeps, mark⟩ := unroll_keeps (lexer.setKey none) (-1) cleared.framed cleared.taken_le
    have first : Keeps lexer (lexer.setKey none) := keeps_of_eq rfl rfl
    exact ⟨closed, first.trans keeps, mark⟩
  · intro level key member
    have single : (lexer.setKey none).keys.length = 1 := by rw [cleared.levels, level]
    obtain ⟨only, keys⟩ := List.length_eq_one_iff.mp single
    rw [keys] at member
    simp only [setKey, List.cons.injEq] at keys
    rw [← keys.1] at member
    simp at member
  · intro last member dash
    have behind := ready.dashed last member dash
    rcases behind.deeper with clear | ⟨-, positive⟩
    · exact .inl clear
    · omega

theorem document_mark_found (chars : List Char) (lexer middle after : Lexer) (kind : TokenKind) (ready : Ready chars lexer)
    (atStart : lexer.mark.column = 0) (noTilde : lexer.peek ≠ '~') (isMark : kind.spansText = true)
    (bare : kind.isScalar = false) (found : documentMark kind lexer = .ok middle) (onward : Moves middle after) : Found chars lexer after := by
  unfold documentMark at found
  obtain ⟨closed, closes, ends⟩ := Fault.bind_ok _ _ _ found
  obtain ⟨orderly, keeps, mark⟩ := closes_all chars lexer closed ready atStart closes
  have moves := (forbid_key_moves closed).trans (advance_content_moves _ 3)
  have further : lexer.mark.index < (closed.forbidKey.advanceContent 3).mark.index := by
    rw [← mark]
    exact Nat.lt_add_of_pos_right (by decide)
  obtain rfl := Except.ok.inj ends
  rw [mark] at onward
  exact found_content chars lexer _ after (orderly.moves moves) (keeps.trans moves.keeps) further
    _ _ onward isMark (fits_from chars lexer ready.orderly _ _ bare noTilde further) (Nat.le_refl _) (Nat.le_refl _)

theorem document_end_found (chars : List Char) (lexer after : Lexer) (ready : Ready chars lexer)
    (atStart : lexer.mark.column = 0) (noTilde : lexer.peek ≠ '~') (found : lexer.documentEnd = .ok after) :
    Found chars lexer after := by
  unfold documentEnd at found
  obtain ⟨middle, marks, rest⟩ := Fault.bind_ok _ _ _ found
  obtain ⟨⟨gaps, line⟩, skips, ends⟩ := Fault.bind_ok _ _ _ rest
  simp only at ends
  split at ends
  next =>
    obtain rfl := Except.ok.inj ends
    exact document_mark_found chars lexer middle line .documentEnd ready atStart noTilde rfl rfl marks
      (skip_to_line_end_moves middle line gaps skips).1
  next => cases ends

theorem directive_found (chars : List Char) (lexer after : Lexer) (ready : Ready chars lexer)
    (atStart : lexer.mark.column = 0) (noTilde : lexer.peek ≠ '~') (found : lexer.directive = .ok after) :
    Found chars lexer after := by
  unfold directive at found
  obtain ⟨closed, closes, rest⟩ := Fault.bind_ok _ _ _ found
  obtain ⟨orderly, keeps, mark⟩ := closes_all chars lexer closed ready atStart closes
  have start := (forbid_key_moves closed).trans (advance_content_moves _ 1)
  have first : (closed.forbidKey.advanceContent 1).mark.index = lexer.mark.index + 1 := by
    rw [← mark]
    rfl
  have name : Moves closed ((closed.forbidKey.advanceContent 1).takeWhile isNameChar).2 := start.trans (skip_while_moves _ _)
  have named : lexer.mark.index < ((closed.forbidKey.advanceContent 1).takeWhile isNameChar).2.mark.index := by
    rw [Nat.lt_iff_add_one_le, ← first]
    exact (skip_while_moves (closed.forbidKey.advanceContent 1) isNameChar).index_le
  -- what is the same for all directives once their parameters have been read
  have ending (kind : TokenKind) (middle : Lexer) (moves : Moves closed middle) (further : lexer.mark.index < middle.mark.index)
      (isDirective : kind.spansText = true) (bare : kind.isScalar = false)
      (ends : (do
        let line ← middle.skipToLineEnd
        if isBreakOrEnd line.2.peek = true then pure (line.2.skipBreak.push ⟨lexer.mark, middle.mark⟩ kind)
        else .error ⟨.directiveEnd, lexer.mark⟩) = Except.ok after) : Found chars lexer after := by
    obtain ⟨⟨gaps, line⟩, skips, last⟩ := Fault.bind_ok _ _ _ ends
    have second := (skip_to_line_end_moves middle line gaps skips).1.trans (skip_break_moves line)
    have all := moves.trans second
    simp only at last
    split at last
    next =>
      obtain rfl := Except.ok.inj last
      exact found_content chars lexer _ _ (orderly.moves all) (keeps.trans all.keeps)
        (Nat.lt_of_lt_of_le further second.index_le) _ _ (.refl _) isDirective
        (fits_from chars lexer ready.orderly _ _ bare noTilde further) (Nat.le_refl _) second.index_le
    next => cases last
  simp only at rest
  generalize (closed.forbidKey.advanceContent 1).takeWhile isNameChar = read at name named rest
  split at rest
  next => cases rest
  next =>
    split at rest
    next => cases rest
    next =>
      split at rest
      next =>
        obtain ⟨⟨kind, middle⟩, reads, ends⟩ := Fault.bind_ok _ _ _ rest
        obtain ⟨moves, rfl⟩ := version_directive_moves _ _ middle kind reads
        exact ending _ middle (name.trans moves) (Nat.lt_of_lt_of_le named moves.index_le) rfl rfl ends
      next =>
        split at rest
        next =>
          obtain ⟨⟨kind, middle⟩, reads, ends⟩ := Fault.bind_ok _ _ _ rest
          obtain ⟨moves, handle, prefix_, rfl⟩ := tag_directive_moves _ _ middle kind reads
          exact ending _ middle (name.trans moves) (Nat.lt_of_lt_of_le named moves.index_le) rfl rfl ends
        next =>
          have moves : Moves read.2 read.2.skipComment := skip_while_moves _ _
          exact ending _ _ (name.trans moves) (Nat.lt_of_lt_of_le named moves.index_le) rfl rfl rest

theorem only_key (chars : List Char) (lexer : Lexer) (high : Nat) (orderly : Orderly chars lexer high)
    (level : lexer.flowLevel = 0) : (lexer.setKey none).keys = [none] := by
  have single : lexer.keys.tail.length = 0 := by
    rw [List.length_tail, orderly.levels, level]
  rw [setKey, List.eq_nil_of_length_eq_zero single]

theorem dash_before (chars : List Char) (lexer moved : Lexer) (ready : Ready chars lexer) (moves : Moves lexer moved) :
    ∀ last ∈ moved.tokens.toList.getLast?, last.kind = .blockEntry →
      last.finish chars + 1 ≤ lexer.mark.index ∨ moved.base < lexer.mark.column := by
  intro last member dash
  rw [moves.tokens] at member
  rcases (ready.dashed last member dash).deeper with clear | ⟨deeper, -⟩
  · rw [place_eq chars lexer ready.orderly.rest, ready.unended] at clear
    exact .inl clear
  · rw [base, moves.indent, moves.indents]
    exact .inr deeper

-- A block is opened where a dash, a question mark or a colon stands, and a key that may have started is forgotten. The
-- token of the block comes between a dash that ends just there and what follows.
theorem opens_block (chars : List Char) (lexer : Lexer) (mark : Mark) (kind : TokenKind) (orderly : Orderly chars lexer mark.index)
    (level : lexer.flowLevel = 0) (within_ : lexer.indent ≤ mark.column)
    (dashes : ∀ last ∈ lexer.tokens.toList.getLast?, last.kind = .blockEntry →
      last.finish chars + 1 ≤ mark.index ∨ lexer.base < mark.column)
    (isStart : kind = .blockMappingStart ∨ kind = .blockSequenceStart) :
    Orderly chars ((lexer.rollIndent mark.column none kind mark).setKey none) (mark.index + kind.trail) ∧
      Keeps lexer (lexer.rollIndent mark.column none kind mark) ∧
      (lexer.rollIndent mark.column none kind mark).base ≤ mark.column ∧
      (lexer.rollIndent mark.column none kind mark).mark = lexer.mark ∧
      (lexer.rollIndent mark.column none kind mark).flowLevel = 0 ∧
      (lexer.rollIndent mark.column none kind mark).keys = lexer.keys ∧
      ∀ last ∈ (lexer.rollIndent mark.column none kind mark).tokens.toList.getLast?, last.kind = .blockEntry →
        last.finish chars + 1 ≤ mark.index := by
  have keys := only_key chars lexer _ orderly level
  obtain ⟨indent, indents, framed, -, le, cases_⟩ := roll_indent_spec lexer mark.column none kind mark orderly.framed
  have base_le : (lexer.indented indent indents).base ≤ mark.column :=
    Int.le_trans (base_indented lexer indent indents framed) (le within_)
  have opened := orderly.set_none.indented indent indents framed (.inl keys)
  rcases cases_ with ⟨rolled, shallow⟩ | ⟨-, rolled⟩
  · rw [rolled]
    refine ⟨opened.mono _ (Nat.le_add_right _ _), keeps_of_eq rfl rfl, base_le, rfl, level, rfl, fun last member dash => ?_⟩
    rcases dashes last member dash with clear | deeper
    · exact clear
    · exact absurd deeper (Int.not_lt.mpr (shallow level))
  · rw [rolled]
    have notClosing : kind.isClosing = false := by rcases isStart with rfl | rfl <;> rfl
    have endsNoItem : kind.endsItem = false := by rcases isStart with rfl | rfl <;> rfl
    have hollow : kind.isSolid = false := by rcases isStart with rfl | rfl <;> rfl
    have bare : kind.isScalar = false := by rcases isStart with rfl | rfl <;> rfl
    refine ⟨?_, keeps_append _ rfl orderly.taken_le Array.toList_push, base_le, rfl, level, rfl, ?_⟩
    · refine opened.push (.empty mark) kind (Token.fits_empty chars _ _ hollow bare) (Nat.le_add_right _ _)
        (fun _ _ _ close => by simp [endsNoItem] at close) _ ?_
      rw [Token.finish, Token.shift_of_not_closing chars _ notClosing]
      exact Nat.le_refl _
    · intro last member dash
      rw [last_of_push] at member
      obtain rfl := Option.mem_some_iff.mp member
      rcases isStart with rfl | rfl <;> cases dash

theorem prepares_line (line : Lexer) (framed : Framed line.indent line.indents) :
    ∃ indent indents, Framed indent indents ∧ (line.indented indent indents).base = line.base ∧
      (if (isBreak line.peek || isFlow line.peek) = true then line.rollOneColumn else line) = line.indented indent indents := by
  split
  next =>
    obtain ⟨indent, indents, rolled, framed, sameBase⟩ := roll_one_column_spec line framed
    exact ⟨indent, indents, framed, sameBase, rolled⟩
  next => exact ⟨line.indent, line.indents, framed, rfl, rfl⟩

theorem block_entry_found (chars : List Char) (lexer after : Lexer) (ready : Ready chars lexer)
    (within_ : lexer.indent ≤ lexer.column) (found : lexer.blockEntry = .ok after) : Found chars lexer after := by
  unfold blockEntry at found
  split at found
  next => cases found
  next outside =>
    split at found
    next => cases found
    next =>
      split at found
      next => cases found
      next =>
        have level : lexer.flowLevel = 0 := by omega
        have moved := advance_content_moves lexer 1
        obtain ⟨opened, keeps, base_le, mark, flat, -, roomy⟩ := opens_block chars (lexer.advanceContent 1) lexer.mark
          .blockSequenceStart (ready.orderly.moves moved) level within_ (dash_before chars lexer _ ready moved) (.inr rfl)
        have first : Keeps lexer (lexer.advanceContent 1) := keeps_of_eq rfl rfl
        replace keeps := first.trans keeps
        obtain ⟨⟨gaps, line⟩, skips, rest⟩ := Fault.bind_ok _ _ _ found
        generalize (lexer.advanceContent 1).rollIndent lexer.mark.column none .blockSequenceStart lexer.mark = begun at *
        obtain ⟨moves, columns⟩ := skip_to_line_end_moves begun line gaps skips
        have further : lexer.mark.index + 1 ≤ line.mark.index := by
          have onward := moves.index_le
          rw [mark] at onward
          exact onward
        simp only at rest
        split at rest
        next => cases rest
        next =>
          have lined := opened.moves moves.set_none
          obtain ⟨indent, indents, framed, sameBase, rolled⟩ := prepares_line line lined.framed
          rw [rolled] at rest
          obtain ⟨removed, removes, ends⟩ := Fault.bind_ok _ _ _ rest
          obtain rfl := remove_key_eq removes
          obtain rfl := Except.ok.inj ends
          have prepared := (lined.indented indent indents framed (.inr (Int.le_of_eq sameBase))).moves (allow_key_moves _)
          have last : ∀ last ∈ line.tokens.toList.getLast?, last.kind = .blockEntry → last.finish chars + 1 ≤ line.mark.index := by
            intro last member dash
            rw [moves.tokens] at member
            exact Nat.le_trans (roomy last member dash) (Nat.le_of_succ_le further)
          have same : Keeps lexer line := keeps.trans moves.keeps
          refine ⟨⟨?_, ?_⟩, ?_, ?_, further⟩
          · exact prepared.push (.empty line.mark) .blockEntry (Token.fits_empty chars _ _ rfl rfl) further
              (fun token member dash _ => last token member dash) _ (index_le_place chars line)
          · intro token member _
            rw [last_of_push] at member
            obtain rfl := Option.mem_some_iff.mp member
            have flatLine : line.flowLevel = 0 := moves.flow_level.trans flat
            have wider : lexer.mark.column + 1 ≤ line.mark.column := by
              rw [mark] at columns
              exact columns
            have lineBase : line.base ≤ lexer.mark.column := by
              rw [base, moves.indent, moves.indents]
              exact base_le
            refine ⟨Nat.le_refl _, flatLine, only_key chars (line.setKey none) _ lined flatLine, .inr ⟨?_, ?_⟩⟩
            · change (line.indented indent indents).base < (line.mark.column : Int)
              omega
            · exact Nat.le_trans (Nat.le_add_left 1 _) wider
          · exact same.trans (keeps_append _ rfl prepared.taken_le Array.toList_push)
          · change lexer.tokens.size < (line.tokens.push _).size
            rw [Array.size_push]
            exact Nat.lt_succ_of_le same.size_le

theorem explicit_key_found (chars : List Char) (lexer after : Lexer) (ready : Ready chars lexer)
    (within_ : lexer.indent ≤ lexer.column) (noTilde : lexer.peek ≠ '~') (found : lexer.explicitKey = .ok after) :
    Found chars lexer after := by
  unfold explicitKey at found
  simp only at found
  split at found
  next => cases found
  next =>
    obtain ⟨removed, removes, rest⟩ := Fault.bind_ok _ _ _ found
    obtain rfl := remove_key_eq removes
    obtain ⟨begun, same, orderly, keeps, mark, roomy⟩ : ∃ begun,
        (if lexer.flowLevel > 0 then { lexer with flowMappingStarted := true }
          else lexer.rollIndent lexer.mark.column none .blockMappingStart lexer.mark) = begun ∧
        Orderly chars (begun.setKey none) lexer.mark.index ∧ Keeps lexer begun ∧ begun.mark = lexer.mark ∧
        ∀ last ∈ begun.tokens.toList.getLast?, last.kind = .blockEntry → last.finish chars + 1 ≤ lexer.mark.index := by
      refine ⟨_, rfl, ?_⟩
      split
      next flow =>
        have moves : Moves lexer { lexer with flowMappingStarted := true } := .still rfl rfl rfl
        refine ⟨(ready.orderly.moves moves).set_none, keeps_of_eq rfl rfl, rfl, fun last member dash => ?_⟩
        have level := (ready.dashed last member dash).level
        omega
      next outside =>
        have level : lexer.flowLevel = 0 := by omega
        obtain ⟨opened, keeps, -, mark, -, -, roomy⟩ := opens_block chars lexer lexer.mark .blockMappingStart ready.orderly
          level within_ (dash_before chars lexer lexer ready (.refl lexer)) (.inl rfl)
        exact ⟨opened, keeps, mark, roomy⟩
    rw [same] at rest
    obtain ⟨middle, skips, ends⟩ := Fault.bind_ok _ _ _ rest
    have allowed : Moves (begun.setKey none) (if lexer.flowLevel > 0 then (begun.setKey none).forbidKey
        else (begun.setKey none).allowKey) := by
      split
      next => exact forbid_key_moves _
      next => exact allow_key_moves _
    have onward := (advance_content_moves _ 1).trans (skip_spaces_moves _ middle skips)
    have moves := allowed.trans onward
    have further : lexer.mark.index < middle.mark.index := by
      have index := (skip_spaces_moves _ middle skips).index_le
      rw [← mark]
      refine Nat.lt_of_lt_of_le ?_ index
      split <;> exact Nat.lt_succ_self _
    split at ends
    next => cases ends
    next =>
      obtain rfl := Except.ok.inj ends
      have first : Keeps lexer (begun.setKey none) := keeps.trans (keeps_of_eq rfl rfl)
      refine found_push chars lexer middle _ _ (orderly.moves moves) (first.trans moves.keeps) further
        _ .key (.refl _) (fits_from chars lexer ready.orderly _ _ rfl noTilde further) (Nat.le_refl _) ?_ (Nat.le_refl _) (by simp)
      intro last member dash _
      rw [moves.tokens] at member
      exact roomy last member dash

theorem closes_line (lexer : Lexer) : ∃ mark : Mark, mark.index = lexer.mark.index ∧
    (if (lexer.mark.column == 0) = true then lexer else { lexer with mark := ⟨lexer.mark.index, lexer.mark.line + 1, 0⟩ }) =
      { lexer with mark := mark } := by
  split
  next => exact ⟨lexer.mark, rfl, rfl⟩
  next => exact ⟨⟨lexer.mark.index, lexer.mark.line + 1, 0⟩, rfl, rfl⟩

theorem Orderly.end_keys {chars : List Char} {lexer : Lexer} {high : Nat} (orderly : Orderly chars lexer high) (mark : Mark)
    (index : mark.index = lexer.mark.index) :
    Orderly chars { lexer with mark := mark, keys := lexer.keys.map fun _ => none } high :=
  ⟨by rw [index, orderly.rest], orderly.taken_le, orderly.row, keys_fit_none chars _ _ (by simp), by simp,
    orderly.framed, by rw [List.length_map, orderly.levels]⟩

structure Outcome (chars : List Char) (before after : Lexer) : Prop where
  steady : Steady chars after
  keeps : Keeps before after
  longer : before.tokens.size < after.tokens.size
  progress : after.rest.length < before.rest.length ∨ ∀ key ∈ after.keys, key = none

theorem stream_end_outcome (chars : List Char) (lexer after : Lexer) (steady : Steady chars lexer)
    (ended : isEnd lexer.peek = true) (found : lexer.streamEnd = .ok after) : Outcome chars lexer after := by
  obtain ⟨orderly, dashed⟩ := steady
  unfold streamEnd at found
  obtain ⟨mark, index, closes⟩ := closes_line lexer
  rw [closes] at found
  have start := orderly.end_keys mark index
  have same : Keeps lexer { lexer with mark := mark, keys := lexer.keys.map fun _ => none } := keeps_of_eq rfl rfl
  have placed := place_congr chars lexer { lexer with mark := mark, keys := lexer.keys.map fun _ => none } index
  simp only at found
  split at found
  next => cases found
  next =>
    -- a dash has ended where the text does, before the place of the blocks that end there
    have closed := start.unroll (-1) (Nat.le_of_eq placed.symm) (by simp) fun last member dash => by
      have behind := (dashed last member dash).finish_le
      have known := place_eq chars lexer orderly.rest
      rw [ended, if_pos rfl, ← placed] at known
      exact .inl (by change _ ≤ place chars _; omega)
    obtain ⟨keeps, still⟩ := unroll_keeps _ (-1) start.framed start.taken_le
    have keys : (unrollIndent { lexer with mark := mark, keys := lexer.keys.map fun _ => none } (-1)).keys =
        lexer.keys.map fun _ => none := by
      unfold unrollIndent
      split <;> rfl
    obtain rfl := Except.ok.inj found
    generalize unrollIndent { lexer with mark := mark, keys := lexer.keys.map fun _ => none } (-1) = middle at *
    have shown : Token.place chars ⟨.empty middle.mark, .streamEnd⟩ = Token.place chars ⟨.empty mark, .blockEnd⟩ := by
      rw [still]
      rfl
    have pushed := closed.push (.empty middle.mark) .streamEnd (Token.fits_empty chars _ _ rfl rfl) (Nat.le_of_eq shown.symm)
      (fun _ _ _ close => by cases close) _ (Nat.le_refl _)
    refine ⟨⟨?_, ?_⟩, ?_, ?_, .inr ?_⟩
    · exact pushed.moves (.still rfl rfl rfl)
    · intro last member dash
      rw [show middle.forbidKey.push (.empty middle.mark) .streamEnd = (middle.push (.empty middle.mark) .streamEnd).forbidKey
        from rfl] at member
      rw [show (middle.push (.empty middle.mark) .streamEnd).forbidKey.tokens = (middle.push (.empty middle.mark) .streamEnd).tokens
        from rfl, last_of_push] at member
      obtain rfl := Option.mem_some_iff.mp member
      cases dash
    · exact (same.trans keeps).trans (keeps_append _ rfl closed.taken_le Array.toList_push)
    · change lexer.tokens.size < (middle.tokens.push _).size
      rw [Array.size_push]
      exact Nat.lt_succ_of_le (same.trans keeps).size_le
    · intro key member
      change key ∈ middle.keys at member
      rw [keys] at member
      obtain ⟨-, -, rfl⟩ := List.mem_map.mp member
      rfl

end YamlDialects.Yaml.Lexer
