import YamlDialects.Proofs.Yaml.Token.Next

/-!
Blocks in the list of tokens. A token that opens a block stands further to the right than the block around it. The token
of a mapping is put in before its first key when the key is known as one, and by then no block has been opened or closed
since the key started.
-/

set_option autoImplicit false

namespace YamlDialects.Yaml

namespace TokenKind

def opensBlock : TokenKind → Bool
  | .blockSequenceStart => true
  | .blockMappingStart => true
  | _ => false

def isBorder (kind : TokenKind) : Bool :=
  kind.opensBlock || kind == .blockEnd

end TokenKind

namespace Token

def nest? (columns : List Int) (token : Token) : Option (List Int) :=
  if token.kind.opensBlock then
    if columns.headD (-1) < token.span.start.column then some (token.span.start.column :: columns) else none
  else if token.kind = .blockEnd then
    match columns with
    | [] => none
    | _ :: outer => some outer
  else some columns

theorem nest_plain (columns : List Int) (token : Token) (plain : token.kind.isBorder = false) :
    token.nest? columns = some columns := by
  simp only [TokenKind.isBorder, Bool.or_eq_false_iff, beq_eq_false_iff_ne] at plain
  simp [nest?, plain]

theorem nest_all_plain (columns : List Int) (tokens : List Token) (plain : ∀ token ∈ tokens, token.kind.isBorder = false) :
    tokens.foldlM nest? columns = some columns := by
  induction tokens with
  | nil => rfl
  | cons token rest ih =>
      rw [List.foldlM_cons, nest_plain columns token (plain token List.mem_cons_self)]
      exact ih fun other member => plain other (List.mem_cons_of_mem _ member)

theorem nest_close (columns : List Int) (span : Span) (count : Nat) (le : count ≤ columns.length) :
    (List.replicate count ⟨span, .blockEnd⟩).foldlM nest? columns = some (columns.drop count) := by
  induction count generalizing columns with
  | zero => rfl
  | succ count ih =>
      cases columns with
      | nil => simp at le
      | cons column outer => exact ih outer (by simpa using le)

end Token

namespace Lexer

def columnsOf : Int → List Indent → List Int
  | _, [] => []
  | indent, open_ :: outer => if open_.isBlock then indent :: columnsOf open_.outer outer else columnsOf open_.outer outer

def columns (lexer : Lexer) : List Int :=
  columnsOf lexer.indent lexer.indents

structure Nested (lexer : Lexer) : Prop where
  opened : lexer.tokens.toList.foldlM Token.nest? [] = some lexer.columns
  plain : ∀ key, some key ∈ lexer.keys → ∀ token ∈ lexer.tokens.toList.drop key.number, token.kind.isBorder = false
  deep : ∀ key, some key ∈ lexer.keys → lexer.base ≤ key.mark.column

structure Adds (before after : Lexer) : Prop where
  tokens : ∃ more, after.tokens.toList = before.tokens.toList ++ more ∧ ∀ token ∈ more, token.kind.isBorder = false
  columns : after.columns = before.columns
  base_le : after.base ≤ before.base
  keys : ∀ key, some key ∈ after.keys →
    some key ∈ before.keys ∨ (before.tokens.size ≤ key.number ∧ after.base ≤ key.mark.column)

namespace Adds

variable {lexer before middle after : Lexer}

theorem of_eq (tokens : after.tokens = before.tokens) (columns : after.columns = before.columns) (base : after.base ≤ before.base)
    (keys : ∀ key, some key ∈ after.keys → some key ∈ before.keys) : Adds before after :=
  ⟨⟨[], by rw [tokens, List.append_nil], by simp⟩, columns, base, fun key member => .inl (keys key member)⟩

theorem trans (one : Adds before middle) (two : Adds middle after) : Adds before after := by
  obtain ⟨first, added, plain⟩ := one.tokens
  obtain ⟨second, further, flat⟩ := two.tokens
  refine ⟨⟨first ++ second, by rw [further, added, List.append_assoc], ?_⟩, two.columns.trans one.columns,
    Int.le_trans two.base_le one.base_le, fun key member => ?_⟩
  · intro token among
    exact (List.mem_append.mp among).elim (plain token) (flat token)
  · rcases two.keys key member with old | ⟨number, deep⟩
    · refine (one.keys key old).imp_right fun late => ⟨late.1, Int.le_trans two.base_le late.2⟩
    · refine .inr ⟨?_, deep⟩
      have longer : before.tokens.size ≤ middle.tokens.size := by
        rw [← Array.length_toList, ← Array.length_toList, added, List.length_append]
        exact Nat.le_add_right _ _
      omega

theorem nested (adds : Adds before after) (nested : Nested before) : Nested after := by
  obtain ⟨more, tokens, plain⟩ := adds.tokens
  refine ⟨?_, fun key member token among => ?_, fun key member => ?_⟩
  · rw [tokens, List.foldlM_append, nested.opened, adds.columns]
    exact Token.nest_all_plain _ more plain
  · rw [tokens, List.drop_append] at among
    rcases List.mem_append.mp among with old | new
    · rcases adds.keys key member with known | ⟨number, -⟩
      · exact nested.plain key known token old
      · rw [List.drop_of_length_le (by rwa [Array.length_toList])] at old
        cases old
    · exact plain token (List.mem_of_mem_drop new)
  · rcases adds.keys key member with known | ⟨-, deep⟩
    · exact Int.le_trans adds.base_le (nested.deep key known)
    · exact deep

theorem refl (lexer : Lexer) : Adds lexer lexer :=
  of_eq rfl rfl (Int.le_refl _) fun _ member => member

theorem moves (moves : Moves before after) : Adds before after :=
  of_eq moves.tokens (by rw [Lexer.columns, moves.indent, moves.indents, Lexer.columns])
    (Int.le_of_eq (by rw [base, moves.indent, moves.indents, base])) fun key member => by rwa [moves.keys] at member

theorem push (span : Span) (kind : TokenKind) (plain : kind.isBorder = false) : Adds lexer (lexer.push span kind) :=
  ⟨⟨[⟨span, kind⟩], Array.toList_push, by simpa using plain⟩, rfl, Int.le_refl _, fun _ member => .inl member⟩

theorem set_none : Adds lexer (lexer.setKey none) := by
  refine of_eq rfl rfl (Int.le_refl _) fun key member => ?_
  rcases List.mem_cons.mp member with same | among
  · cases same
  · exact List.mem_of_mem_tail among

theorem save_key (deep : lexer.base ≤ lexer.mark.column) : Adds lexer lexer.saveKey := by
  unfold saveKey
  split
  next =>
    refine ⟨⟨[], by simp [setKey], by simp⟩, rfl, Int.le_refl _, fun key member => ?_⟩
    rcases List.mem_cons.mp member with same | among
    · cases same
      exact .inr ⟨Nat.le_refl _, deep⟩
    · exact .inl (List.mem_of_mem_tail among)
  next => exact refl lexer

theorem roll_one_column (framed : Framed lexer.indent lexer.indents) : Adds lexer lexer.rollOneColumn := by
  obtain ⟨indent, indents, rolled, -, base⟩ := roll_one_column_spec lexer framed
  refine of_eq (by rw [rolled]; rfl) ?_ (by rw [rolled]; exact Int.le_of_eq base) fun key member => by rwa [rolled] at member
  unfold rollOneColumn
  split <;> rfl

theorem columns_close_prepared (indent : Int) (indents : List Indent) :
    columnsOf (closePrepared indent indents).1 (closePrepared indent indents).2 = columnsOf indent indents := by
  induction indents generalizing indent with
  | nil => rfl
  | cons first outer ih =>
      rw [closePrepared]
      cases block : first.isBlock with
      | true => rfl
      | false => simpa [columnsOf, block] using ih first.outer

theorem unroll_prepared (framed : Framed lexer.indent lexer.indents) : Adds lexer lexer.unrollPrepared := by
  obtain ⟨indent, indents, unrolled, -, base_le⟩ := unroll_prepared_spec lexer framed
  exact of_eq rfl (columns_close_prepared lexer.indent lexer.indents) (by rw [unrolled]; exact base_le) fun _ member => member

theorem enter_flow : Adds lexer { lexer with flowLevel := lexer.flowLevel + 1, keys := none :: lexer.keys } :=
  of_eq rfl rfl (Int.le_refl _) fun key member => by simpa using member

theorem leave_flow : Adds lexer lexer.leaveFlow := by
  unfold leaveFlow
  split
  next => exact of_eq rfl rfl (Int.le_refl _) fun _ member => List.mem_of_mem_tail member
  next => exact refl lexer

theorem end_pair : Adds lexer lexer.endPair := by
  unfold endPair
  split
  next outer _ =>
    have moved : Moves lexer { lexer with flowMappingStarted := false, pairs := false :: outer } := .still rfl rfl rfl
    exact (moves moved).trans (push _ _ rfl)
  next => exact refl lexer

end Adds

theorem save_key_framed (lexer : Lexer) (framed : Framed lexer.indent lexer.indents) :
    Framed lexer.saveKey.indent lexer.saveKey.indents := by
  unfold saveKey
  split <;> exact framed

section

variable (lexer after : Lexer) (framed : Framed lexer.indent lexer.indents) (deep : lexer.base ≤ lexer.mark.column)

include deep

theorem anchor_adds (isAlias : Bool) (found : lexer.anchor isAlias = .ok after) : Adds lexer after := by
  have moves : Moves lexer.saveKey ((lexer.saveKey.forbidKey.advanceContent 1).takeWhile isAnchorChar).2 :=
    ((forbid_key_moves lexer.saveKey).trans (advance_content_moves _ 1)).trans (skip_while_moves _ _)
  unfold anchor at found
  generalize (lexer.saveKey.forbidKey.advanceContent 1).takeWhile isAnchorChar = read at moves found
  obtain ⟨name, middle⟩ := read
  simp only at moves found
  split at found
  next => cases found
  next =>
    obtain rfl := Except.ok.inj found
    exact (Adds.save_key deep).trans ((Adds.moves moves).trans (.push _ _ (by cases isAlias <;> rfl)))

theorem tag_adds (found : lexer.tag = .ok after) : Adds lexer after := by
  have start := forbid_key_moves lexer.saveKey
  have ending (kind : TokenKind) (middle : Lexer) (moves : Moves lexer.saveKey middle) (plain : kind.isBorder = false)
      (ends : (if (isGapOrEnd middle.peek || decide (middle.flowLevel > 0) && isFlow middle.peek) = true then
        .ok (middle.push ⟨lexer.mark, middle.mark⟩ kind) else .error ⟨.tagEnd, lexer.mark⟩ : Except Fault Lexer) = .ok after) :
      Adds lexer after := by
    split at ends
    next =>
      obtain rfl := Except.ok.inj ends
      exact (Adds.save_key deep).trans ((Adds.moves moves).trans (.push _ _ plain))
    next => cases ends
  unfold tag at found
  simp only at found
  split at found
  next =>
    obtain ⟨⟨kind, middle⟩, reads, ends⟩ := Fault.bind_ok _ _ _ found
    obtain ⟨onward, handle, name, rfl⟩ := verbatim_tag_moves _ _ middle kind reads
    exact ending _ middle ((start.trans (advance_content_moves _ 2)).trans onward) rfl ends
  next =>
    obtain ⟨⟨kind, middle⟩, reads, ends⟩ := Fault.bind_ok _ _ _ found
    obtain ⟨onward, -, handle, name, rfl⟩ := short_tag_moves _ _ middle kind reads
    exact ending _ middle (start.trans onward) rfl ends

theorem quoted_adds (quote : Char) (found : lexer.quoted quote = .ok after) : Adds lexer after := by
  have start := (forbid_key_moves lexer.saveKey).trans (advance_content_moves _ 1)
  unfold quoted at found
  obtain ⟨⟨text, inner⟩, reads, rest⟩ := Fault.bind_ok _ _ _ found
  obtain ⟨⟨gaps, outer⟩, skips, last⟩ := Fault.bind_ok _ _ _ rest
  have inside := start.trans (quoted_text_moves _ _ _ _ text _ inner reads)
  have closed := (inside.trans (advance_content_moves _ 1)).trans (skip_to_line_end_moves _ outer gaps skips).1
  simp only at last
  split at last
  next =>
    obtain ⟨middle, skipped, ends⟩ := Fault.bind_ok _ _ _ last
    have moves : Moves lexer.saveKey { middle with adjacentValueAt := middle.mark.index } :=
      (closed.trans (skip_to_token_moves outer middle skipped)).trans (.still rfl rfl rfl)
    obtain rfl := Except.ok.inj ends
    exact (Adds.save_key deep).trans ((Adds.moves moves).trans (.push _ _ rfl))
  next => cases last

include framed

theorem plain_adds (found : lexer.plain = .ok after) : Adds lexer after := by
  unfold plain at found
  have start : Adds lexer lexer.saveKey.forbidKey.unrollPrepared :=
    ((Adds.save_key deep).trans (.moves (forbid_key_moves _))).trans (.unroll_prepared (save_key_framed lexer framed))
  have mark : lexer.saveKey.forbidKey.unrollPrepared.mark = lexer.mark := by
    unfold saveKey
    split <;> rfl
  simp only at found
  generalize lexer.saveKey.forbidKey.unrollPrepared = begun at start mark found
  split at found
  next => cases found
  next =>
    obtain ⟨⟨text, stop, middle⟩, reads, rest⟩ := Fault.bind_ok _ _ _ found
    have moves := (plain_text_moves _ _ _ _ _ text _ stop begun middle (by rw [mark]) reads).moves
    have allowed : Moves begun (if middle.atLineStart = true then middle.allowKey else middle) := by
      split
      next => exact moves.trans (allow_key_moves _)
      next => exact moves
    simp only at rest
    split at rest
    next => cases rest
    next =>
      obtain rfl := Except.ok.inj rest
      exact start.trans ((Adds.moves allowed).trans (.push _ _ rfl))

theorem block_scalar_adds (folded : Bool) (found : lexer.blockScalar folded = .ok after) : Adds lexer after := by
  have first := (allow_key_moves lexer.saveKey).trans (advance_content_moves _ 1)
  have start : Adds lexer (lexer.saveKey.allowKey.advanceContent 1).unrollPrepared :=
    ((Adds.save_key deep).trans (.moves first)).trans (.unroll_prepared (save_key_framed lexer framed))
  unfold blockScalar at found
  obtain ⟨⟨chomping, count, header⟩, reads, rest⟩ := Fault.bind_ok _ _ _ found
  obtain ⟨⟨gaps, line⟩, skips, last⟩ := Fault.bind_ok _ _ _ rest
  have moves := (block_header_moves _ _ header chomping count reads).trans (skip_to_line_end_moves _ line gaps skips).1
  simp only at last
  split at last
  next => cases last
  next =>
    split at last
    next => cases last
    next =>
      have begins := (moves.trans (skip_break_moves line)).trans (block_start_moves count _)
      generalize blockStart count line.skipBreak = lines at begins last
      obtain ⟨indent, breaks, begun⟩ := lines
      simp only at begins last
      split at last
      next =>
        obtain rfl := Except.ok.inj last
        exact start.trans ((Adds.moves begins).trans (.push _ _ rfl))
      next =>
        split at last
        next => cases last
        next =>
          have reads := block_lines_moves folded indent (begun.rest.length + 2) ⟨[], false, breaks, false⟩ begun
          obtain rfl := Except.ok.inj last
          exact start.trans ((Adds.moves (begins.trans reads)).trans (.push _ _ rfl))

theorem flow_start_adds (isMapping : Bool) (found : lexer.flowStart isMapping = .ok after) : Adds lexer after := by
  have start : Adds lexer lexer.saveKey.rollOneColumn :=
    (Adds.save_key deep).trans (.roll_one_column (save_key_framed lexer framed))
  unfold flowStart at found
  simp only at found
  generalize lexer.saveKey.rollOneColumn = begun at start found
  split at found
  next => cases found
  next =>
    obtain ⟨⟨gaps, middle⟩, skips, ends⟩ := Fault.bind_ok _ _ _ found
    have marked (inner : Lexer) : Moves inner
        (if isMapping = true then { inner with flowMappingStarted := true } else { inner with pairs := false :: inner.pairs }) := by
      split <;> exact .still rfl rfl rfl
    have moves := (((allow_key_moves { begun with flowLevel := begun.flowLevel + 1, keys := none :: begun.keys }).trans
      (advance_content_moves _ 1)).trans (marked _)).trans (skip_to_line_end_moves _ middle gaps skips).1
    obtain rfl := Except.ok.inj ends
    exact (start.trans .enter_flow).trans ((Adds.moves moves).trans (.push _ _ (by cases isMapping <;> rfl)))

end

theorem flow_end_adds (lexer after : Lexer) (isMapping : Bool) (found : lexer.flowEnd isMapping = .ok after) :
    Adds lexer after := by
  unfold flowEnd at found
  obtain ⟨removed, removes, rest⟩ := Fault.bind_ok _ _ _ found
  obtain ⟨⟨gaps, outer⟩, skips, ends⟩ := Fault.bind_ok _ _ _ rest
  obtain rfl := remove_key_eq removes
  have left : Adds lexer (lexer.setKey none).leaveFlow.forbidKey :=
    Adds.set_none.trans (Adds.leave_flow.trans (.moves (forbid_key_moves _)))
  generalize (lexer.setKey none).leaveFlow.forbidKey = inner at left skips
  -- only a sequence ends a pair
  obtain ⟨middle, closed, skips⟩ : ∃ middle, Adds lexer middle ∧ (middle.advanceContent 1).skipToLineEnd = .ok (gaps, outer) := by
    cases isMapping with
    | true => exact ⟨inner, left, skips⟩
    | false =>
        have paired : Moves inner.endPair { inner.endPair with pairs := inner.pairs.tail } := .still rfl rfl rfl
        exact ⟨_, left.trans (Adds.end_pair.trans (.moves paired)), skips⟩
  have adjacent : Moves outer (if outer.flowLevel > 0 then { outer with adjacentValueAt := outer.mark.index } else outer) := by
    split
    next => exact .still rfl rfl rfl
    next => exact .refl outer
  have moves := ((advance_content_moves middle 1).trans (skip_to_line_end_moves _ outer gaps skips).1).trans adjacent
  obtain rfl := Except.ok.inj ends
  exact closed.trans ((Adds.moves moves).trans (.push _ _ (by cases isMapping <;> rfl)))

theorem flow_entry_adds (lexer after : Lexer) (found : lexer.flowEntry = .ok after) : Adds lexer after := by
  unfold flowEntry at found
  obtain ⟨removed, removes, rest⟩ := Fault.bind_ok _ _ _ found
  obtain ⟨⟨gaps, middle⟩, skips, ends⟩ := Fault.bind_ok _ _ _ rest
  obtain rfl := remove_key_eq removes
  have moves := (advance_content_moves (lexer.setKey none).allowKey.endPair 1).trans (skip_to_line_end_moves _ middle gaps skips).1
  obtain rfl := Except.ok.inj ends
  exact (Adds.set_none.trans (.moves (allow_key_moves _))).trans (Adds.end_pair.trans ((Adds.moves moves).trans (.push _ _ rfl)))

theorem close_indents_columns (column : Int) (span : Span) (indent : Int) (indents : List Indent) (tokens : Array Token) :
    ∃ count, (closeIndents column span indent indents tokens).2.2.toList =
        tokens.toList ++ List.replicate count ⟨span, .blockEnd⟩ ∧
      count ≤ (columnsOf indent indents).length ∧
      columnsOf (closeIndents column span indent indents tokens).1 (closeIndents column span indent indents tokens).2.1 =
        (columnsOf indent indents).drop count := by
  induction indents generalizing indent tokens with
  | nil => exact ⟨0, by simp [closeIndents], Nat.le_refl _, rfl⟩
  | cons first outer ih =>
      rw [closeIndents]
      split
      next =>
        cases block : first.isBlock with
        | true =>
            obtain ⟨count, pushed, le, left⟩ := ih first.outer (tokens.push ⟨span, .blockEnd⟩)
            simp only [columnsOf, block, if_true, List.length_cons]
            exact ⟨count + 1, by simp [pushed, List.replicate_succ], by omega, by simpa using left⟩
        | false =>
            obtain ⟨count, pushed, le, left⟩ := ih first.outer tokens
            simp only [columnsOf, block, Bool.false_eq_true, if_false]
            exact ⟨count, pushed, le, left⟩
      next => exact ⟨0, by simp, Nat.zero_le _, rfl⟩

theorem close_none (column : Int) (span : Span) (indent : Int) (indents : List Indent) (tokens : Array Token)
    (framed : Framed indent indents) (within_ : baseOf indent indents ≤ column) :
    (closeIndents column span indent indents tokens).2.2 = tokens ∧
      baseOf (closeIndents column span indent indents tokens).1 (closeIndents column span indent indents tokens).2.1 ≤
        baseOf indent indents := by
  cases indents with
  | nil => exact ⟨rfl, Int.le_refl _⟩
  | cons first outer =>
      rw [closeIndents]
      split
      next deeper =>
        cases block : first.isBlock with
        | true =>
            simp only [baseOf, block, if_true] at within_
            omega
        | false =>
            -- what was only prepared goes, and what is around it stays
            simp only [baseOf, block, Bool.false_eq_true, if_false] at within_ ⊢
            have stays := (close_indents_spec column span first.outer outer tokens framed.2).2.2 within_
            rw [stays]
            exact ⟨rfl, base_indented { rest := [] } first.outer outer framed.2⟩
      next => exact ⟨rfl, Int.le_refl _⟩

theorem unroll_nested (lexer : Lexer) (column : Int) (framed : Framed lexer.indent lexer.indents) (nested : Nested lexer)
    (clear : lexer.flowLevel = 0 → ∀ key, some key ∈ lexer.keys → (key.mark.column : Int) ≤ column) :
    Nested (lexer.unrollIndent column) := by
  unfold unrollIndent
  split
  next => exact nested
  next outside =>
    obtain ⟨count, pushed, le, left⟩ :=
      close_indents_columns column (.empty lexer.mark) lexer.indent lexer.indents lexer.tokens
    have still (key : SimpleKey) (member : some key ∈ lexer.keys) :=
      close_none column (.empty lexer.mark) lexer.indent lexer.indents lexer.tokens framed
        (Int.le_trans (nested.deep key member) (clear (by omega) key member))
    generalize closeIndents column (.empty lexer.mark) lexer.indent lexer.indents lexer.tokens = closed at pushed left still
    obtain ⟨indent, indents, tokens⟩ := closed
    refine ⟨?_, fun key member token among => ?_, fun key member => ?_⟩
    · change tokens.toList.foldlM Token.nest? [] = _
      rw [show tokens.toList = _ from pushed, List.foldlM_append, nested.opened]
      exact (Token.nest_close lexer.columns _ count le).trans (congrArg some left.symm)
    · change token ∈ tokens.toList.drop key.number at among
      rw [show tokens = _ from (still key member).1] at among
      exact nested.plain key member token among
    · exact Int.le_trans (still key member).2 (nested.deep key member)

theorem no_key (chars : List Char) (lexer : Lexer) (high : Nat) (orderly : Orderly chars lexer high) (level : lexer.flowLevel = 0)
    (key : SimpleKey) : some key ∉ (lexer.setKey none).keys := by
  rw [only_key chars lexer high orderly level]
  simp

theorem closes_all_nested (chars : List Char) (lexer after : Lexer) (high : Nat) (orderly : Orderly chars lexer high)
    (nested : Nested lexer) (removes : (lexer.unrollIndent (-1)).removeKey = .ok after) : Nested after := by
  obtain rfl := (remove_key_eq removes).trans (unroll_set_none lexer (-1))
  refine unroll_nested _ (-1) orderly.framed (Adds.set_none.nested nested) fun level key member => ?_
  exact absurd member (no_key chars lexer high orderly level key)

theorem document_mark_nested (chars : List Char) (lexer after : Lexer) (kind : TokenKind) (high : Nat)
    (orderly : Orderly chars lexer high) (nested : Nested lexer) (plain : kind.isBorder = false)
    (found : documentMark kind lexer = .ok after) : Nested after := by
  unfold documentMark at found
  obtain ⟨closed, closes, ends⟩ := Fault.bind_ok _ _ _ found
  have moves := (forbid_key_moves closed).trans (advance_content_moves _ 3)
  obtain rfl := Except.ok.inj ends
  exact ((Adds.moves moves).trans (.push _ _ plain)).nested (closes_all_nested chars lexer closed high orderly nested closes)

theorem document_end_nested (chars : List Char) (lexer after : Lexer) (high : Nat) (orderly : Orderly chars lexer high)
    (nested : Nested lexer) (found : lexer.documentEnd = .ok after) : Nested after := by
  unfold documentEnd at found
  obtain ⟨middle, marks, rest⟩ := Fault.bind_ok _ _ _ found
  obtain ⟨⟨gaps, line⟩, skips, ends⟩ := Fault.bind_ok _ _ _ rest
  simp only at ends
  split at ends
  next =>
    obtain rfl := Except.ok.inj ends
    exact (Adds.moves (skip_to_line_end_moves middle line gaps skips).1).nested
      (document_mark_nested chars lexer middle .documentEnd high orderly nested rfl marks)
  next => cases ends

theorem directive_nested (chars : List Char) (lexer after : Lexer) (high : Nat) (orderly : Orderly chars lexer high)
    (nested : Nested lexer) (found : lexer.directive = .ok after) : Nested after := by
  unfold directive at found
  obtain ⟨closed, closes, rest⟩ := Fault.bind_ok _ _ _ found
  have start := closes_all_nested chars lexer closed high orderly nested closes
  have name : Moves closed ((closed.forbidKey.advanceContent 1).takeWhile isNameChar).2 :=
    ((forbid_key_moves closed).trans (advance_content_moves _ 1)).trans (skip_while_moves _ _)
  have ending (kind : TokenKind) (middle : Lexer) (mark : Mark) (moves : Moves closed middle) (plain : kind.isBorder = false)
      (ends : (do
        let line ← middle.skipToLineEnd
        if isBreakOrEnd line.2.peek = true then pure (line.2.skipBreak.push ⟨mark, middle.mark⟩ kind)
        else .error ⟨.directiveEnd, mark⟩) = Except.ok after) : Nested after := by
    obtain ⟨⟨gaps, line⟩, skips, last⟩ := Fault.bind_ok _ _ _ ends
    have all := moves.trans ((skip_to_line_end_moves middle line gaps skips).1.trans (skip_break_moves line))
    simp only at last
    split at last
    next =>
      obtain rfl := Except.ok.inj last
      exact ((Adds.moves all).trans (.push _ _ plain)).nested start
    next => cases last
  simp only at rest
  generalize (closed.forbidKey.advanceContent 1).takeWhile isNameChar = read at name rest
  split at rest
  next => cases rest
  next =>
    split at rest
    next => cases rest
    next =>
      split at rest
      next =>
        obtain ⟨⟨kind, middle⟩, reads, ends⟩ := Fault.bind_ok _ _ _ rest
        obtain ⟨moves, rfl⟩ := version_directive_moves _ _ middle kind reads
        exact ending _ middle _ (name.trans moves) rfl ends
      next =>
        split at rest
        next =>
          obtain ⟨⟨kind, middle⟩, reads, ends⟩ := Fault.bind_ok _ _ _ rest
          obtain ⟨moves, handle, prefix_, rfl⟩ := tag_directive_moves _ _ middle kind reads
          exact ending _ middle _ (name.trans moves) rfl ends
        next => exact ending _ _ _ (name.trans (skip_while_moves _ _)) rfl rest

theorem stream_end_nested (lexer after : Lexer) (framed : Framed lexer.indent lexer.indents) (nested : Nested lexer)
    (found : lexer.streamEnd = .ok after) : Nested after := by
  unfold streamEnd at found
  generalize begins : (if (lexer.mark.column == 0) = true then lexer
    else { lexer with mark := ⟨lexer.mark.index, lexer.mark.line + 1, 0⟩ }) = begun at found
  simp only at found
  split at found
  next => cases found
  next =>
    have cleared : Nested { begun with keys := begun.keys.map fun _ => none } ∧ Framed begun.indent begun.indents := by
      subst begins
      split <;> exact ⟨⟨nested.opened, by simp, by simp⟩, framed⟩
    have closed := unroll_nested { begun with keys := begun.keys.map fun _ => none } (-1) cleared.2 cleared.1 (by simp)
    obtain rfl := Except.ok.inj found
    exact ((Adds.moves (forbid_key_moves _)).trans (.push _ _ rfl)).nested closed

theorem head_columns_le (indent : Int) (indents : List Indent) (framed : Framed indent indents) :
    ∀ column ∈ (columnsOf indent indents).head?, column ≤ indent := by
  induction indents generalizing indent with
  | nil => simp [columnsOf]
  | cons first outer ih =>
      cases block : first.isBlock with
      | true => simp [columnsOf, block]
      | false =>
          simp only [columnsOf, block, Bool.false_eq_true, if_false]
          intro column head
          have le := ih first.outer framed.2 column head
          have prepared := framed.1 block
          omega

theorem columns_drop_prepared (lexer : Lexer) : lexer.dropPrepared.columns = lexer.columns := by
  unfold dropPrepared columns
  split
  next first outer opened =>
    rw [opened]
    split
    next => rw [opened]
    next prepared => simp [columnsOf, prepared]
  next => rfl

theorem head_lt_of_base_lt (lexer : Lexer) (column : Nat) (framed : Framed lexer.indent lexer.indents)
    (deeper : lexer.base < column) : lexer.columns.headD (-1) < column := by
  obtain ⟨indents, dropped, kept, -, -⟩ := drop_prepared_spec lexer framed
  have head := head_columns_le lexer.base indents kept
  rw [← columns_drop_prepared, dropped]
  change (columnsOf lexer.base indents).headD (-1) < column
  cases columns : columnsOf lexer.base indents with
  | nil => simp only [List.headD_nil]; omega
  | cons first outer =>
      have le := head first (by rw [columns]; rfl)
      simp only [List.headD_cons]
      omega

theorem roll_columns (lexer : Lexer) (column : Nat) (number : Option Nat) (kind : TokenKind) (mark : Mark)
    (framed : Framed lexer.indent lexer.indents) :
    ∃ indent indents, Framed indent indents ∧
      ((lexer.rollIndent column number kind mark = lexer.indented indent indents ∧
          (lexer.indented indent indents).columns = lexer.columns ∧ (lexer.indented indent indents).base ≤ lexer.base) ∨
        (lexer.flowLevel = 0 ∧ lexer.columns.headD (-1) < column ∧
          (lexer.indented indent indents).columns = (column : Int) :: lexer.columns ∧
          lexer.rollIndent column number kind mark =
            match number with
            | some number => (lexer.indented indent indents).insertAt number (.empty mark) kind
            | none => (lexer.indented indent indents).push (.empty mark) kind)) := by
  obtain ⟨indents, dropped, kept, -, -⟩ := drop_prepared_spec lexer framed
  have same : (lexer.indented lexer.base indents).columns = lexer.columns := by rw [← dropped, columns_drop_prepared]
  unfold rollIndent
  by_cases level : lexer.flowLevel > 0
  · rw [if_pos level]
    exact ⟨lexer.indent, lexer.indents, framed, .inl ⟨rfl, rfl, Int.le_refl _⟩⟩
  · rw [if_neg level]
    by_cases within_ : lexer.indent ≤ column
    · simp only [if_pos within_, dropped]
      by_cases deeper : lexer.base < column
      · refine ⟨column, ⟨lexer.base, true⟩ :: indents, ⟨by simp, kept⟩, .inr ⟨by omega, head_lt_of_base_lt lexer column framed deeper,
          congrArg (List.cons (column : Int)) same, ?_⟩⟩
        rw [if_pos (show (lexer.indented lexer.base indents).indent < column from deeper)]
        cases number with
        | none => rfl
        | some number => rfl
      · rw [if_neg (show ¬ (lexer.indented lexer.base indents).indent < column from deeper)]
        exact ⟨lexer.base, indents, kept, .inl ⟨rfl, same, base_indented lexer lexer.base indents kept⟩⟩
    · simp only [if_neg within_]
      rw [if_neg (show ¬ lexer.indent < column by omega)]
      exact ⟨lexer.indent, lexer.indents, framed, .inl ⟨rfl, rfl, Int.le_refl _⟩⟩

theorem roll_framed (lexer : Lexer) (column : Nat) (number : Option Nat) (kind : TokenKind) (mark : Mark)
    (framed : Framed lexer.indent lexer.indents) :
    Framed (lexer.rollIndent column number kind mark).indent (lexer.rollIndent column number kind mark).indents := by
  obtain ⟨indent, indents, kept, ⟨rolled, -, -⟩ | ⟨-, -, -, rolled⟩⟩ := roll_columns lexer column number kind mark framed
  · rw [rolled]
    exact kept
  · rw [rolled]
    cases number <;> exact kept

theorem nest_open (columns : List Int) (mark : Mark) (kind : TokenKind) (opens : kind.opensBlock = true)
    (deeper : columns.headD (-1) < mark.column) :
    Token.nest? columns ⟨.empty mark, kind⟩ = some ((mark.column : Int) :: columns) := by
  simp only [Token.nest?, opens, if_true]
  exact if_pos deeper

theorem nested_insert (before after : Lexer) (nested : Nested before) (early middle late : List Token)
    (old : before.tokens.toList = early ++ late) (plain : ∀ token ∈ late, token.kind.isBorder = false)
    (new : after.tokens.toList = early ++ (middle ++ late))
    (opens : middle.foldlM Token.nest? before.columns = some after.columns)
    (keys : ∀ key, some key ∈ after.keys → some key ∈ before.keys ∧ key.number ≤ early.length ∧
      (∀ token ∈ middle, token.kind.isBorder = false) ∧ after.base ≤ before.base) : Nested after := by
  obtain ⟨columns, opened, last⟩ : ∃ columns, early.foldlM Token.nest? [] = some columns ∧
      late.foldlM Token.nest? columns = some before.columns := by
    have all := nested.opened
    rw [old, List.foldlM_append] at all
    exact Option.bind_eq_some_iff.mp all
  rw [Token.nest_all_plain columns late plain] at last
  obtain rfl := Option.some.inj last
  refine ⟨?_, fun key member token among => ?_, fun key member => ?_⟩
  · rw [new, List.foldlM_append, opened, Option.bind_eq_bind, Option.bind_some, List.foldlM_append, opens]
    exact Token.nest_all_plain after.columns late plain
  · obtain ⟨known, number_le, flat, -⟩ := keys key member
    rw [new, List.drop_append_of_le_length number_le] at among
    rcases List.mem_append.mp among with first | rest
    · refine nested.plain key known token ?_
      rw [old, List.drop_append_of_le_length number_le]
      exact List.mem_append_left _ first
    · exact (List.mem_append.mp rest).elim (flat token) (plain token)
  · obtain ⟨known, -, -, base_le⟩ := keys key member
    exact Int.le_trans base_le (nested.deep key known)

theorem opens_nested (lexer : Lexer) (mark : Mark) (kind : TokenKind) (framed : Framed lexer.indent lexer.indents)
    (nested : Nested lexer) (keys : ∀ key, some key ∉ lexer.keys) (opens : kind.opensBlock = true) :
    Nested (lexer.rollIndent mark.column none kind mark) := by
  obtain ⟨indent, indents, -, ⟨rolled, columns, -⟩ | ⟨-, deeper, columns, rolled⟩⟩ :=
    roll_columns lexer mark.column none kind mark framed
  · rw [rolled]
    exact ⟨nested.opened.trans (congrArg some columns.symm), fun key member => absurd member (keys key),
      fun key member => absurd member (keys key)⟩
  · rw [rolled]
    refine nested_insert lexer _ nested lexer.tokens.toList [⟨.empty mark, kind⟩] [] (List.append_nil _).symm (by simp)
      Array.toList_push ?_ fun key member => absurd member (keys key)
    change [_].foldlM Token.nest? lexer.columns = some (lexer.indented indent indents).columns
    rw [columns, List.foldlM_cons, nest_open lexer.columns mark kind opens deeper]
    rfl

theorem roll_set_none (lexer : Lexer) (column : Nat) (kind : TokenKind) (mark : Mark) :
    (lexer.rollIndent column none kind mark).setKey none = (lexer.setKey none).rollIndent column none kind mark := by
  have dropped : lexer.dropPrepared.setKey none = (lexer.setKey none).dropPrepared := by
    obtain ⟨_, _, _, _, _, _, indents⟩ := lexer
    cases indents with
    | nil => rfl
    | cons first outer => obtain ⟨_, _ | _⟩ := first <;> rfl
  have begun : (if lexer.indent ≤ column then lexer.dropPrepared else lexer).setKey none =
      if (lexer.setKey none).indent ≤ column then (lexer.setKey none).dropPrepared else lexer.setKey none := by
    rw [← dropped, show (lexer.setKey none).indent = lexer.indent from rfl]
    split <;> rfl
  unfold rollIndent
  simp only [← begun]
  rw [show (lexer.setKey none).flowLevel = lexer.flowLevel from rfl]
  split
  next => rfl
  next =>
    generalize (if lexer.indent ≤ column then lexer.dropPrepared else lexer) = inner
    rw [show (inner.setKey none).indent = inner.indent from rfl]
    split <;> rfl

theorem roll_one_set_none (lexer : Lexer) : lexer.rollOneColumn.setKey none = (lexer.setKey none).rollOneColumn := by
  change lexer.rollOneColumn.setKey none = if (lexer.flowLevel == 0 && lexer.indents.head?.any (·.isBlock)) = true then _ else _
  unfold rollOneColumn
  split <;> rfl

theorem block_entry_nested (chars : List Char) (lexer after : Lexer) (high : Nat) (orderly : Orderly chars lexer high)
    (nested : Nested lexer) (found : lexer.blockEntry = .ok after) : Nested after := by
  unfold blockEntry at found
  split at found
  next => cases found
  next outside =>
    split at found
    next => cases found
    next =>
      split at found
      next => cases found
      next =>
        have moved := advance_content_moves lexer 1
        have opened := opens_nested ((lexer.advanceContent 1).setKey none) lexer.mark .blockSequenceStart orderly.framed
          (((Adds.moves moved).trans .set_none).nested nested) (no_key chars lexer high orderly (by omega)) rfl
        rw [← roll_set_none] at opened
        have framed := roll_framed (lexer.advanceContent 1) lexer.mark.column none .blockSequenceStart lexer.mark orderly.framed
        obtain ⟨⟨gaps, line⟩, skips, rest⟩ := Fault.bind_ok _ _ _ found
        generalize (lexer.advanceContent 1).rollIndent lexer.mark.column none .blockSequenceStart lexer.mark = begun at *
        obtain ⟨moves, -⟩ := skip_to_line_end_moves begun line gaps skips
        simp only at rest
        split at rest
        next => cases rest
        next =>
          obtain ⟨removed, removes, ends⟩ := Fault.bind_ok _ _ _ rest
          obtain rfl := remove_key_eq removes
          obtain rfl := Except.ok.inj ends
          have lined := (Adds.moves moves.set_none).nested opened
          -- the indentation may be prepared for what comes on the next line
          refine ((Adds.moves (allow_key_moves _)).trans (.push _ _ rfl)).nested ?_
          split
          next =>
            rw [roll_one_set_none]
            exact (Adds.roll_one_column (by rw [← moves.indent, ← moves.indents] at framed; exact framed)).nested lined
          next => exact lined

theorem explicit_key_nested (chars : List Char) (lexer after : Lexer) (high : Nat) (orderly : Orderly chars lexer high)
    (nested : Nested lexer) (found : lexer.explicitKey = .ok after) : Nested after := by
  unfold explicitKey at found
  simp only at found
  split at found
  next => cases found
  next =>
    obtain ⟨removed, removes, rest⟩ := Fault.bind_ok _ _ _ found
    obtain rfl := remove_key_eq removes
    obtain ⟨middle, skips, ends⟩ := Fault.bind_ok _ _ _ rest
    have begun : Nested ((if lexer.flowLevel > 0 then { lexer with flowMappingStarted := true }
        else lexer.rollIndent lexer.mark.column none .blockMappingStart lexer.mark).setKey none) := by
      split
      next =>
        have started : Moves lexer { lexer with flowMappingStarted := true } := .still rfl rfl rfl
        exact ((Adds.moves started).trans .set_none).nested nested
      next outside =>
        rw [roll_set_none]
        exact opens_nested (lexer.setKey none) lexer.mark .blockMappingStart orderly.framed (Adds.set_none.nested nested)
          (no_key chars lexer high orderly (by omega)) rfl
    generalize (if lexer.flowLevel > 0 then { lexer with flowMappingStarted := true }
        else lexer.rollIndent lexer.mark.column none .blockMappingStart lexer.mark) = begins at begun skips
    have allowed : Moves (begins.setKey none) (if lexer.flowLevel > 0 then (begins.setKey none).forbidKey
        else (begins.setKey none).allowKey) := by
      split
      next => exact forbid_key_moves _
      next => exact allow_key_moves _
    have moves := allowed.trans ((advance_content_moves _ 1).trans (skip_spaces_moves _ middle skips))
    split at ends
    next => cases ends
    next =>
      obtain rfl := Except.ok.inj ends
      exact ((Adds.moves moves).trans (.push _ _ rfl)).nested begun

theorem value_alone_nested (chars : List Char) (lexer after : Lexer) (high : Nat) (orderly : Orderly chars lexer high)
    (nested : Nested lexer) (noKey : lexer.key? = none) (isPair : Bool) (mark : Mark)
    (gives : valueAlone isPair mark lexer = .ok after) : Nested after := by
  unfold valueAlone at gives
  obtain ⟨paired, pairs, adds, framed, level, same⟩ : ∃ paired,
      (if isPair = true then lexer.push (.empty mark) .flowMappingStart else lexer) = paired ∧ Adds lexer paired ∧
      Framed paired.indent paired.indents ∧ paired.flowLevel = lexer.flowLevel ∧ paired.keys = lexer.keys := by
    refine ⟨_, rfl, ?_⟩
    cases isPair with
    | true => exact ⟨.push _ _ rfl, orderly.framed, rfl, rfl⟩
    | false => exact ⟨.refl lexer, orderly.framed, rfl, rfl⟩
  have begun := adds.nested nested
  simp only [pairs] at gives
  split at gives
  next =>
    obtain rfl := Except.ok.inj gives
    exact ((Adds.roll_one_column framed).trans (.moves (forbid_key_moves _))).nested begun
  next outside =>
    split at gives
    next => cases gives
    next =>
      have keys (key : SimpleKey) : some key ∉ paired.keys := by
        obtain ⟨first, outer, all⟩ := List.exists_cons_of_length_eq_add_one orderly.levels
        rw [same, ← set_none_eq lexer first outer all noKey]
        exact no_key chars lexer high orderly (by omega) key
      have opened := opens_nested paired mark .blockMappingStart framed begun keys rfl
      have kept := roll_framed paired mark.column none .blockMappingStart mark framed
      obtain rfl := Except.ok.inj gives
      exact ((Adds.roll_one_column kept).trans (.moves (allow_key_moves _))).nested opened

theorem keys_around (lexer : Lexer) (key : SimpleKey) (outer : List (Option SimpleKey)) (keys : lexer.keys = some key :: outer)
    (early : List Token) (length : early.length = key.number) (sorted : ∀ other, some other ∈ outer → other.number ≤ key.number)
    (levels : (some key :: outer).length = lexer.flowLevel + 1) (other : SimpleKey) (member : some other ∈ none :: outer) :
    some other ∈ lexer.keys ∧ other.number ≤ early.length ∧ lexer.flowLevel ≠ 0 := by
  have among : some other ∈ outer := by simpa using member
  refine ⟨by rw [keys]; exact List.mem_cons_of_mem _ among, by rw [length]; exact sorted other among, fun level => ?_⟩
  rw [level, List.length_cons] at levels
  have single : outer = [] := List.eq_nil_of_length_eq_zero (by omega)
  rw [single] at among
  cases among

theorem value_of_key_nested (chars : List Char) (lexer after : Lexer) (high : Nat) (orderly : Orderly chars lexer high)
    (nested : Nested lexer) (key : SimpleKey) (outer : List (Option SimpleKey)) (keys : lexer.keys = some key :: outer)
    (isPair : Bool) (mark : Mark) (gives : valueOfKey key isPair mark lexer = .ok after) : Nested after := by
  have fit := orderly.keys
  have levels := orderly.levels
  rw [keys] at fit levels
  obtain ⟨fits, sorted⟩ := fit.1 key rfl
  obtain ⟨early, late, split, length, -, -⟩ := fits.splits
  have plain : ∀ token ∈ late, token.kind.isBorder = false := by
    have all := nested.plain key (by rw [keys]; exact List.mem_cons_self)
    rwa [split, List.drop_left' length] at all
  have around := keys_around lexer key outer keys early length (fun other member => (sorted other member).1) levels
  unfold valueOfKey at gives
  split at gives
  next => cases gives
  next =>
    obtain ⟨paired, kinds, pairs, tokens, known⟩ := puts_key lexer key isPair early late split length
    have flat : ∀ token ∈ kinds.map (Token.mk (.empty key.mark)), token.kind.isBorder = false := by
      rcases known with rfl | rfl <;> simp [TokenKind.isBorder, TokenKind.opensBlock]
    generalize kinds.map (Token.mk (.empty key.mark)) = middle at tokens flat
    simp only [pairs] at gives
    have framed := roll_framed { lexer with tokens := paired } key.mark.column (some key.number) .blockMappingStart key.mark
      orderly.framed
    obtain rfl := Except.ok.inj gives
    rw [roll_one_set_none]
    refine ((@Adds.roll_one_column (Lexer.setKey _ none) framed).trans (.moves (forbid_key_moves _))).nested ?_
    have tail : lexer.keys.tail = outer := by rw [keys]; rfl
    obtain ⟨indent, indents, -, ⟨rolled, columns, base_le⟩ | ⟨level, deeper, columns, rolled⟩⟩ :=
      roll_columns { lexer with tokens := paired } key.mark.column (some key.number) .blockMappingStart key.mark orderly.framed
    · rw [rolled]
      refine nested_insert lexer _ nested early middle late split plain tokens ?_ fun other member => ?_
      · exact (Token.nest_all_plain lexer.columns middle flat).trans (congrArg some columns.symm)
      · obtain ⟨old, number_le, -⟩ := around other (tail ▸ member)
        exact ⟨old, number_le, flat, base_le⟩
    · rw [rolled]
      have third := insert_at_tokens { lexer with tokens := paired } early _ key.number (.empty key.mark) .blockMappingStart
        tokens length
      refine nested_insert lexer _ nested early (⟨.empty key.mark, .blockMappingStart⟩ :: middle) late split plain third ?_
        fun other member => ?_
      · rw [List.foldlM_cons, nest_open lexer.columns key.mark _ rfl deeper]
        exact (Token.nest_all_plain _ middle flat).trans (congrArg some columns.symm)
      · obtain ⟨-, -, inside⟩ := around other (tail ▸ member)
        exact absurd level inside

theorem value_nested (chars : List Char) (lexer after : Lexer) (high : Nat) (orderly : Orderly chars lexer high)
    (nested : Nested lexer) (found : lexer.value = .ok after) : Nested after := by
  unfold value at found
  simp only at found
  obtain ⟨moved, colons, rest⟩ := Fault.bind_ok _ _ _ found
  generalize (!lexer.pairs.isEmpty && !lexer.flowMappingStarted) = isPair at colons rest
  have begins : Moves lexer (if isPair = true then { lexer with pairs := true :: lexer.pairs.tail } else lexer) := by
    split
    next => exact .still rfl rfl rfl
    next => exact .refl lexer
  have moves := (begins.trans (advance_content_moves _ 1)).trans (after_colon_moves _ moved colons)
  have kept := orderly.moves moves
  have begun := (Adds.moves moves).nested nested
  have same : moved.key? = lexer.key? := by rw [key?, moves.keys, key?]
  cases known : lexer.key? with
  | none =>
      rw [known] at rest
      obtain ⟨middle, gives, ends⟩ := Fault.bind_ok _ _ _ rest
      obtain rfl := Except.ok.inj ends
      refine (Adds.push _ _ rfl).nested ?_
      exact value_alone_nested chars moved middle high kept begun (same.trans known) isPair lexer.mark gives
  | some key =>
      rw [known] at rest
      obtain ⟨middle, gives, ends⟩ := Fault.bind_ok _ _ _ rest
      obtain rfl := Except.ok.inj ends
      refine (Adds.push _ _ rfl).nested ?_
      obtain ⟨first, outer, keys⟩ := List.exists_cons_of_length_eq_add_one kept.levels
      have head : first = some key := by simpa [key?, keys] using same.trans known
      exact value_of_key_nested chars moved middle high kept begun key outer (by rw [keys, head]) isPair lexer.mark gives

theorem flow_value_nested (chars : List Char) (lexer after : Lexer) (high : Nat) (orderly : Orderly chars lexer high)
    (nested : Nested lexer) (found : lexer.flowValue = .ok after) : Nested after := by
  unfold flowValue at found
  simp only at found
  split at found
  next => cases found
  next => exact value_nested chars lexer after high orderly nested found

theorem token_at_nested (chars : List Char) (lexer after : Lexer) (high : Nat) (c next : Char)
    (orderly : Orderly chars lexer high) (within_ : lexer.indent ≤ lexer.column) (nested : Nested lexer) :
    lexer.tokenAt c next = .ok after → Nested after := by
  have framed := orderly.framed
  have deep : lexer.base ≤ lexer.mark.column := Int.le_trans (base_le lexer framed) within_
  unfold tokenAt
  refine if_ok (fun _ found => (flow_start_adds lexer after framed deep false found).nested nested) ?_
  refine if_ok (fun _ found => (flow_start_adds lexer after framed deep true found).nested nested) ?_
  refine if_ok (fun _ found => (flow_end_adds lexer after false found).nested nested) ?_
  refine if_ok (fun _ found => (flow_end_adds lexer after true found).nested nested) ?_
  refine if_ok (fun _ found => (flow_entry_adds lexer after found).nested nested) ?_
  refine if_ok (fun _ found => block_entry_nested chars lexer after high orderly nested found) ?_
  refine if_ok (fun _ found => explicit_key_nested chars lexer after high orderly nested found) ?_
  refine if_ok (fun _ found => value_nested chars lexer after high orderly nested found) ?_
  refine if_ok (fun _ found => flow_value_nested chars lexer after high orderly nested found) ?_
  refine if_ok (fun _ found => (anchor_adds lexer after deep true found).nested nested) ?_
  refine if_ok (fun _ found => (anchor_adds lexer after deep false found).nested nested) ?_
  refine if_ok (fun _ found => (tag_adds lexer after deep found).nested nested) ?_
  refine if_ok (fun _ found => (block_scalar_adds lexer after framed deep false found).nested nested) ?_
  refine if_ok (fun _ found => (block_scalar_adds lexer after framed deep true found).nested nested) ?_
  refine if_ok (fun _ found => (quoted_adds lexer after deep _ found).nested nested) ?_
  refine if_ok (fun _ fails => by cases fails) ?_
  exact fun found => (plain_adds lexer after framed deep found).nested nested

theorem drop_stale_nested (lexer after : Lexer) (nested : Nested lexer) (drops : lexer.dropStaleKeys = .ok after) :
    Nested after := by
  unfold dropStaleKeys at drops
  split at drops
  next => cases drops
  next =>
    obtain rfl := Except.ok.inj drops
    have known (key : SimpleKey) (member : some key ∈ lexer.keys.map fun key => key.filter fun key => !lexer.isStale key) :
        some key ∈ lexer.keys := by
      obtain ⟨old, kept, same⟩ := List.mem_map.mp member
      exact (Option.filter_eq_some_iff.mp same).1 ▸ kept
    exact ⟨nested.opened, fun key member => nested.plain key (known key member), fun key member => nested.deep key (known key member)⟩

theorem find_token_nested (chars : List Char) (lexer after : Lexer) (steady : Steady chars lexer) (nested : Nested lexer)
    (found : lexer.findToken = .ok after) : Nested after := by
  unfold findToken at found
  obtain ⟨skipped, skips, rest⟩ := Fault.bind_ok _ _ _ found
  obtain ⟨fresh, drops, last⟩ := Fault.bind_ok _ _ _ rest
  have skipNested := (Adds.moves (skip_to_token_moves lexer skipped skips)).nested nested
  have first := steady_skip chars lexer skipped steady skips
  obtain ⟨second, -, -, -, inLine⟩ := steady_drop_stale chars skipped fresh first drops
  obtain ⟨third, -, -, -⟩ := steady_unroll chars fresh second inLine
  have begun := unroll_nested fresh fresh.column second.orderly.framed (drop_stale_nested skipped fresh skipNested drops)
    fun level key member => Int.ofNat_le.mpr (inLine level key member)
  simp only at last
  generalize fresh.unrollIndent fresh.column = begins at *
  have orderly := third.orderly
  split at last
  next => exact stream_end_nested begins after orderly.framed begun last
  next =>
    split at last
    next => exact directive_nested chars begins after _ orderly begun last
    next =>
      split at last
      next => exact document_mark_nested chars begins after .documentStart _ orderly begun rfl last
      next =>
        split at last
        next => exact document_end_nested chars begins after _ orderly begun last
        next =>
          split at last
          next => cases last
          next within_ => exact token_at_nested chars begins after _ _ _ orderly (Int.not_lt.mp within_) begun last

theorem fill_nested (chars : List Char) (fuel : Nat) (lexer after : Lexer) (steady : Steady chars lexer) (nested : Nested lexer)
    (fills : fill fuel lexer = .ok after) : Nested after := by
  induction fuel generalizing lexer with
  | zero =>
      obtain rfl := Except.ok.inj fills
      exact nested
  | succ fuel ih =>
      have onward (begun middle : Lexer) (ready : Steady chars begun) (opened : Nested begun)
          (finds : begun.findToken = .ok middle) (fills : fill fuel middle = .ok after) : Nested after :=
        ih middle (find_token_outcome chars begun middle ready finds).steady
          (find_token_nested chars begun middle ready opened finds) fills
      rw [fill] at fills
      split at fills
      next =>
        cases finds : lexer.findToken with
        | error fault => simp [finds] at fills
        | ok middle =>
            simp only [finds] at fills
            exact onward lexer middle steady nested finds fills
      next =>
        cases drops : lexer.dropStaleKeys with
        | error fault => simp [drops] at fills
        | ok fresh =>
            simp only [drops] at fills
            have kept := (steady_drop_stale chars lexer fresh steady drops).1
            have opened := drop_stale_nested lexer fresh nested drops
            split at fills
            next =>
              cases finds : fresh.findToken with
              | error fault => simp [finds] at fills
              | ok middle =>
                  simp only [finds] at fills
                  exact onward fresh middle kept opened finds fills
            next =>
              obtain rfl := Except.ok.inj fills
              exact opened

end Lexer
end YamlDialects.Yaml
