import Mathlib.Data.List.Chain
import YamlDialects.Proofs.Yaml.Token.Scalars

/-!
Tokens in order. Each token starts where the one before has ended, or later. The place of a token is that of its first
character; only those at the end of the stream, where nothing is left to read, stand one behind it.

The tokens of a key are put in where it started, once it turns out to be one. So each place where a key may have started
is kept between the tokens that come before and after it.
-/

set_option autoImplicit false

namespace YamlDialects.Yaml

namespace TokenKind

-- The tokens of a colon and of the first dash of a sequence are empty, but the character is theirs.
def trail : TokenKind → Nat
  | .value => 1
  | .blockSequenceStart => 1
  | _ => 0

def endsItem : TokenKind → Bool
  | .blockEntry => true
  | .key => true
  | .value => true
  | .blockEnd => true
  | _ => false

def isClosing : TokenKind → Bool
  | .blockEnd => true
  | .streamEnd => true
  | _ => false

def spansText : TokenKind → Bool
  | .streamEnd => false
  | .blockSequenceStart => false
  | .blockEnd => false
  | .blockEntry => false
  | .key => false
  | .value => false
  | _ => true

theorem spans_text_spec (kind : TokenKind) (spans : kind.spansText = true) :
    kind.endsItem = false ∧ kind.isClosing = false ∧ kind.trail = 0 ∧ kind ≠ .blockEntry := by
  cases kind <;> simp_all [spansText, endsItem, isClosing, trail]

def isSolid : TokenKind → Bool
  | .anchor _ => true
  | .tag _ _ => true
  | .flowSequenceStart => true
  | .scalar .plain _ => true
  | _ => false

def startsKey : TokenKind → Bool
  | .key => true
  | .blockMappingStart => true
  | .flowMappingStart => true
  | _ => false

def isScalar : TokenKind → Bool
  | .scalar _ _ => true
  | _ => false

end TokenKind

namespace Token

variable (chars : List Char)

def shift (token : Token) : Nat :=
  if token.kind.isClosing && isEnd (chars.getD token.span.start.index nul) then 1 else 0

def place (token : Token) : Nat :=
  token.span.start.index + token.shift chars

def finish (token : Token) : Nat :=
  token.span.stop.index + token.shift chars + token.kind.trail

structure Fits (token : Token) : Prop where
  forward : token.span.start.index ≤ token.span.stop.index
  solid : token.kind.isSolid = true → token.span.start.index < token.span.stop.index
  tilde : chars[token.span.start.index]? = some '~' → token.kind.isScalar = false →
    token.span.stop.index = token.span.start.index
  spelled : ∀ style text, token.kind = .scalar style text → Spelled chars token.span style text

def room (first second : Token) : Nat :=
  if first.kind = .blockEntry ∧ second.kind.endsItem = true then 1 else 0

def Follows (first second : Token) : Prop :=
  first.finish chars + room first second ≤ second.place chars

theorem start_le_place (token : Token) : token.span.start.index ≤ token.place chars :=
  Nat.le_add_right _ _

theorem place_le_finish (token : Token) (fits : token.Fits chars) : token.place chars ≤ token.finish chars := by
  have forward := fits.forward
  unfold place finish
  omega

theorem shift_of_not_closing (token : Token) (open_ : token.kind.isClosing = false) : token.shift chars = 0 := by
  simp [shift, open_]

theorem place_of_not_closing (token : Token) (open_ : token.kind.isClosing = false) :
    token.place chars = token.span.start.index := by
  rw [place, token.shift_of_not_closing chars open_]
  rfl

theorem shift_of_tilde (token : Token) (tilde : chars[token.span.start.index]? = some '~') : token.shift chars = 0 := by
  have ends : isEnd (chars.getD token.span.start.index nul) = false := by
    rw [List.getD_eq_getElem?_getD, tilde]
    decide
  rw [shift, ends, Bool.and_false]
  rfl

theorem fits_empty (mark : Mark) (kind : TokenKind) (hollow : kind.isSolid = false) (bare : kind.isScalar = false) :
    Fits chars ⟨.empty mark, kind⟩ :=
  ⟨Nat.le_refl _, fun solid => by simp [hollow] at solid, fun _ _ => rfl, fun _ _ isScalar => by cases isScalar; cases bare⟩

end Token

structure Row (chars : List Char) (high : Nat) (tokens : List Token) : Prop where
  chain : tokens.IsChain (Token.Follows chars)
  fits : ∀ token ∈ tokens, token.Fits chars
  last : ∀ token ∈ tokens.getLast?, token.finish chars ≤ high

namespace Row

variable {chars : List Char} {high : Nat} {tokens : List Token}

theorem empty (chars : List Char) (high : Nat) : Row chars high [] :=
  ⟨List.isChain_nil, by simp, by simp⟩

theorem mono (row : Row chars high tokens) (further : Nat) (le : high ≤ further) : Row chars further tokens :=
  ⟨row.chain, row.fits, fun token member => Nat.le_trans (row.last token member) le⟩

def Admits (chars : List Char) (tokens : List Token) (token : Token) : Prop :=
  ∀ last ∈ tokens.getLast?, Token.Follows chars last token

theorem push (row : Row chars high tokens) (token : Token) (fits : token.Fits chars) (admits : Admits chars tokens token) :
    Row chars (token.finish chars) (tokens ++ [token]) := by
  refine ⟨List.isChain_append.mpr ⟨row.chain, List.isChain_singleton token, ?_⟩, ?_, ?_⟩
  · intro last member next first
    obtain rfl := Option.mem_some_iff.mp first
    exact admits last member
  · intro each member
    rcases List.mem_append.mp member with old | new
    · exact row.fits each old
    · rw [List.mem_singleton.mp new]
      exact fits
  · intro last member
    rw [List.getLast?_append, List.getLast?_singleton, Option.some_or] at member
    obtain rfl := Option.mem_some_iff.mp member
    exact Nat.le_refl _

theorem close (row : Row chars high tokens) (mark : Mark) (count : Nat)
    (behind : high ≤ Token.place chars ⟨.empty mark, .blockEnd⟩)
    (roomy : ∀ last ∈ tokens.getLast?, last.kind = .blockEntry →
      last.finish chars + 1 ≤ Token.place chars ⟨.empty mark, .blockEnd⟩) :
    Row chars (Token.place chars ⟨.empty mark, .blockEnd⟩) (tokens ++ List.replicate count ⟨.empty mark, .blockEnd⟩) := by
  induction count with
  | zero => simpa using row.mono _ behind
  | succ count ih =>
      rw [List.replicate_succ', ← List.append_assoc]
      refine ih.push ⟨.empty mark, .blockEnd⟩ (Token.fits_empty chars mark _ rfl rfl) fun last member => ?_
      unfold Token.Follows Token.room
      split
      next close =>
        cases count with
        | zero => exact roomy last (by simpa using member) close.1
        | succ count =>
            rw [List.replicate_succ', ← List.append_assoc, List.getLast?_append_of_ne_nil _ (List.cons_ne_nil _ _)] at member
            obtain rfl := Option.mem_some_iff.mp member
            cases close.1
      next => exact ih.last last member

theorem key_token_spec (chars : List Char) (mark : Mark) (kind : TokenKind) (hollow : kind.startsKey = true) :
    Token.place chars ⟨.empty mark, kind⟩ = mark.index ∧ Token.finish chars ⟨.empty mark, kind⟩ = mark.index ∧
      kind ≠ .blockEntry ∧ Token.Fits chars ⟨.empty mark, kind⟩ := by
  cases kind with
  | key => exact ⟨rfl, rfl, by simp, Token.fits_empty chars mark _ rfl rfl⟩
  | blockMappingStart => exact ⟨rfl, rfl, by simp, Token.fits_empty chars mark _ rfl rfl⟩
  | flowMappingStart => exact ⟨rfl, rfl, by simp, Token.fits_empty chars mark _ rfl rfl⟩
  | _ => cases hollow

theorem insert (before after : List Token) (row : Row chars high (before ++ after)) (mark : Mark) (kinds : List TokenKind)
    (some_ : kinds ≠ []) (hollow : ∀ kind ∈ kinds, kind.startsKey = true) (mark_le : mark.index ≤ high)
    (admits : ∀ kind ∈ kinds.head?, Admits chars before ⟨.empty mark, kind⟩)
    (behind : ∀ token ∈ after.head?, mark.index ≤ token.place chars) :
    Row chars high (before ++ (kinds.map (Token.mk (.empty mark)) ++ after)) := by
  obtain ⟨beforeChain, afterChain, joint⟩ := List.isChain_append.mp row.chain
  have added (token : Token) (member : token ∈ kinds.map (Token.mk (.empty mark))) :
      token.place chars = mark.index ∧ token.finish chars = mark.index ∧ token.kind ≠ .blockEntry ∧ token.Fits chars := by
    obtain ⟨kind, among, rfl⟩ := List.mem_map.mp member
    exact key_token_spec chars mark kind (hollow kind among)
  have addedChain : (kinds.map (Token.mk (.empty mark))).IsChain (Token.Follows chars) := by
    refine List.Pairwise.isChain (List.pairwise_of_forall_mem_list fun first one second two => ?_)
    obtain ⟨-, ends, noDash, -⟩ := added first one
    rw [Token.Follows, Token.room, if_neg (fun dash => noDash dash.1), ends, (added second two).1]
    exact Nat.le_refl _
  have addedAfter : (kinds.map (Token.mk (.empty mark)) ++ after).IsChain (Token.Follows chars) := by
    refine List.isChain_append.mpr ⟨addedChain, afterChain, fun last among next first => ?_⟩
    obtain ⟨-, ends, noDash, -⟩ := added last (List.mem_of_getLast? among)
    rw [Token.Follows, Token.room, if_neg (fun dash => noDash dash.1), ends]
    exact behind next first
  refine ⟨List.isChain_append.mpr ⟨beforeChain, addedAfter, ?_⟩, ?_, ?_⟩
  · intro last among next first
    obtain ⟨kind, others, rfl⟩ := List.exists_cons_of_ne_nil some_
    obtain rfl := Option.mem_some_iff.mp first
    exact admits kind rfl last among
  · intro token member
    rcases List.mem_append.mp member with early | late
    · exact row.fits token (List.mem_append_left _ early)
    · rcases List.mem_append.mp late with new | old
      · exact (added token new).2.2.2
      · exact row.fits token (List.mem_append_right _ old)
  · intro token member
    cases after with
    | nil =>
        rw [List.append_nil, List.getLast?_append_of_ne_nil _ (by simpa using some_)] at member
        rw [(added token (List.mem_of_getLast? member)).2.1]
        exact mark_le
    | cons next others =>
        refine row.last token ?_
        rw [← List.append_assoc] at member
        rw [List.getLast?_append_of_ne_nil _ (List.cons_ne_nil _ _)] at member ⊢
        exact member

end Row

namespace Lexer

def baseOf (indent : Int) : List Indent → Int
  | [] => indent
  | open_ :: _ => if open_.isBlock then indent else open_.outer

def base (lexer : Lexer) : Int :=
  baseOf lexer.indent lexer.indents

-- What is only prepared is one column more than what is around it.
def Framed : Int → List Indent → Prop
  | _, [] => True
  | indent, open_ :: outer => (open_.isBlock = false → indent = open_.outer + 1) ∧ Framed open_.outer outer

def indented (lexer : Lexer) (indent : Int) (indents : List Indent) : Lexer :=
  { lexer with indent := indent, indents := indents }

theorem drop_prepared_spec (lexer : Lexer) (framed : Framed lexer.indent lexer.indents) :
    ∃ indents, lexer.dropPrepared = lexer.indented lexer.base indents ∧ Framed lexer.base indents ∧
      lexer.base ≤ lexer.indent ∧ lexer.indent ≤ lexer.base + 1 := by
  unfold base dropPrepared
  cases opened : lexer.indents with
  | nil => exact ⟨lexer.indents, rfl, by rw [opened]; trivial, Int.le_refl _, by simp only [baseOf]; omega⟩
  | cons first outer =>
      cases block : first.isBlock with
      | true =>
          simp only [baseOf, block, if_true]
          exact ⟨lexer.indents, rfl, framed, Int.le_refl _, by omega⟩
      | false =>
          rw [opened] at framed
          have prepared := framed.1 block
          simp only [baseOf, block, Bool.false_eq_true, if_false]
          exact ⟨outer, rfl, framed.2, by omega, by omega⟩

theorem base_le (lexer : Lexer) (framed : Framed lexer.indent lexer.indents) : lexer.base ≤ lexer.indent := by
  obtain ⟨-, -, -, le, -⟩ := drop_prepared_spec lexer framed
  exact le

theorem base_indented (lexer : Lexer) (indent : Int) (indents : List Indent) (framed : Framed indent indents) :
    (lexer.indented indent indents).base ≤ indent :=
  base_le (lexer.indented indent indents) framed

theorem roll_indent_spec (lexer : Lexer) (column : Nat) (number : Option Nat) (kind : TokenKind) (mark : Mark)
    (framed : Framed lexer.indent lexer.indents) :
    ∃ indent indents, Framed indent indents ∧
      (lexer.flowLevel > 0 → indent = lexer.indent ∧ indents = lexer.indents) ∧
      (lexer.indent ≤ column → indent ≤ column) ∧
      ((lexer.rollIndent column number kind mark = lexer.indented indent indents ∧
          (lexer.flowLevel = 0 → (column : Int) ≤ lexer.base)) ∨
        (lexer.flowLevel = 0 ∧ lexer.rollIndent column number kind mark =
          match number with
          | some number => (lexer.indented indent indents).insertAt number (.empty mark) kind
          | none => (lexer.indented indent indents).push (.empty mark) kind)) := by
  obtain ⟨indents, dropped, kept, base_le, le_base⟩ := drop_prepared_spec lexer framed
  unfold rollIndent
  by_cases level : lexer.flowLevel > 0
  · rw [if_pos level]
    exact ⟨lexer.indent, lexer.indents, framed, fun _ => ⟨rfl, rfl⟩, id, .inl ⟨rfl, fun none => by omega⟩⟩
  · rw [if_neg level]
    have noFlow : lexer.flowLevel = 0 := by omega
    by_cases within_ : lexer.indent ≤ column
    · simp only [if_pos within_, dropped]
      by_cases deeper : lexer.base < column
      · refine ⟨column, ⟨lexer.base, true⟩ :: indents, ⟨by simp, kept⟩, fun flow => by omega, fun _ => Int.le_refl _,
          .inr ⟨noFlow, ?_⟩⟩
        rw [if_pos (show (lexer.indented lexer.base indents).indent < column from deeper)]
        cases number with
        | none => rfl
        | some number => rfl
      · refine ⟨lexer.base, indents, kept, fun flow => by omega, fun _ => by omega, .inl ⟨?_, fun _ => by omega⟩⟩
        rw [if_neg (show ¬ (lexer.indented lexer.base indents).indent < column from deeper)]
    · simp only [if_neg within_]
      rw [if_neg (show ¬ lexer.indent < column by omega)]
      exact ⟨lexer.indent, lexer.indents, framed, fun _ => ⟨rfl, rfl⟩, id, .inl ⟨rfl, fun _ => by omega⟩⟩

theorem roll_one_column_spec (lexer : Lexer) (framed : Framed lexer.indent lexer.indents) :
    ∃ indent indents, lexer.rollOneColumn = lexer.indented indent indents ∧ Framed indent indents ∧
      (lexer.indented indent indents).base = lexer.base := by
  unfold rollOneColumn
  split
  next opens =>
    refine ⟨_, _, rfl, ⟨fun _ => rfl, framed⟩, ?_⟩
    cases opened : lexer.indents with
    | nil => simp [opened] at opens
    | cons first outer =>
        have block : first.isBlock = true := by simpa [opened] using (Bool.and_eq_true_iff.mp opens).2
        simp [base, baseOf, indented, opened, block]
  next => exact ⟨lexer.indent, lexer.indents, rfl, framed, rfl⟩

theorem close_prepared_spec (indent : Int) (indents : List Indent) (framed : Framed indent indents) :
    Framed (closePrepared indent indents).1 (closePrepared indent indents).2 ∧ (closePrepared indent indents).1 ≤ indent := by
  induction indents generalizing indent with
  | nil => exact ⟨trivial, Int.le_refl _⟩
  | cons first outer ih =>
      rw [closePrepared]
      split
      next => exact ⟨framed, Int.le_refl _⟩
      next prepared =>
        obtain ⟨kept, le⟩ := ih first.outer framed.2
        have outside := framed.1 (by simpa using prepared)
        exact ⟨kept, by omega⟩

theorem unroll_prepared_spec (lexer : Lexer) (framed : Framed lexer.indent lexer.indents) :
    ∃ indent indents, lexer.unrollPrepared = lexer.indented indent indents ∧ Framed indent indents ∧
      (lexer.indented indent indents).base ≤ lexer.base := by
  refine ⟨_, _, rfl, (close_prepared_spec lexer.indent lexer.indents framed).1, ?_⟩
  cases opened : lexer.indents with
  | nil => simp [closePrepared, base, baseOf, indented, opened]
  | cons first outer =>
      rw [opened] at framed
      cases block : first.isBlock with
      | true => simp [closePrepared, block, base, baseOf, indented, opened]
      | false =>
          obtain ⟨kept, le⟩ := close_prepared_spec first.outer outer framed.2
          have lower := base_indented lexer _ _ kept
          simp only [closePrepared, block, Bool.false_eq_true, if_false]
          rw [show lexer.base = first.outer by simp [base, baseOf, opened, block]]
          omega

theorem close_indents_spec (column : Int) (span : Span) (indent : Int) (indents : List Indent) (tokens : Array Token)
    (framed : Framed indent indents) :
    Framed (closeIndents column span indent indents tokens).1 (closeIndents column span indent indents tokens).2.1 ∧
      (∃ count, (closeIndents column span indent indents tokens).2.2.toList =
        tokens.toList ++ List.replicate count ⟨span, .blockEnd⟩) ∧
      (indent ≤ column → closeIndents column span indent indents tokens = (indent, indents, tokens)) := by
  induction indents generalizing indent tokens with
  | nil => exact ⟨trivial, ⟨0, by simp [closeIndents]⟩, fun _ => rfl⟩
  | cons first outer ih =>
      rw [closeIndents]
      split
      next deeper =>
        obtain ⟨kept, ⟨count, pushed⟩, -⟩ :=
          ih first.outer (if first.isBlock then tokens.push ⟨span, .blockEnd⟩ else tokens) framed.2
        refine ⟨kept, ?_, fun le => by omega⟩
        rw [pushed]
        cases first.isBlock with
        | true => exact ⟨count + 1, by simp [List.replicate_succ]⟩
        | false => exact ⟨count, rfl⟩
      next => exact ⟨framed, ⟨0, by simp⟩, fun _ => rfl⟩

theorem unroll_indent_spec (lexer : Lexer) (column : Int) (framed : Framed lexer.indent lexer.indents) :
    ∃ indent indents tokens count, lexer.unrollIndent column = { lexer.indented indent indents with tokens := tokens } ∧
      Framed indent indents ∧ tokens.toList = lexer.tokens.toList ++ List.replicate count ⟨.empty lexer.mark, .blockEnd⟩ ∧
      (lexer.flowLevel > 0 ∨ lexer.indent ≤ column → lexer.unrollIndent column = lexer ∧ count = 0) := by
  unfold unrollIndent
  by_cases level : lexer.flowLevel > 0
  · rw [if_pos level]
    exact ⟨lexer.indent, lexer.indents, lexer.tokens, 0, rfl, framed, by simp, fun _ => ⟨rfl, rfl⟩⟩
  · rw [if_neg level]
    obtain ⟨kept, ⟨count, pushed⟩, same⟩ :=
      close_indents_spec column (.empty lexer.mark) lexer.indent lexer.indents lexer.tokens framed
    refine ⟨_, _, _, count, rfl, kept, pushed, fun none => ?_⟩
    have unchanged := same (none.resolve_left level)
    rw [unchanged] at pushed ⊢
    exact ⟨rfl, by simpa using pushed⟩

def SplitAt (chars : List Char) (tokens : List Token) (dash : Prop) (key : SimpleKey) : Prop :=
  ∃ before after, tokens = before ++ after ∧ before.length = key.number ∧
    (∀ token ∈ before.getLast?, token.finish chars ≤ key.mark.index ∧
      (token.kind = .blockEntry → token.finish chars + 1 ≤ key.mark.index ∨ dash)) ∧
    ∀ token ∈ after.head?, key.mark.index ≤ token.place chars

theorem split_at_imp (chars : List Char) (tokens : List Token) (dash other : Prop) (key : SimpleKey)
    (splits : SplitAt chars tokens dash key) (imp : dash → other) : SplitAt chars tokens other key := by
  obtain ⟨before, after, split, length, first, second⟩ := splits
  exact ⟨before, after, split, length, fun token member => ⟨(first token member).1, fun isDash =>
    ((first token member).2 isDash).imp_right imp⟩, second⟩

theorem split_at_append (chars : List Char) (tokens more : List Token) (dash : Prop) (key : SimpleKey)
    (splits : SplitAt chars tokens dash key) (behind : ∀ token ∈ more, key.mark.index ≤ token.place chars) :
    SplitAt chars (tokens ++ more) dash key := by
  obtain ⟨before, after, split, length, first, second⟩ := splits
  refine ⟨before, after ++ more, by rw [split, List.append_assoc], length, first, ?_⟩
  cases after with
  | nil => exact fun token member => behind token (List.mem_of_head? member)
  | cons next others => exact second

theorem split_at_insert (chars : List Char) (before after more : List Token) (dash : Prop) (key : SimpleKey)
    (splits : SplitAt chars (before ++ after) dash key) (number_le : key.number ≤ before.length)
    (behind : ∀ token ∈ more, key.mark.index ≤ token.place chars) : SplitAt chars (before ++ (more ++ after)) dash key := by
  obtain ⟨early, late, split, length, first, second⟩ := splits
  obtain ⟨middle, rfl, rfl⟩ : ∃ middle, before = early ++ middle ∧ late = middle ++ after := by
    rcases List.append_eq_append_iff.mp split with ⟨middle, rfl, rfl⟩ | found
    · rw [List.length_append] at length
      obtain rfl : middle = [] := List.eq_nil_of_length_eq_zero (by omega)
      exact ⟨[], by simp, by simp⟩
    · exact found
  refine ⟨early, middle ++ (more ++ after), by simp, length, first, ?_⟩
  cases middle with
  | cons next others => exact second
  | nil =>
      cases more with
      | nil => exact second
      | cons next others =>
          intro token member
          exact behind token (List.mem_of_head? member)

-- If a key starts just behind a dash, then it starts a block.
structure KeyFits (chars : List Char) (lexer : Lexer) (isBase : Prop) (key : SimpleKey) : Prop where
  taken_le : lexer.taken ≤ key.number
  reached : ∃ count, key.mark.Reaches count lexer.mark
  splits : SplitAt chars lexer.tokens.toList (isBase ∧ lexer.base < key.mark.column) key

def KeysFit (chars : List Char) (lexer : Lexer) : List (Option SimpleKey) → Prop
  | [] => True
  | key :: outer =>
      (∀ found ∈ key, KeyFits chars lexer (outer = []) found ∧
        ∀ other, some other ∈ outer → other.number ≤ found.number ∧ other.mark.index ≤ found.mark.index) ∧
      KeysFit chars lexer outer

theorem keys_fit_imp (chars : List Char) (before after : Lexer) (keys : List (Option SimpleKey))
    (imp : ∀ isBase key, some key ∈ keys → KeyFits chars before isBase key → KeyFits chars after isBase key)
    (fit : KeysFit chars before keys) : KeysFit chars after keys := by
  induction keys with
  | nil => trivial
  | cons key outer ih =>
      refine ⟨fun found member => ?_, ih (fun isBase other among => imp isBase other (List.mem_cons_of_mem _ among)) fit.2⟩
      obtain ⟨fits, sorted⟩ := fit.1 found member
      exact ⟨imp _ found (by rw [Option.mem_def.mp member]; exact List.mem_cons_self) fits, sorted⟩

theorem keys_fit_same (chars : List Char) (before after : Lexer) (keys : List (Option SimpleKey))
    (taken : after.taken = before.taken) (mark : after.mark = before.mark) (tokens : after.tokens = before.tokens)
    (base : after.base = before.base) (fit : KeysFit chars before keys) : KeysFit chars after keys :=
  keys_fit_imp chars before after keys (fun _ _ _ fits => ⟨by rw [taken]; exact fits.taken_le, by rw [mark]; exact fits.reached,
    by rw [tokens, base]; exact fits.splits⟩) fit

theorem keys_fit_filter (chars : List Char) (lexer : Lexer) (keys : List (Option SimpleKey)) (test : SimpleKey → Bool)
    (fit : KeysFit chars lexer keys) : KeysFit chars lexer (keys.map fun key => key.filter test) := by
  induction keys with
  | nil => trivial
  | cons key outer ih =>
      refine ⟨fun found member => ?_, ih fit.2⟩
      obtain ⟨fits, sorted⟩ := fit.1 found (Option.filter_eq_some_iff.mp member).1
      refine ⟨by simpa using fits, fun other among => ?_⟩
      obtain ⟨old, kept, same⟩ := List.mem_map.mp among
      exact sorted other ((Option.filter_eq_some_iff.mp same).1 ▸ kept)

theorem keys_fit_none (chars : List Char) (lexer : Lexer) (keys : List (Option SimpleKey))
    (none_ : ∀ key ∈ keys, key = none) : KeysFit chars lexer keys := by
  induction keys with
  | nil => trivial
  | cons key outer ih =>
      refine ⟨?_, ih fun other member => none_ other (List.mem_cons_of_mem _ member)⟩
      rw [none_ key List.mem_cons_self]
      simp

theorem key_fits_of_mem (chars : List Char) (lexer : Lexer) (keys : List (Option SimpleKey)) (key : SimpleKey)
    (fit : KeysFit chars lexer keys) (member : some key ∈ keys) : ∃ isBase, KeyFits chars lexer isBase key := by
  induction keys with
  | nil => cases member
  | cons first outer ih =>
      rcases List.mem_cons.mp member with rfl | among
      · exact ⟨_, (fit.1 key rfl).1⟩
      · exact ih fit.2 among

theorem remove_key_eq {lexer after : Lexer} (removes : lexer.removeKey = .ok after) : after = lexer.setKey none := by
  unfold removeKey at removes
  split at removes
  next => cases removes
  next => exact (Except.ok.inj removes).symm

structure Orderly (chars : List Char) (lexer : Lexer) (high : Nat) : Prop where
  rest : lexer.rest = chars.drop lexer.mark.index
  taken_le : lexer.taken ≤ lexer.tokens.size
  row : Row chars high lexer.tokens.toList
  keys : KeysFit chars lexer lexer.keys
  marks : ∀ key, some key ∈ lexer.keys → key.mark.index ≤ high
  framed : Framed lexer.indent lexer.indents
  levels : lexer.keys.length = lexer.flowLevel + 1

namespace Orderly

variable {chars : List Char} {lexer after : Lexer} {high : Nat}

theorem mono (orderly : Orderly chars lexer high) (further : Nat) (le : high ≤ further) : Orderly chars lexer further :=
  ⟨orderly.rest, orderly.taken_le, orderly.row.mono further le, orderly.keys,
    fun key member => Nat.le_trans (orderly.marks key member) le, orderly.framed, orderly.levels⟩

theorem moves (orderly : Orderly chars lexer high) (moves : Moves lexer after) : Orderly chars after high := by
  have same : after.base = lexer.base := by rw [base, moves.indent, moves.indents, base]
  obtain ⟨count, rest, reaches⟩ := moves.reads
  refine ⟨?_, ?_, ?_, ?_, ?_, ?_, ?_⟩
  · rw [rest, orderly.rest, List.drop_drop, reaches.1]
  · rw [moves.taken, moves.tokens]
    exact orderly.taken_le
  · rw [moves.tokens]
    exact orderly.row
  · rw [moves.keys]
    refine keys_fit_imp chars lexer after _ (fun isBase key member fits => ⟨?_, ?_, ?_⟩) orderly.keys
    · rw [moves.taken]
      exact fits.taken_le
    · obtain ⟨before, earlier⟩ := fits.reached
      exact ⟨before + count, Mark.reaches_trans earlier reaches⟩
    · rw [moves.tokens, same]
      exact fits.splits
  · rw [moves.keys]
    exact orderly.marks
  · rw [moves.indent, moves.indents]
    exact orderly.framed
  · rw [moves.keys, moves.flow_level]
    exact orderly.levels

theorem push (orderly : Orderly chars lexer high) (span : Span) (kind : TokenKind) (fits : Token.Fits chars ⟨span, kind⟩)
    (behind : high ≤ Token.place chars ⟨span, kind⟩)
    (roomy : ∀ last ∈ lexer.tokens.toList.getLast?, last.kind = .blockEntry → kind.endsItem = true →
      last.finish chars + 1 ≤ Token.place chars ⟨span, kind⟩) (further : Nat)
    (ends : Token.finish chars ⟨span, kind⟩ ≤ further) : Orderly chars (lexer.push span kind) further := by
  have admits : Row.Admits chars lexer.tokens.toList ⟨span, kind⟩ := by
    intro last member
    have before := orderly.row.last last member
    unfold Token.Follows Token.room
    split
    next close => exact roomy last member close.1 close.2
    next => omega
  have place_le := Token.place_le_finish chars ⟨span, kind⟩ fits
  have tokens : (lexer.push span kind).tokens.toList = lexer.tokens.toList ++ [⟨span, kind⟩] := Array.toList_push
  refine ⟨orderly.rest, ?_, ?_, ?_, ?_, orderly.framed, orderly.levels⟩
  · rw [show (lexer.push span kind).tokens.size = lexer.tokens.size + 1 from Array.size_push _]
    exact Nat.le_succ_of_le orderly.taken_le
  · rw [tokens]
    exact (orderly.row.push ⟨span, kind⟩ fits admits).mono further ends
  · refine keys_fit_imp chars lexer _ _ (fun isBase key member found => ⟨found.taken_le, found.reached, ?_⟩) orderly.keys
    rw [tokens]
    refine split_at_append chars _ _ _ key found.splits fun token among => ?_
    rw [List.mem_singleton.mp among]
    exact Nat.le_trans (orderly.marks key member) behind
  · intro key member
    exact Nat.le_trans (orderly.marks key member) (by omega)

theorem indented (orderly : Orderly chars lexer high) (indent : Int) (indents : List Indent) (framed : Framed indent indents)
    (kept : lexer.keys = [none] ∨ (lexer.indented indent indents).base ≤ lexer.base) :
    Orderly chars (lexer.indented indent indents) high := by
  refine ⟨orderly.rest, orderly.taken_le, orderly.row, ?_, orderly.marks, framed, orderly.levels⟩
  change KeysFit chars (lexer.indented indent indents) lexer.keys
  rcases kept with none | le
  · rw [none]
    exact ⟨by simp, trivial⟩
  · refine keys_fit_imp chars lexer _ _ (fun isBase key _ found => ⟨found.taken_le, found.reached, ?_⟩) orderly.keys
    exact split_at_imp chars _ _ _ key found.splits fun deeper => ⟨deeper.1, by omega⟩

theorem set_none (orderly : Orderly chars lexer high) : Orderly chars (lexer.setKey none) high := by
  have outer : ∃ key, lexer.keys = key :: lexer.keys.tail := by
    cases keys : lexer.keys with
    | nil => simpa [keys] using orderly.levels
    | cons key others => exact ⟨key, rfl⟩
  obtain ⟨key, split⟩ := outer
  have fit := orderly.keys
  have marks := orderly.marks
  have levels := orderly.levels
  rw [split] at fit marks levels
  refine ⟨orderly.rest, orderly.taken_le, orderly.row, ⟨by simp, ?_⟩, ?_, orderly.framed, ?_⟩
  · exact keys_fit_same chars lexer _ _ rfl rfl rfl rfl fit.2
  · intro other member
    rcases List.mem_cons.mp member with same | among
    · cases same
    · exact marks other (List.mem_cons_of_mem _ among)
  · exact levels

theorem drop_stale (orderly : Orderly chars lexer high) (drops : lexer.dropStaleKeys = .ok after) :
    after = { lexer with keys := lexer.keys.map fun key => key.filter fun key => !lexer.isStale key } ∧
      Orderly chars after high := by
  unfold dropStaleKeys at drops
  split at drops
  next => cases drops
  next =>
    obtain rfl := Except.ok.inj drops
    refine ⟨rfl, orderly.rest, orderly.taken_le, orderly.row, ?_, ?_, orderly.framed, ?_⟩
    · exact keys_fit_same chars lexer _ _ rfl rfl rfl rfl
        (keys_fit_filter chars lexer lexer.keys _ orderly.keys)
    · intro key member
      obtain ⟨old, kept, same⟩ := List.mem_map.mp member
      exact orderly.marks key ((Option.filter_eq_some_iff.mp same).1 ▸ kept)
    · rw [List.length_map]
      exact orderly.levels

theorem enter_flow (orderly : Orderly chars lexer high) :
    Orderly chars { lexer with flowLevel := lexer.flowLevel + 1, keys := none :: lexer.keys } high := by
  refine ⟨orderly.rest, orderly.taken_le, orderly.row, ⟨by simp, ?_⟩, ?_, orderly.framed, ?_⟩
  · exact keys_fit_same chars lexer _ _ rfl rfl rfl rfl orderly.keys
  · intro key member
    rcases List.mem_cons.mp member with same | among
    · cases same
    · exact orderly.marks key among
  · simp [orderly.levels]

theorem leave_flow (orderly : Orderly chars lexer high) : Orderly chars lexer.leaveFlow high := by
  unfold leaveFlow
  split
  next inside =>
    have levels := orderly.levels
    refine ⟨orderly.rest, orderly.taken_le, orderly.row, ?_, ?_, orderly.framed, ?_⟩
    · cases keys : lexer.keys with
      | nil => trivial
      | cons key outer =>
          have fit := orderly.keys
          rw [keys] at fit
          exact keys_fit_same chars lexer _ _ rfl rfl rfl rfl fit.2
    · exact fun key member => orderly.marks key (List.mem_of_mem_tail member)
    · rw [List.length_tail]
      simp only
      omega
  next => exact orderly

theorem unroll (orderly : Orderly chars lexer high) (column : Int)
    (behind : high ≤ Token.place chars ⟨.empty lexer.mark, .blockEnd⟩)
    (clear : lexer.flowLevel = 0 → ∀ key, some key ∈ lexer.keys → (key.mark.column : Int) ≤ column)
    (roomy : ∀ last ∈ lexer.tokens.toList.getLast?, last.kind = .blockEntry →
      last.finish chars + 1 ≤ Token.place chars ⟨.empty lexer.mark, .blockEnd⟩ ∨ lexer.indent ≤ column) :
    Orderly chars (lexer.unrollIndent column) (Token.place chars ⟨.empty lexer.mark, .blockEnd⟩) := by
  obtain ⟨indent, indents, tokens, count, result, framed, pushed, same⟩ := unroll_indent_spec lexer column orderly.framed
  by_cases none : lexer.flowLevel > 0 ∨ lexer.indent ≤ column
  · rw [(same none).1]
    exact orderly.mono _ behind
  · have level : lexer.flowLevel = 0 := by omega
    have row := orderly.row.close lexer.mark count behind fun last member dash =>
      (roomy last member dash).resolve_right (by omega)
    have longer : lexer.tokens.size ≤ tokens.size := by
      rw [← Array.length_toList, ← Array.length_toList, pushed, List.length_append]
      exact Nat.le_add_right _ _
    rw [result]
    refine ⟨orderly.rest, Nat.le_trans orderly.taken_le longer, by rw [pushed]; exact row, ?_,
      fun key member => Nat.le_trans (orderly.marks key member) behind, framed, orderly.levels⟩
    refine keys_fit_imp chars lexer _ _ (fun isBase key member found => ⟨found.taken_le, found.reached, ?_⟩) orderly.keys
    rw [show ({ lexer.indented indent indents with tokens := tokens } : Lexer).tokens.toList = _ from pushed]
    refine split_at_append chars _ _ _ key (split_at_imp chars _ _ _ key found.splits fun deeper => ?_) fun token among => ?_
    · -- the block of the key would be the innermost one, and none is closed
      obtain ⟨-, -, -, -, le_base⟩ := drop_prepared_spec lexer orderly.framed
      have within_ := clear level key member
      omega
    · rw [List.eq_of_mem_replicate among]
      exact Nat.le_trans (orderly.marks key member) behind

end Orderly
end Lexer
end YamlDialects.Yaml
