import YamlDialects.Proofs.Yaml.Token.Finding

set_option autoImplicit false

namespace YamlDialects.Yaml.Lexer

theorem insert_at_tokens (lexer : Lexer) (before after : List Token) (number : Nat) (span : Span) (kind : TokenKind)
    (split : lexer.tokens.toList = before ++ after) (length : before.length = number) :
    (lexer.insertAt number span kind).tokens.toList = before ++ ⟨span, kind⟩ :: after := by
  have bounded : number ≤ lexer.tokens.size := by
    rw [← Array.length_toList, split, List.length_append]
    omega
  have inserted : ∀ first : List Token, (first ++ after).insertIdx first.length ⟨span, kind⟩ = first ++ ⟨span, kind⟩ :: after := by
    intro first
    induction first with
    | nil => rfl
    | cons token rest ih => simp [ih]
  rw [insertAt, Array.insertIdxIfInBounds, dif_pos bounded, Array.toList_insertIdx, split, ← length]
  exact inserted before

theorem puts_key (lexer : Lexer) (key : SimpleKey) (isPair : Bool) (early late : List Token)
    (split : lexer.tokens.toList = early ++ late) (length : early.length = key.number) :
    ∃ paired kinds,
      (if isPair = true then (lexer.insertAt key.number (.empty key.mark) .key).insertAt key.number (.empty key.mark) .flowMappingStart
        else lexer.insertAt key.number (.empty key.mark) .key) = { lexer with tokens := paired } ∧
      paired.toList = early ++ (kinds.map (Token.mk (.empty key.mark)) ++ late) ∧
      (kinds = [.key] ∨ kinds = [.flowMappingStart, .key]) := by
  have first := insert_at_tokens lexer early late key.number (.empty key.mark) .key split length
  cases isPair with
  | false => exact ⟨_, [.key], rfl, first, .inl rfl⟩
  | true =>
      have second := insert_at_tokens _ early _ key.number (.empty key.mark) .flowMappingStart first length
      exact ⟨_, [.flowMappingStart, .key], rfl, second, .inr rfl⟩

theorem value_of_key_spec (lexer after : Lexer) (key : SimpleKey) (isPair : Bool) (mark : Mark) (early late : List Token)
    (framed : Framed lexer.indent lexer.indents) (split : lexer.tokens.toList = early ++ late)
    (length : early.length = key.number) (gives : valueOfKey key isPair mark lexer = .ok after) :
    ∃ indent indents tokens kinds, after = (({ lexer.indented indent indents with tokens := tokens }).setKey none).forbidKey ∧
      Framed indent indents ∧ (lexer.flowLevel > 0 → (lexer.indented indent indents).base = lexer.base) ∧
      tokens.toList = early ++ (kinds.map (Token.mk (.empty key.mark)) ++ late) ∧ kinds ≠ [] ∧
      (∀ kind ∈ kinds, kind.startsKey = true) ∧
      (kinds.head? = some .key → lexer.flowLevel = 0 → (key.mark.column : Int) ≤ lexer.base) := by
  unfold valueOfKey at gives
  split at gives
  next => cases gives
  next =>
    obtain ⟨paired, kinds, pairs, tokens, known⟩ := puts_key lexer key isPair early late split length
    have some_ : kinds ≠ [] := by rcases known with rfl | rfl <;> simp
    have hollow : ∀ kind ∈ kinds, kind.startsKey = true := by rcases known with rfl | rfl <;> simp [TokenKind.startsKey]
    obtain ⟨indent, indents, kept, same, -, rolls⟩ := roll_indent_spec { lexer with tokens := paired } key.mark.column
      (some key.number) .blockMappingStart key.mark framed
    simp only [pairs] at gives
    -- a block may start with it
    obtain ⟨opened, kinds, rolled, tokens, some_, hollow, shallow⟩ : ∃ opened kinds,
        ({ lexer with tokens := paired } : Lexer).rollIndent key.mark.column (some key.number) .blockMappingStart key.mark =
          { lexer.indented indent indents with tokens := opened } ∧
        opened.toList = early ++ (kinds.map (Token.mk (.empty key.mark)) ++ late) ∧ kinds ≠ [] ∧
        (∀ kind ∈ kinds, kind.startsKey = true) ∧
        (kinds.head? = some .key → lexer.flowLevel = 0 → (key.mark.column : Int) ≤ lexer.base) := by
      rcases rolls with ⟨rolled, shallow⟩ | ⟨-, rolled⟩
      · exact ⟨paired, kinds, rolled, tokens, some_, hollow, fun _ => shallow⟩
      · have third := insert_at_tokens ({ lexer with tokens := paired } : Lexer) early _ key.number (.empty key.mark)
          .blockMappingStart tokens length
        refine ⟨_, .blockMappingStart :: kinds, rolled, third, by simp, ?_, by simp⟩
        exact List.forall_mem_cons.mpr ⟨rfl, hollow⟩
    obtain ⟨last, lasts, prepared, framed, base⟩ := roll_one_column_spec { lexer.indented indent indents with tokens := opened } kept
    rw [rolled, prepared] at gives
    obtain rfl := Except.ok.inj gives
    refine ⟨last, lasts, opened, kinds, rfl, framed, fun flow => ?_, tokens, some_, hollow, shallow⟩
    obtain ⟨rfl, rfl⟩ := same flow
    exact base

section

variable (chars : List Char) (key : SimpleKey) (kinds : List TokenKind) (some_ : kinds ≠ [])
  (hollow : ∀ kind ∈ kinds, kind.startsKey = true) (early late : List Token)
include some_ hollow

theorem key_tokens_row (high : Nat) (row : Row chars high (early ++ late)) (isBase : Prop) (base : Int)
    (before : ∀ token ∈ early.getLast?, token.finish chars ≤ key.mark.index ∧
      (token.kind = .blockEntry → token.finish chars + 1 ≤ key.mark.index ∨ isBase ∧ base < key.mark.column))
    (behind : ∀ token ∈ late.head?, key.mark.index ≤ token.place chars) (mark_le : key.mark.index ≤ high)
    (shallow : kinds.head? = some .key → isBase → (key.mark.column : Int) ≤ base) :
    Row chars high (early ++ (kinds.map (Token.mk (.empty key.mark)) ++ late)) := by
  refine row.insert early late key.mark kinds some_ hollow mark_le (fun kind first last member => ?_) behind
  obtain ⟨place, -⟩ := Row.key_token_spec chars key.mark kind (hollow kind (List.mem_of_head? first))
  obtain ⟨ends, dashes⟩ := before last member
  rw [Token.Follows, place, Token.room]
  split
  next close =>
    rcases dashes close.1 with clear | ⟨based, deeper⟩
    · exact clear
    · have isKey : kind = .key := by
        have starts := hollow kind (List.mem_of_head? first)
        have closes := close.2
        cases kind with
        | key => rfl
        | blockMappingStart => cases closes
        | flowMappingStart => cases closes
        | _ => cases starts
      subst isKey
      exact absurd deeper (Int.not_lt.mpr (shallow first based))
  next => exact ends

theorem last_dash_of_key (last : Token)
    (member : last ∈ (early ++ (kinds.map (Token.mk (.empty key.mark)) ++ late)).getLast?) (dash : last.kind = .blockEntry) :
    last ∈ (early ++ late).getLast? := by
  cases late with
  | nil =>
      rw [List.append_nil, List.getLast?_append_of_ne_nil _ (by simpa using some_)] at member
      obtain ⟨kind, listed, rfl⟩ := List.mem_map.mp (List.mem_of_getLast? member)
      exact absurd dash (Row.key_token_spec [] key.mark kind (hollow kind listed)).2.2.1
  | cons next others =>
      rw [← List.append_assoc] at member
      rw [List.getLast?_append_of_ne_nil _ (List.cons_ne_nil _ _)] at member ⊢
      exact member

omit some_ in
-- The keys of the collections around start at the same place or before it, so that they keep their numbers.
theorem outer_keys_fit (lexer next : Lexer) (outer : List (Option SimpleKey)) (fit : KeysFit chars lexer outer)
    (sorted : ∀ other, some other ∈ outer → other.number ≤ key.number ∧ other.mark.index ≤ key.mark.index)
    (split : lexer.tokens.toList = early ++ late) (length : early.length = key.number)
    (pushed : next.tokens.toList = early ++ (kinds.map (Token.mk (.empty key.mark)) ++ late))
    (taken : next.taken = lexer.taken) (mark : next.mark = lexer.mark) (base : next.base = lexer.base) :
    KeysFit chars next outer := by
  refine keys_fit_imp chars lexer next outer (fun isBase other member found => ⟨taken ▸ found.taken_le, mark ▸ found.reached, ?_⟩) fit
  obtain ⟨number_le, index_le⟩ := sorted other member
  have old := found.splits
  rw [split] at old
  rw [pushed, base]
  refine split_at_insert chars early late _ _ other old (by omega) fun token among => ?_
  obtain ⟨kind, listed, rfl⟩ := List.mem_map.mp among
  rw [(Row.key_token_spec chars key.mark kind (hollow kind listed)).1]
  exact index_le

end

theorem value_of_key_orderly (chars : List Char) (lexer after : Lexer) (high : Nat) (orderly : Orderly chars lexer high)
    (key : SimpleKey) (outer : List (Option SimpleKey)) (keys : lexer.keys = some key :: outer) (isPair : Bool) (mark : Mark)
    (gives : valueOfKey key isPair mark lexer = .ok after) :
    Orderly chars after high ∧ Keeps lexer after ∧ after.mark = lexer.mark ∧
      ∀ last ∈ after.tokens.toList.getLast?, last.kind = .blockEntry → last ∈ lexer.tokens.toList.getLast? := by
  have fit := orderly.keys
  have levels := orderly.levels
  have marks := orderly.marks
  rw [keys] at fit levels marks
  obtain ⟨fits, sorted⟩ := fit.1 key rfl
  obtain ⟨early, late, split, length, before, behind⟩ := fits.splits
  obtain ⟨indent, indents, tokens, kinds, rfl, framed, base, pushed, some_, hollow, shallow⟩ :=
    value_of_key_spec lexer after key isPair mark early late orderly.framed split length gives
  have row : Row chars high tokens.toList := by
    rw [pushed]
    refine key_tokens_row chars key kinds some_ hollow early late high (split ▸ orderly.row) _ _ before behind
      (marks key List.mem_cons_self) fun first isBase => shallow first ?_
    subst isBase
    simpa using levels.symm
  have outerKeys : KeysFit chars (({ lexer.indented indent indents with tokens := tokens } : Lexer).setKey none).forbidKey outer := by
    cases outer with
    | nil => trivial
    | cons next others =>
        have flow : lexer.flowLevel > 0 := by
          simp only [List.length_cons] at levels
          omega
        exact outer_keys_fit chars key kinds hollow early late lexer _ _ fit.2 sorted split length pushed rfl rfl (base flow)
  have size_le : lexer.tokens.size ≤ tokens.size := by
    rw [← Array.length_toList, ← Array.length_toList, pushed, split]
    simp only [List.length_append]
    omega
  have tail : lexer.keys.tail = outer := by rw [keys]; rfl
  refine ⟨⟨orderly.rest, Nat.le_trans orderly.taken_le size_le, row, ?_, ?_, framed, ?_⟩, ⟨rfl, ?_, size_le⟩, rfl, ?_⟩
  · change KeysFit chars _ (none :: lexer.keys.tail)
    rw [tail]
    exact ⟨by simp, outerKeys⟩
  · intro other member
    change some other ∈ none :: lexer.keys.tail at member
    rw [tail] at member
    rcases List.mem_cons.mp member with same | among
    · cases same
    · exact marks other (List.mem_cons_of_mem _ among)
  · change (none :: lexer.keys.tail).length = lexer.flowLevel + 1
    rw [tail]
    exact levels
  · have taken_le : lexer.taken ≤ early.length := by rw [length]; exact fits.taken_le
    change tokens.toList.take lexer.taken = _
    rw [pushed, split, List.take_append_of_le_length taken_le, List.take_append_of_le_length taken_le]
  · intro last member dash
    change last ∈ tokens.toList.getLast? at member
    rw [split]
    exact last_dash_of_key key kinds some_ hollow early late last (pushed ▸ member) dash

theorem set_none_eq (lexer : Lexer) (key : Option SimpleKey) (outer : List (Option SimpleKey)) (keys : lexer.keys = key :: outer)
    (noKey : lexer.key? = none) : lexer.setKey none = lexer := by
  have head : key = none := by simpa [key?, keys] using noKey
  rw [setKey, keys, List.tail_cons, ← head, ← keys]

theorem pair_start_orderly (chars : List Char) (lexer moved : Lexer) (ready : Ready chars lexer) (moves : Moves lexer moved)
    (isPair : Bool) :
    ∃ tokens, (if isPair = true then moved.push (.empty lexer.mark) .flowMappingStart else moved) =
        { moved with tokens := tokens } ∧ Orderly chars { moved with tokens := tokens } lexer.mark.index ∧
      Keeps lexer { moved with tokens := tokens } ∧
      ∀ last ∈ tokens.toList.getLast?, last.kind = .blockEntry →
        lexer.flowLevel = 0 ∧ (last.finish chars + 1 ≤ lexer.mark.index ∨ moved.base < lexer.mark.column) := by
  have kept := ready.orderly.moves moves
  have same : Keeps lexer moved := moves.keeps
  have dashes := dash_before chars lexer moved ready moves
  cases isPair with
  | true =>
      refine ⟨_, rfl, kept.push _ _ (Token.fits_empty chars _ _ rfl rfl) (Nat.le_refl _) (fun _ _ _ close => by cases close) _
        (Nat.le_refl _), same.trans (keeps_append _ rfl kept.taken_le Array.toList_push), fun last member dash => ?_⟩
      rw [Array.toList_push, List.getLast?_concat] at member
      obtain rfl := Option.mem_some_iff.mp member
      cases dash
  | false =>
      refine ⟨moved.tokens, rfl, kept, same, fun last member dash => ⟨?_, dashes last member dash⟩⟩
      rw [moves.tokens] at member
      exact (ready.dashed last member dash).level

theorem set_none_of_keys (lexer next : Lexer) (keys : next.keys = lexer.keys) (levels : lexer.keys ≠ [])
    (noKey : lexer.key? = none) : next.setKey none = next := by
  cases known : lexer.keys with
  | nil => exact absurd known levels
  | cons key outer =>
      have own : next.keys = key :: outer := by rw [keys, known]
      exact set_none_eq next key outer own (by rw [key?, own, ← known]; exact noKey)

theorem value_alone_orderly (chars : List Char) (lexer moved after : Lexer) (ready : Ready chars lexer)
    (within_ : lexer.indent ≤ lexer.column) (moves : Moves lexer moved) (noKey : lexer.key? = none) (isPair : Bool)
    (gives : valueAlone isPair lexer.mark moved = .ok after) :
    Orderly chars after lexer.mark.index ∧ Keeps lexer after ∧ after.mark = moved.mark ∧
      ∀ last ∈ after.tokens.toList.getLast?, last.kind = .blockEntry → last.finish chars + 1 ≤ lexer.mark.index := by
  unfold valueAlone at gives
  obtain ⟨tokens, pairs, orderly, keeps, dashes⟩ := pair_start_orderly chars lexer moved ready moves isPair
  simp only [pairs] at gives
  have flat : moved.flowLevel = lexer.flowLevel := moves.flow_level
  split at gives
  next flow =>
    obtain ⟨indent, indents, rolled, framed, base⟩ := roll_one_column_spec { moved with tokens := tokens } orderly.framed
    rw [rolled] at gives
    obtain rfl := Except.ok.inj gives
    refine ⟨(orderly.indented indent indents framed (.inr (Int.le_of_eq base))).moves (forbid_key_moves _),
      keeps.trans (keeps_of_eq rfl rfl), rfl, fun last member dash => ?_⟩
    have level := (dashes last member dash).1
    omega
  next outside =>
    split at gives
    next => cases gives
    next =>
      have level : moved.flowLevel = 0 := Nat.eq_zero_of_not_pos outside
      have narrow : moved.indent ≤ lexer.mark.column := by rw [moves.indent]; exact within_
      obtain ⟨opened, opens, -, place, -, keys, roomy⟩ := opens_block chars { moved with tokens := tokens } lexer.mark
        .blockMappingStart orderly level narrow (fun last member dash => (dashes last member dash).2) (.inl rfl)
      generalize ({ moved with tokens := tokens } : Lexer).rollIndent lexer.mark.column none .blockMappingStart lexer.mark = begun at *
      have levels : lexer.keys ≠ [] := by
        have length := ready.orderly.levels
        intro none
        simp [none] at length
      rw [set_none_of_keys lexer begun (keys.trans moves.keys) levels noKey] at opened
      obtain ⟨indent, indents, rolled, framed, base⟩ := roll_one_column_spec begun opened.framed
      rw [rolled] at gives
      obtain rfl := Except.ok.inj gives
      exact ⟨(opened.indented indent indents framed (.inr (Int.le_of_eq base))).moves (allow_key_moves _),
        (keeps.trans opens).trans (keeps_of_eq rfl rfl), place, roomy⟩

theorem value_found (chars : List Char) (lexer after : Lexer) (ready : Ready chars lexer)
    (within_ : lexer.indent ≤ lexer.column) (found : lexer.value = .ok after) : Found chars lexer after := by
  unfold value at found
  simp only at found
  obtain ⟨moved, colons, rest⟩ := Fault.bind_ok _ _ _ found
  generalize (!lexer.pairs.isEmpty && !lexer.flowMappingStarted) = isPair at colons rest
  have begins : Moves lexer (if isPair = true then { lexer with pairs := true :: lexer.pairs.tail } else lexer) := by
    split
    next => exact .still rfl rfl rfl
    next => exact .refl lexer
  have onward := after_colon_moves _ moved colons
  have moves := (begins.trans (advance_content_moves _ 1)).trans onward
  have further : lexer.mark.index + 1 ≤ moved.mark.index := by
    refine Nat.le_trans ?_ onward.index_le
    cases isPair <;> exact Nat.le_refl _
  -- both kinds of value end alike
  have ending (middle : Lexer) (orderly : Orderly chars middle lexer.mark.index) (keeps : Keeps lexer middle)
      (mark : middle.mark = moved.mark)
      (roomy : ∀ last ∈ middle.tokens.toList.getLast?, last.kind = .blockEntry → last.finish chars + 1 ≤ lexer.mark.index) :
      Found chars lexer (middle.push (.empty lexer.mark) .value) := by
    rw [← mark] at further
    exact found_push chars lexer middle _ _ orderly keeps further (.empty lexer.mark) .value (.refl _)
      (Token.fits_empty chars _ _ rfl rfl) (Nat.le_refl _) (fun last member dash _ => roomy last member dash) further (by simp)
  cases known : lexer.key? with
  | none =>
      rw [known] at rest
      obtain ⟨middle, gives, ends⟩ := Fault.bind_ok _ _ _ rest
      obtain ⟨orderly, keeps, mark, roomy⟩ := value_alone_orderly chars lexer moved middle ready within_ moves known isPair gives
      obtain rfl := Except.ok.inj ends
      exact ending middle orderly keeps mark roomy
  | some key =>
      rw [known] at rest
      obtain ⟨middle, gives, ends⟩ := Fault.bind_ok _ _ _ rest
      obtain ⟨outer, keys⟩ : ∃ outer, lexer.keys = some key :: outer := by
        cases list : lexer.keys with
        | nil => simp [key?, list] at known
        | cons first outer => exact ⟨outer, by simpa [key?, list] using known⟩
      obtain ⟨orderly, keeps, mark, lasts⟩ := value_of_key_orderly chars moved middle _ (ready.orderly.moves moves) key outer
        (moves.keys.trans keys) isPair lexer.mark gives
      have same : Keeps lexer moved := moves.keeps
      obtain rfl := Except.ok.inj ends
      refine ending middle orderly (same.trans keeps) mark fun last member dash => ?_
      -- behind a dash there would be no key
      have old := lasts last member dash
      rw [moves.tokens] at old
      have none := (ready.dashed last old dash).keys
      rw [keys] at none
      simp at none

theorem skip_at_end (lexer after : Lexer) (ended : isEnd lexer.peek = true) (skips : lexer.skipToToken = .ok after) :
    after = lexer := by
  have char : lexer.peek = nul := beq_iff_eq.mp ended
  unfold skipToToken at skips
  rw [skipToTokenFrom] at skips
  simp only [atTabIndentation, char] at skips
  exact (Except.ok.inj skips).symm

theorem steady_skip (chars : List Char) (lexer after : Lexer) (steady : Steady chars lexer)
    (skips : lexer.skipToToken = .ok after) : Steady chars after := by
  by_cases ended : isEnd lexer.peek = true
  · rw [skip_at_end lexer after ended skips]
    exact steady
  · have moves := skip_to_token_moves lexer after skips
    have here : lexer.place chars = lexer.mark.index := by
      rw [place_eq chars lexer steady.orderly.rest, if_neg ended]
      rfl
    have orderly := steady.orderly
    rw [here] at orderly
    refine ⟨(orderly.moves moves).mono _ (Nat.le_trans moves.index_le (index_le_place chars after)), fun last member dash => ?_⟩
    rw [moves.tokens] at member
    obtain ⟨finish_le, level, keys, deeper⟩ := steady.dashed last member dash
    refine ⟨Nat.le_trans finish_le moves.index_le, moves.flow_level.trans level, moves.keys.trans keys, ?_⟩
    obtain ⟨count, -, index, place⟩ := moves.reads
    have behind := index_le_place chars after
    by_cases still : count = 0
    · obtain ⟨-, column⟩ := place.resolve_left fun moved => by omega
      rcases deeper with clear | ⟨deeper, positive⟩
      · exact .inl (by omega)
      · refine .inr ⟨?_, by omega⟩
        rw [base, moves.indent, moves.indents, Lexer.column, column, still]
        exact deeper
    · exact .inl (by omega)

theorem steady_drop_stale (chars : List Char) (lexer after : Lexer) (steady : Steady chars lexer)
    (drops : lexer.dropStaleKeys = .ok after) :
    Steady chars after ∧ Keeps lexer after ∧ after.mark = lexer.mark ∧ after.rest = lexer.rest ∧
      (after.flowLevel = 0 → ∀ key, some key ∈ after.keys → key.mark.column ≤ after.mark.column) := by
  obtain ⟨rfl, orderly⟩ := steady.orderly.drop_stale drops
  refine ⟨⟨orderly, fun last member dash => ?_⟩, keeps_of_eq rfl rfl, rfl, rfl, fun level key member => ?_⟩
  · obtain ⟨finish_le, level, keys, deeper⟩ := steady.dashed last member dash
    exact ⟨finish_le, level, by simp [keys], deeper⟩
  · obtain ⟨old, among, same⟩ := List.mem_map.mp member
    obtain ⟨rfl, fresh⟩ := Option.filter_eq_some_iff.mp same
    obtain ⟨isBase, fits⟩ := key_fits_of_mem chars lexer lexer.keys key steady.orderly.keys among
    obtain ⟨count, -, place⟩ := fits.reached
    have flat : lexer.flowLevel = 0 := level
    have notLater : ¬ key.mark.line < lexer.mark.line := by
      simp only [isStale, flat, beq_self_eq_true, Bool.true_and, Bool.not_eq_true', Bool.or_eq_false_iff,
        decide_eq_false_iff_not] at fresh
      exact fresh.1
    simp only
    omega

theorem steady_unroll (chars : List Char) (lexer : Lexer) (steady : Steady chars lexer)
    (fresh : lexer.flowLevel = 0 → ∀ key, some key ∈ lexer.keys → key.mark.column ≤ lexer.mark.column) :
    Steady chars (lexer.unrollIndent lexer.column) ∧ Keeps lexer (lexer.unrollIndent lexer.column) ∧
      (lexer.unrollIndent lexer.column).mark = lexer.mark ∧ (lexer.unrollIndent lexer.column).rest = lexer.rest := by
  have orderly := steady.orderly
  have closed := orderly.unroll lexer.column (Nat.le_refl _) (fun level key member => Int.ofNat_le.mpr (fresh level key member))
    fun last member dash => by
      rcases (steady.dashed last member dash).deeper with clear | ⟨deeper, -⟩
      · exact .inl clear
      · obtain ⟨-, -, -, -, le_base⟩ := drop_prepared_spec lexer orderly.framed
        exact .inr (by omega)
  obtain ⟨keeps, mark⟩ := unroll_keeps lexer lexer.column orderly.framed orderly.taken_le
  obtain ⟨indent, indents, tokens, count, result, -, pushed, same⟩ := unroll_indent_spec lexer lexer.column orderly.framed
  refine ⟨⟨?_, fun last member dash => ?_⟩, keeps, mark, ?_⟩
  · rw [place, mark]
    exact closed
  · by_cases none : lexer.flowLevel > 0 ∨ lexer.indent ≤ lexer.column
    · rw [(same none).1] at member ⊢
      exact steady.dashed last member dash
    · rw [result] at member ⊢
      change last ∈ tokens.toList.getLast? at member
      rw [pushed] at member
      cases count with
      | succ count =>
          rw [List.replicate_succ', ← List.append_assoc, List.getLast?_append_of_ne_nil _ (List.cons_ne_nil _ _)] at member
          obtain rfl := Option.mem_some_iff.mp member
          cases dash
      | zero =>
          obtain ⟨finish_le, level, keys, deeper⟩ := steady.dashed last (by simpa using member) dash
          refine ⟨finish_le, level, keys, deeper.imp_right fun further => ?_⟩
          obtain ⟨-, -, -, -, le_base⟩ := drop_prepared_spec lexer orderly.framed
          omega
  · rw [result]
    rfl

theorem flow_value_found (chars : List Char) (lexer after : Lexer) (ready : Ready chars lexer)
    (within_ : lexer.indent ≤ lexer.column) (found : lexer.flowValue = .ok after) : Found chars lexer after := by
  unfold flowValue at found
  simp only at found
  split at found
  next => cases found
  next => exact value_found chars lexer after ready within_ found

theorem if_ok {α : Type} {goal test : Prop} [Decidable test] {first second : Except Fault α} {value : α}
    (one : test → first = .ok value → goal) (other : second = .ok value → goal)
    (found : (if test then first else second) = .ok value) : goal := by
  split at found
  next holds => exact one holds found
  next => exact other found

theorem token_at_found (chars : List Char) (lexer after : Lexer) (next : Char) (ready : Ready chars lexer)
    (within_ : lexer.indent ≤ lexer.column) : lexer.tokenAt lexer.peek next = .ok after → Found chars lexer after := by
  have noTilde (c : Char) (is : (lexer.peek == c) = true) (other : c ≠ '~') : lexer.peek ≠ '~' := by
    rw [beq_iff_eq.mp is]
    exact other
  have marked (c : Char) (is : (lexer.peek == c) = true) (among : c ∈ [ '\'', '"', '|', '>']) :
      lexer.peek ∈ [ '\'', '"', '|', '>'] := by
    rw [beq_iff_eq.mp is]
    exact among
  unfold tokenAt
  refine if_ok (fun is => flow_start_found chars lexer after false ready (noTilde _ is (by decide))) ?_
  refine if_ok (fun is => flow_start_found chars lexer after true ready (noTilde _ is (by decide))) ?_
  refine if_ok (fun is => flow_end_found chars lexer after false ready (noTilde _ is (by decide))) ?_
  refine if_ok (fun is => flow_end_found chars lexer after true ready (noTilde _ is (by decide))) ?_
  refine if_ok (fun is => flow_entry_found chars lexer after ready (noTilde _ is (by decide))) ?_
  refine if_ok (fun _ => block_entry_found chars lexer after ready within_) ?_
  refine if_ok (fun is => explicit_key_found chars lexer after ready within_ (noTilde _ (Bool.and_eq_true_iff.mp is).1 (by decide))) ?_
  refine if_ok (fun _ => value_found chars lexer after ready within_) ?_
  refine if_ok (fun _ => flow_value_found chars lexer after ready within_) ?_
  refine if_ok (fun is => anchor_found chars lexer after true ready (noTilde _ is (by decide))) ?_
  refine if_ok (fun is => anchor_found chars lexer after false ready (noTilde _ is (by decide))) ?_
  refine if_ok (fun is => tag_found chars lexer after ready (noTilde _ is (by decide))) ?_
  refine if_ok (fun is => block_scalar_found chars lexer after false ready (marked _ (Bool.and_eq_true_iff.mp is).1 (by decide))) ?_
  refine if_ok (fun is => block_scalar_found chars lexer after true ready (marked _ (Bool.and_eq_true_iff.mp is).1 (by decide))) ?_
  refine if_ok (fun is => quoted_found chars lexer after _ ready
    ((Bool.or_eq_true_iff.mp is).elim (marked _ · (by decide)) (marked _ · (by decide)))) ?_
  refine if_ok (fun _ fails => by cases fails) ?_
  exact plain_found chars lexer after ready

theorem found_outcome (chars : List Char) (lexer begun after : Lexer) (orderly : Orderly chars lexer (lexer.place chars))
    (keeps : Keeps lexer begun) (index_le : lexer.mark.index ≤ begun.mark.index) (ready : Ready chars begun)
    (found : Found chars begun after) : Outcome chars lexer after := by
  refine ⟨found.steady, keeps.trans found.keeps, Nat.lt_of_le_of_lt keeps.size_le found.longer, .inl ?_⟩
  have left : begun.mark.index < chars.length := by
    by_contra over_
    have char := peek_eq chars begun ready.orderly.rest
    rw [List.getD_eq_getElem?_getD, List.getElem?_eq_none (by omega)] at char
    have unended := ready.unended
    rw [char] at unended
    cases unended
  have moved := found.moved
  rw [found.steady.orderly.rest, orderly.rest, List.length_drop, List.length_drop]
  omega

theorem document_mark_peek (lexer : Lexer) (dot : Char) (isMark : isDocumentMark dot lexer.rest = true) : lexer.peek = dot := by
  simp only [isDocumentMark, Bool.and_eq_true, beq_iff_eq] at isMark
  rw [← isMark.1.1.1, peek]
  cases lexer.rest <;> rfl

theorem visible_found (chars : List Char) (lexer after : Lexer) (ready : Ready chars lexer) :
    (if (lexer.mark.column == 0 && lexer.peek == '%') = true then lexer.directive
      else if (lexer.mark.column == 0 && isDocumentMark '-' lexer.rest) = true then lexer.documentMark .documentStart
      else if (lexer.mark.column == 0 && isDocumentMark '.' lexer.rest) = true then lexer.documentEnd
      else if lexer.column < lexer.indent then lexer.fail .indentation
      else lexer.tokenAt lexer.peek (lexer.peekAt 1)) = .ok after → Found chars lexer after := by
  have noTilde (c : Char) (same : lexer.peek = c) (other : c ≠ '~') : lexer.peek ≠ '~' := same ▸ other
  refine if_ok (fun directs => ?_) (if_ok (fun starts => ?_) (if_ok (fun ends => ?_) fun given => ?_))
  · obtain ⟨atStart, isPercent⟩ := Bool.and_eq_true_iff.mp directs
    exact directive_found chars lexer after ready (beq_iff_eq.mp atStart) (noTilde '%' (beq_iff_eq.mp isPercent) (by decide))
  · obtain ⟨atStart, isMark⟩ := Bool.and_eq_true_iff.mp starts
    exact fun given => document_mark_found chars lexer after after .documentStart ready (beq_iff_eq.mp atStart)
      (noTilde '-' (document_mark_peek lexer '-' isMark) (by decide)) rfl rfl given (.refl _)
  · obtain ⟨atStart, isMark⟩ := Bool.and_eq_true_iff.mp ends
    exact document_end_found chars lexer after ready (beq_iff_eq.mp atStart)
      (noTilde '.' (document_mark_peek lexer '.' isMark) (by decide))
  · split at given
    next => cases given
    next within_ => exact token_at_found chars lexer after _ ready (Int.not_lt.mp within_) given

theorem find_token_outcome (chars : List Char) (lexer after : Lexer) (steady : Steady chars lexer)
    (found : lexer.findToken = .ok after) : Outcome chars lexer after := by
  unfold findToken at found
  obtain ⟨skipped, skips, rest⟩ := Fault.bind_ok _ _ _ found
  obtain ⟨fresh, drops, last⟩ := Fault.bind_ok _ _ _ rest
  have moves := skip_to_token_moves lexer skipped skips
  have first := steady_skip chars lexer skipped steady skips
  obtain ⟨second, dropKeeps, dropMark, dropRest, inLine⟩ := steady_drop_stale chars skipped fresh first drops
  obtain ⟨third, unrollKeeps, unrollMark, unrollRest⟩ := steady_unroll chars fresh second inLine
  have skipKeeps : Keeps lexer skipped := moves.keeps
  have keeps := (skipKeeps.trans dropKeeps).trans unrollKeeps
  simp only at last
  generalize fresh.unrollIndent fresh.column = begun at *
  have index_le : lexer.mark.index ≤ begun.mark.index := by
    rw [unrollMark, dropMark]
    exact moves.index_le
  split at last
  next ended =>
    obtain ⟨steadyAfter, ended, longer, progress⟩ := stream_end_outcome chars begun after third ended last
    refine ⟨steadyAfter, keeps.trans ended, Nat.lt_of_le_of_lt keeps.size_le longer, progress.imp_left fun further => ?_⟩
    rw [third.orderly.rest, List.length_drop] at further
    rw [steady.orderly.rest, List.length_drop]
    omega
  next unended =>
    have here : begun.place chars = begun.mark.index := by
      rw [place_eq chars begun third.orderly.rest, if_neg unended]
      rfl
    have same : begun.peek = skipped.peek := by rw [peek, unrollRest, dropRest, peek]
    obtain ⟨visible, unbroken⟩ := skip_to_token_ends lexer skipped skips
    have ready : Ready chars begun :=
      ⟨here ▸ third.orderly, third.dashed, by simpa using unended, by rw [same]; exact visible, by rw [same]; exact unbroken⟩
    exact found_outcome chars lexer begun after steady.orderly keeps index_le ready
      (visible_found chars begun after ready last)

structure Filled (lexer : Lexer) : Prop where
  bound : lexer.taken < lexer.tokens.size
  clear : lexer.keyPending = false

theorem key_pending_drop_stale (lexer after : Lexer) (drops : lexer.dropStaleKeys = .ok after)
    (clear : lexer.keyPending = false) : after.keyPending = false := by
  unfold dropStaleKeys at drops
  split at drops
  next => cases drops
  next =>
    obtain rfl := Except.ok.inj drops
    simp only [keyPending, List.any_eq_false, List.mem_map, forall_exists_index, and_imp, forall_apply_eq_imp_iff₂] at clear ⊢
    intro key member pending
    refine clear key member ?_
    cases key with
    | none => simp at pending
    | some key =>
        rw [Option.any_filter] at pending
        simp only [Option.any_some, Bool.and_eq_true] at pending ⊢
        exact pending.2

theorem key_pending_none (lexer : Lexer) (none_ : ∀ key ∈ lexer.keys, key = none) : lexer.keyPending = false := by
  rw [keyPending, List.any_eq_false]
  intro key member
  rw [none_ key member]
  simp

theorem fill_spec (chars : List Char) (fuel : Nat) (lexer after : Lexer) (steady : Steady chars lexer)
    (enough : lexer.rest.length + 2 ≤ fuel ∨ (lexer.taken < lexer.tokens.size ∧ ∀ key ∈ lexer.keys, key = none))
    (fills : fill fuel lexer = .ok after) : Steady chars after ∧ Keeps lexer after ∧ after.Filled := by
  induction fuel generalizing lexer with
  | zero =>
      obtain ⟨bound, none_⟩ := enough.resolve_left (by omega)
      obtain rfl := Except.ok.inj fills
      exact ⟨steady, keeps_of_eq rfl rfl, bound, key_pending_none lexer none_⟩
  | succ fuel ih =>
      -- one more token, and then the rest
      have onward (begun middle : Lexer) (ready : Steady chars begun) (keeps : Keeps lexer begun)
          (length : begun.rest.length ≤ fuel - 1) (finds : begun.findToken = .ok middle) (fills : fill fuel middle = .ok after) :
          Steady chars after ∧ Keeps lexer after ∧ after.Filled := by
        obtain ⟨found, kept, longer, progress⟩ := find_token_outcome chars begun middle ready finds
        have bound := ready.orderly.taken_le
        have same := kept.taken
        refine (ih middle found ?_ fills).imp_right fun rest => ⟨(keeps.trans kept).trans rest.1, rest.2⟩
        rcases progress with shorter | none_
        · exact .inl (by omega)
        · exact .inr ⟨by omega, none_⟩
      rw [fill] at fills
      split at fills
      next empty =>
        have length := enough.resolve_right fun full => by omega
        cases finds : lexer.findToken with
        | error fault => simp [finds] at fills
        | ok middle =>
            simp only [finds] at fills
            exact onward lexer middle steady (keeps_of_eq rfl rfl) (by omega) finds fills
      next some_ =>
        cases drops : lexer.dropStaleKeys with
        | error fault => simp [drops] at fills
        | ok fresh =>
            simp only [drops] at fills
            obtain ⟨kept, keeps, -, rest, -⟩ := steady_drop_stale chars lexer fresh steady drops
            have bound : fresh.taken < fresh.tokens.size := by
              have same := keeps.taken
              have size := keeps.size_le
              omega
            split at fills
            next pending =>
              have length := enough.resolve_right fun full => by
                have clear := key_pending_drop_stale lexer fresh drops (key_pending_none lexer full.2)
                simp [clear] at pending
              cases finds : fresh.findToken with
              | error fault => simp [finds] at fills
              | ok middle =>
                  simp only [finds] at fills
                  exact onward fresh middle kept keeps (by rw [rest]; omega) finds fills
            next clear =>
              obtain rfl := Except.ok.inj fills
              exact ⟨kept, keeps, bound, by simpa using clear⟩

def last? (lexer : Lexer) : Option Token :=
  (lexer.tokens.toList.take lexer.taken).getLast?

def front? (lexer : Lexer) : Option Token :=
  lexer.tokens.toList[lexer.taken]?

theorem last_keeps (before after : Lexer) (keeps : Keeps before after) : after.last? = before.last? := by
  rw [last?, keeps.taken, keeps.past, last?]

theorem next_spec (chars : List Char) (lexer after : Lexer) (token : Token) (steady : Steady chars lexer)
    (finds : lexer.next = .ok (token, after)) :
    Steady chars after ∧ after.Filled ∧ after.front? = some token ∧ after.last? = lexer.last? := by
  unfold next at finds
  cases fills : fill (lexer.rest.length + 2) lexer with
  | error fault => simp [fills] at finds
  | ok filled =>
      obtain ⟨kept, keeps, full⟩ := fill_spec chars _ lexer filled steady (.inl (Nat.le_refl _)) fills
      simp only [fills, Except.ok.injEq, Prod.mk.injEq] at finds
      obtain ⟨rfl, rfl⟩ := finds
      refine ⟨kept, full, ?_, last_keeps lexer filled keeps⟩
      rw [front?, Array.getElem?_toList, Array.getElem?_eq_getElem full.bound, Option.getD_some]

theorem next_filled (lexer after : Lexer) (token : Token) (full : lexer.Filled) (finds : lexer.next = .ok (token, after)) :
    lexer.front? = some token := by
  unfold next at finds
  rw [fill, if_neg (Nat.not_le.mpr full.bound)] at finds
  cases drops : lexer.dropStaleKeys with
  | error fault => simp [drops] at finds
  | ok fresh =>
      have clear := key_pending_drop_stale lexer fresh drops full.clear
      simp only [drops, clear, Bool.false_eq_true, if_false, Except.ok.injEq, Prod.mk.injEq] at finds
      obtain ⟨rfl, rfl⟩ := finds
      have same : fresh.tokens = lexer.tokens ∧ fresh.taken = lexer.taken := by
        unfold dropStaleKeys at drops
        split at drops
        next => cases drops
        next =>
          obtain rfl := Except.ok.inj drops
          exact ⟨rfl, rfl⟩
      rw [same.1, same.2, front?, Array.getElem?_toList, Array.getElem?_eq_getElem full.bound, Option.getD_some]

theorem take_spec (chars : List Char) (lexer : Lexer) (token : Token) (steady : Steady chars lexer) (full : lexer.Filled)
    (front : lexer.front? = some token) : Steady chars lexer.take ∧ lexer.take.last? = some token := by
  obtain ⟨orderly, dashed⟩ := steady
  refine ⟨⟨⟨orderly.rest, full.bound, orderly.row, ?_, orderly.marks, orderly.framed, orderly.levels⟩, fun last member dash => ?_⟩, ?_⟩
  · refine keys_fit_imp chars lexer _ _ (fun isBase key member fits => ⟨?_, fits.reached, fits.splits⟩) orderly.keys
    -- a key that would start at the token keeps it from being taken
    have other : key.number ≠ lexer.taken := by
      have clear := full.clear
      rw [keyPending, List.any_eq_false] at clear
      simpa using clear (some key) member
    have bound := fits.taken_le
    change lexer.taken + 1 ≤ key.number
    omega
  · obtain ⟨finish_le, level, keys, deeper⟩ := dashed last member dash
    exact ⟨finish_le, level, keys, deeper⟩
  · change (lexer.tokens.toList.take (lexer.taken + 1)).getLast? = some token
    rw [List.take_add_one, show lexer.tokens.toList[lexer.taken]? = some token from front]
    simp

theorem front_spec (chars : List Char) (lexer : Lexer) (token : Token) (steady : Steady chars lexer)
    (front : lexer.front? = some token) : token.Fits chars ∧ ∀ last ∈ lexer.last?, Token.Follows chars last token := by
  have row := steady.orderly.row
  refine ⟨row.fits token (List.mem_of_getElem? front), fun last member => ?_⟩
  have chain := row.chain
  rw [← List.take_append_drop lexer.taken lexer.tokens.toList] at chain
  refine (List.isChain_append.mp chain).2.2 last member token ?_
  rw [List.head?_drop]
  exact front

theorem start_steady (chars : List Char) : Steady chars (start chars) :=
  ⟨⟨rfl, Nat.le_refl _, Row.empty chars _, ⟨by simp [start], trivial⟩, by simp [start], trivial, rfl⟩, by simp [Dashed, start]⟩

end YamlDialects.Yaml.Lexer
