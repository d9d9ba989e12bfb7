import Mathlib.Order.MinMax
import YamlDialects.Proofs.Outline.Entries
import YamlDialects.Proofs.Text.Offset

set_option autoImplicit false

namespace YamlDialects.Text

def withReturns (chars : List Char) : List Char :=
  chars.flatMap fun c => if c = '\n' then [ '\r', '\n'] else [c]

def returned (text : String) : String :=
  String.ofList (withReturns text.toList)

def feedsBefore : List Char → Nat → Nat
  | [], _ => 0
  | c :: rest, offset =>
      if offset = 0 then 0 else (if c = '\n' then 1 else 0) + feedsBefore rest (offset - c.utf8Size)

def moved (chars : List Char) (offset : Nat) : Nat :=
  offset + feedsBefore chars offset

theorem with_returns_append (first second : List Char) :
    withReturns (first ++ second) = withReturns first ++ withReturns second :=
  List.flatMap_append

theorem with_returns_feed (rest : List Char) : withReturns ( '\n' :: rest) = '\r' :: '\n' :: withReturns rest := rfl

theorem with_returns_char (c : Char) (rest : List Char) (other : c ≠ '\n') :
    withReturns (c :: rest) = c :: withReturns rest := by
  rw [withReturns, List.flatMap_cons, if_neg other]
  rfl

theorem with_returns_plain (chars : List Char) (plain : '\n' ∉ chars) : withReturns chars = chars := by
  induction chars with
  | nil => rfl
  | cons c rest ih =>
      obtain ⟨other, restPlain⟩ := not_or.mp (List.mem_cons.not.mp plain)
      rw [with_returns_char c rest (Ne.symm other), ih restPlain]

theorem feeds_before_cons (c : Char) (rest : List Char) (offset : Nat) (positive : 0 < offset) :
    feedsBefore (c :: rest) offset = (if c = '\n' then 1 else 0) + feedsBefore rest (offset - c.utf8Size) :=
  if_neg (Nat.ne_of_gt positive)

theorem feeds_before_zero (chars : List Char) : feedsBefore chars 0 = 0 := by
  cases chars with
  | nil => rfl
  | cons c rest => exact if_pos rfl

theorem feeds_before_mono (chars : List Char) (first second : Nat) (le : first ≤ second) :
    feedsBefore chars first ≤ feedsBefore chars second := by
  induction chars generalizing first second with
  | nil => exact Nat.le_refl _
  | cons c rest ih =>
      by_cases start : first = 0
      · rw [start, feeds_before_zero]
        exact Nat.zero_le _
      · rw [feeds_before_cons c rest first (by omega), feeds_before_cons c rest second (by omega)]
        exact Nat.add_le_add_left (ih _ _ (Nat.sub_le_sub_right le _)) _

theorem moved_strict_mono (chars : List Char) : StrictMono (moved chars) := by
  intro first second lt
  have feeds := feeds_before_mono chars first second (Nat.le_of_lt lt)
  simp only [moved]
  omega

theorem moved_zero (chars : List Char) : moved chars 0 = 0 := by
  rw [moved, feeds_before_zero]

theorem feeds_before_append (before after : List Char) (offset : Nat) :
    feedsBefore (before ++ after) (byteLength before + offset) =
      feedsBefore before (byteLength before) + feedsBefore after offset := by
  induction before with
  | nil => simp [feedsBefore]
  | cons c rest ih =>
      have width := c.utf8Size_pos
      rw [List.cons_append, byte_length_cons, feeds_before_cons c _ _ (by omega), feeds_before_cons c _ _ (by omega),
        show c.utf8Size + byteLength rest + offset - c.utf8Size = byteLength rest + offset by omega,
        Nat.add_sub_cancel_left, ih, Nat.add_assoc]

theorem feeds_before_plain (middle after : List Char) (offset : Nat) (plain : '\n' ∉ middle)
    (inside : offset ≤ byteLength middle) : feedsBefore (middle ++ after) offset = 0 := by
  induction middle generalizing offset with
  | nil =>
      obtain rfl := Nat.le_zero.mp inside
      exact feeds_before_zero after
  | cons c rest ih =>
      obtain ⟨other, restPlain⟩ := not_or.mp (List.mem_cons.not.mp plain)
      rw [byte_length_cons] at inside
      by_cases start : offset = 0
      · rw [start, feeds_before_zero]
      · rw [List.cons_append, feeds_before_cons c _ offset (by omega), if_neg (Ne.symm other), Nat.zero_add]
        exact ih _ restPlain (by omega)

theorem feeds_before_whole (chars : List Char) :
    byteLength chars + feedsBefore chars (byteLength chars) = byteLength (withReturns chars) := by
  induction chars with
  | nil => rfl
  | cons c rest ih =>
      have width := c.utf8Size_pos
      rw [byte_length_cons, feeds_before_cons c rest _ (by omega), Nat.add_sub_cancel_left]
      by_cases feed : c = '\n'
      · subst feed
        rw [with_returns_feed, byte_length_cons, byte_length_cons, ← ih, if_pos rfl, show Char.utf8Size '\r' = 1 from rfl]
        omega
      · rw [with_returns_char c rest feed, byte_length_cons, ← ih, if_neg feed]
        omega

theorem moved_split (before after : List Char) :
    moved (before ++ after) (byteLength before) = byteLength (withReturns before) := by
  have feeds := feeds_before_append before after 0
  rw [Nat.add_zero, feeds_before_zero, Nat.add_zero] at feeds
  rw [moved, feeds, feeds_before_whole]

theorem moved_whole (chars : List Char) : moved chars (byteLength chars) = byteLength (withReturns chars) := by
  rw [moved, feeds_before_whole]

theorem moved_within (before middle after : List Char) (offset : Nat) (plain : '\n' ∉ middle)
    (inside : offset ≤ byteLength middle) : moved (before ++ (middle ++ after)) (byteLength before + offset) =
      byteLength (withReturns before) + offset := by
  rw [moved, feeds_before_append, feeds_before_plain middle after offset plain inside, ← feeds_before_whole]
  omega

theorem slice_with_returns (before middle after : List Char) (start stop : Nat) (plain : '\n' ∉ middle)
    (inside : stop ≤ byteLength middle) :
    slice? (withReturns (before ++ (middle ++ after))) (byteLength (withReturns before) + start)
        (byteLength (withReturns before) + stop) =
      slice? (before ++ (middle ++ after)) (byteLength before + start) (byteLength before + stop) := by
  rw [with_returns_append, with_returns_append, with_returns_plain middle plain, slice_behind, slice_behind,
    slice_within middle _ start stop inside, slice_within middle _ start stop inside]

theorem slice_returned (text : String) (before middle after : List Char) (split : text.toList = before ++ (middle ++ after))
    (plain : '\n' ∉ middle) (start stop : Nat) (inside : stop ≤ byteLength middle) :
    slice (returned text) (byteLength (withReturns before) + start) (byteLength (withReturns before) + stop) =
      slice text (byteLength before + start) (byteLength before + stop) := by
  rw [slice, slice, returned, String.toList_ofList, split, slice_with_returns before middle after start stop plain inside]

end YamlDialects.Text

namespace YamlDialects

namespace Outline

open Text (byteLength moved)

namespace Line

def move (place : Nat → Nat) (line : Line) : Line :=
  { line with start := place line.start, contentStop := place line.contentStop, stop := place line.stop }

-- Within the line all offsets move by the same amount.
def Steady (place : Nat → Nat) (line : Line) : Prop :=
  ∀ amount, line.start + amount ≤ line.contentStop → place (line.start + amount) = place line.start + amount

end Line

def Entry.move (place : Nat → Nat) (entry : Entry) : Entry :=
  { entry with
    start := place entry.start
    contentStop := place entry.contentStop
    stop := place entry.stop
    colon := entry.colon.map place }

def Table.move (place : Nat → Nat) (table : Table) : Table :=
  Array.map (Entry.move place) table

def Builder.move (place : Nat → Nat) (builder : Builder) : Builder :=
  ⟨builder.table.move place, builder.current⟩

theorem lines_from_plain (start : Nat) (held chars : List Char) (plain : '\n' ∉ held) :
    ∀ line ∈ linesFrom start held chars, '\n' ∉ line.chars := by
  induction chars generalizing start held with
  | nil =>
      intro line member
      rw [List.mem_singleton.mp member]
      simpa [Line.of] using plain
  | cons c rest ih =>
      by_cases feed : c = '\n'
      · subst feed
        by_cases carriage : ∃ before, held = '\r' :: before
        · obtain ⟨before, rfl⟩ := carriage
          rw [lines_from_return]
          refine List.forall_mem_cons.mpr ⟨?_, ih _ [] List.not_mem_nil⟩
          simpa [Line.of] using plain
        · rw [lines_from_feed start held rest fun before same => carriage ⟨before, same⟩]
          refine List.forall_mem_cons.mpr ⟨?_, ih _ [] List.not_mem_nil⟩
          simpa [Line.of] using plain
      · rw [lines_from_char start held rest c feed]
        refine ih start (c :: held) fun member => ?_
        rcases List.mem_cons.mp member with same | old
        · exact feed same.symm
        · exact plain old

theorem line_of_returns (before content after : List Char) (terminator other : Nat) (plain : '\n' ∉ content)
    (ends : moved (before ++ (content ++ after)) (byteLength before + byteLength content + terminator) =
      byteLength (Text.withReturns before) + byteLength content + other) :
    Line.of (byteLength (Text.withReturns before)) content other =
      (Line.of (byteLength before) content terminator).move (moved (before ++ (content ++ after))) := by
  have start := Text.moved_within before content after 0 plain (Nat.zero_le _)
  have stop := Text.moved_within before content after _ plain (Nat.le_refl _)
  simp only [Nat.add_zero] at start
  simp only [Line.of, Line.move, start, stop, ends]

theorem lines_from_returns (before held chars : List Char) (plainHeld : '\n' ∉ held) (bareHeld : '\r' ∉ held)
    (bare : '\r' ∉ chars) : linesFrom (byteLength (Text.withReturns before)) held (Text.withReturns chars) =
      (linesFrom (byteLength before) held chars).map (Line.move (moved (before ++ (held.reverse ++ chars)))) := by
  induction chars generalizing before held with
  | nil =>
      have plain : '\n' ∉ held.reverse := by simpa using plainHeld
      exact congrArg (fun last => [last]) (line_of_returns before _ [] 0 0 plain (Text.moved_within before held.reverse [] _ plain (Nat.le_refl _)))
  | cons c rest ih =>
      obtain ⟨other, restBare⟩ := not_or.mp (List.mem_cons.not.mp bare)
      by_cases feed : c = '\n'
      · subst feed
        have plain : '\n' ∉ held.reverse := by simpa using plainHeld
        have whole : before ++ (held.reverse ++ '\n' :: rest) = (before ++ (held.reverse ++ [ '\n'])) ++ ([] ++ rest) := by simp
        have width : byteLength (Text.withReturns (before ++ (held.reverse ++ [ '\n']))) =
            byteLength (Text.withReturns before) + byteLength held.reverse + 2 := by
          rw [Text.with_returns_append, Text.with_returns_append, Text.with_returns_plain _ plain, Text.byte_length_append,
            Text.byte_length_append, ← Nat.add_assoc]
          rfl
        have ends : moved (before ++ (held.reverse ++ '\n' :: rest)) (byteLength before + byteLength held.reverse + 1) =
            byteLength (Text.withReturns before) + byteLength held.reverse + 2 := by
          have split := Text.moved_split (before ++ (held.reverse ++ [ '\n'])) ([] ++ rest)
          rw [← whole, width] at split
          rw [← split]
          congr 1
          simp [Nat.add_assoc, show Char.utf8Size '\n' = 1 from rfl]
        have later := ih (before ++ (held.reverse ++ [ '\n'])) [] List.not_mem_nil List.not_mem_nil restBare
        rw [Text.with_returns_feed, lines_from_char _ held _ '\r' (by decide), lines_from_return,
          lines_from_feed _ held rest fun before same => bareHeld (same ▸ List.mem_cons_self), List.map_cons,
          line_of_returns before held.reverse _ 1 2 plain ends]
        congr 1
        rw [width] at later
        rw [later, whole]
        congr 2
        simp [Nat.add_assoc, show Char.utf8Size '\n' = 1 from rfl]
      · have later := ih before (c :: held) (fun member => ?_) (fun member => ?_) restBare
        · rw [Text.with_returns_char c rest feed, lines_from_char _ held _ c feed, lines_from_char _ held _ c feed, later]
          simp
        · exact (List.mem_cons.mp member).elim (fun same => feed same.symm) plainHeld
        · exact (List.mem_cons.mp member).elim other bareHeld

theorem lines_returns (chars : List Char) (bare : '\r' ∉ chars) :
    lines (Text.withReturns chars) = (lines chars).map (Line.move (moved chars)) :=
  lines_from_returns [] [] chars List.not_mem_nil List.not_mem_nil bare

theorem line_steady (chars : List Char) (line : Line) (member : line ∈ lines chars) : line.Steady (moved chars) := by
  obtain ⟨before, terminator, after, split, made⟩ := lines_within chars line member
  have plain := lines_from_plain 0 [] chars List.not_mem_nil line member
  intro amount inside
  have start : line.start = byteLength before := by rw [made]; rfl
  have stop : line.contentStop = byteLength before + byteLength line.chars := by rw [made]; rfl
  have here := Text.moved_within before line.chars (terminator ++ after) 0 plain (Nat.zero_le _)
  rw [split, start, Text.moved_within before line.chars _ amount plain (by omega)]
  rw [Nat.add_zero, Nat.add_zero] at here
  rw [here]

section

variable (place : Nat → Nat)

theorem climb_move (table : Table) (level : Entry → Bool) (moves : ∀ entry, level (entry.move place) = level entry)
    (fuel id : Nat) : (table.move place).climb level fuel id = table.climb level fuel id := by
  induction fuel generalizing id with
  | zero => rfl
  | succ fuel ih =>
      rw [Table.climb, Table.climb, Table.move, Array.getElem?_map]
      cases table[id]? with
      | none => rfl
      | some entry =>
          simp only [Option.map_some, moves]
          rw [show (entry.move place).kind = entry.kind from rfl, show (entry.move place).parent = entry.parent from rfl]
          cases entry.parent with
          | none => rfl
          | some parent =>
              dsimp only
              rw [← ih parent]
              rfl

theorem count_children_move (table : Table) (parent : Nat) (kind : Kind) :
    (table.move place).countChildren parent kind = table.countChildren parent kind := by
  rw [Table.countChildren, Table.countChildren, Table.move, Array.filter_map, Array.size_map]
  rfl

theorem move_push (table : Table) (fresh : Entry) :
    Table.move place (table.push fresh) = (table.move place).push (fresh.move place) :=
  Array.map_push

theorem move_size (table : Table) : (table.move place).size = table.size :=
  Array.size_map

theorem add_document_move (builder : Builder) (start contentStop stop : Nat) :
    (builder.move place).addDocument (place start) (place contentStop) (place stop) =
      (builder.addDocument start contentStop stop).move place := by
  simp only [Builder.addDocument, Builder.move, Table.addDocument, move_push, move_size, count_children_move]
  rfl

variable (chars : List Char)

theorem add_raw_move (builder : Builder) (line : Line) (within : line.Within chars) (steady : line.Steady place) :
    (builder.move place).addRaw (line.move place) = (builder.addRaw line).move place := by
  have start : place (line.start + line.indent.getD 0) = place line.start + line.indent.getD 0 := by
    apply steady
    cases indented : line.indent with
    | none => exact (line_start_le chars line within).1
    | some indent =>
        obtain ⟨_, _, _, _, ends⟩ := spot_split chars line indent line.body (spot_body chars line indent within indented)
        rw [Option.getD_some]
        omega
  simp only [Builder.addRaw, Builder.move, Table.addRaw, move_push]
  rw [Entry.move]
  dsimp only
  rw [start]
  rfl

theorem spot_start (line : Line) (indent : Nat) (body : List Char) (spot : Spot chars line indent body)
    (steady : line.Steady place) : place (line.start + indent) = place line.start + indent := by
  obtain ⟨_, _, _, _, ends⟩ := spot_split chars line indent body spot
  exact steady indent (by omega)

theorem add_item_move (builder : Builder) (line : Line) (indent : Nat) (body : List Char)
    (spot : Spot chars line indent body) (steady : line.Steady place) :
    (builder.move place).addItem (line.move place) indent = (builder.addItem line indent).move place := by
  have parent : (builder.move place).itemParent indent = builder.itemParent indent := by
    rw [Builder.itemParent, Builder.move, move_size, climb_move place _ _ fun _ => rfl]
    rfl
  simp only [Builder.addItem, parent]
  simp only [Builder.move, Table.addItem, move_push, move_size, count_children_move]
  simp only [Entry.move, Line.move, spot_start place chars line indent body spot steady, Option.map_none]

theorem add_key_move (builder : Builder) (line : Line) (indent length : Nat) (body : List Char)
    (spot : Spot chars line indent body) (found : keyLength? body = some length) (steady : line.Steady place) :
    (builder.move place).addKey (line.move place) indent length = (builder.addKey line indent length).move place := by
  have parent : (builder.move place).keyParent indent = builder.keyParent indent := by
    rw [Builder.keyParent, Builder.move, move_size, climb_move place _ _ fun _ => rfl]
    rfl
  have colon : place (line.start + indent + length) = place line.start + indent + length := by
    obtain ⟨key, rest, rfl, -, rfl⟩ := key_length_spec body length found
    obtain ⟨_, _, _, _, ends⟩ := spot_split chars line indent _ spot
    rw [Text.byte_length_append] at ends
    rw [Nat.add_assoc, steady _ (by omega), Nat.add_assoc]
  simp only [Builder.addKey, parent]
  simp only [Builder.move, Table.addKey, move_push, move_size]
  simp only [Entry.move, Line.move, spot_start place chars line indent body spot steady, Option.map_some, colon]

theorem open_blocks_move (line : Line) (indent : Nat) (body : List Char) (builder : Builder)
    (spot : Spot chars line indent body) (steady : line.Steady place) :
    Builder.openBlocks (line.move place) indent body (builder.move place) =
      (Builder.openBlocks line indent body builder).move place := by
  fun_induction Builder.openBlocks line indent body builder with
  | case1 body indent builder length found =>
      rw [Builder.openBlocks.eq_def]
      simp only [found]
      exact add_key_move place chars builder line indent length body spot found steady
  | case2 indent builder missing =>
      rw [Builder.openBlocks.eq_def]
      simp only [missing]
      exact add_item_move place chars builder line indent _ spot steady
  | case3 indent builder rest missing ih =>
      rw [Builder.openBlocks.eq_def]
      simp only [missing]
      rw [add_item_move place chars builder line indent _ spot steady]
      exact ih (spot_after_dash chars line indent rest spot)
  | case4 body indent builder missing notDash notItem =>
      rw [Builder.openBlocks.eq_def]
      simp [missing]

theorem add_line_move (builder : Builder) (line : Line) (within : line.Within chars) (steady : line.Steady place) :
    (builder.move place).addLine (line.move place) = (builder.addLine line).move place := by
  rw [Builder.addLine, Builder.addLine, show (line.move place).indent = line.indent from rfl,
    show (line.move place).body = line.body from rfl]
  cases indented : line.indent with
  | none => exact add_raw_move place chars builder line within steady
  | some indent =>
      dsimp only
      split
      · exact add_document_move place builder line.start line.contentStop line.stop
      · split
        · exact open_blocks_move place chars line indent line.body builder (spot_body chars line indent within indented) steady
        · exact add_raw_move place chars builder line within steady

theorem fold_move (advance : Builder → Line → Builder) (all : List Line) (builder : Builder)
    (moves : ∀ builder, ∀ line ∈ all, advance (builder.move place) (line.move place) = (advance builder line).move place) :
    (all.map (Line.move place)).foldl advance (builder.move place) = (all.foldl advance builder).move place := by
  induction all generalizing builder with
  | nil => rfl
  | cons line rest ih =>
      rw [List.map_cons, List.foldl_cons, List.foldl_cons, moves builder line List.mem_cons_self]
      exact ih (advance builder line) fun builder other member => moves builder other (List.mem_cons_of_mem line member)

end

theorem preamble_move (place : Nat → Nat) (all : List Line) :
    preamble (all.map (Line.move place)) = (preamble all).map (Line.move place) := by
  rw [preamble, preamble, List.takeWhile_map]
  rfl

theorem table_returns (chars : List Char) (bare : '\r' ∉ chars) :
    tableOf (Text.withReturns chars) = (tableOf chars).move (moved chars) := by
  have leads : preamble (lines chars) ⊆ lines chars := (List.takeWhile_prefix _).subset
  have follows : (lines chars).drop (preamble (lines chars)).length ⊆ lines chars := List.drop_subset _ _
  have within := lines_within chars
  have steady := line_steady chars
  have root : (⟨#[Table.rootOf (byteLength (Text.withReturns chars))], 0⟩ : Builder) =
      Builder.move (moved chars) ⟨#[Table.rootOf (byteLength chars)], 0⟩ := by
    simp [Builder.move, Table.move, Entry.move, Table.rootOf, Text.moved_zero, Text.moved_whole]
  simp only [tableOf, lines_returns chars bare, preamble_move, List.length_map, ← List.map_drop, root, List.head?_map,
    Option.any_map]
  generalize (lines chars).drop (preamble (lines chars)).length = rest at follows
  generalize preamble (lines chars) = leading at leads
  have opened := fold_move (moved chars) Builder.addRaw leading
    (Builder.addDocument ⟨#[Table.rootOf (byteLength chars)], 0⟩ 0 0 0) fun builder line member =>
      add_raw_move (moved chars) chars builder line (within line (leads member)) (steady line (leads member))
  have first := add_document_move (moved chars) ⟨#[Table.rootOf (byteLength chars)], 0⟩ 0 0 0
  rw [Text.moved_zero] at first
  have lined : ∀ builder, (rest.map (Line.move (moved chars))).foldl Builder.addLine (builder.move (moved chars)) =
      (rest.foldl Builder.addLine builder).move (moved chars) := fun builder =>
    fold_move (moved chars) Builder.addLine rest builder fun builder line member =>
      add_line_move (moved chars) chars builder line (within line (follows member)) (steady line (follows member))
  change Builder.table (List.foldl _ (if (rest.head?.any fun line => isSeparator line.body) = true then _ else _) _) = _
  by_cases separated : (rest.head?.any fun line => isSeparator line.body) = true
  · rw [if_pos separated, if_pos separated, lined]
    rfl
  · rw [if_neg separated, if_neg separated, first, opened, lined]
    rfl

end Outline
end YamlDialects
