import YamlDialects.Outline.Line
import YamlDialects.Proofs.Text.Offset

set_option autoImplicit false

namespace YamlDialects.Outline

inductive Tiles : Nat → List Char → List Line → Prop where
  | last (start : Nat) (content : List Char) : Tiles start content [Line.of start content 0]
  | next (start : Nat) (content terminator rest : List Char) (later : List Line)
      (following : Tiles (start + Text.byteLength content + Text.byteLength terminator) rest later) :
      Tiles start (content ++ (terminator ++ rest)) (Line.of start content (Text.byteLength terminator) :: later)

theorem lines_from_char (start : Nat) (held rest : List Char) (c : Char) (other : c ≠ '\n') :
    linesFrom start held (c :: rest) = linesFrom start (c :: held) rest := by
  rw [linesFrom.eq_def]
  exact if_neg other

theorem lines_from_feed (start : Nat) (held rest : List Char) (plain : ∀ before, held ≠ '\r' :: before) :
    linesFrom start held ( '\n' :: rest) =
      Line.of start held.reverse 1 :: linesFrom (start + Text.byteLength held.reverse + 1) [] rest := by
  rw [linesFrom, if_pos rfl]
  · rfl
  · exact plain

theorem lines_from_return (start : Nat) (before rest : List Char) :
    linesFrom start ( '\r' :: before) ( '\n' :: rest) =
      Line.of start before.reverse 2 :: linesFrom (start + Text.byteLength before.reverse + 2) [] rest := by
  rw [linesFrom, if_pos rfl]
  rfl

theorem lines_from_tile (chars : List Char) (start : Nat) (held : List Char) :
    Tiles start (held.reverse ++ chars) (linesFrom start held chars) := by
  induction chars generalizing start held with
  | nil =>
      rw [List.append_nil]
      exact .last start held.reverse
  | cons c rest ih =>
      by_cases feed : c = '\n'
      · subst feed
        by_cases carriage : ∃ before, held = '\r' :: before
        · obtain ⟨before, rfl⟩ := carriage
          rw [lines_from_return, List.reverse_cons, List.append_assoc]
          exact .next start before.reverse [ '\r', '\n'] rest _ (ih _ [])
        · have plain : ∀ before, held ≠ '\r' :: before := fun before same => carriage ⟨before, same⟩
          rw [lines_from_feed start held rest plain]
          exact .next start held.reverse [ '\n'] rest _ (ih _ [])
      · rw [lines_from_char start held rest c feed]
        simpa [List.append_assoc] using ih start (c :: held)

theorem lines_tile (chars : List Char) : Tiles 0 chars (lines chars) :=
  lines_from_tile chars 0 []

def Line.Within (chars : List Char) (line : Line) : Prop :=
  ∃ before terminator after, chars = before ++ (line.chars ++ (terminator ++ after)) ∧
    line = Line.of (Text.byteLength before) line.chars (Text.byteLength terminator)

theorem tiles_within (chars before text : List Char) (start : Nat) (all : List Line) (tiles : Tiles start text all)
    (split : chars = before ++ text) (length : Text.byteLength before = start) :
    ∀ line ∈ all, line.Within chars ∧ start ≤ line.start := by
  induction tiles generalizing before with
  | last start content =>
      intro line member
      obtain rfl := List.mem_singleton.mp member
      exact ⟨⟨before, [], [], by simpa [Line.of] using split, by rw [length]; rfl⟩, Nat.le_refl _⟩
  | next start content terminator rest later _ ih =>
      intro line member
      rcases List.mem_cons.mp member with rfl | further
      · exact ⟨⟨before, terminator, rest, split, by rw [length]; rfl⟩, Nat.le_refl _⟩
      · obtain ⟨within, order⟩ := ih (before ++ (content ++ terminator)) (by simpa using split)
          (by simp [length, Nat.add_assoc]) line further
        exact ⟨within, by omega⟩

theorem tiles_sorted (start : Nat) (text : List Char) (all : List Line) (tiles : Tiles start text all) :
    all.Pairwise fun first second => first.stop ≤ second.start := by
  induction tiles with
  | last start content => exact List.pairwise_singleton _ _
  | next start content terminator rest later following ih =>
      refine List.pairwise_cons.mpr ⟨?_, ih⟩
      intro line member
      exact (tiles_within (_ ++ rest) _ rest _ later following rfl (Text.byte_length_spaces _) line member).2

theorem lines_within (chars : List Char) : ∀ line ∈ lines chars, line.Within chars :=
  fun line member => (tiles_within chars [] chars 0 _ (lines_tile chars) rfl rfl line member).1

theorem lines_sorted (chars : List Char) : (lines chars).Pairwise fun first second => first.stop ≤ second.start :=
  tiles_sorted 0 chars _ (lines_tile chars)

theorem line_start_le (chars : List Char) (line : Line) (within : line.Within chars) :
    line.start ≤ line.contentStop ∧ line.contentStop ≤ line.stop := by
  obtain ⟨before, terminator, after, _, made⟩ := within
  rw [made]
  simp [Line.of]

theorem line_stop_boundary (chars : List Char) (line : Line) (within : line.Within chars) :
    Text.IsBoundary chars line.stop := by
  obtain ⟨before, terminator, after, split, made⟩ := within
  rw [Text.boundary_iff_split]
  refine ⟨before ++ (line.chars ++ terminator), after, by simpa [List.append_assoc] using split, ?_⟩
  rw [made]
  simp [Line.of, Nat.add_assoc]

structure Spot (chars : List Char) (line : Line) (indent : Nat) (body : List Char) : Prop where
  within : line.Within chars
  holds : ∃ lead, line.chars = lead ++ body ∧ Text.byteLength lead = indent

theorem spot_split (chars : List Char) (line : Line) (indent : Nat) (body : List Char)
    (spot : Spot chars line indent body) :
    ∃ before after, chars = before ++ (body ++ after) ∧ Text.byteLength before = line.start + indent ∧
      line.start + indent + Text.byteLength body = line.contentStop := by
  obtain ⟨before, terminator, after, split, made⟩ := spot.within
  obtain ⟨lead, content, length⟩ := spot.holds
  have start : line.start = Text.byteLength before := by rw [made]; rfl
  have contentStop : line.contentStop = line.start + Text.byteLength line.chars := by rw [made]; rfl
  refine ⟨before ++ lead, terminator ++ after, ?_, ?_, ?_⟩
  · rw [split, content]
    simp [List.append_assoc]
  · rw [Text.byte_length_append, length, start]
  · rw [contentStop, content, Text.byte_length_append, length]
    omega

theorem spot_boundary (chars : List Char) (line : Line) (indent : Nat) (body : List Char)
    (spot : Spot chars line indent body) : Text.IsBoundary chars (line.start + indent) := by
  obtain ⟨before, after, split, length, _⟩ := spot_split chars line indent body spot
  exact (Text.boundary_iff_split chars _).mpr ⟨before, body ++ after, split, length⟩

theorem spot_start_le (chars : List Char) (line : Line) (indent : Nat) (body : List Char)
    (spot : Spot chars line indent body) : line.start + indent ≤ line.stop := by
  obtain ⟨_, _, _, _, length⟩ := spot_split chars line indent body spot
  have ends := (line_start_le chars line spot.within).2
  omega

theorem spot_zero (chars : List Char) (line : Line) (within : line.Within chars) :
    Spot chars line 0 line.chars :=
  ⟨within, [], rfl, rfl⟩

theorem spot_after_dash (chars : List Char) (line : Line) (indent : Nat) (rest : List Char)
    (spot : Spot chars line indent ('-' :: ' ' :: rest)) : Spot chars line (indent + 2) rest := by
  obtain ⟨lead, content, length⟩ := spot.holds
  refine ⟨spot.within, lead ++ [ '-', ' '], by simpa using content, ?_⟩
  rw [Text.byte_length_append, length]
  rfl

theorem leading_spaces_space (rest : List Char) : leadingSpaces ( ' ' :: rest) = leadingSpaces rest + 1 := by
  simp [leadingSpaces]

theorem leading_spaces_other (c : Char) (rest : List Char) (other : c ≠ ' ') : leadingSpaces (c :: rest) = 0 := by
  simp [leadingSpaces, other]

theorem leading_spaces_split (chars : List Char) :
    chars = List.replicate (leadingSpaces chars) ' ' ++ chars.drop (leadingSpaces chars) := by
  induction chars with
  | nil => rfl
  | cons c rest ih =>
      by_cases space : c = ' '
      · subst space
        rw [leading_spaces_space, List.replicate_succ, List.drop_succ_cons, List.cons_append, ← ih]
      · rw [leading_spaces_other c rest space]
        rfl

theorem spot_body (chars : List Char) (line : Line) (indent : Nat) (within : line.Within chars)
    (indented : line.indent = some indent) : Spot chars line indent line.body := by
  have found : indentOf line.chars = some indent := by
    obtain ⟨before, terminator, after, _, made⟩ := within
    rw [made] at indented
    exact indented
  have spaces : leadingSpaces line.chars = indent := by
    by_cases blank : line.chars.all Text.isBlank
    · simp [indentOf, blank] at found
    · simpa [indentOf, blank] using found
  refine ⟨within, List.replicate indent ' ', ?_, Text.byte_length_spaces indent⟩
  rw [Line.body, indented, Option.getD_some, ← spaces]
  exact leading_spaces_split line.chars

def IsSimpleKey : List Char → Prop
  | [] => False
  | first :: rest => Text.isWord first = true ∧ ∀ c ∈ rest, c = '.' ∨ Text.isWord c = true ∨ c = '-'

theorem key_chars_simple (chars : List Char) (first : Char) (starts : chars.head? = some first)
    (word : Text.isWord first = true) : IsSimpleKey (chars.takeWhile isKeyChar) := by
  cases chars with
  | nil => simp at starts
  | cons c rest =>
      obtain rfl : c = first := by simpa using starts
      have isKey : isKeyChar c = true := by simp [isKeyChar, word]
      rw [List.takeWhile_cons_of_pos isKey]
      refine ⟨word, ?_⟩
      intro d member
      have known : isKeyChar d = true := List.all_eq_true.mp List.all_takeWhile d member
      simp only [isKeyChar, Bool.or_eq_true, beq_iff_eq] at known
      rcases known with (isWord | dot) | hyphen
      · exact .inr (.inl isWord)
      · exact .inl dot
      · exact .inr (.inr hyphen)

theorem key_length_spec (body : List Char) (length : Nat) (found : keyLength? body = some length) :
    ∃ key rest, body = key ++ ':' :: rest ∧ IsSimpleKey key ∧ Text.byteLength key = length := by
  have whole : body = body.takeWhile isKeyChar ++ body.dropWhile isKeyChar :=
    List.takeWhile_append_dropWhile.symm
  unfold keyLength? at found
  split at found
  · next first starts rest =>
      by_cases word : Text.isWord first
      · rw [if_pos word] at found
        exact ⟨_, [], by rw [← rest]; exact whole, key_chars_simple body first starts word, Option.some.inj found⟩
      · simp [word] at found
  · next first tail starts rest =>
      by_cases word : Text.isWord first
      · rw [if_pos word] at found
        exact ⟨_, ' ' :: tail, by rw [← rest]; exact whole, key_chars_simple body first starts word,
          Option.some.inj found⟩
      · simp [word] at found
  · simp at found

def Line.shift (amount : Nat) (line : Line) : Line :=
  { line with start := amount + line.start, contentStop := amount + line.contentStop, stop := amount + line.stop }

def Unbroken (chars : List Char) : Prop :=
  ∀ c ∈ chars, c ≠ '\n' ∧ c ≠ '\r'

-- A place for a line in a text: what stands before it ends a line, and what follows it starts with a terminator.
structure Slot where
  before : List Char
  after : List Char
  closed : before = [] ∨ ∃ earlier, before = earlier ++ [ '\n']
  broken : after = [] ∨ (∃ rest, after = '\n' :: rest) ∨ ∃ rest, after = '\r' :: '\n' :: rest

def breakLength : List Char → Nat
  | '\n' :: _ => 1
  | '\r' :: '\n' :: _ => 2
  | _ => 0

def following : List Char → List Line
  | '\n' :: rest => linesFrom 1 [] rest
  | '\r' :: '\n' :: rest => linesFrom 2 [] rest
  | _ => []

namespace Slot

def start (slot : Slot) : Nat :=
  Text.byteLength slot.before

def fill (slot : Slot) (content : List Char) : List Char :=
  slot.before ++ (content ++ slot.after)

def line (slot : Slot) (content : List Char) : Line :=
  Line.of slot.start content (breakLength slot.after)

def later (slot : Slot) : List Line :=
  following slot.after

end Slot

theorem shift_of (amount start terminator : Nat) (chars : List Char) :
    (Line.of start chars terminator).shift amount = Line.of (amount + start) chars terminator := by
  simp [Line.shift, Line.of, Nat.add_assoc]

theorem lines_from_shift (amount start : Nat) (held chars : List Char) :
    linesFrom (amount + start) held chars = (linesFrom start held chars).map (Line.shift amount) := by
  induction chars generalizing start held with
  | nil => simp [linesFrom, shift_of]
  | cons c rest ih =>
      by_cases feed : c = '\n'
      · subst feed
        by_cases carriage : ∃ before, held = '\r' :: before
        · obtain ⟨before, rfl⟩ := carriage
          rw [lines_from_return, lines_from_return, List.map_cons, shift_of, ← ih]
          simp only [Nat.add_assoc]
        · have plain : ∀ before, held ≠ '\r' :: before := fun before same => carriage ⟨before, same⟩
          rw [lines_from_feed _ held rest plain, lines_from_feed _ held rest plain, List.map_cons, shift_of, ← ih]
          simp only [Nat.add_assoc]
      · rw [lines_from_char _ held rest c feed, lines_from_char _ held rest c feed, ih]

theorem lines_from_append_feed (start : Nat) (held chars : List Char) :
    ∃ earlier, ∀ rest, linesFrom start held (chars ++ '\n' :: rest) =
      earlier ++ linesFrom (start + Text.byteLength held.reverse + Text.byteLength chars + 1) [] rest := by
  induction chars generalizing start held with
  | nil =>
      by_cases carriage : ∃ before, held = '\r' :: before
      · obtain ⟨before, rfl⟩ := carriage
        refine ⟨[Line.of start before.reverse 2], fun rest => ?_⟩
        rw [List.nil_append, lines_from_return, List.reverse_cons, Text.byte_length_append]
        rfl
      · have plain : ∀ before, held ≠ '\r' :: before := fun before same => carriage ⟨before, same⟩
        refine ⟨[Line.of start held.reverse 1], fun rest => ?_⟩
        rw [List.nil_append, lines_from_feed start held rest plain]
        rfl
  | cons c chars ih =>
      by_cases feed : c = '\n'
      · subst feed
        have width : Char.utf8Size '\n' = 1 := rfl
        by_cases carriage : ∃ before, held = '\r' :: before
        · obtain ⟨before, rfl⟩ := carriage
          obtain ⟨earlier, split⟩ := ih (start + Text.byteLength before.reverse + 2) []
          refine ⟨Line.of start before.reverse 2 :: earlier, fun rest => ?_⟩
          have carriageWidth : Char.utf8Size '\r' = 1 := rfl
          rw [List.cons_append, lines_from_return, split, List.cons_append]
          congr 3
          simp [width, carriageWidth]
          omega
        · have plain : ∀ before, held ≠ '\r' :: before := fun before same => carriage ⟨before, same⟩
          obtain ⟨earlier, split⟩ := ih (start + Text.byteLength held.reverse + 1) []
          refine ⟨Line.of start held.reverse 1 :: earlier, fun rest => ?_⟩
          rw [List.cons_append, lines_from_feed start held _ plain, split, List.cons_append]
          congr 3
          simp [width]
          omega
      · obtain ⟨earlier, split⟩ := ih start (c :: held)
        refine ⟨earlier, fun rest => ?_⟩
        rw [List.cons_append, lines_from_char start held _ c feed, split]
        congr 2
        simp
        omega

theorem lines_before (slot : Slot) :
    ∃ earlier, ∀ rest, lines (slot.before ++ rest) = earlier ++ linesFrom slot.start [] rest := by
  rcases slot.closed with empty | ⟨chars, ends⟩
  · refine ⟨[], fun rest => ?_⟩
    rw [Slot.start, empty]
    rfl
  · obtain ⟨earlier, split⟩ := lines_from_append_feed 0 [] chars
    refine ⟨earlier, fun rest => ?_⟩
    rw [Slot.start, ends, List.append_assoc, List.singleton_append, lines, split]
    congr 2
    simp [show Char.utf8Size '\n' = 1 from rfl]

theorem lines_from_held (start : Nat) (held content rest : List Char) (single : '\n' ∉ content) :
    linesFrom start held (content ++ rest) = linesFrom start (content.reverse ++ held) rest := by
  induction content generalizing held with
  | nil => rfl
  | cons c content ih =>
      obtain ⟨other, others⟩ := not_or.mp (mt List.mem_cons.mpr single)
      rw [List.cons_append, lines_from_char start held _ c (Ne.symm other), ih (c :: held) others]
      simp

theorem lines_from_unbroken (start : Nat) (held content rest : List Char) (unbroken : Unbroken content) :
    linesFrom start held (content ++ rest) = linesFrom start (content.reverse ++ held) rest :=
  lines_from_held start held content rest fun member => (unbroken '\n' member).1 rfl

theorem unbroken_held (content : List Char) (unbroken : Unbroken content) (before : List Char) :
    content.reverse ≠ '\r' :: before := by
  intro ends
  have member : '\r' ∈ content := by
    rw [← List.mem_reverse, ends]
    exact List.mem_cons_self
  exact (unbroken '\r' member).2 rfl

theorem lines_from_content (start : Nat) (content : List Char) (slot : Slot) (unbroken : Unbroken content) :
    linesFrom start [] (content ++ slot.after) = Line.of start content (breakLength slot.after) ::
      slot.later.map (Line.shift (start + Text.byteLength content)) := by
  rw [lines_from_unbroken start [] content slot.after unbroken, List.append_nil, Slot.later]
  rcases slot.broken with none | ⟨rest, feed⟩ | ⟨rest, carriage⟩
  · rw [none, linesFrom, List.reverse_reverse]
    rfl
  · rw [feed, lines_from_feed start _ rest (unbroken_held content unbroken), List.reverse_reverse, lines_from_shift]
    rfl
  · rw [carriage, lines_from_char start _ _ '\r' (by decide), lines_from_return, List.reverse_reverse, lines_from_shift]
    rfl

theorem lines_from_two (start : Nat) (first second : List Char) (slot : Slot) (unbrokenFirst : Unbroken first)
    (unbrokenSecond : Unbroken second) :
    linesFrom start [] (first ++ '\n' :: second ++ slot.after) = Line.of start first 1 ::
      Line.of (start + Text.byteLength first + 1) second (breakLength slot.after) ::
        slot.later.map (Line.shift (start + Text.byteLength (first ++ '\n' :: second))) := by
  rw [List.append_assoc, lines_from_unbroken start [] first _ unbrokenFirst, List.append_nil, List.cons_append,
    lines_from_feed start _ _ (unbroken_held first unbrokenFirst), List.reverse_reverse,
    lines_from_content _ second slot unbrokenSecond]
  congr 4
  simp [show Char.utf8Size '\n' = 1 from rfl]
  omega

theorem line_slot_from (chars : List Char) (start : Nat) (held : List Char) (line : Line)
    (member : line ∈ linesFrom start held chars) :
    ∃ before after terminator, held.reverse ++ chars = before ++ (line.chars ++ after) ∧
      line = Line.of (start + Text.byteLength before) line.chars terminator ∧
      (before = [] ∨ ∃ earlier, before = earlier ++ [ '\n']) ∧
      (after = [] ∨ (∃ rest, after = '\n' :: rest) ∨ ∃ rest, after = '\r' :: '\n' :: rest) := by
  induction chars generalizing start held with
  | nil =>
      obtain rfl := List.mem_singleton.mp member
      exact ⟨[], [], 0, by simp [Line.of], rfl, .inl rfl, .inl rfl⟩
  | cons c rest ih =>
      by_cases feed : c = '\n'
      · subst feed
        -- A later line stands behind this line feed.
        have behind : ∀ next, next = start + Text.byteLength held.reverse + 1 → line ∈ linesFrom next [] rest →
            ∃ before after terminator, held.reverse ++ '\n' :: rest = before ++ (line.chars ++ after) ∧
              line = Line.of (start + Text.byteLength before) line.chars terminator ∧
              (before = [] ∨ ∃ earlier, before = earlier ++ [ '\n']) ∧
              (after = [] ∨ (∃ rest, after = '\n' :: rest) ∨ ∃ rest, after = '\r' :: '\n' :: rest) := by
          rintro next rfl later
          obtain ⟨before, after, terminator, split, place, closed, broken⟩ := ih _ [] later
          refine ⟨held.reverse ++ '\n' :: before, after, terminator, ?_, ?_, .inr ?_, broken⟩
          · rw [List.reverse_nil, List.nil_append] at split
            rw [split]
            simp
          · have width : start + Text.byteLength (held.reverse ++ '\n' :: before) =
                start + Text.byteLength held.reverse + 1 + Text.byteLength before := by
              simp [show Char.utf8Size '\n' = 1 from rfl]
              omega
            rwa [width]
          · rcases closed with rfl | ⟨earlier, rfl⟩
            · exact ⟨held.reverse, rfl⟩
            · exact ⟨held.reverse ++ '\n' :: earlier, by simp⟩
        by_cases carriage : ∃ before, held = '\r' :: before
        · obtain ⟨before, rfl⟩ := carriage
          rw [lines_from_return] at member
          rcases List.mem_cons.mp member with rfl | later
          · exact ⟨[], '\r' :: '\n' :: rest, 2, by simp [Line.of], rfl, .inl rfl, .inr (.inr ⟨rest, rfl⟩)⟩
          · refine behind _ ?_ later
            simp [show Char.utf8Size '\r' = 1 from rfl]
            omega
        · have plain : ∀ before, held ≠ '\r' :: before := fun before same => carriage ⟨before, same⟩
          rw [lines_from_feed start held rest plain] at member
          rcases List.mem_cons.mp member with rfl | later
          · exact ⟨[], '\n' :: rest, 1, by simp [Line.of], rfl, .inl rfl, .inr (.inl ⟨rest, rfl⟩)⟩
          · exact behind _ rfl later
      · rw [lines_from_char start held rest c feed] at member
        obtain ⟨before, after, terminator, split, others⟩ := ih start (c :: held) member
        exact ⟨before, after, terminator, by simpa using split, others⟩

theorem line_slot (chars : List Char) (line : Line) (member : line ∈ lines chars) :
    ∃ slot : Slot, chars = slot.fill line.chars ∧ line.start = slot.start ∧
      line.contentStop = slot.start + Text.byteLength line.chars := by
  obtain ⟨before, after, terminator, split, place, closed, broken⟩ := line_slot_from chars 0 [] line member
  refine ⟨⟨before, after, closed, broken⟩, split, ?_, ?_⟩
  · rw [place]
    simp [Line.of, Slot.start]
  · rw [place]
    simp [Line.of, Slot.start]

end YamlDialects.Outline
