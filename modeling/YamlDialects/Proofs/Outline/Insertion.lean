import YamlDialects.Proofs.Outline.Entries

set_option autoImplicit false

namespace YamlDialects

namespace Text

def blankCodes : List Nat :=
  [9, 10, 11, 12, 13, 0x20, 0x85, 0xa0, 0x1680, 0x2000, 0x2001, 0x2002, 0x2003, 0x2004, 0x2005, 0x2006, 0x2007,
    0x2008, 0x2009, 0x200a, 0x2028, 0x2029, 0x202f, 0x205f, 0x3000]

theorem blank_code (c : Char) (blank : isBlank c = true) : c.toNat ∈ blankCodes := by
  simp only [isBlank, Bool.or_eq_true, Bool.and_eq_true, decide_eq_true_eq, beq_iff_eq] at blank
  simp only [blankCodes, List.mem_cons, List.not_mem_nil, or_false]
  omega

theorem word_visible (c : Char) (word : isWord c = true) : isBlank c = false := by
  have none : ∀ code ∈ blankCodes, inIntervals wordIntervals code = false := by decide +kernel
  cases blank : isBlank c with
  | false => rfl
  | true =>
      have missing := none c.toNat (blank_code c blank)
      rw [isWord, missing] at word
      cases word

end Text

namespace Outline

def blanks (count : Nat) : List Char :=
  List.replicate count ' '

theorem simple_key_cons (name : List Char) (simple : IsSimpleKey name) :
    ∃ first rest, name = first :: rest ∧ Text.isWord first = true ∧ ∀ c ∈ name, isKeyChar c = true := by
  cases name with
  | nil => cases simple
  | cons first rest =>
      refine ⟨first, rest, rfl, simple.1, List.forall_mem_cons.mpr ⟨by simp [isKeyChar, simple.1], ?_⟩⟩
      intro c member
      rcases simple.2 c member with dot | word | hyphen
      · simp [isKeyChar, dot]
      · simp [isKeyChar, word]
      · simp [isKeyChar, hyphen]

theorem key_char_ne (c other : Char) (inside : isKeyChar c = true) (outside : isKeyChar other = false) : c ≠ other := by
  rintro rfl
  rw [inside] at outside
  cases outside

theorem key_length_of_simple (name tail : List Char) (simple : IsSimpleKey name)
    (ends : tail = [] ∨ ∃ rest, tail = ' ' :: rest) :
    keyLength? (name ++ ':' :: tail) = some (Text.byteLength name) := by
  obtain ⟨first, rest, split, word, inside⟩ := simple_key_cons name simple
  have closed : isKeyChar ':' = false := by decide +kernel
  have left : (name ++ ':' :: tail).dropWhile isKeyChar = ':' :: tail := by
    rw [List.dropWhile_append_of_pos inside, List.dropWhile_cons_of_neg (by simp [closed])]
  have taken : (name ++ ':' :: tail).takeWhile isKeyChar = name := by
    rw [List.takeWhile_append_of_pos inside, List.takeWhile_cons_of_neg (by simp [closed]), List.append_nil]
  have starts : (name ++ ':' :: tail).head? = some first := by rw [split]; rfl
  unfold keyLength?
  rw [left, taken, starts]
  rcases ends with rfl | ⟨rest, rfl⟩
  · simp [word]
  · simp [word]

theorem leading_blanks_visible (count : Nat) (c : Char) (rest : List Char) (visible : Text.isBlank c = false) :
    leadingSpaces (blanks count ++ c :: rest) = count := by
  have other : (c == ' ') = false := by
    cases same : c == ' ' with
    | false => rfl
    | true =>
        obtain rfl := beq_iff_eq.mp same
        cases visible
  rw [leadingSpaces, blanks, List.takeWhile_append_of_pos (by simp), List.takeWhile_cons_of_neg (by simp [other])]
  simp

theorem line_of_visible (start terminator count : Nat) (c : Char) (rest : List Char) (visible : Text.isBlank c = false) :
    (Line.of start (blanks count ++ c :: rest) terminator).indent = some count ∧
      (Line.of start (blanks count ++ c :: rest) terminator).body = c :: rest := by
  have indented : indentOf (blanks count ++ c :: rest) = some count := by
    rw [indentOf, if_neg (by simp [visible]), leading_blanks_visible count c rest visible]
  refine ⟨indented, ?_⟩
  rw [Line.body, show (Line.of start (blanks count ++ c :: rest) terminator).indent = _ from indented]
  simp [Line.of, blanks]

theorem blank_line_entries (start terminator count : Nat) :
    (Line.of start (blanks count) terminator).IsOrdinary ∧ (Line.of start (blanks count) terminator).entries =
      [⟨.raw, none, none, start, start + count, start + count + terminator, 0, none⟩] := by
  have blank : (blanks count).all Text.isBlank = true := by simp [blanks, show Text.isBlank ' ' = true from rfl]
  have indented : (Line.of start (blanks count) terminator).indent = none := if_pos blank
  have body : (Line.of start (blanks count) terminator).body = blanks count := by
    rw [Line.body, indented]
    rfl
  refine ⟨⟨by simp [indented], ?_⟩, ?_⟩
  · rw [body]
    cases count <;> rfl
  · rw [Line.entries, indented]
    have width : Text.byteLength (blanks count) = count := Text.byte_length_spaces count
    have unindented : indentOf (blanks count) = none := if_pos blank
    simp only [Line.rawEntry, Line.of, unindented, width, Option.getD_none, Nat.add_zero]

theorem separator_of_word (first : Char) (rest : List Char) (word : Text.isWord first = true) :
    isSeparator (first :: rest) = false := by
  have notDash : first ≠ '-' := by
    rintro rfl
    exact absurd word (by decide +kernel)
  have notDot : first ≠ '.' := by
    rintro rfl
    exact absurd word (by decide +kernel)
  simp [isSeparator, notDash, notDot]

theorem leading_of_visible (count : Nat) (first : Char) (rest : List Char) (visible : Text.isBlank first = false)
    (notPercent : first ≠ '%') (notHash : first ≠ '#') : isPreamble (blanks count ++ first :: rest) = false := by
  have trimmed : Text.trimLeft (blanks count ++ first :: rest) = first :: rest := by
    rw [Text.trimLeft, List.dropWhile_append_of_pos (by simp [blanks, show Text.isBlank ' ' = true from rfl]),
      List.dropWhile_cons_of_neg (by simp [visible])]
  rw [isPreamble, trimmed]
  cases count with
  | zero => simp [blanks, notPercent, notHash]
  | succ count => simp [blanks, List.replicate_succ, notHash]

theorem leading_of_word (count : Nat) (first : Char) (rest : List Char) (word : Text.isWord first = true) :
    isPreamble (blanks count ++ first :: rest) = false := by
  refine leading_of_visible count first rest (Text.word_visible first word) ?_ ?_
  · rintro rfl
    exact absurd word (by decide +kernel)
  · rintro rfl
    exact absurd word (by decide +kernel)

theorem key_line_entries (start terminator column : Nat) (name tail : List Char) (simple : IsSimpleKey name)
    (ends : tail = [] ∨ ∃ rest, tail = ' ' :: rest) (line : Line)
    (same : line = Line.of start (blanks column ++ (name ++ ':' :: tail)) terminator) :
    line.IsOrdinary ∧ line.entries = [line.keyEntry column (Text.byteLength name)] := by
  obtain ⟨first, rest, split, word, inside⟩ := simple_key_cons name simple
  have found := key_length_of_simple name tail simple ends
  obtain ⟨indented, body⟩ := line_of_visible start terminator column first (rest ++ ':' :: tail)
    (Text.word_visible first word)
  have chars : line.chars = blanks column ++ first :: (rest ++ ':' :: tail) := by rw [same, split]; rfl
  rw [← List.cons_append, ← split, ← same] at indented body
  have notSeparator : isSeparator line.body = false := by
    rw [body, split]
    exact separator_of_word first _ word
  refine ⟨⟨?_, notSeparator⟩, ?_⟩
  · rw [chars, leading_of_word column first _ word, Bool.and_false]
  · rw [Line.entries, indented]
    have block : Builder.isBlock line.body = true := by rw [body, Builder.isBlock, found]; rfl
    simp only [notSeparator, block, if_true, Bool.false_eq_true, if_false]
    rw [Line.opened.eq_def, body, found]

theorem item_line_entries (start terminator column count : Nat) (line : Line)
    (same : line = Line.of start (blanks column ++ '-' :: ' ' :: blanks count) terminator) :
    line.entries = [line.itemEntry column] := by
  obtain ⟨indented, body⟩ := line_of_visible start terminator column '-' ( ' ' :: blanks count) rfl
  rw [← same] at indented body
  have closed : isKeyChar ' ' = false := by decide +kernel
  have nothing : line.opened (column + 2) (blanks count) = [] := by
    cases count with
    | zero => rfl
    | succ count =>
        have missing : keyLength? (blanks (count + 1)) = none := by
          simp [keyLength?, blanks, List.replicate_succ, closed]
        rw [Line.opened.eq_def, missing]
        rfl
  have missing : keyLength? ( '-' :: ' ' :: blanks count) = none := by
    simp [keyLength?, closed, show isKeyChar '-' = true by decide +kernel]
  have block : Builder.isBlock ( '-' :: ' ' :: blanks count) = true := by simp [Builder.isBlock, itemRest?]
  have notSeparator : isSeparator ( '-' :: ' ' :: blanks count) = false := by simp [isSeparator]
  rw [Line.entries, indented, body]
  simp only [block, notSeparator, if_true, Bool.false_eq_true, if_false]
  rw [Line.opened.eq_def, missing]
  simp only [nothing]

theorem unbroken_blanks (count : Nat) : Unbroken (blanks count) := by
  intro c member
  rw [List.eq_of_mem_replicate member]
  decide

theorem unbroken_append (first second : List Char) (one : Unbroken first) (other : Unbroken second) :
    Unbroken (first ++ second) :=
  List.forall_mem_append.mpr ⟨one, other⟩

theorem unbroken_key (name : List Char) (simple : IsSimpleKey name) : Unbroken (name ++ [ ':']) := by
  obtain ⟨_, _, _, _, inside⟩ := simple_key_cons name simple
  refine unbroken_append name [ ':'] ?_ (by simp [Unbroken])
  intro c member
  exact ⟨key_char_ne c '\n' (inside c member) (by decide +kernel), key_char_ne c '\r' (inside c member) (by decide +kernel)⟩

-- The ways to write a new key: before a blank value, above an empty item, or above a blank line.
inductive KeyContent (column : Nat) (name : List Char) : List Char → Prop where
  | value (count : Nat) : KeyContent column name (blanks column ++ (name ++ ':' :: ' ' :: blanks count))
  | item (count : Nat) : KeyContent column name
      (blanks column ++ (name ++ [ ':']) ++ '\n' :: (blanks column ++ '-' :: ' ' :: blanks count))
  | nested (count : Nat) : KeyContent column name (blanks column ++ (name ++ [ ':']) ++ '\n' :: blanks count)

inductive Trailing (column : Nat) : List Entry → Prop where
  | none : Trailing column []
  | item (entry : Entry) (isItem : entry.kind = .item) (indented : entry.indent = some column) : Trailing column [entry]
  | raw (entry : Entry) (isRaw : entry.kind = .raw) : Trailing column [entry]

def Slot.laterEntries (slot : Slot) : List Entry :=
  slot.later.flatMap Line.entries

theorem Slot.length_before (slot : Slot) (column : Nat) : Text.byteLength (slot.before ++ blanks column) = slot.start + column := by
  rw [Text.byte_length_append, show Text.byteLength (blanks column) = column from Text.byte_length_spaces column, Slot.start]

theorem blanks_join (first second : Nat) : blanks first ++ blanks second = blanks (first + second) := by
  rw [blanks, blanks, List.replicate_append_replicate]
  rfl

theorem Slot.fill_cut (slot : Slot) (column count : Nat) (within : column ≤ count) :
    slot.fill (blanks count) = slot.before ++ blanks column ++ (blanks (count - column) ++ slot.after) := by
  rw [Slot.fill, List.append_assoc, ← List.append_assoc (blanks column), blanks_join, Nat.add_sub_cancel' within]

def Slot.blankEntry (slot : Slot) (count : Nat) : Entry :=
  ⟨.raw, none, none, slot.start, slot.start + count, slot.start + count + breakLength slot.after, 0, none⟩

structure Insertion (slot : Slot) (count column : Nat) (name content : List Char) where
  earlier : List Entry
  key : Entry
  trailing : List Entry
  old : (tableOf (slot.fill (blanks count))).bare = Table.rootOf (Text.byteLength (slot.fill (blanks count))) ::
    (earlier ++ slot.blankEntry count :: slot.laterEntries.map (Entry.shift (slot.start + count)))
  new : (tableOf (slot.fill content)).bare = Table.rootOf (Text.byteLength (slot.fill content)) ::
    (earlier ++ key :: (trailing ++ slot.laterEntries.map (Entry.shift (slot.start + Text.byteLength content))))
  isKey : key.kind = .key
  indented : key.indent = some column
  start : key.start = slot.start + column
  colon : key.colon = some (slot.start + column + Text.byteLength name)
  trails : Trailing column trailing

theorem slot_table (slot : Slot) :
    ∃ earlier, ∀ content line later, linesFrom slot.start [] (content ++ slot.after) = line :: later → line.IsOrdinary →
      (tableOf (slot.fill content)).bare = Table.rootOf (Text.byteLength (slot.fill content)) ::
        (earlier ++ (line :: later).flatMap Line.entries) := by
  obtain ⟨before, split⟩ := lines_before slot
  obtain ⟨earlier, opens⟩ := opening_before before
  refine ⟨earlier, fun content line later found ordinary => ?_⟩
  rw [table_of_bare, Slot.fill, split, found, opens line later ordinary]

theorem slot_insertion (slot : Slot) (count column : Nat) (name content : List Char) (simple : IsSimpleKey name)
    (holds : KeyContent column name content) : Nonempty (Insertion slot count column name content) := by
  obtain ⟨earlier, reads⟩ := slot_table slot
  have blank := blank_line_entries slot.start (breakLength slot.after) count
  have old := reads (blanks count) _ _ (lines_from_content slot.start (blanks count) slot (unbroken_blanks count)) blank.1
  rw [List.flatMap_cons, blank.2, entries_of_shifted, show Text.byteLength (blanks count) = count from
    Text.byte_length_spaces count] at old
  have keyLine := unbroken_append _ _ (unbroken_blanks column) (unbroken_key name simple)
  cases holds with
  | value width =>
      have whole : blanks column ++ (name ++ ':' :: ' ' :: blanks width) =
          blanks column ++ (name ++ [ ':']) ++ blanks (width + 1) := by simp [blanks, List.replicate_succ]
      have unbroken := unbroken_append _ _ keyLine (unbroken_blanks (width + 1))
      rw [← whole] at unbroken
      obtain ⟨ordinary, entries⟩ := key_line_entries slot.start (breakLength slot.after) column name _ simple
        (.inr ⟨blanks width, rfl⟩) _ rfl
      have new := reads _ _ _ (lines_from_content slot.start _ slot unbroken) ordinary
      rw [List.flatMap_cons, entries, entries_of_shifted] at new
      exact ⟨⟨earlier, _, [], old, new, rfl, rfl, rfl, rfl, .none⟩⟩
  | item width =>
      have second : Unbroken (blanks column ++ '-' :: ' ' :: blanks width) := by
        have dash : Unbroken [ '-'] := by simp [Unbroken]
        have whole := unbroken_append _ _ (unbroken_append _ _ (unbroken_blanks column) dash) (unbroken_blanks (width + 1))
        simpa [blanks, List.replicate_succ] using whole
      obtain ⟨ordinary, entries⟩ := key_line_entries slot.start 1 column name [] simple (.inl rfl) _ rfl
      have below := item_line_entries (slot.start + Text.byteLength (blanks column ++ (name ++ [ ':'])) + 1)
        (breakLength slot.after) column width _ rfl
      have new := reads _ _ _ (lines_from_two slot.start _ _ slot keyLine second) ordinary
      rw [List.flatMap_cons, entries, List.flatMap_cons, below, entries_of_shifted] at new
      exact ⟨⟨earlier, _, [_], old, new, rfl, rfl, rfl, rfl, .item _ rfl rfl⟩⟩
  | nested width =>
      obtain ⟨ordinary, entries⟩ := key_line_entries slot.start 1 column name [] simple (.inl rfl) _ rfl
      have below := (blank_line_entries (slot.start + Text.byteLength (blanks column ++ (name ++ [ ':'])) + 1)
        (breakLength slot.after) width).2
      have new := reads _ _ _ (lines_from_two slot.start _ _ slot keyLine (unbroken_blanks width)) ordinary
      rw [List.flatMap_cons, entries, List.flatMap_cons, below, entries_of_shifted] at new
      exact ⟨⟨earlier, _, [_], old, new, rfl, rfl, rfl, rfl, .raw _ rfl⟩⟩

end Outline
end YamlDialects
