import YamlDialects.Proofs.Outline.Canonical
import YamlDialects.Proofs.Outline.Spine

set_option autoImplicit false

namespace YamlDialects.Outline

def joined (final : Bool) : List (List Char) → List Char
  | [] => []
  | [last] => last ++ if final then [ '\n'] else []
  | first :: rest => first ++ '\n' :: joined final rest

theorem lines_from_ended (start : Nat) (content rest : List Char) (single : '\n' ∉ content)
    (ends : content.getLast? ≠ some '\r') : linesFrom start [] (content ++ '\n' :: rest) =
      Line.of start content 1 :: linesFrom (start + Text.byteLength content + 1) [] rest := by
  have plain : ∀ before, content.reverse ++ [] ≠ '\r' :: before := by
    intro before same
    rw [List.append_nil] at same
    rw [← List.head?_reverse, same] at ends
    exact ends rfl
  rw [lines_from_held start [] content _ single, lines_from_feed start _ rest plain, List.append_nil, List.reverse_reverse]

theorem lines_from_last (start : Nat) (content : List Char) (single : '\n' ∉ content) :
    linesFrom start [] content = [Line.of start content 0] := by
  have held := lines_from_held start [] content [] single
  rw [List.append_nil, List.append_nil] at held
  rw [held, linesFrom, List.reverse_reverse]

theorem lines_from_joined (final : Bool) (start : Nat) (all : List (List Char)) (nonempty : all ≠ [])
    (opening : ∀ line ∈ all, Opening line) : ∃ split last, linesFrom start [] (joined final all) = split ++ last ∧
      split.map Line.chars = all ∧ ∀ line ∈ last, line.chars = [] := by
  induction all generalizing start with
  | nil => exact absurd rfl nonempty
  | cons first rest ih =>
      obtain ⟨here, others⟩ := List.forall_mem_cons.mp opening
      cases rest with
      | nil =>
          cases final with
          | true =>
              refine ⟨[Line.of start first 1], linesFrom (start + Text.byteLength first + 1) [] [], ?_, rfl, ?_⟩
              · exact lines_from_ended start first [] here.single here.ends
              · exact List.forall_mem_singleton.mpr rfl
          | false =>
              refine ⟨[Line.of start first 0], [], ?_, rfl, List.forall_mem_nil _⟩
              rw [joined, if_neg (by decide), List.append_nil, lines_from_last start first here.single]
              rfl
      | cons second further =>
          obtain ⟨split, last, whole, chars, empty⟩ :=
            ih (start + Text.byteLength first + 1) (List.cons_ne_nil second further) others
          refine ⟨Line.of start first 1 :: split, last, ?_, congrArg (first :: ·) chars, empty⟩
          rw [joined, lines_from_ended start first _ here.single here.ends, whole]
          rfl
          exact List.cons_ne_nil second further

def Entry.mark? (text : String) (entry : Entry) : Option Mark :=
  match entry.kind, entry.colon with
  | .key, some colon => some (.key (entry.indent.getD 0) (Text.slice text entry.start colon)
      (Text.trimmed (Text.slice text (colon + 1) (max entry.contentStop (colon + 1)))))
  | .item, _ => some (.item (entry.indent.getD 0))
  | _, _ => none

theorem key_entry_mark (text : String) (line : Line) (indent length : Nat) (body : List Char)
    (spot : Spot text.toList line indent body) (found : keyLength? body = some length) :
    [(line.keyEntry indent length).mark? text] = (marksOf indent body).map some := by
  obtain ⟨name, tail, rfl, simple, form⟩ := key_line_of_length body length found
  obtain rfl := Option.some.inj ((key_length_of_simple name tail simple form).symm.trans found)
  obtain ⟨before, after, split, start, ends⟩ := spot_split text.toList line indent _ spot
  have width : Char.utf8Size ':' = 1 := rfl
  have key : Text.slice text (line.start + indent) (line.start + indent + Text.byteLength name) = String.ofList name :=
    Text.slice_of_split text before name ( ':' :: tail ++ after) _ _ (by simpa using split) start rfl
  have value : Text.slice text (line.start + indent + Text.byteLength name + 1) line.contentStop = String.ofList tail := by
    refine Text.slice_of_split text (before ++ (name ++ [ ':'])) tail after _ _ (by simpa using split) ?_ ?_
    · simp [start, width, Nat.add_assoc]
    · rw [← ends]
      simp [width, Nat.add_assoc]
  have after_ : line.start + indent + Text.byteLength name + 1 ≤ line.contentStop := by
    rw [← ends]
    simp only [Text.byte_length_append, Text.byte_length_cons, width]
    omega
  rw [marks_of_key indent name tail simple form]
  simp only [Entry.mark?, Line.keyEntry, key, Nat.max_eq_left after_, value, Option.getD_some, List.map_cons, List.map_nil]

theorem opened_marks (text : String) (line : Line) (indent : Nat) (body : List Char) (spot : Spot text.toList line indent body) :
    (line.opened indent body).map (Entry.mark? text) = (marksOf indent body).map some := by
  fun_induction Line.opened line indent body with
  | case1 body indent length found => exact key_entry_mark text line indent length body spot found
  | case2 indent missing => rfl
  | case3 indent rest missing ih =>
      rw [List.map_cons, ih (spot_after_dash text.toList line indent rest spot), marks_of_item]
      rfl
  | case4 body indent missing notDash notItem =>
      rw [marksOf.eq_def]
      simp [missing]

theorem opens_start (body : List Char) (opens : IsKeyLine body ∨ IsItemLine body) : ∃ first rest, body = first :: rest ∧
    Text.isBlank first = false ∧ first ≠ '%' ∧ first ≠ '#' ∧ isSeparator body = false := by
  rcases opens with isKey | rfl | ⟨rest, rfl⟩
  · obtain ⟨first, rest, rfl, word⟩ := key_line_starts body isKey
    refine ⟨first, rest, rfl, Text.word_visible first word, ?_, ?_, separator_of_word first rest word⟩
    · rintro rfl
      exact absurd word (by decide +kernel)
    · rintro rfl
      exact absurd word (by decide +kernel)
  · exact ⟨'-', [], rfl, rfl, by decide, by decide, rfl⟩
  · exact ⟨'-', ' ' :: rest, rfl, rfl, by decide, by decide, by simp [isSeparator]⟩

theorem opens_block (body : List Char) (opens : IsKeyLine body ∨ IsItemLine body) : Builder.isBlock body = true := by
  rcases opens with ⟨name, tail, rfl, simple, form⟩ | rfl | ⟨rest, rfl⟩
  · rw [Builder.isBlock, key_length_of_simple name tail simple form]
    rfl
  · rfl
  · simp [Builder.isBlock, itemRest?]

theorem opening_line (text : String) (line : Line) (within : line.Within text.toList) (opening : Opening line.chars) :
    line.IsOrdinary ∧ line.entries.map (Entry.mark? text) = (lineMarks 0 line.chars).map some := by
  obtain ⟨⟨count, body, whole, opens⟩, -, -⟩ := opening
  obtain ⟨before, terminator, after, split, made⟩ := id within
  obtain ⟨first, rest, starts, visible, notPercent, notHash, notSeparator⟩ := opens_start body opens
  have block := opens_block body opens
  have place := line_of_visible (Text.byteLength before) (Text.byteLength terminator) count first rest visible
  rw [← starts, ← whole, ← made] at place
  obtain ⟨indented, bodyEq⟩ := place
  refine ⟨⟨?_, by rw [bodyEq]; exact notSeparator⟩, ?_⟩
  · rw [whole, starts, leading_of_visible count first rest visible notPercent notHash, Bool.and_false]
  · have spot := spot_body text.toList line count within indented
    rw [bodyEq] at spot
    rw [Line.entries, indented]
    simp only [bodyEq, notSeparator, block, if_true, Bool.false_eq_true, if_false]
    rw [opened_marks text line count body spot, lineMarks, whole, starts, leading_blanks_visible count first rest visible]
    simp [blanks]

theorem opening_marks (text : String) (final : Bool) (all : List (List Char)) (nonempty : all ≠ [])
    (opens : ∀ line ∈ all, Opening line) (whole : text.toList = joined final all) :
    ∃ first steps tail, opening (lines text.toList) = first :: (steps ++ tail) ∧ first.kind = .document ∧
      steps.map (Entry.mark? text) = (all.flatMap (lineMarks 0)).map some ∧ ∀ entry ∈ tail, entry.kind = .raw := by
  obtain ⟨split, last, splits, chars, empty⟩ := lines_from_joined final 0 all nonempty opens
  rw [← whole] at splits
  have within := lines_within text.toList
  rw [lines, splits] at within
  have steps : ∀ line ∈ split, line.IsOrdinary ∧ line.entries.map (Entry.mark? text) = (lineMarks 0 line.chars).map some := by
    intro line member
    refine opening_line text line (within line (List.mem_append_left last member)) (opens line.chars ?_)
    rw [← chars]
    exact List.mem_map_of_mem member
  have blank : ∀ line ∈ last, line.entries = [line.rawEntry] := by
    intro line member
    obtain ⟨before, terminator, after, -, made⟩ := within line (List.mem_append_right split member)
    have indented : line.indent = none := by
      rw [made, empty line member]
      rfl
    rw [Line.entries, indented]
  cases split with
  | nil => exact absurd chars.symm nonempty
  | cons line rest =>
      obtain ⟨ordinary, -⟩ := steps line List.mem_cons_self
      refine ⟨⟨.document, none, some 0, 0, 0, 0, 0, none⟩, (line :: rest).flatMap Line.entries, last.flatMap Line.entries, ?_, rfl,
        ?_, ?_⟩
      · have leading : preamble (line :: (rest ++ last)) = [] := by
          rw [preamble, List.takeWhile_cons_of_neg (by simp [ordinary.notLeading])]
        rw [lines, splits, List.cons_append, opening]
        simp only [leading, List.length_nil, List.drop_zero, List.head?_cons, Option.any_some, ordinary.notSeparator,
          Bool.false_eq_true, if_false, List.map_nil]
        rw [← List.cons_append, List.flatMap_append]
        rfl
      · rw [← chars, List.map_flatMap, List.flatMap_map, List.map_flatMap]
        rw [List.flatMap_def, List.flatMap_def]
        exact congrArg List.flatten (List.map_congr_left fun each member => (steps each member).2)
      · intro entry member
        obtain ⟨each, listed, inside⟩ := List.mem_flatMap.mp member
        rw [blank each listed, List.mem_singleton] at inside
        rw [inside]
        rfl

namespace Mark

def column : Mark → Nat
  | .key column _ _ => column
  | .item column => column

def isKey : Mark → Bool
  | .key _ _ _ => true
  | .item _ => false

-- A key may stand below what is left of it, and an item also below a key of its column.
def MayHold (upper : Mark) : Mark → Prop
  | .key column _ _ => upper.column < column
  | .item column => upper.column < column ∨ (upper.isKey = true ∧ upper.column ≤ column)

def Fits (block : Block) : Mark → Prop
  | .key column name value => block.kind = .key ∧ block.indent = some column ∧ block.key? = some name ∧
      block.simpleValue? = some value
  | .item column => block.kind = .item ∧ block.indent = some column

end Mark

-- The keys and items of an outline are those of the marks, and each hangs where the marks before it say. The first two
-- numbers are those of the root and of the document.
structure Marked (outline : Outline) (marks : List Mark) : Prop where
  document : (Block.mk outline 1).kind = .document
  others : ∀ id, (Block.mk outline id).kind = .document → id = 1
  fits : ∀ (index : Nat) (mark : Mark), marks[index]? = some mark → mark.Fits ⟨outline, index + 2⟩
  only : ∀ id, (Block.mk outline id).kind.isStep = true → ∃ (index : Nat) (mark : Mark), id = index + 2 ∧ marks[index]? = some mark
  hangs : ∀ (index : Nat) (mark : Mark), marks[index]? = some mark → ∀ parent, 1 ≤ parent → parent < index + 2 →
    (parent = 1 ∨ ∃ upper, marks[parent - 2]? = some upper ∧ upper.MayHold mark) →
    (∀ between other, parent < between + 2 → between < index → marks[between]? = some other → ¬ other.MayHold mark) →
    (Block.mk outline (index + 2)).entry.parent = some parent

theorem mark_kind (text : String) (entry : Entry) (mark : Mark) (shown : entry.mark? text = some mark) :
    entry.kind = (if mark.isKey then .key else .item) ∧ entry.indent.getD 0 = mark.column := by
  rw [Entry.mark?] at shown
  split at shown
  next kind _ =>
    obtain rfl := Option.some.inj shown
    exact ⟨kind, rfl⟩
  next kind =>
    obtain rfl := Option.some.inj shown
    exact ⟨kind, rfl⟩
  next => cases shown

theorem mark_indent (text : String) (relaxedNames : Bool) (index : Nat) (entry : Entry) (mark : Mark)
    (read : (ofText text relaxedNames).table[index + 2]? = some entry) (shown : entry.bare.mark? text = some mark) :
    entry.indent = some mark.column := by
  obtain ⟨kind, column⟩ := mark_kind text entry.bare mark shown
  have isStep : entry.kind.isStep = true := by
    rw [show entry.kind = _ from kind]
    cases mark.isKey <;> rfl
  obtain ⟨indent, indented⟩ :=
    ((of_text_sound text relaxedNames).shaped (index + 2) entry (by omega) read).indented isStep
  rw [show entry.bare.indent = some indent from indented] at column
  rw [indented, ← column]
  rfl

theorem level_iff (upper mark : Mark) (entry : Entry) (kind : entry.kind = if upper.isKey then .key else .item)
    (indented : entry.indent = some upper.column) :
    (mark.isKey = true → (keyLevel mark.column entry = true ↔ upper.MayHold mark)) ∧
      (mark.isKey = false → (itemLevel mark.column entry = true ↔ upper.MayHold mark)) := by
  constructor
  · intro isKey
    cases mark with
    | key column name value =>
        rw [keyLevel, indented, Option.any_some, decide_eq_true_eq]
        exact Iff.rfl
    | item column => cases isKey
  · intro isItem
    cases mark with
    | key column name value => cases isItem
    | item column => cases upper <;> simp [itemLevel, kind, indented, Mark.MayHold, Mark.column, Mark.isKey]

section

variable (text : String) (relaxedNames : Bool) (first : Entry) (steps tail : List Entry) (marks : List Mark)
  (split : opening (lines text.toList) = first :: (steps ++ tail)) (isDocument : first.kind = .document)
  (shows_ : steps.map (Entry.mark? text) = marks.map some) (raw : ∀ entry ∈ tail, entry.kind = .raw)

include split shows_

theorem mark_entry (index : Nat) (mark : Mark) (read : marks[index]? = some mark) :
    ∃ entry, (ofText text relaxedNames).table[index + 2]? = some entry ∧ entry.bare.mark? text = some mark := by
  have shown := congrArg (·[index]?) shows_
  simp only [List.getElem?_map, read, Option.map_some, Option.map_eq_some_iff] at shown
  obtain ⟨bare, readBare, showsMark⟩ := shown
  have bareAt : (tableOf text.toList).bare[index + 2]? = some bare := by
    rw [table_of_bare, split, List.getElem?_cons_succ, List.getElem?_cons_succ, List.getElem?_append_left, readBare]
    exact (List.getElem?_eq_some_iff.mp readBare).1
  obtain ⟨entry, readEntry, rfl⟩ := bare_read _ _ bare bareAt
  exact ⟨entry, readEntry, showsMark⟩

theorem mark_fits (index : Nat) (mark : Mark) (read : marks[index]? = some mark) :
    mark.Fits ⟨ofText text relaxedNames, index + 2⟩ := by
  obtain ⟨entry, readEntry, shown⟩ := mark_entry text relaxedNames first steps tail marks split shows_ index mark read
  have indented := mark_indent text relaxedNames index entry mark readEntry shown
  have entryEq := Block.entry_of_read ⟨ofText text relaxedNames, index + 2⟩ entry readEntry
  obtain ⟨kind, -⟩ := mark_kind text entry.bare mark shown
  cases mark with
  | item column =>
      refine ⟨?_, ?_⟩
      · rw [Block.kind, entryEq]
        exact kind
      · rw [Block.indent, entryEq]
        exact indented
  | key column name value =>
      rw [Entry.mark?] at shown
      split at shown
      next colon _ placed =>
        obtain ⟨-, named, valued⟩ := Mark.key.inj (Option.some.inj shown)
        have colonEq : (Block.mk (ofText text relaxedNames) (index + 2)).colon? = some colon := by
          rw [Block.colon?, entryEq]
          exact placed
        refine ⟨?_, ?_, ?_, ?_⟩
        · rw [Block.kind, entryEq]
          exact kind
        · rw [Block.indent, entryEq]
          exact indented
        · rw [Block.key?, colonEq, Option.map_some, Block.start, entryEq]
          exact congrArg some named
        · rw [Block.simpleValue?, colonEq, Option.map_some, entryEq]
          exact congrArg some valued
      next => cases shown
      next => cases shown

include raw

theorem entry_cases (id : Nat) (entry : Entry) (read : (ofText text relaxedNames).table[id + 2]? = some entry) :
    entry.kind = .raw ∨ ∃ mark, marks[id]? = some mark ∧ entry.bare.mark? text = some mark := by
  have bareAt : (opening (lines text.toList))[id + 1]? = some entry.bare :=
    Block.bare_after_root text relaxedNames (id + 2) entry (by omega) read
  rw [split, List.getElem?_cons_succ] at bareAt
  rcases Nat.lt_or_ge id steps.length with inside | beyond
  · rw [List.getElem?_append_left inside] at bareAt
    have shown := congrArg (·[id]?) shows_
    simp only [List.getElem?_map, bareAt, Option.map_some] at shown
    obtain ⟨mark, readMark, same⟩ := Option.map_eq_some_iff.mp shown.symm
    exact .inr ⟨mark, readMark, same.symm⟩
  · rw [List.getElem?_append_right beyond] at bareAt
    exact .inl (raw entry.bare (List.mem_of_getElem? bareAt))

include isDocument

theorem only_document (id : Nat) (entry : Entry) (read : (ofText text relaxedNames).table[id]? = some entry) :
    entry.kind = .document ↔ id = 1 := by
  rcases id with _ | _ | id
  · obtain rfl := Option.some.inj ((of_text_sound text relaxedNames).root.symm.trans read)
    exact ⟨nofun, nofun⟩
  · have bareAt := Block.bare_after_root text relaxedNames 1 entry Nat.one_pos read
    rw [split] at bareAt
    have same := Option.some.inj bareAt
    exact ⟨fun _ => rfl, fun _ => by rw [show entry.kind = entry.bare.kind from rfl, ← same, isDocument]⟩
  · refine ⟨fun kind => ?_, fun same => absurd same (Nat.succ_succ_ne_one id)⟩
    rcases entry_cases text relaxedNames first steps tail marks split shows_ raw id entry read with isRaw | ⟨mark, -, shown⟩
    · rw [kind] at isRaw
      cases isRaw
    · obtain ⟨isStep, -⟩ := mark_kind text entry.bare mark shown
      rw [show entry.bare.kind = .document from kind] at isStep
      cases mark <;> cases isStep

theorem mark_nearest (index : Nat) (mark : Mark) (read : marks[index]? = some mark) :
    ∃ real level, (Block.mk (ofText text relaxedNames) (index + 2)).entry.parent = some real ∧ real < index + 2 ∧
      Nearest (ofText text relaxedNames).table (index + 2) level 1 real ∧
        ∀ (other : Nat) (upper : Mark) (found : Entry), marks[other]? = some upper →
          (ofText text relaxedNames).table[other + 2]? = some found → found.bare.mark? text = some upper →
            found.kind.isStep = true ∧ (level found = true ↔ upper.MayHold mark) := by
  obtain ⟨entry, readEntry, shown⟩ := mark_entry text relaxedNames first steps tail marks split shows_ index mark read
  obtain ⟨kind, -⟩ := mark_kind text entry.bare mark shown
  have indented := mark_indent text relaxedNames index entry mark readEntry shown
  obtain ⟨document, real, placed⟩ := table_of_placed text.toList (index + 2) entry (by omega) readEntry
  have smaller := sound_descending _ _ (of_text_sound text relaxedNames) (index + 2) entry real readEntry placed.hangs
  obtain ⟨top, readTop, isTop⟩ := placed.top
  obtain rfl := (only_document text relaxedNames first steps tail marks split isDocument shows_ raw document top readTop).mp isTop
  have hangs : (Block.mk (ofText text relaxedNames) (index + 2)).entry.parent = some real := by
    rw [Block.entry_of_read ⟨ofText text relaxedNames, index + 2⟩ entry readEntry, placed.hangs]
  have agrees : ∀ (other : Nat) (upper : Mark) (found : Entry),
      (ofText text relaxedNames).table[other + 2]? = some found → found.bare.mark? text = some upper →
        found.kind.isStep = true ∧ (mark.isKey = true → (keyLevel mark.column found = true ↔ upper.MayHold mark)) ∧
          (mark.isKey = false → (itemLevel mark.column found = true ↔ upper.MayHold mark)) := by
    intro other upper found readOther shownOther
    obtain ⟨otherKind, -⟩ := mark_kind text found.bare upper shownOther
    refine ⟨?_, level_iff upper mark found otherKind (mark_indent text relaxedNames other found upper readOther shownOther)⟩
    rw [show found.kind = _ from otherKind]
    cases upper.isKey <;> rfl
  cases isKey : mark.isKey with
  | true =>
      obtain ⟨indent, same, nearest⟩ := placed.key (by rw [show entry.kind = _ from kind, isKey]; rfl)
      obtain rfl := Option.some.inj (indented.symm.trans same)
      refine ⟨real, _, hangs, smaller, nearest, fun other upper found _ readOther shownOther => ?_⟩
      obtain ⟨isStep, asKey, -⟩ := agrees other upper found readOther shownOther
      exact ⟨isStep, asKey isKey⟩
  | false =>
      obtain ⟨indent, same, nearest⟩ := placed.item (by rw [show entry.kind = _ from kind, isKey]; rfl)
      obtain rfl := Option.some.inj (indented.symm.trans same)
      refine ⟨real, _, hangs, smaller, nearest, fun other upper found _ readOther shownOther => ?_⟩
      obtain ⟨isStep, -, asItem⟩ := agrees other upper found readOther shownOther
      exact ⟨isStep, asItem isKey⟩

theorem mark_hangs (index : Nat) (mark : Mark) (read : marks[index]? = some mark) (parent : Nat) (above : 1 ≤ parent)
    (before : parent < index + 2) (holds : parent = 1 ∨ ∃ upper, marks[parent - 2]? = some upper ∧ upper.MayHold mark)
    (passed : ∀ (between : Nat) (other : Mark), parent < between + 2 → between < index → marks[between]? = some other →
      ¬ other.MayHold mark) : (Block.mk (ofText text relaxedNames) (index + 2)).entry.parent = some parent := by
  obtain ⟨real, level, hangs, smaller, nearest, agrees⟩ :=
    mark_nearest text relaxedNames first steps tail marks split isDocument shows_ raw index mark read
  rw [hangs]
  rcases Nat.lt_trichotomy parent real with lower | rfl | higher
  · obtain ⟨found, readFound, isStep, suits⟩ := nearest.suitable (by omega)
    obtain ⟨other, rfl⟩ : ∃ other, real = other + 2 := ⟨real - 2, by omega⟩
    rcases entry_cases text relaxedNames first steps tail marks split shows_ raw other found readFound with isRaw | ⟨upper, readUpper, shownUpper⟩
    · rw [isRaw] at isStep
      cases isStep
    · have may := ((agrees other upper found readUpper readFound shownUpper).2).mp suits
      exact absurd may (passed other upper lower (by omega) readUpper)
  · rfl
  · have within := nearest.within
    rcases holds with rfl | ⟨upper, readUpper, may⟩
    · omega
    · obtain ⟨other, rfl⟩ : ∃ other, parent = other + 2 := ⟨parent - 2, by omega⟩
      obtain ⟨found, readFound, shownFound⟩ :=
        mark_entry text relaxedNames first steps tail marks split shows_ other upper readUpper
      obtain ⟨isStep, suits⟩ := agrees other upper found readUpper readFound shownFound
      have fails := nearest.nearest (other + 2) found higher before readFound isStep
      rw [suits.mpr may] at fails
      cases fails

theorem text_marked : Marked (ofText text relaxedNames) marks where
  document := by
    have bareAt : (tableOf text.toList).bare[1]? = some first := by
      rw [table_of_bare, split]
      rfl
    obtain ⟨entry, read, rfl⟩ := bare_read _ 1 first bareAt
    exact (Block.kind_of_read ⟨ofText text relaxedNames, 1⟩ entry read).trans isDocument
  others id kind := by
    have read := Block.read_entry ⟨ofText text relaxedNames, id⟩ (Block.bound_of_kind _ (by rw [kind]; exact nofun))
    exact (only_document text relaxedNames first steps tail marks split isDocument shows_ raw id _ read).mp kind
  fits := mark_fits text relaxedNames first steps tail marks split shows_
  only id isStep := by
    have notRoot := Block.step_ne_root ⟨ofText text relaxedNames, id⟩ isStep
    have read := Block.read_entry ⟨ofText text relaxedNames, id⟩ (Block.bound_of_kind _ notRoot)
    have positive := Block.positive_of_kind ⟨ofText text relaxedNames, id⟩ text.toList (of_text_sound text relaxedNames) notRoot
    have notTop : id ≠ 1 := by
      intro top
      have isTop := (only_document text relaxedNames first steps tail marks split isDocument shows_ raw id _ read).mpr top
      rw [Block.kind, isTop] at isStep
      cases isStep
    obtain ⟨index, rfl⟩ : ∃ index, id = index + 2 := ⟨id - 2, by have := positive; simp only at this; omega⟩
    rcases entry_cases text relaxedNames first steps tail marks split shows_ raw index _ read with isRaw | ⟨mark, readMark, -⟩
    · rw [Block.kind, isRaw] at isStep
      cases isStep
    · exact ⟨index, mark, rfl, readMark⟩
  hangs := mark_hangs text relaxedNames first steps tail marks split isDocument shows_ raw

end

end YamlDialects.Outline
