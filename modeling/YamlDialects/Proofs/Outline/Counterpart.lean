import YamlDialects.Proofs.Outline.Navigation
import YamlDialects.Proofs.Outline.Reparenting

set_option autoImplicit false

namespace YamlDialects

open Outline Outline.Table

namespace Block

def follower? (block : Block) : Option Block :=
  (block.outline.blocks.drop (block.id + 1)).find? fun other => other.kind.isStep || other.kind == .document

-- A block right behind a key of the column goes below the key, or below an item of the column that the key holds.
def isCaptured (column : Nat) (block : Block) : Bool :=
  match block.kind with
  | .key => block.indent.any (column < ·)
  | .item => block.indent.any (column ≤ ·)
  | _ => false

-- A key of the column on the line takes what comes behind it up to the first one that it does not capture.
structure IsTaken (column : Nat) (line block : Block) : Prop where
  isStep : block.kind.isStep = true
  behind : line.id < block.id
  captured : ∀ other ∈ line.outline.blocks, line.id < other.id → other.id ≤ block.id →
    (other.kind.isStep || other.kind == .document) = true → other.isCaptured column = true

-- An item that comes behind a taken one below the same block is counted without that.
def IsRecounted (column : Nat) (line block : Block) : Prop :=
  block.kind = .item ∧ ∃ other ∈ line.outline.blocks, other.kind = .item ∧ IsTaken column line other ∧ other.id < block.id ∧
    other.parent? = block.parent?

section

variable (column : Nat) (key : Entry) (isKey : key.kind = .key) (indented : key.indent = some column)

include isKey indented

theorem is_captured_eq (block : Block) (known : (block.kind.isStep || block.kind == .document) = true) :
    block.isCaptured column = key.holds block.entry := by
  unfold isCaptured Entry.holds
  rw [isKey]
  unfold kind indent at *
  cases kindEq : block.entry.kind with
  | key => simp [keyLevel, indented, Kind.isStep]
  | item =>
      cases block.entry.indent with
      | none => rfl
      | some own =>
          rw [Bool.eq_iff_iff]
          simp [itemLevel, indented, isKey, Kind.isStep]
          omega
  | _ => simp_all [Kind.isStep]

theorem is_taken_iff (line : Block) (id : Nat) (entry : Entry) (read : line.outline.table[id]? = some entry)
    (known : (entry.kind.isStep || entry.kind == .document) = true) :
    IsTaken column line ⟨line.outline, id⟩ ↔ Captures line.outline.table line.id key id := by
  constructor
  · rintro ⟨_, behind, captured⟩
    refine ⟨behind, fun between entry after within read known => ?_⟩
    have entryEq := entry_of_read ⟨line.outline, between⟩ entry read
    rw [← entryEq] at known ⊢
    rw [← is_captured_eq column key isKey indented ⟨line.outline, between⟩ known]
    exact captured ⟨line.outline, between⟩ ((mem_blocks _ _).mpr ⟨rfl, Table.read_bound _ between entry read⟩) after within known
  · rintro ⟨behind, held⟩
    refine ⟨?_, behind, fun other listed after within known => ?_⟩
    · rw [kind_of_read ⟨line.outline, id⟩ entry read]
      exact Entry.held_step key entry (held id entry behind (Nat.le_refl _) read known) (by simp [isKey])
    obtain ⟨same, bound⟩ := (mem_blocks _ other).mp listed
    rw [is_captured_eq column key isKey indented other known]
    exact held other.id other.entry after within (by rw [← same] at bound ⊢; exact other.read_entry bound) known

end

theorem follower_cases (block : Block) :
    (block.follower? = none ∧ ∀ id, block.id < id → id < block.outline.size →
      ((Block.mk block.outline id).kind.isStep || (Block.mk block.outline id).kind == .document) = false) ∨
    ∃ id, block.follower? = some ⟨block.outline, id⟩ ∧ block.id < id ∧ id < block.outline.size ∧
      ((Block.mk block.outline id).kind.isStep || (Block.mk block.outline id).kind == .document) = true ∧
        ∀ between, block.id < between → between < id →
          ((Block.mk block.outline between).kind.isStep || (Block.mk block.outline between).kind == .document) = false := by
  have behind (index : Nat) (bound : block.id + 1 + index < block.outline.size) :
      (block.outline.blocks.drop (block.id + 1))[index]? = some ⟨block.outline, block.id + 1 + index⟩ := by
    rw [List.getElem?_drop, blocks, List.getElem?_map, List.getElem?_range bound]
    rfl
  have width : (block.outline.blocks.drop (block.id + 1)).length = block.outline.size - (block.id + 1) := by
    rw [List.length_drop, blocks, List.length_map, List.length_range]
  cases found : block.follower? with
  | none =>
      refine .inl ⟨rfl, fun id after bound => ?_⟩
      obtain ⟨index, rfl⟩ : ∃ index, id = block.id + 1 + index := ⟨id - (block.id + 1), by omega⟩
      have misses := List.find?_eq_none.mp found _ (List.mem_of_getElem? (behind index bound))
      simpa using misses
  | some other =>
      obtain ⟨holds, index, inside, here, before⟩ := List.find?_eq_some_iff_getElem.mp found
      have bound : block.id + 1 + index < block.outline.size := by omega
      obtain rfl : other = ⟨block.outline, block.id + 1 + index⟩ := by
        rw [← here]
        exact (List.getElem?_eq_some_iff.mp (behind index bound)).2
      refine .inr ⟨_, rfl, by omega, bound, holds, fun between after less => ?_⟩
      obtain ⟨earlier, rfl⟩ : ∃ earlier, between = block.id + 1 + earlier := ⟨between - (block.id + 1), by omega⟩
      have misses := before earlier (by omega)
      rw [(List.getElem?_eq_some_iff.mp (behind earlier (by omega))).2] at misses
      simpa using misses

theorem none_taken_iff (column : Nat) (line : Block) : line.follower?.any (isCaptured column) = false ↔
    ∀ block, block.outline = line.outline → block.kind.isStep = true → ¬ IsTaken column line block := by
  constructor
  · intro free block belongs isStep taken
    have behind := taken.behind
    have bound := block.bound_of_kind (block.step_ne_root isStep)
    rcases line.follower_cases with ⟨_, none⟩ | ⟨id, follows, after, inside, known, none⟩
    · have missing := none block.id behind (belongs ▸ bound)
      rw [← belongs, isStep] at missing
      cases missing
    · have within : id ≤ block.id := by
        apply Nat.le_of_not_lt
        intro before
        have missing := none block.id behind before
        rw [← belongs, isStep] at missing
        cases missing
      rw [follows, Option.any_some, taken.captured ⟨line.outline, id⟩ ((mem_blocks _ _).mpr ⟨rfl, inside⟩) after within known] at free
      cases free
  · intro free
    rcases line.follower_cases with ⟨missing, _⟩ | ⟨id, follows, after, inside, known, none⟩
    · rw [missing]
      rfl
    · rw [follows, Option.any_some]
      cases captured : isCaptured column ⟨line.outline, id⟩ with
      | false => rfl
      | true =>
          have isStep : (Block.mk line.outline id).kind.isStep = true := by
            unfold isCaptured at captured
            split at captured
            next isKey => rw [isKey]; rfl
            next isItem => rw [isItem]; rfl
            next => cases captured
          refine absurd ⟨isStep, after, fun other listed later within isKnown => ?_⟩ (free ⟨line.outline, id⟩ rfl isStep)
          obtain ⟨outline, own⟩ := other
          obtain ⟨rfl, _⟩ := (mem_blocks _ _).mp listed
          rcases Nat.lt_or_eq_of_le within with before | rfl
          · have missing := none own later before
            rw [isKnown] at missing
            cases missing
          · exact captured

end Block

namespace Outline

section

variable {slot : Slot} {count column : Nat} {name content : List Char} (insertion : Insertion slot count column name content)
variable (text accepted : String) (relaxed : Bool) (oldWhole : text.toList = slot.fill (blanks count))
variable (newWhole : accepted.toList = slot.fill content)

def Insertion.oldFront : List Entry :=
  insertion.earlier ++ [slot.blankEntry count]

def Insertion.newFront : List Entry :=
  insertion.earlier ++ insertion.key :: insertion.trailing

theorem Insertion.old_front_length : insertion.oldFront.length = insertion.earlier.length + 1 := by
  simp [Insertion.oldFront]

theorem Insertion.new_front_length : insertion.newFront.length = insertion.earlier.length + (insertion.trailing.length + 1) := by
  simp [Insertion.newFront]

def Insertion.oldEnding : EndsAs slot text insertion.oldFront where
  before := slot.before ++ blanks count
  split := by rw [oldWhole, Slot.fill, List.append_assoc]
  entries := by
    have width := Slot.length_before slot count
    rw [oldWhole, insertion.old, width, oldFront, List.append_assoc]
    rfl

def Insertion.newEnding : EndsAs slot accepted insertion.newFront where
  before := slot.before ++ content
  split := by rw [newWhole, Slot.fill, List.append_assoc]
  entries := by
    rw [newWhole, insertion.new, Text.byte_length_append, Slot.start, newFront, List.append_assoc]
    rfl

def Insertion.counterpart (id : Nat) : Nat :=
  displaced (insertion.earlier.length + 1) insertion.trailing.length id

theorem counterpart_before (id : Nat) (before : id ≤ insertion.earlier.length) : insertion.counterpart id = id :=
  if_pos (Nat.lt_succ_of_le before)

theorem counterpart_after (index : Nat) :
    insertion.counterpart (insertion.oldFront.length + 1 + index) = insertion.newFront.length + 1 + index := by
  have oldWidth := insertion.old_front_length
  have newWidth := insertion.new_front_length
  rw [Insertion.counterpart, displaced, if_neg (by omega)]
  omega

include oldWhole newWhole

omit newWhole in
theorem step_place (block : Block) (belongs : block.outline = ofText text relaxed) (isStep : block.kind.isStep = true) :
    (0 < block.id ∧ block.id ≤ insertion.earlier.length) ∨ ∃ index entry, slot.laterEntries[index]? = some entry ∧
      block = ⟨ofText text relaxed, insertion.oldFront.length + 1 + index⟩ := by
  obtain ⟨outline, id⟩ := block
  obtain rfl : outline = ofText text relaxed := belongs
  have notRoot := Block.step_ne_root _ isStep
  have bound := Block.bound_of_kind _ notRoot
  have positive := Block.positive_of_kind (Block.mk (ofText text relaxed) id) text.toList (of_text_sound text relaxed) notRoot
  have size := (insertion.oldEnding text oldWhole).size relaxed
  have width := insertion.old_front_length
  have notBlank : id ≠ insertion.earlier.length + 1 := by
    rintro rfl
    rw [(blank_spec slot count text relaxed _ (insertion_blank insertion text oldWhole)).1] at isStep
    cases isStep
  by_cases before : id ≤ insertion.earlier.length
  · exact .inl ⟨positive, before⟩
  · have inside : id - (insertion.oldFront.length + 1) < slot.laterEntries.length := by
      change id < (ofText text relaxed).size at bound
      omega
    refine .inr ⟨id - (insertion.oldFront.length + 1), _, List.getElem?_eq_getElem inside, ?_⟩
    congr 1
    omega

theorem earlier_key (entry : Entry) (member : entry ∈ insertion.earlier) (isStep : entry.kind.isStep = true)
    (item : entry.kind = .item → entry.colon = none) :
    entry.colon.map (Text.slice accepted entry.start) = entry.colon.map (Text.slice text entry.start) := by
  cases kindEq : entry.kind with
  | key =>
      obtain ⟨colon, known, le⟩ := earlier_colon insertion text oldWhole entry member kindEq
      rw [known, Option.map_some, Option.map_some, Text.slice, Text.slice, oldWhole, newWhole, Slot.fill, Slot.fill,
        Text.slice_within slot.before _ _ colon le, Text.slice_within slot.before _ _ colon le]
  | item => rw [item kindEq, Option.map_none, Option.map_none]
  | _ => simp [kindEq, Kind.isStep] at isStep

theorem spec_before (id : Nat) (positive : 0 < id) (before : id ≤ insertion.earlier.length)
    (isStep : (Block.mk (ofText text relaxed) id).kind.isStep = true) :
    (Block.mk (ofText accepted relaxed) id).kind = (Block.mk (ofText text relaxed) id).kind ∧
      (Block.mk (ofText accepted relaxed) id).key? = (Block.mk (ofText text relaxed) id).key? ∧
      (Block.mk (ofText accepted relaxed) id).start = (Block.mk (ofText text relaxed) id).start ∧
      (Block.mk (ofText text relaxed) id).start ≤ slot.start := by
  obtain ⟨index, rfl⟩ : ∃ less, id = less + 1 := ⟨id - 1, by omega⟩
  obtain ⟨bare, at_⟩ : ∃ bare, insertion.earlier[index]? = some bare := ⟨_, List.getElem?_eq_getElem (by omega)⟩
  obtain ⟨entry, read, isBare⟩ := bare_read (tableOf text.toList) (index + 1) bare (by
    rw [oldWhole, insertion.old, List.getElem?_cons_succ, List.getElem?_append_left (by omega), at_])
  obtain ⟨other, readOther, isBareToo⟩ := bare_read (tableOf accepted.toList) (index + 1) bare (by
    rw [newWhole, insertion.new, List.getElem?_cons_succ, List.getElem?_append_left (by omega), at_])
  obtain ⟨last, readLast, lastBare⟩ := (insertion_blank insertion text oldWhole).read
  have order := (entries_in_order _ _ (table_of_sound text.toList) (index + 1) (insertion.earlier.length + 1) entry last positive
    (by omega) read readLast).1
  have lastStart : last.start = slot.start := congrArg Entry.start lastBare
  have entryEq := Block.entry_of_read ⟨ofText text relaxed, index + 1⟩ entry read
  have otherEq := Block.entry_of_read ⟨ofText accepted relaxed, index + 1⟩ other readOther
  have same := congrArg (fun entry : Entry => (entry.kind, entry.start, entry.colon)) (isBare.trans isBareToo.symm)
  simp only [Entry.bare, Prod.mk.injEq] at same
  obtain ⟨kindEq, startEq, colonEq⟩ := same
  rw [Block.kind, entryEq] at isStep
  have colons := opening_colons (lines text.toList) bare (by
    rw [← isBare]
    exact List.mem_of_getElem? (Block.bare_after_root text relaxed (index + 1) entry positive read))
  have keys := earlier_key insertion text accepted oldWhole newWhole bare (List.mem_of_getElem? at_)
    (by rw [← isBare]; exact isStep) fun isItem => colons (by simp [isItem])
  rw [← isBare] at keys
  refine ⟨?_, ?_, ?_, ?_⟩
  · rw [Block.kind, Block.kind, entryEq, otherEq, kindEq]
  · rw [Block.key?, Block.key?, Block.colon?, Block.colon?, Block.start, Block.start, entryEq, otherEq, ← colonEq, ← startEq]
    exact keys
  · rw [Block.start, Block.start, entryEq, otherEq, startEq]
  · rw [Block.start, entryEq]
    omega

omit newWhole in
include insertion in
theorem later_start_positive (index : Nat) (entry : Entry) (read : slot.laterEntries[index]? = some entry) : 0 < entry.start := by
  obtain ⟨found, readFound, bare⟩ := (insertion.oldEnding text oldWhole).later_entry false index entry read
  obtain ⟨last, readLast, lastBare⟩ := (insertion_blank insertion text oldWhole).read
  have width := insertion.old_front_length
  have order := (entries_in_order _ _ (of_text_sound text false) (insertion.earlier.length + 1) _ last found (by omega)
    (by omega) readLast readFound).2.2
  have isRaw : last.kind = .raw := congrArg Entry.kind lastBare
  have stop : last.stop = slot.start + count + breakLength slot.after := congrArg Entry.stop lastBare
  have start : found.start = Text.byteLength (insertion.oldEnding text oldWhole).before + entry.start := congrArg Entry.start bare
  have widthOld : Text.byteLength (insertion.oldEnding text oldWhole).before = slot.start + count := Slot.length_before slot count
  have broken : 0 < breakLength slot.after := by
    rcases slot.broken with none | ⟨rest, feed⟩ | ⟨rest, carriage⟩
    · rw [later_entries_nil slot none] at read
      cases read
    · rw [feed]
      exact Nat.one_pos
    · rw [carriage]
      exact Nat.two_pos
  rcases order with apart | ⟨isItem, _⟩
  · omega
  · rw [isRaw] at isItem
    cases isItem

theorem spec_after (index : Nat) (entry : Entry) (read : slot.laterEntries[index]? = some entry) :
    (Block.mk (ofText accepted relaxed) (insertion.newFront.length + 1 + index)).kind =
        (Block.mk (ofText text relaxed) (insertion.oldFront.length + 1 + index)).kind ∧
      (Block.mk (ofText accepted relaxed) (insertion.newFront.length + 1 + index)).key? =
        (Block.mk (ofText text relaxed) (insertion.oldFront.length + 1 + index)).key? ∧
      (Block.mk (ofText accepted relaxed) (insertion.newFront.length + 1 + index)).start + count =
        (Block.mk (ofText text relaxed) (insertion.oldFront.length + 1 + index)).start + Text.byteLength content ∧
      slot.start + count < (Block.mk (ofText text relaxed) (insertion.oldFront.length + 1 + index)).start := by
  obtain ⟨kindOld, _, startOld, keyOld⟩ := (insertion.oldEnding text oldWhole).later_block relaxed index entry read
  obtain ⟨kindNew, _, startNew, keyNew⟩ := (insertion.newEnding accepted newWhole).later_block relaxed index entry read
  have widthOld : Text.byteLength (insertion.oldEnding text oldWhole).before = slot.start + count := Slot.length_before slot count
  have widthNew : Text.byteLength (insertion.newEnding accepted newWhole).before = slot.start + Text.byteLength content :=
    Text.byte_length_append slot.before content
  have positive := later_start_positive insertion text oldWhole index entry read
  exact ⟨by rw [kindOld, kindNew], by rw [keyOld, keyNew], by omega, by omega⟩

theorem counterpart_spec (block : Block) (belongs : block.outline = ofText text relaxed) (isStep : block.kind.isStep = true)
    (same : Block) (moved : same = ⟨ofText accepted relaxed, insertion.counterpart block.id⟩) :
    same.kind = block.kind ∧ same.key? = block.key? ∧ ((block.start ≤ slot.start ∧ same.start = block.start) ∨
      (slot.start + count < block.start ∧ same.start + count = block.start + Text.byteLength content)) := by
  rw [moved]
  rcases step_place insertion text relaxed oldWhole block belongs isStep with ⟨positive, before⟩ | ⟨index, entry, read, place⟩
  · obtain ⟨outline, id⟩ := block
    obtain rfl : outline = ofText text relaxed := belongs
    obtain ⟨kindEq, keyEq, startEq, within⟩ := spec_before insertion text accepted relaxed oldWhole newWhole id positive before isStep
    rw [counterpart_before insertion id before]
    exact ⟨kindEq, keyEq, .inl ⟨within, startEq⟩⟩
  · obtain ⟨kindEq, keyEq, startEq, behind⟩ := spec_after insertion text accepted relaxed oldWhole newWhole index entry read
    rw [place, counterpart_after insertion index]
    exact ⟨kindEq, keyEq, .inr ⟨behind, startEq⟩⟩

omit oldWhole newWhole in
theorem trailing_kinds (trailing : List Entry) (trails : Trailing column trailing) : trailing.length ≤ 1 ∧
    ∀ entry ∈ trailing, entry.kind = .raw ∨ (entry.kind = .item ∧ entry.indent = some column) := by
  cases trails with
  | none => simp
  | item entry isItem indented => simp [isItem, indented]
  | raw entry isRaw => simp [isRaw]

theorem insertion_gains : ∃ key, GainsKey (ofText text relaxed).table (ofText accepted relaxed).table (insertion.earlier.length + 1)
    insertion.trailing.length key ∧ key.bare = insertion.key := by
  have oldFront := insertion.old_front_length
  have newFront := insertion.new_front_length
  have oldEnding := insertion.oldEnding text oldWhole
  have newEnding := insertion.newEnding accepted newWhole
  obtain ⟨few, kinds⟩ := trailing_kinds insertion.trailing insertion.trails
  obtain ⟨key, readKey, bare⟩ := bare_read (tableOf accepted.toList) (insertion.earlier.length + 1) insertion.key (by
    rw [newWhole, insertion.new, List.getElem?_cons_succ, List.getElem?_append_right (Nat.le_refl _), Nat.sub_self]
    rfl)
  obtain ⟨blank, readBlank, blankBare⟩ := (insertion_blank insertion text oldWhole).read
  have parts := congrArg (fun entry : Entry => (entry.kind, entry.indent)) bare
  simp only [Entry.bare, Prod.mk.injEq] at parts
  have indented := parts.2.trans insertion.indented
  have oldSize := oldEnding.size relaxed
  have newSize := newEnding.size relaxed
  refine ⟨key, ⟨Nat.succ_pos _, ⟨blank, readBlank, congrArg Entry.kind blankBare⟩, readKey, parts.1.trans insertion.isKey,
    ⟨column, indented⟩, few, fun id entry behind within read => ?_, fun id entry elsewhere read => ?_, ?_⟩, bare⟩
  · have same := bare_get (tableOf accepted.toList) id
    obtain ⟨index, rfl⟩ : ∃ index, id = insertion.earlier.length + (index + 1) + 1 := ⟨id - (insertion.earlier.length + 2), by omega⟩
    rw [newWhole, insertion.new, ← newWhole, List.getElem?_cons_succ, List.getElem?_append_right (by omega), Nat.add_sub_cancel_left,
      List.getElem?_cons_succ, List.getElem?_append_left (by omega), ← table_of_text accepted relaxed, read] at same
    rw [indented]
    exact kinds entry.bare (List.mem_of_getElem? same)
  · by_cases before : id < insertion.earlier.length + 1
    · rw [displaced, if_pos before]
      rcases Nat.eq_zero_or_pos id with rfl | positive
      · obtain rfl := Option.some.inj ((of_text_sound text relaxed).root.symm.trans read)
        exact ⟨_, (of_text_sound accepted relaxed).root, rfl, rfl⟩
      · obtain ⟨other, readOther, kindEq, indentEq, _⟩ := shares_read _ _ _ id entry
          (insertion_shares insertion text accepted oldWhole newWhole relaxed) positive before read
        exact ⟨other, readOther, kindEq, indentEq⟩
    · have bound := Table.read_bound _ id entry read
      obtain ⟨index, rfl⟩ : ∃ index, id = insertion.oldFront.length + 1 + index := ⟨id - (insertion.oldFront.length + 1), by omega⟩
      have inside : index < slot.laterEntries.length := by
        change _ < (ofText text relaxed).size at bound
        omega
      obtain ⟨first, readFirst, firstBare⟩ := oldEnding.later_entry relaxed index _ (List.getElem?_eq_getElem inside)
      obtain ⟨second, readSecond, secondBare⟩ := newEnding.later_entry relaxed index _ (List.getElem?_eq_getElem inside)
      obtain rfl := Option.some.inj (readFirst.symm.trans read)
      refine ⟨second, ?_, ?_⟩
      · rw [← counterpart_after insertion index] at readSecond
        exact readSecond
      · have first := congrArg (fun entry : Entry => (entry.kind, entry.indent)) firstBare
        have second := congrArg (fun entry : Entry => (entry.kind, entry.indent)) secondBare
        simp only [Entry.bare, Entry.shift, Prod.mk.injEq] at first second
        exact ⟨second.1.trans first.1.symm, second.2.trans first.2.symm⟩
  · change (ofText accepted relaxed).size = (ofText text relaxed).size + _
    omega

section

variable (rest : List Char) (spelled : content = blanks column ++ (name ++ rest)) (key : Entry)
variable (gains : GainsKey (ofText text relaxed).table (ofText accepted relaxed).table (insertion.earlier.length + 1)
  insertion.trailing.length key) (bare : key.bare = insertion.key)

include gains bare

omit oldWhole in
include spelled in
theorem gained_segment : (Block.mk (ofText accepted relaxed) (insertion.earlier.length + 1)).segment? =
    some (.value (String.ofList name)) := by
  have cut : accepted.toList = (slot.before ++ blanks column) ++ (name ++ (rest ++ slot.after)) := by
    rw [newWhole, Slot.fill, spelled]
    simp only [List.append_assoc]
  have parts := congrArg (fun entry : Entry => (entry.colon, entry.start)) bare
  simp only [Entry.bare, Prod.mk.injEq, insertion.colon, insertion.start] at parts
  have entryEq := Block.entry_of_read ⟨ofText accepted relaxed, insertion.earlier.length + 1⟩ key gains.read
  have title := Text.slice_of_split accepted (slot.before ++ blanks column) name (rest ++ slot.after) _ _ cut
    (Slot.length_before slot column) rfl
  simp only [Block.segment?, Block.kind, Block.key?, Block.colon?, Block.start, entryEq, gains.isKey, parts.1, parts.2]
  exact congrArg (fun key => some (Segment.value key)) title

omit oldWhole newWhole in
theorem gained_host : ∃ host, (Block.mk (ofText text relaxed) (insertion.earlier.length + 1)).hostAt column =
      some ⟨ofText text relaxed, host⟩ ∧ host ≤ insertion.earlier.length ∧
    (ofText text relaxed).table.Under host (insertion.earlier.length + 1) ∧
    (∃ top, (ofText text relaxed).table[host]? = some top ∧ top.holds key = true) ∧ key.parent = some host := by
  have oldSound := of_text_sound text relaxed
  have indented : key.indent = some column := (congrArg Entry.indent bare).trans insertion.indented
  obtain ⟨blank, readBlank, isRaw⟩ := gains.blank
  obtain ⟨host, top, hosted, under, readHost, held, nearest⟩ := Block.host_nearest column key gains.isKey indented text.toList
    (ofText text relaxed) oldSound (of_text_placed text relaxed) _ blank gains.positive readBlank
  have within : host ≤ insertion.earlier.length := by
    have le := Table.under_le _ (sound_descending _ _ oldSound) _ _ under
    have elsewhere := step_elsewhere gains host top readHost fun isRaw => by simp [Entry.holds, isRaw, Kind.isStep] at held
    omega
  refine ⟨host, hosted, within, under, ⟨top, readHost, held⟩, ?_⟩
  obtain ⟨parent, hangs, holder⟩ := step_holder _ _ key accepted.toList (of_text_sound accepted relaxed)
    (of_text_placed accepted relaxed) gains.read (by rw [gains.isKey]; rfl)
  have stays (id : Nat) (before : id < insertion.earlier.length + 1) :
      displaced (insertion.earlier.length + 1) insertion.trailing.length id = id := if_pos before
  rw [hangs, holder_unique _ _ key parent host holder ⟨by omega, ?_, fun between other after before read => ?_⟩]
  · obtain ⟨again, readAgain, kindEq, indentEq⟩ := gains.kept host top (by omega) readHost
    rw [stays host (by omega)] at readAgain
    exact ⟨again, readAgain, by rw [Entry.holds_alike top again key key kindEq indentEq rfl rfl, held]⟩
  · rcases gained_read gains between other read with inside | ⟨earlier, same, rfl, elsewhere, readSame, kindEq, indentEq⟩
    · omega
    · have side := displaced_elsewhere _ insertion.trailing.length earlier elsewhere
      have here := stays earlier (by omega)
      rw [Entry.holds_alike same other key key kindEq indentEq rfl rfl]
      exact nearest earlier same (by omega) (by omega) readSame

include spelled

theorem taken_path_ne (fresh : ∀ host, (Block.mk (ofText text relaxed) (insertion.earlier.length + 1)).hostAt column = some host →
      String.ofList name ∉ host.childKeys) (id : Nat) (entry : Entry) (read : (ofText text relaxed).table[id]? = some entry)
    (isStep : entry.kind.isStep = true) (taken : Captures (ofText text relaxed).table (insertion.earlier.length + 1) key id) :
    (Block.mk (ofText accepted relaxed) (insertion.counterpart id)).path ≠ (Block.mk (ofText text relaxed) id).path := by
  intro same
  have oldSound := of_text_sound text relaxed
  have newSound := of_text_sound accepted relaxed
  have oldPlaced := of_text_placed text relaxed
  obtain ⟨host, hosted, within, under, ⟨top, readHost, held⟩, hangs⟩ :=
    gained_host insertion text accepted relaxed key gains bare
  -- The way to it leads over the new key.
  have keyHangs := Block.parent_of_read ⟨ofText accepted relaxed, insertion.earlier.length + 1⟩ key gains.read host hangs
  have keyPath := Block.path_of_child accepted.toList _ _ newSound keyHangs
  have hostEntry := Block.entry_of_read ⟨ofText text relaxed, host⟩ top readHost
  rw [gained_segment insertion text accepted relaxed newWhole rest spelled key gains bare, path_before insertion text accepted oldWhole
    newWhole relaxed host within (by rw [landmark_known, hostEntry]; exact Entry.holds_known top key held)] at keyPath
  have newWay := path_grows accepted relaxed _ _ (taken_under gains newSound (of_text_placed accepted relaxed) id entry read isStep taken)
  change _ <+: (Block.mk (ofText accepted relaxed) (insertion.counterpart id)).path at newWay
  rw [keyPath, same] at newWay
  -- It led over a child of the host before.
  have below := taken_below gains oldSound oldPlaced host top (by omega) under readHost held id entry read isStep taken
  have behind := taken.behind
  obtain ⟨child, childEntry, readChild, childHangs, childUnder⟩ := under_child _ host id (by omega) below
  have member : (Block.mk (ofText text relaxed) child) ∈ (Block.mk (ofText text relaxed) host).children :=
    (Block.mem_children text.toList _ _ oldSound).mpr ⟨rfl, childEntry, readChild, childHangs⟩
  have notRaw : childEntry.kind ≠ .raw := by
    by_cases here : child = id
    · intro isRaw
      rw [Option.some.inj (readChild.symm.trans (here ▸ read))] at isRaw
      rw [isRaw] at isStep
      cases isStep
    · exact under_not_raw text.toList _ oldSound child id here childUnder childEntry readChild
  have notRoot := (oldSound.shaped child childEntry (Nat.zero_lt_of_lt (sound_descending _ _ oldSound child childEntry host readChild childHangs)) readChild).notRoot
  obtain ⟨segment, own⟩ := Block.segment_of_read text relaxed child childEntry readChild notRaw notRoot
  have oldWay := path_grows text relaxed child id childUnder
  rw [Block.path_child text relaxed _ _ rfl member segment own] at oldWay
  have equal := (List.prefix_of_prefix_length_le newWay oldWay (by simp)).eq_of_length (by simp)
  obtain rfl := List.singleton_inj.mp (List.append_cancel_left equal)
  refine fresh _ hosted (List.mem_filterMap.mpr ⟨_, member, ?_⟩)
  unfold Block.segment? at own
  cases kindEq : (Block.mk (ofText text relaxed) child).kind with
  | key => simpa [kindEq] using own
  | _ => simp [kindEq] at own

omit spelled oldWhole newWhole in
theorem is_recounted_iff (id parent : Nat) (entry : Entry) (read : (ofText text relaxed).table[id]? = some entry)
    (isItem : entry.kind = .item) (hangs : entry.parent = some parent) :
    Block.IsRecounted column ⟨ofText text relaxed, insertion.earlier.length + 1⟩ ⟨ofText text relaxed, id⟩ ↔
      ∃ each ∈ (ofText text relaxed).table.childrenBefore id parent .item,
        Captures (ofText text relaxed).table (insertion.earlier.length + 1) key each := by
  have indented : key.indent = some column := (congrArg Entry.indent bare).trans insertion.indented
  have entryEq := Block.entry_of_read ⟨ofText text relaxed, id⟩ entry read
  have taken_iff := Block.is_taken_iff column key gains.isKey indented ⟨ofText text relaxed, insertion.earlier.length + 1⟩
  have itemKnown (found : Entry) (kind : found.kind = .item) : (found.kind.isStep || found.kind == .document) = true := by rw [kind]; rfl
  have parentEq (other : Nat) (found : Entry) (readFound : (ofText text relaxed).table[other]? = some found) :
      (Block.mk (ofText text relaxed) other).parent? = (Block.mk (ofText text relaxed) id).parent? ↔ found.parent = some parent := by
    rw [Block.parent?, Block.parent?, entryEq, Block.entry_of_read ⟨ofText text relaxed, other⟩ found readFound, hangs]
    cases found.parent <;> simp [Block.withId]
  constructor
  · rintro ⟨_, other, listed, otherItem, taken, before, same⟩
    obtain ⟨outline, other⟩ := other
    obtain ⟨rfl, bound⟩ := (mem_blocks _ _).mp listed
    have readOther := (Block.mk (ofText text relaxed) other).read_entry bound
    exact ⟨other, (Table.mem_children_before _ _ _ _ _).mpr ⟨before, _, readOther, (parentEq other _ readOther).mp same, otherItem⟩,
      (taken_iff other _ readOther (itemKnown _ otherItem)).mp taken⟩
  · rintro ⟨each, member, taken⟩
    obtain ⟨before, found, readFound, hangsFound, foundItem⟩ := (Table.mem_children_before _ _ _ _ _).mp member
    refine ⟨by rw [Block.kind, entryEq, isItem], ⟨ofText text relaxed, each⟩, (mem_blocks _ _).mpr ⟨rfl, Table.read_bound _ each found readFound⟩,
      ?_, (taken_iff each found readFound (itemKnown found foundItem)).mpr taken, before, (parentEq each found readFound).mpr hangsFound⟩
    rw [Block.kind_of_read ⟨ofText text relaxed, each⟩ found readFound, foundItem]

omit spelled in
theorem segment_kept_iff (id : Nat) (entry : Entry) (positive : 0 < id) (read : (ofText text relaxed).table[id]? = some entry)
    (notRaw : entry.kind ≠ .raw) (untaken : ¬ Captures (ofText text relaxed).table (insertion.earlier.length + 1) key id) :
    (Block.mk (ofText accepted relaxed) (insertion.counterpart id)).segment? = (Block.mk (ofText text relaxed) id).segment? ↔
      ¬ Block.IsRecounted column ⟨ofText text relaxed, insertion.earlier.length + 1⟩ ⟨ofText text relaxed, id⟩ := by
  have oldSound := of_text_sound text relaxed
  have newSound := of_text_sound accepted relaxed
  obtain ⟨parent, other, hangs, above, free, readOther, kindEq, hangsNow⟩ := parent_moves gains oldSound newSound
    (of_text_placed text relaxed) (of_text_placed accepted relaxed) id entry positive read notRaw untaken
  have oldEntry := Block.entry_of_read ⟨ofText text relaxed, id⟩ entry read
  have newEntry := Block.entry_of_read ⟨ofText accepted relaxed, insertion.counterpart id⟩ other readOther
  have further : 0 < insertion.counterpart id := by
    unfold Insertion.counterpart displaced
    split <;> omega
  -- What is numbered is numbered as before if nothing before it is taken.
  have numbered (counted : entry.kind = .item ∨ entry.kind = .document) :
      (Block.mk (ofText accepted relaxed) (insertion.counterpart id)).segment? = (Block.mk (ofText text relaxed) id).segment? ↔
        ∀ each ∈ (ofText text relaxed).table.childrenBefore id parent entry.kind,
          ¬ Captures (ofText text relaxed).table (insertion.earlier.length + 1) key each := by
    have oldPosition := (oldSound.shaped id entry positive read).position counted parent hangs
    have newPosition := (newSound.shaped _ other further readOther).position (by rwa [kindEq]) _ hangsNow
    rw [kindEq] at newPosition
    rw [← positions_kept_iff gains oldSound newSound (of_text_placed text relaxed) (of_text_placed accepted relaxed) id parent
      entry.kind counted above free]
    change _ ↔ (Table.childrenBefore _ (insertion.counterpart id) _ _).length = _
    rw [← newPosition, ← oldPosition]
    rcases counted with kind | kind <;> simp [Block.segment?, Block.kind, Block.position, oldEntry, newEntry, kindEq, kind]
  cases kind : entry.kind with
  | root => exact absurd kind (oldSound.shaped id entry positive read).notRoot
  | raw => exact absurd kind notRaw
  | key =>
      obtain ⟨_, same, _⟩ := counterpart_spec insertion text accepted relaxed oldWhole newWhole ⟨ofText text relaxed, id⟩ rfl
        (by rw [Block.kind, oldEntry, kind]; rfl) _ rfl
      have notItem : (Block.mk (ofText text relaxed) id).kind ≠ .item := by rw [Block.kind, oldEntry, kind]; simp
      simp only [Block.segment?, Block.kind, oldEntry, newEntry, kindEq, kind, same, true_iff]
      exact fun recounted => notItem recounted.1
  | item =>
      rw [numbered (.inl kind), is_recounted_iff insertion text accepted relaxed key gains bare id parent entry read kind hangs, kind]
      simp
  | document =>
      rw [numbered (.inr kind)]
      refine iff_of_true (fun each member taken => ?_) fun recounted => ?_
      · obtain ⟨_, found, readFound, _, isDocument⟩ := (Table.mem_children_before _ _ _ _ _).mp member
        rw [kind] at isDocument
        have held := taken.held each found taken.behind (Nat.le_refl _) readFound (by simp [isDocument])
        simp [Entry.holds, gains.isKey, isDocument] at held
      · have isItem := recounted.1
        rw [Block.kind, oldEntry, kind] at isItem
        cases isItem

end

-- A path stays if and only if nothing on the way is taken or recounted.
theorem way_kept_iff (rest : List Char) (spelled : content = blanks column ++ (name ++ rest)) (current : Block)
    (place : current = ⟨ofText text relaxed, insertion.earlier.length + 1⟩)
    (fresh : ∀ host, current.hostAt column = some host → String.ofList name ∉ host.childKeys) (id : Nat) (entry : Entry)
    (read : (ofText text relaxed).table[id]? = some entry) (notRaw : entry.kind ≠ .raw) :
    (Block.mk (ofText accepted relaxed) (insertion.counterpart id)).path = (Block.mk (ofText text relaxed) id).path ↔
      ∀ above ∈ (Block.mk (ofText text relaxed) id).ancestry,
        ¬ Block.IsTaken column current above ∧ ¬ Block.IsRecounted column current above := by
  subst place
  have oldSound := of_text_sound text relaxed
  obtain ⟨key, gains, bare⟩ := insertion_gains insertion text accepted relaxed oldWhole newWhole
  have indented : key.indent = some column := (congrArg Entry.indent bare).trans insertion.indented
  induction id using Nat.strongRecOn generalizing entry with
  | ind id ih =>
      rcases Nat.eq_zero_or_pos id with rfl | positive
      · have oldPath : (Block.mk (ofText text relaxed) 0).path = [] := Block.root_path text relaxed
        have newPath : (Block.mk (ofText accepted relaxed) 0).path = [] := Block.root_path accepted relaxed
        have top : (Block.mk (ofText text relaxed) 0).parent? = none := (Block.root_above text.toList _ oldSound).1
        rw [counterpart_before insertion 0 (Nat.zero_le _), oldPath, newPath, Block.ancestry_root _ top]
        simp only [List.forall_mem_singleton, true_iff]
        refine ⟨fun taken => Nat.not_lt_zero _ taken.behind, ?_⟩
        rintro ⟨_, other, _, _, _, before, _⟩
        exact Nat.not_lt_zero _ before
      · have notRoot := (oldSound.shaped id entry positive read).notRoot
        have known : (entry.kind.isStep || entry.kind == .document) = true := by
          cases kind : entry.kind <;> simp_all [Kind.isStep]
        have taken_iff := Block.is_taken_iff column key gains.isKey indented ⟨ofText text relaxed, insertion.earlier.length + 1⟩ id entry
          read known
        by_cases taken : Captures (ofText text relaxed).table (insertion.earlier.length + 1) key id
        · have held := taken.held id entry taken.behind (Nat.le_refl _) read known
          refine iff_of_false (taken_path_ne insertion text accepted relaxed oldWhole newWhole rest spelled key gains bare fresh id entry
            read (Entry.held_step key entry held (by rw [gains.isKey]; simp)) taken) fun free => ?_
          exact (free _ ((Block.mem_ancestry text.toList _ id oldSound _).mpr ⟨rfl, .here⟩)).1 (taken_iff.mpr taken)
        · obtain ⟨parent, other, hangs, _, _, readOther, kindEq, hangsNow⟩ := parent_moves gains oldSound (of_text_sound accepted relaxed)
            (of_text_placed text relaxed) (of_text_placed accepted relaxed) id entry positive read notRaw taken
          obtain ⟨own, above, hangsToo, smaller, readAbove, aboveNotRaw, _⟩ := (oldSound.shaped id entry positive read).hangs
          obtain rfl := Option.some.inj (hangs.symm.trans hangsToo)
          have oldHangs := Block.parent_of_read ⟨ofText text relaxed, id⟩ entry read parent hangs
          have newHangs := Block.parent_of_read ⟨ofText accepted relaxed, insertion.counterpart id⟩ other readOther _ hangsNow
          have split := Block.path_eq_iff accepted.toList text.toList _ _ _ _ (of_text_sound accepted relaxed) oldSound newHangs oldHangs
            (Block.segment_of_read accepted relaxed _ other readOther (kindEq ▸ notRaw) (kindEq ▸ notRoot))
            (Block.segment_of_read text relaxed id entry read notRaw notRoot)
          refine split.trans ((and_congr (ih parent smaller above readAbove aboveNotRaw) (segment_kept_iff insertion text accepted relaxed
            oldWhole newWhole key gains bare id entry positive read notRaw taken)).trans ?_)
          rw [Block.ancestry_parent text.toList _ _ oldSound oldHangs, List.forall_mem_append, List.forall_mem_singleton, taken_iff]
          exact and_congr_right fun _ => (and_iff_right taken).symm

theorem counterpart_path_iff (rest : List Char) (spelled : content = blanks column ++ (name ++ rest)) (current : Block)
    (place : current = ⟨ofText text relaxed, insertion.earlier.length + 1⟩)
    (fresh : ∀ host, current.hostAt column = some host → String.ofList name ∉ host.childKeys) (block : Block)
    (belongs : block.outline = ofText text relaxed) (isStep : block.kind.isStep = true) :
    (Block.mk (ofText accepted relaxed) (insertion.counterpart block.id)).path = block.path ↔
      ∀ above ∈ block.ancestry, ¬ Block.IsTaken column current above ∧ ¬ Block.IsRecounted column current above := by
  obtain ⟨outline, id⟩ := block
  obtain rfl : outline = ofText text relaxed := belongs
  have read := (Block.mk (ofText text relaxed) id).read_entry (Block.bound_of_kind _ (Block.step_ne_root _ isStep))
  refine way_kept_iff insertion text accepted relaxed oldWhole newWhole rest spelled current place fresh id _ read fun isRaw => ?_
  rw [show (Block.mk (ofText text relaxed) id).kind = .raw from isRaw] at isStep
  cases isStep

theorem counterpart_paths_iff (rest : List Char) (spelled : content = blanks column ++ (name ++ rest)) (current : Block)
    (place : current = ⟨ofText text relaxed, insertion.earlier.length + 1⟩)
    (fresh : ∀ host, current.hostAt column = some host → String.ofList name ∉ host.childKeys) :
    (∀ block : Block, block.outline = ofText text relaxed → block.kind.isStep = true →
      (Block.mk (ofText accepted relaxed) (insertion.counterpart block.id)).path = block.path) ↔
        current.follower?.any (Block.isCaptured column) = false := by
  have outlineEq : current.outline = ofText text relaxed := congrArg Block.outline place
  have sound := of_text_sound text relaxed
  rw [Block.none_taken_iff]
  constructor
  · rintro kept ⟨outline, id⟩ belongs isStep
    obtain rfl : outline = ofText text relaxed := belongs.trans outlineEq
    exact ((counterpart_path_iff insertion text accepted relaxed oldWhole newWhole rest spelled current place fresh _ rfl isStep).mp
      (kept _ rfl isStep) _ ((Block.mem_ancestry text.toList _ id sound _).mpr ⟨rfl, .here⟩)).1
  · rintro free ⟨outline, id⟩ belongs isStep
    obtain rfl : outline = ofText text relaxed := belongs
    refine (counterpart_path_iff insertion text accepted relaxed oldWhole newWhole rest spelled current place fresh _ rfl isStep).mpr
      fun above member => ?_
    have aboveBelongs := ((Block.mem_ancestry text.toList _ id sound above).mp member).1.trans outlineEq.symm
    refine ⟨fun taken => free above aboveBelongs taken.isStep taken, fun ⟨_, other, listed, _, taken, _⟩ => ?_⟩
    exact free other ((mem_blocks _ _).mp listed).1 taken.isStep taken

end

end Outline
end YamlDialects
