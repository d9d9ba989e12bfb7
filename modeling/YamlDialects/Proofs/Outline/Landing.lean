import YamlDialects.Proofs.Outline.Deepest
import YamlDialects.Proofs.Outline.Insertion
import YamlDialects.Proofs.Outline.Spine

set_option autoImplicit false

namespace YamlDialects.Outline

structure BlankAt (slot : Slot) (count : Nat) (text : String) (id : Nat) : Prop where
  whole : text.toList = slot.fill (blanks count)
  read : ∃ (entry : Entry), (tableOf text.toList)[id]? = some entry ∧ entry.bare = slot.blankEntry count
  last : slot.after = [] → (tableOf text.toList).size = id + 1

theorem blank_at (slot : Slot) (count : Nat) (text : String) (whole : text.toList = slot.fill (blanks count))
    (earlier later : List Entry) (ends : slot.after = [] → later = [])
    (entries : (tableOf (slot.fill (blanks count))).bare =
      Table.rootOf (Text.byteLength (slot.fill (blanks count))) :: (earlier ++ slot.blankEntry count :: later)) :
    BlankAt slot count text (earlier.length + 1) := by
  rw [← whole] at entries
  refine ⟨whole, bare_read _ _ _ ?_, fun final => ?_⟩
  · rw [entries, List.getElem?_cons_succ, List.getElem?_append_right (Nat.le_refl _), Nat.sub_self]
    rfl
  · rw [← bare_size, entries, ends final]
    simp

theorem later_entries_nil (slot : Slot) (final : slot.after = []) : slot.laterEntries = [] := by
  rw [Slot.laterEntries, Slot.later, final]
  rfl

theorem blank_exists (slot : Slot) (count : Nat) (text : String) (whole : text.toList = slot.fill (blanks count)) :
    ∃ id, BlankAt slot count text id := by
  obtain ⟨earlier, reads⟩ := slot_table slot
  have blank := blank_line_entries slot.start (breakLength slot.after) count
  have old := reads (blanks count) _ _ (lines_from_content slot.start (blanks count) slot (unbroken_blanks count)) blank.1
  rw [List.flatMap_cons, blank.2, entries_of_shifted] at old
  exact ⟨_, blank_at slot count text whole earlier _ (fun final => by
    rw [show slot.later.flatMap Line.entries = [] from later_entries_nil slot final]; rfl) old⟩

section

variable (slot : Slot) (count : Nat) (text : String) (relaxed : Bool) (id : Nat)

theorem blank_spec (blank : BlankAt slot count text id) :
    (Block.mk (ofText text relaxed) id).kind = .raw ∧ (Block.mk (ofText text relaxed) id).indent = none ∧
      (Block.mk (ofText text relaxed) id).start = slot.start ∧
      (Block.mk (ofText text relaxed) id).stop = slot.start + count + breakLength slot.after := by
  obtain ⟨entry, read, bare⟩ := blank.read
  have entryEq : (Block.mk (ofText text relaxed) id).entry = entry := Block.entry_of_read _ entry read
  have same := congrArg (fun entry : Entry => (entry.kind, entry.indent, entry.start, entry.stop)) bare
  simp only [Entry.bare, Slot.blankEntry, Prod.mk.injEq] at same
  simp only [Block.kind, Block.indent, Block.start, Block.stop, entryEq]
  exact same

theorem blank_within (blank : BlankAt slot count text id) (offset : Nat) (before : offset ≤ slot.start + count) :
    offset < slot.start + count + breakLength slot.after ∨
      (slot.after = [] ∧ text.utf8ByteSize = slot.start + count) := by
  rcases slot.broken with none | ⟨rest, feed⟩ | ⟨rest, carriage⟩
  · refine .inr ⟨none, ?_⟩
    rw [← Text.byte_length_to_list, blank.whole, Slot.fill, none, List.append_nil, Text.byte_length_append,
      show Text.byteLength (blanks count) = count from Text.byte_length_spaces count, Slot.start]
  · left
    rw [feed, breakLength]
    omega
  · left
    rw [carriage, breakLength]
    omega

theorem blank_at_end (blank : BlankAt slot count text id) (atEnd : text.utf8ByteSize ≤ slot.start + count) :
    slot.after = [] := by
  have width : Text.byteLength (blanks count) = count := Text.byte_length_spaces count
  rw [← Text.byte_length_to_list, blank.whole, Slot.fill, Text.byte_length_append, Text.byte_length_append, width,
    Slot.start] at atEnd
  cases rest : slot.after with
  | nil => rfl
  | cons c after =>
      have positive := c.utf8Size_pos
      rw [rest, Text.byte_length_cons] at atEnd
      omega

theorem find_blank (blank : BlankAt slot count text id) (offset : Nat) (after : slot.start ≤ offset)
    (before : offset ≤ slot.start + count) : (ofText text relaxed).find? offset = some ⟨ofText text relaxed, id⟩ := by
  have sound := of_text_sound text relaxed
  obtain ⟨isRaw, _, starts, stops⟩ := blank_spec slot count text relaxed id blank
  have bound := (Block.mk (ofText text relaxed) id).bound_of_kind (by simp [isRaw])
  have own := (Block.mk (ofText text relaxed) id).stop_le_tree_stop
  have inside := (region_within text relaxed 0 id bound (under_root text.toList _ sound id bound)).2
  rw [(root_span text relaxed).2] at inside
  by_cases atEnd : offset = text.utf8ByteSize
  · have final := blank.last (blank_at_end slot count text id blank (by omega))
    rw [atEnd, find_at_end, lastBlock, show (ofText text relaxed).size = id + 1 from final]
    rfl
  · obtain ⟨found, search, lowest⟩ := find_within text relaxed offset (by omega)
    have covers : (Block.mk (ofText text relaxed) id).contains offset = true := by
      refine (Block.covers_iff _ _).mpr ⟨by omega, ?_⟩
      rcases blank_within slot count text id blank offset before with within | ⟨_, size⟩ <;> omega
    have under := lowest.above id (under_root text.toList _ sound id bound) covers
    -- Nothing is put below a blank line.
    by_cases here : id = found
    · rw [search, here]
    · exact absurd isRaw (under_not_raw text.toList _ sound id found here under _
        ((Block.mk (ofText text relaxed) id).read_entry bound))

end

end YamlDialects.Outline

namespace YamlDialects.Outline

def SharesBefore (old new : Table) (limit : Nat) : Prop :=
  ∀ id, 0 < id → id < limit → old[id]?.map Entry.bare = new[id]?.map Entry.bare

theorem shares_symm (old new : Table) (limit : Nat) (shared : SharesBefore old new limit) :
    SharesBefore new old limit :=
  fun id positive before => (shared id positive before).symm

theorem shares_read (old new : Table) (limit id : Nat) (entry : Entry) (shared : SharesBefore old new limit)
    (positive : 0 < id) (before : id < limit) (read : old[id]? = some entry) :
    ∃ other, new[id]? = some other ∧ other.kind = entry.kind ∧ other.indent = entry.indent ∧ other.start = entry.start := by
  have same := shared id positive before
  rw [read, Option.map_some] at same
  obtain ⟨other, readOther, bare⟩ := Option.map_eq_some_iff.mp same.symm
  have parts := congrArg (fun entry : Entry => (entry.kind, entry.indent, entry.start)) bare
  simp only [Entry.bare, Prod.mk.injEq] at parts
  exact ⟨other, readOther, parts⟩

theorem indent_le_below (chars : List Char) (table : Table) (sound : Sound chars table) (each : table.Each IsPlaced)
    (top id : Nat) (upper lower : Entry) (left right : Nat) (under : table.Under top id) (readTop : table[top]? = some upper)
    (topStep : upper.kind.isStep = true) (topIndented : upper.indent = some left) (read : table[id]? = some lower)
    (isStep : lower.kind.isStep = true) (indented : lower.indent = some right) : left ≤ right := by
  have topPositive := positive_of_read chars table sound top upper readTop (step_not_root upper topStep)
  have descending := sound_descending chars table sound
  induction under generalizing lower right with
  | here =>
      obtain rfl : upper = lower := Option.some.inj (readTop.symm.trans read)
      obtain rfl : left = right := Option.some.inj (topIndented.symm.trans indented)
      exact Nat.le_refl left
  | step id parent entry readEntry child above ih =>
      obtain rfl : entry = lower := Option.some.inj (readEntry.symm.trans read)
      have positive := positive_of_read chars table sound id entry read (step_not_root entry isStep)
      obtain ⟨hung, host, childHung, _, readHost, notRaw, _, _⟩ := (sound.shaped id entry positive read).hangs
      obtain rfl : parent = hung := Option.some.inj (child.symm.trans childHung)
      have hostStep : host.kind.isStep = true := by
        by_cases same : top = parent
        · rw [Option.some.inj (readHost.symm.trans (same ▸ readTop))]
          exact topStep
        · have order := table.under_le descending top parent above
          exact step_below_document chars table sound top parent host topPositive (by omega) above readHost notRaw
      have hostPositive := positive_of_read chars table sound parent host readHost (step_not_root host hostStep)
      obtain ⟨between, hostIndented⟩ := (sound.shaped parent host hostPositive readHost).indented hostStep
      have first := ih host between readHost hostStep hostIndented
      obtain ⟨document, placedParent, placed⟩ := each id entry positive read
      obtain rfl : parent = placedParent := Option.some.inj (child.symm.trans placed.hangs)
      obtain ⟨top, readDocument, isDocument⟩ := placed.top
      have different : document ≠ parent := by
        rintro rfl
        rw [Option.some.inj (readHost.symm.trans readDocument), isDocument] at hostStep
        cases hostStep
      -- A key is indented more than its parent, an item no less.
      cases kindEq : entry.kind with
      | key =>
          obtain ⟨own, ownIndented, nearest⟩ := placed.key kindEq
          obtain rfl : right = own := Option.some.inj (indented.symm.trans ownIndented)
          have within := nearest.within
          obtain ⟨found, readFound, _, holds⟩ := nearest.suitable (by omega)
          obtain rfl : host = found := Option.some.inj (readHost.symm.trans readFound)
          have less : between < right := by simpa [keyLevel, hostIndented] using holds
          omega
      | item =>
          obtain ⟨own, ownIndented, nearest⟩ := placed.item kindEq
          obtain rfl : right = own := Option.some.inj (indented.symm.trans ownIndented)
          have within := nearest.within
          obtain ⟨found, readFound, _, holds⟩ := nearest.suitable (by omega)
          obtain rfl : host = found := Option.some.inj (readHost.symm.trans readFound)
          simp only [itemLevel, hostIndented, Option.getD_some, Bool.or_eq_true, Bool.and_eq_true, decide_eq_true_eq] at holds
          omega
      | _ => simp [kindEq, Kind.isStep] at isStep

theorem document_not_below (chars : List Char) (table : Table) (sound : Sound chars table) (top id : Nat) (entry : Entry)
    (positive : 0 < top) (order : top < id) (read : table[id]? = some entry) (isDocument : entry.kind = .document) :
    ¬ table.Under top id := by
  intro under
  have isStep := step_below_document chars table sound top id entry positive order under read (by simp [isDocument])
  rw [isDocument] at isStep
  cases isStep

section

variable (oldChars newChars : List Char) (old new : Table) (place around column : Nat)

theorem between_deeper (sound : Sound oldChars old) (placed : old.Each IsPlaced) (positive : 0 < around)
    (under : old.Under around place)
    (aligned : ∀ child entry left, child < place → old[child]? = some entry → entry.parent = some around →
      entry.indent = some left → left = column)
    (between left : Nat) (entry : Entry) (after : around < between) (before : between < place)
    (read : old[between]? = some entry) (isStep : entry.kind.isStep = true) (indented : entry.indent = some left) :
    column ≤ left := by
  have descending := sound_descending _ _ sound
  have below := old.under_between (sound_preordered _ _ sound) around between place (by omega) (by omega) under
  obtain ⟨child, childEntry, readChild, hangs, under⟩ := under_child old around between (by omega) below
  have order := old.under_le descending child between under
  have smaller := descending child childEntry around readChild hangs
  have childStep : childEntry.kind.isStep = true := by
    by_cases same : child = between
    · rw [Option.some.inj (readChild.symm.trans (same ▸ read))]
      exact isStep
    · exact step_below_document _ old sound around child childEntry positive smaller
        (.step child around childEntry readChild hangs .here) readChild
        (under_not_raw _ old sound child between same under childEntry readChild)
  obtain ⟨own, ownIndented⟩ := (sound.shaped child childEntry (by omega) readChild).indented childStep
  obtain rfl : own = column := aligned child childEntry own (by omega) readChild hangs ownIndented
  exact indent_le_below _ old sound placed child between childEntry entry own left under readChild childStep ownIndented
    read isStep indented

theorem key_lands (oldSound : Sound oldChars old) (newSound : Sound newChars new) (oldPlaced : old.Each IsPlaced)
    (newPlaced : new.Each IsPlaced) (shared : SharesBefore old new place) (host key : Entry)
    (readHost : old[around]? = some host) (notRoot : host.kind ≠ .root) (before : around < place)
    (under : old.Under around place)
    (aligned : ∀ child entry left, child < place → old[child]? = some entry → entry.parent = some around →
      entry.indent = some left → left = column)
    (deeper : host.kind = .document ∨ ∃ own, host.indent = some own ∧ own < column)
    (readKey : new[place]? = some key) (isKey : key.kind = .key) (indented : key.indent = some column) :
    key.parent = some around := by
  have positive := positive_of_read _ old oldSound around host readHost notRoot
  obtain ⟨document, parent, placed⟩ := newPlaced place key (by omega) readKey
  obtain ⟨own, ownIndented, nearest⟩ := placed.key isKey
  obtain rfl : column = own := Option.some.inj (indented.symm.trans ownIndented)
  obtain ⟨top, readTop, isDocument⟩ := placed.top
  obtain ⟨parentBefore, _⟩ := sound_hangs _ new newSound place key parent readKey placed.hangs
  have topPositive := positive_of_read _ new newSound document top readTop (by simp [isDocument])
  have within := nearest.within
  have notAfter : document ≤ around := by
    apply Nat.le_of_not_lt
    intro after
    obtain ⟨other, readOther, kindEq, _⟩ := shares_read new old place document top (shares_symm old new place shared)
      topPositive (by omega) readTop
    exact document_not_below _ old oldSound around document other positive after readOther (by rw [kindEq, isDocument])
      (old.under_between (sound_preordered _ _ oldSound) around document place (by omega) (by omega) under)
  obtain ⟨hostNew, readHostNew, hostKind, hostIndent, _⟩ := shares_read old new place around host shared positive before readHost
  rw [placed.hangs]
  congr 1
  rcases Nat.lt_trichotomy parent around with less | same | greater
  · -- The block is no document, for the key is not below two of them, so it suits.
    exfalso
    have notTop : host.kind ≠ .document := fun isTop =>
      document_not_below _ new newSound document around hostNew topPositive (by omega) readHostNew (by rw [hostKind, isTop])
        (new.under_between (sound_preordered _ _ newSound) document around place notAfter (by omega) placed.under)
    have notRaw := under_not_raw _ old oldSound around place (by omega) under host readHost
    have isStep : host.kind.isStep = true := by
      cases kindEq : host.kind <;> simp_all [Kind.isStep]
    obtain ⟨left, leftEq, leftOf⟩ := deeper.resolve_left notTop
    have misses := nearest.nearest around hostNew less before readHostNew (by rw [hostKind, isStep])
    simp [keyLevel, hostIndent, leftEq] at misses
    omega
  · exact same
  · -- What suits is indented less than the children of the block, so it does not stand between.
    exfalso
    obtain ⟨found, readFound, isStep, holds⟩ := nearest.suitable (by omega)
    obtain ⟨foundOld, readOld, foundKind, foundIndent, _⟩ := shares_read new old place parent found
      (shares_symm old new place shared) (by omega) parentBefore readFound
    obtain ⟨left, leftEq⟩ := (oldSound.shaped parent foundOld (by omega) readOld).indented (by rw [foundKind, isStep])
    have order := between_deeper oldChars old place around column oldSound oldPlaced positive under aligned parent left
      foundOld greater parentBefore readOld (by rw [foundKind, isStep]) leftEq
    have leftOf : left < column := by simpa [keyLevel, ← foundIndent, leftEq] using holds
    omega

end

end YamlDialects.Outline
