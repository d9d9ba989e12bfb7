import YamlDialects.Proofs.Assist.Proposing
import YamlDialects.Proofs.Outline.Keeping

set_option autoImplicit false

namespace YamlDialects

open Outline

namespace Block

def HoldsAligned (around current : Block) : Prop :=
  ∃ shared, ∀ child ∈ around.children, child.id ≠ current.id → ∀ own, child.indent = some own →
    own = shared ∧ (around.kind = .document ∨ around.indent.any (· < shared) = true)

end Block

namespace Completion

def columnAt (completion : Completion) (current : Block) : Nat :=
  let cursorColumn := Cursor.column completion.text completion.cursor.offset
  (current.indent.map (min · cursorColumn)).getD cursorColumn

def madeFor (completion : Completion) (current around : Block) : List Proposal :=
  (completion.inBlock current around).filterMap (completion.moved? current around (completion.columnAt current))

structure Acceptance (text : String) (relaxed : Bool) (start : Nat) (current : Block) (proposal : Proposal) (wanted : Nat)
    (name : List Char) where
  slot : Slot
  count : Nat
  column : Nat
  ending : KeyEnd
  writes : Writes slot column wanted name ending proposal
  within : column ≤ count
  insertion : Insertion slot count wanted name
    (blanks wanted ++ (name ++ ':' :: (ending.written wanted ++ blanks (count - column))))
  whole : text.toList = slot.fill (blanks count)
  changed : (proposal.accepted text).toList =
    slot.fill (blanks wanted ++ (name ++ ':' :: (ending.written wanted ++ blanks (count - column))))
  start : slot.start = start
  current : current = ⟨Outline.ofText text relaxed, insertion.earlier.length + 1⟩

theorem spells_undashed (proposal result : Proposal) (name : List Char) (simple : IsSimpleKey name) (label : String)
    (dashed : proposal.label = "- " ++ label)
    (moved : Proposal.withoutArrows result.label.toList = Proposal.withoutArrows proposal.label.toList)
    (spells : result.Spells name) : False := by
  obtain ⟨first, rest, split, word, _⟩ := simple_key_cons name simple
  have same := spells.label
  rw [moved, dashed, String.toList_append, split] at same
  obtain ⟨dash, _⟩ := List.cons.inj (show '-' :: _ = first :: rest from same)
  rw [← dash] at word
  exact absurd word (by decide +kernel)

theorem blank_line_slot (text : String) (line : Line) (member : line ∈ lines text.toList) (blank : ∀ c ∈ line.chars, c = ' ') :
    ∃ slot : Slot, text.toList = slot.fill (blanks line.chars.length) ∧ line.start = slot.start ∧
      line.contentStop = slot.start + line.chars.length := by
  obtain ⟨slot, split, start, contentStop⟩ := line_slot text.toList line member
  have chars : line.chars = blanks line.chars.length := List.eq_replicate_of_mem blank
  refine ⟨slot, by rw [← chars]; exact split, start, ?_⟩
  rw [contentStop, chars, show Text.byteLength (blanks _) = _ from Text.byte_length_spaces _, blanks, List.length_replicate]

section

variable (completion : Completion) (text : String) (relaxed : Bool) (line : Line) (current around : Block)
variable (outline : completion.cursor.outline = Outline.ofText text relaxed)
variable (member : line ∈ lines text.toList) (blank : ∀ c ∈ line.chars, c = ' ')
variable (after : line.start ≤ completion.cursor.offset) (before : completion.cursor.offset ≤ line.contentStop)
variable (found : completion.cursor.outline.find? completion.cursor.offset = some current)

include outline member blank after before found

theorem found_blank : ∃ slot id, text.toList = slot.fill (blanks line.chars.length) ∧ line.start = slot.start ∧
    line.contentStop = slot.start + line.chars.length ∧ BlankAt slot line.chars.length text id ∧
      current = ⟨Outline.ofText text relaxed, id⟩ := by
  obtain ⟨slot, whole, start, contentStop⟩ := blank_line_slot text line member blank
  obtain ⟨id, blankAt⟩ := blank_exists slot line.chars.length text whole
  have search := find_blank slot line.chars.length text relaxed id blankAt completion.cursor.offset (by omega) (by omega)
  rw [outline] at found
  exact ⟨slot, id, whole, start, contentStop, blankAt, Option.some.inj (found.symm.trans search)⟩

theorem made_acceptance (belongs : around.outline = Outline.ofText text relaxed) (proposal : Proposal)
    (made : proposal ∈ completion.madeFor current around) (isProperty : proposal.kind = .property) (name : List Char)
    (simple : IsSimpleKey name) (spells : proposal.Spells name) :
    Nonempty (Acceptance text relaxed line.start current proposal (childColumn around current false) name) := by
  obtain ⟨slot, id, whole, start, contentStop, blankAt, place⟩ :=
    found_blank completion text relaxed line current outline member blank after before found
  have textEq : completion.text = text := by rw [Completion.text, Cursor.text, outline]; rfl
  obtain ⟨column, offset⟩ : ∃ column, completion.cursor.offset = slot.start + column :=
    ⟨completion.cursor.offset - slot.start, by omega⟩
  have onBlank : completion.OnBlank slot line.chars.length column := ⟨by rw [textEq]; exact whole, offset, by omega⟩
  obtain ⟨isRaw, unindented, _⟩ := blank_spec slot line.chars.length text relaxed id blankAt
  rw [← place] at isRaw unindented
  have columnEq : completion.columnAt current = column := by
    rw [columnAt, unindented, offset, Cursor.column_blanks _ slot column _ (on_blank_split completion slot _ column onBlank)]
    rfl
  obtain ⟨own, offered, moved⟩ := List.mem_filterMap.mp made
  rw [columnEq] at moved
  obtain ⟨kindEq, labelEq⟩ := moved_label completion current around column own proposal moved
  rcases in_block_property completion slot line.chars.length column current onBlank relaxed around (by rw [textEq]; exact belongs)
    own offered (by rw [← kindEq]; exact isProperty) with ⟨type, insertion, replaced⟩ | ⟨label, dashed⟩
  · have label := (spells_iff_label completion slot _ column current around onBlank isRaw own proposal name simple type
      insertion replaced moved).mp spells
    obtain ⟨ending, ⟨writes⟩⟩ := moved_writes completion slot _ column current around onBlank isRaw own proposal name simple type
      label insertion replaced moved
    obtain ⟨placed⟩ := slot_insertion slot line.chars.length _ name _ simple
      (ending.key_content (childColumn around current false) (line.chars.length - column) name)
    exact ⟨{
      slot, count := line.chars.length, column, ending, writes, whole
      within := onBlank.within
      insertion := placed
      changed := writes_accepted slot _ column _ name ending proposal text whole onBlank.within writes
      start := start.symm
      current := by
        have here := find_blank slot _ text relaxed _ (insertion_blank placed text whole) completion.cursor.offset (by omega) (by omega)
        rw [outline] at found
        exact Option.some.inj (found.symm.trans here) }⟩
  · exact (spells_undashed own proposal name simple label dashed labelEq spells).elim

end

theorem child_column_spec (around current : Block) (aligned : around.HoldsAligned current) :
    (∀ child ∈ around.children, child.id ≠ current.id → ∀ own, child.indent = some own →
      own = childColumn around current false) ∧
    (around.kind = .document ∨ ∀ own, around.indent = some own → own < childColumn around current false) := by
  obtain ⟨shared, same⟩ := aligned
  unfold childColumn
  cases greatest : ((around.children.filter (·.id != current.id)).filterMap Block.indent).max? with
  | none =>
      have none := List.max?_eq_none_iff.mp greatest
      constructor
      · intro child member other own indented
        have listed : own ∈ (around.children.filter (·.id != current.id)).filterMap Block.indent :=
          List.mem_filterMap.mpr ⟨child, List.mem_filter.mpr ⟨member, by simpa using other⟩, indented⟩
        rw [none] at listed
        cases listed
      · by_cases isDocument : around.kind = .document
        · exact .inl isDocument
        · refine .inr fun own indented => ?_
          simp [isDocument, indented, Proposal.indentWidth]
  | some column =>
      obtain ⟨one, among, indented⟩ := List.mem_filterMap.mp (List.max?_mem greatest)
      obtain ⟨member, other⟩ := List.mem_filter.mp among
      obtain ⟨rfl, deeper⟩ := same one member (by simpa using other) column indented
      refine ⟨fun child childMember different own ownIndented => (same child childMember different own ownIndented).1, ?_⟩
      refine deeper.imp_right fun less own ownIndented => ?_
      simpa [ownIndented] using less

-- A key of the name stands on the line that starts at the offset, in a block that is the given one but for the text.
def Lands (outline : Outline) (start : Nat) (name : List Char) (around : Block) : Prop :=
  ∃ key ∈ outline.blocks, key.kind = .key ∧ key.key? = some (String.ofList name) ∧
    Cursor.lineStart outline.text key.start = start ∧ ∃ parent, key.parent? = some parent ∧
      parent.kind = around.kind ∧ parent.start = around.start ∧ parent.path = around.path

theorem inserted_key (slot : Slot) (count column : Nat) (name content rest : List Char) (text : String) (relaxed : Bool)
    (insertion : Insertion slot count column name content) (whole : text.toList = slot.fill content)
    (split : content = blanks column ++ (name ++ rest)) : ∃ (entry : Entry),
      (Outline.ofText text relaxed).table[insertion.earlier.length + 1]? = some entry ∧ entry.kind = .key ∧
        entry.indent = some column ∧
        (Block.mk (Outline.ofText text relaxed) (insertion.earlier.length + 1)).key? = some (String.ofList name) ∧
          Cursor.lineStart (Outline.ofText text relaxed).text entry.start = slot.start := by
  obtain ⟨entry, read, bare⟩ := bare_read (tableOf text.toList) (insertion.earlier.length + 1) insertion.key (by
    rw [whole, insertion.new, List.getElem?_cons_succ, List.getElem?_append_right (Nat.le_refl _), Nat.sub_self]
    rfl)
  have parts := congrArg (fun entry : Entry => (entry.kind, entry.indent, entry.start, entry.colon)) bare
  simp only [Entry.bare, Prod.mk.injEq, insertion.isKey, insertion.indented, insertion.start, insertion.colon] at parts
  obtain ⟨isKey, indented, start, colon⟩ := parts
  have cut : text.toList = (slot.before ++ blanks column) ++ (name ++ (rest ++ slot.after)) := by
    rw [whole, Slot.fill, split]
    simp only [List.append_assoc]
  have entryEq := Block.entry_of_read ⟨Outline.ofText text relaxed, insertion.earlier.length + 1⟩ entry read
  refine ⟨entry, read, isKey, indented, ?_, ?_⟩
  · rw [Block.key?, Block.colon?, Block.start, entryEq, colon, Option.map_some, start]
    exact congrArg some (Text.slice_of_split text (slot.before ++ blanks column) name (rest ++ slot.after) _ _ cut
      (Slot.length_before slot column) rfl)
  · rw [start]
    exact Cursor.line_start_blanks text slot column (name ++ (rest ++ slot.after)) cut

theorem candidate_spec (cursor : Cursor) (text : String) (relaxed : Bool) (column : Nat) (current around : Block)
    (belongs : current.outline = Outline.ofText text relaxed) (isRaw : current.kind = .raw)
    (among : around ∈ candidates cursor current column) : around.outline = Outline.ofText text relaxed ∧
      (Outline.ofText text relaxed).table.Under around.id current.id ∧
        (around.kind.isStep || around.kind == .document) = true := by
  obtain ⟨outline, id⟩ := current
  obtain rfl : outline = Outline.ofText text relaxed := belongs
  unfold candidates at among
  rw [isRaw] at among
  obtain ⟨above, holds⟩ := List.mem_filter.mp among
  obtain ⟨same, under⟩ := (Block.mem_ancestry text.toList (Outline.ofText text relaxed) id (of_text_sound text relaxed)
    around).mp (List.mem_reverse.mp above)
  refine ⟨same, under, ?_⟩
  simp only [Bool.and_eq_true] at holds
  have step := holds.1
  unfold Block.segment? at step
  cases kindEq : around.kind <;> simp_all [Kind.isStep]

theorem lands_of_parts (old new : Outline) (start place host : Nat) (name : List Char) (key hostOld hostNew : Entry)
    (readKey : new.table[place]? = some key) (readOld : old.table[host]? = some hostOld)
    (readNew : new.table[host]? = some hostNew) (isKey : key.kind = .key) (hangs : key.parent = some host)
    (spelled : (Block.mk new place).key? = some (String.ofList name)) (lineStart : Cursor.lineStart new.text key.start = start)
    (kindEq : hostNew.kind = hostOld.kind) (startEq : hostNew.start = hostOld.start)
    (path : (Block.mk new host).path = (Block.mk old host).path) : Lands new start name ⟨old, host⟩ := by
  have keyEq := Block.entry_of_read ⟨new, place⟩ key readKey
  have newEq := Block.entry_of_read ⟨new, host⟩ hostNew readNew
  have oldEq := Block.entry_of_read ⟨old, host⟩ hostOld readOld
  refine ⟨⟨new, place⟩, (mem_blocks _ _).mpr ⟨rfl, Table.read_bound _ _ key readKey⟩, ?_, spelled, ?_, ⟨new, host⟩, ?_, ?_, ?_, path⟩
  · rw [Block.kind, keyEq, isKey]
  · rw [Block.start, keyEq, lineStart]
  · rw [Block.parent?, keyEq, hangs]
    rfl
  · rw [Block.kind, Block.kind, newEq, oldEq, kindEq]
  · rw [Block.start, Block.start, newEq, oldEq, startEq]

theorem acceptance_lands (text : String) (relaxed : Bool) (start : Nat) (current around : Block) (proposal : Proposal)
    (wanted : Nat) (name : List Char) (acceptance : Acceptance text relaxed start current proposal wanted name)
    (belongs : around.outline = Outline.ofText text relaxed) (isRaw : current.kind = .raw)
    (under : (Outline.ofText text relaxed).table.Under around.id current.id)
    (holds : (around.kind.isStep || around.kind == .document) = true)
    (aligned : ∀ child ∈ around.children, child.id ≠ current.id → ∀ own, child.indent = some own → own = wanted)
    (deeper : around.kind = .document ∨ ∀ own, around.indent = some own → own < wanted) :
    Lands (Outline.ofText (proposal.accepted text) relaxed) start name around := by
  obtain ⟨slot, count, column, ending, writes, within, insertion, whole, changed, rfl, place⟩ := acceptance
  have currentId : current.id = insertion.earlier.length + 1 := congrArg Block.id place
  obtain ⟨entry, read, isKey, indented, spelled, lineStart⟩ := inserted_key slot count _ name _ _ (proposal.accepted text) relaxed
    insertion changed rfl
  have shared := insertion_shares insertion text (proposal.accepted text) whole changed relaxed
  have samePath := path_before insertion text (proposal.accepted text) whole changed relaxed
  have oldSound := of_text_sound text relaxed
  have newSound := of_text_sound (proposal.accepted text) relaxed
  have oldPlaced := of_text_placed text relaxed
  have newPlaced := of_text_placed (proposal.accepted text) relaxed
  obtain ⟨outline, host⟩ := around
  dsimp only at belongs under
  rw [← belongs] at oldSound oldPlaced shared under samePath
  generalize Outline.ofText (proposal.accepted text) relaxed = new at *
  rw [currentId] at under aligned
  have notRoot : (Block.mk outline host).kind ≠ .root := by
    intro isRoot
    rw [isRoot] at holds
    cases holds
  have readHost := Block.read_entry _ (Block.bound_of_kind _ notRoot)
  have positive := positive_of_read _ _ oldSound host _ readHost notRoot
  have notHere : host ≠ insertion.earlier.length + 1 := by
    intro same
    rw [same, belongs, ← place, isRaw] at holds
    cases holds
  have order := Table.under_le _ (sound_descending _ _ oldSound) host _ under
  have deeperHost : (Block.mk outline host).entry.kind = .document ∨
      ∃ own, (Block.mk outline host).entry.indent = some own ∧ own < wanted := by
    rcases deeper with isDocument | less
    · exact .inl isDocument
    · rcases Bool.or_eq_true_iff.mp holds with isStep | isDocument
      · obtain ⟨own, indented⟩ := (oldSound.shaped host _ positive readHost).indented isStep
        exact .inr ⟨own, indented, less own indented⟩
      · exact .inl (beq_iff_eq.mp isDocument)
  have alignedChildren (child : Nat) (childEntry : Entry) (own : Nat) (before : child < insertion.earlier.length + 1)
      (readChild : outline.table[child]? = some childEntry) (childHangs : childEntry.parent = some host)
      (childIndented : childEntry.indent = some own) : own = wanted := by
    have member := (Block.mem_children text.toList ⟨outline, host⟩ ⟨outline, child⟩ oldSound).mpr
      ⟨rfl, childEntry, readChild, childHangs⟩
    refine aligned ⟨outline, child⟩ member (Nat.ne_of_lt before) own ?_
    rw [Block.indent, Block.entry_of_read ⟨outline, child⟩ childEntry readChild, childIndented]
  have hangs := key_lands text.toList (proposal.accepted text).toList outline.table new.table _ host wanted oldSound newSound
    oldPlaced newPlaced shared _ entry readHost notRoot (by omega) under alignedChildren deeperHost read isKey indented
  obtain ⟨hostNew, readHostNew, hostKind, _, hostStart⟩ := shares_read _ _ _ host _ shared positive (by omega) readHost
  exact lands_of_parts outline new slot.start _ host name entry _ hostNew read readHost readHostNew isKey hangs spelled lineStart
    hostKind hostStart (samePath host (by omega) (by rw [landmark_known]; exact holds))

theorem key_lands_in_block (completion : Completion) (text : String) (relaxed : Bool) (line : Line) (current around : Block)
    (outline : completion.cursor.outline = Outline.ofText text relaxed)
    (member : line ∈ lines text.toList) (blank : ∀ c ∈ line.chars, c = ' ')
    (after : line.start ≤ completion.cursor.offset) (before : completion.cursor.offset ≤ line.contentStop)
    (found : completion.cursor.outline.find? completion.cursor.offset = some current)
    (among : around ∈ candidates completion.cursor current (completion.columnAt current))
    (aligned : around.HoldsAligned current) (proposal : Proposal) (made : proposal ∈ completion.madeFor current around)
    (isProperty : proposal.kind = .property) (name : List Char) (simple : IsSimpleKey name) (spells : proposal.Spells name) :
    Lands (Outline.ofText (proposal.accepted text) relaxed) line.start name around := by
  obtain ⟨_, id, _, _, _, blankAt, place⟩ :=
    found_blank completion text relaxed line current outline member blank after before found
  have isRaw : current.kind = .raw := by
    rw [place]
    exact (blank_spec _ _ text relaxed id blankAt).1
  obtain ⟨belongs, under, holds⟩ := candidate_spec completion.cursor text relaxed _ current around (by rw [place]) isRaw among
  obtain ⟨acceptance⟩ := made_acceptance completion text relaxed line current around outline member blank after before found
    belongs proposal made isProperty name simple spells
  obtain ⟨same, deeper⟩ := child_column_spec around current aligned
  exact acceptance_lands text relaxed line.start current around proposal _ name acceptance belongs isRaw under holds same deeper

def nestedSchema : Schema :=
  { graph := { types := #[
      ⟨"string", .atomic, [], none, none, []⟩,
      ⟨"Inner", .bean [{ name := "c", type := 0 }], [], none, none, []⟩,
      ⟨"Outer", .bean [{ name := "b", type := 1 }, { name := "x", type := 0 }], [], none, none, []⟩,
      ⟨"Root", .bean [{ name := "a", type := 2 }], [], none, none, []⟩] } }

-- The cursor stands at the end of a blank line that is less indented than the key above it.
def outdentedText : String :=
  "a:\n  b:\n    c: 1\n  \n"

def outdented : Completion :=
  ⟨nestedSchema, 3, ⟨Outline.ofText outdentedText, 19⟩, true⟩

def outdentedBlock (id : Nat) : Block :=
  ⟨outdented.cursor.outline, id⟩

theorem key_lands_in_block_outdented : ∃ proposal ∈ outdented.madeFor (outdentedBlock 5) (outdentedBlock 2),
    proposal.label = "x" ∧ Lands (Outline.ofText (proposal.accepted outdentedText) false) 17 [ 'x'] (outdentedBlock 2) := by
  have offered : (outdented.madeFor (outdentedBlock 5) (outdentedBlock 2)).any (fun proposal => proposal.kind == .property &&
      (proposal.label == "x" && Snippet.expandChars proposal.insertion.toList == [ 'x', ':', ' '])) = true := by decide +kernel
  obtain ⟨proposal, made, holds⟩ := List.any_eq_true.mp offered
  simp only [Bool.and_eq_true, beq_iff_eq] at holds
  obtain ⟨isProperty, label, inserted⟩ := holds
  have children : ((outdentedBlock 2).children.map fun child => (child.id, child.indent)) = [(3, some 2)] := by decide +kernel
  refine ⟨proposal, made, label, key_lands_in_block outdented outdentedText false ⟨[ ' ', ' '], 17, 19, 20, none⟩
    (outdentedBlock 5) (outdentedBlock 2) rfl (List.mem_of_getElem? (i := 3) rfl) (by simp) (by decide +kernel)
    (by decide +kernel) rfl
    (List.mem_of_getElem? (i := 1) rfl) ⟨2, fun child member _ own indented => ?_⟩ proposal made isProperty [ 'x']
    ⟨by decide +kernel, by simp⟩ (spells_of_inserted proposal [ 'x'] ⟨by decide +kernel, by simp⟩ (by rw [label]; rfl) 0 [ ' '] inserted)⟩
  have found : (child.id, child.indent) ∈ [(3, some 2)] := by
    rw [← children]
    exact List.mem_map_of_mem member
  simp only [List.mem_singleton, Prod.mk.injEq] at found
  rw [found.2] at indented
  exact ⟨(Option.some.inj indented).symm, .inr (by decide +kernel)⟩

end Completion
end YamlDialects
