import Mathlib.Data.List.Basic
import YamlDialects.Proofs.Outline.Landing
import YamlDialects.Proofs.Outline.Landmarks
import YamlDialects.Proofs.Text.Offset

set_option autoImplicit false

namespace YamlDialects

namespace Outline

theorem table_of_text (text : String) (relaxed : Bool) : (ofText text relaxed).table = tableOf text.toList := rfl

theorem of_text_placed (text : String) (relaxed : Bool) : (ofText text relaxed).table.Each IsPlaced := by
  rw [table_of_text]
  exact table_of_placed text.toList

theorem landmark_known (text : String) (entry : Entry) :
    (entry.landmark? text).isSome = (entry.kind.isStep || entry.kind == .document) := by
  unfold Entry.landmark?
  cases entry.kind <;> rfl

theorem landmarks_bare (text : String) (table : Table) (count : Nat) :
    table.landmarks text count = (table.bare.take count).filterMap (Entry.landmark? text) := by
  rw [Table.landmarks, Table.bare, ← List.map_take, List.filterMap_map]
  rfl

theorem bare_get (table : Table) (id : Nat) : table.bare[id]? = table[id]?.map Entry.bare := by
  rw [Table.bare, List.getElem?_map, Array.getElem?_toList]

theorem landmark_within (before after other : List Char) (whole changed : String) (split : whole.toList = before ++ after)
    (splitChanged : changed.toList = before ++ other) (entry : Entry)
    (within : entry.kind = .key → ∃ colon, entry.colon = some colon ∧ colon ≤ Text.byteLength before) :
    entry.landmark? whole = entry.landmark? changed := by
  unfold Entry.landmark?
  cases kindEq : entry.kind with
  | key =>
      obtain ⟨colon, known, le⟩ := within kindEq
      simp [Entry.name, known, Text.slice, split, splitChanged, Text.slice_within before _ _ colon le]
  | _ => rfl

section

variable {slot : Slot} {count column : Nat} {name content : List Char} (insertion : Insertion slot count column name content)
variable (text accepted : String) (oldWhole : text.toList = slot.fill (blanks count))
variable (newWhole : accepted.toList = slot.fill content)

include oldWhole

theorem insertion_blank : BlankAt slot count text (insertion.earlier.length + 1) :=
  blank_at slot count text oldWhole insertion.earlier _
    (fun final => by rw [later_entries_nil slot final]; rfl) insertion.old

theorem earlier_colon (entry : Entry) (member : entry ∈ insertion.earlier) (isKey : entry.kind = .key) :
    ∃ colon, entry.colon = some colon ∧ colon ≤ Text.byteLength slot.before := by
  obtain ⟨index, at_⟩ := List.mem_iff_getElem?.mp member
  have bound := (List.getElem?_eq_some_iff.mp at_).1
  have sound := table_of_sound text.toList
  have blank := insertion_blank insertion text oldWhole
  obtain ⟨found, readFound, bare⟩ := bare_read (tableOf text.toList) (index + 1) entry (by
    rw [oldWhole, insertion.old, List.getElem?_cons_succ, List.getElem?_append_left bound, at_])
  obtain ⟨last, readLast, lastBare⟩ := blank.read
  have foundKey : found.kind = .key := by rw [← isKey, ← bare]; rfl
  have starts : last.start = slot.start := congrArg Entry.start lastBare
  have order := (entries_in_order _ _ sound (index + 1) (insertion.earlier.length + 1) found last (by omega) (by omega)
    readFound readLast).2.2
  obtain ⟨_, key, _, _, _, _, colon, onLine, ends⟩ := (sound.shaped (index + 1) found (by omega) readFound).keyText foundKey
  refine ⟨found.start + Text.byteLength key, by rw [← bare]; exact colon, ?_⟩
  rcases order with apart | ⟨isItem, _⟩
  · rw [Slot.start] at starts
    omega
  · rw [foundKey] at isItem
    cases isItem

include newWhole

theorem insertion_shares (relaxed : Bool) :
    SharesBefore (ofText text relaxed).table (ofText accepted relaxed).table (insertion.earlier.length + 1) := by
  intro id positive before
  rw [table_of_text, table_of_text]
  obtain ⟨index, rfl⟩ : ∃ less, id = less + 1 := ⟨id - 1, by omega⟩
  rw [← bare_get, ← bare_get, oldWhole, insertion.old, newWhole, insertion.new, List.getElem?_cons_succ,
    List.getElem?_cons_succ, List.getElem?_append_left (by omega), List.getElem?_append_left (by omega)]

theorem earlier_landmarks (entries : List Entry) (among : entries ⊆ insertion.earlier) :
    entries.filterMap (Entry.landmark? text) = entries.filterMap (Entry.landmark? accepted) := by
  apply List.filterMap_congr
  intro entry member
  exact landmark_within slot.before _ _ text accepted oldWhole newWhole entry
    fun isKey => earlier_colon insertion text oldWhole entry (among member) isKey

theorem path_before (relaxed : Bool) (id : Nat) (before : id ≤ insertion.earlier.length)
    (known : ((Block.mk (ofText text relaxed) id).entry.landmark? text).isSome = true) :
    (Block.mk (ofText accepted relaxed) id).path = (Block.mk (ofText text relaxed) id).path := by
  have shared := insertion_shares insertion text accepted oldWhole newWhole relaxed
  have landmarks : (Block.mk (ofText accepted relaxed) id).landmarks = (Block.mk (ofText text relaxed) id).landmarks := by
    change (tableOf accepted.toList).landmarks accepted (id + 1) = (tableOf text.toList).landmarks text (id + 1)
    rw [landmarks_bare, landmarks_bare, oldWhole, newWhole, insertion.old, insertion.new, List.take_succ_cons,
      List.take_succ_cons, List.take_append_of_le_length before, List.take_append_of_le_length before]
    have same := earlier_landmarks insertion text accepted oldWhole newWhole (insertion.earlier.take id) (List.take_subset _ _)
    exact same.symm
  rw [Block.path_of_landmark text relaxed ⟨ofText text relaxed, id⟩ rfl known,
    Block.path_of_landmark accepted relaxed ⟨ofText accepted relaxed, id⟩ rfl ?_, landmarks]
  rw [landmark_known] at known ⊢
  have notRoot : (Block.mk (ofText text relaxed) id).kind ≠ .root := by
    intro isRoot
    rw [show Entry.kind _ = .root from isRoot] at known
    cases known
  have read := (Block.mk (ofText text relaxed) id).read_entry (Block.bound_of_kind _ notRoot)
  have positive := positive_of_read _ _ (of_text_sound text relaxed) id _ read notRoot
  obtain ⟨other, readOther, kindEq, _⟩ := shares_read _ _ _ id _ shared positive (by omega) read
  rw [Block.entry_of_read ⟨ofText accepted relaxed, id⟩ other readOther, kindEq]
  exact known

end

end Outline
end YamlDialects

namespace YamlDialects.Outline

structure EndsAs (slot : Slot) (text : String) (front : List Entry) where
  before : List Char
  split : text.toList = before ++ slot.after
  entries : (tableOf text.toList).bare = Table.rootOf (Text.byteLength text.toList) ::
    (front ++ slot.laterEntries.map (Entry.shift (Text.byteLength before)))

namespace EndsAs

variable {slot : Slot} {text : String} {front : List Entry} (ending : EndsAs slot text front)

include ending

theorem size (relaxed : Bool) : (ofText text relaxed).size = front.length + 1 + slot.laterEntries.length := by
  have width := congrArg List.length ending.entries
  rw [bare_size, List.length_cons, List.length_append, List.length_map] at width
  rw [Outline.size, table_of_text, width]
  omega

theorem later_entry (relaxed : Bool) (index : Nat) (entry : Entry) (read : slot.laterEntries[index]? = some entry) :
    ∃ found, (ofText text relaxed).table[front.length + 1 + index]? = some found ∧
      found.bare = entry.shift (Text.byteLength ending.before) := by
  refine bare_read _ _ _ ?_
  rw [table_of_text, ending.entries, show front.length + 1 + index = front.length + index + 1 by omega,
    List.getElem?_cons_succ, List.getElem?_append_right (by omega), Nat.add_sub_cancel_left, List.getElem?_map, read]
  rfl

theorem later_block (relaxed : Bool) (index : Nat) (entry : Entry) (read : slot.laterEntries[index]? = some entry) :
    (Block.mk (ofText text relaxed) (front.length + 1 + index)).kind = entry.kind ∧
      (Block.mk (ofText text relaxed) (front.length + 1 + index)).indent = entry.indent ∧
      (Block.mk (ofText text relaxed) (front.length + 1 + index)).start = Text.byteLength ending.before + entry.start ∧
      (Block.mk (ofText text relaxed) (front.length + 1 + index)).key? =
        entry.colon.map (Text.slice (String.ofList slot.after) entry.start) := by
  obtain ⟨found, readFound, bare⟩ := ending.later_entry relaxed index entry read
  have entryEq := Block.entry_of_read ⟨ofText text relaxed, front.length + 1 + index⟩ found readFound
  have parts := congrArg (fun entry : Entry => (entry.kind, entry.indent, entry.start, entry.colon)) bare
  simp only [Entry.bare, Entry.shift, Prod.mk.injEq] at parts
  obtain ⟨kindEq, indentEq, startEq, colonEq⟩ := parts
  refine ⟨by rw [Block.kind, entryEq, kindEq], by rw [Block.indent, entryEq, indentEq], by rw [Block.start, entryEq, startEq], ?_⟩
  rw [Block.key?, Block.colon?, Block.start, entryEq, colonEq, startEq, Option.map_map]
  refine congrArg (Option.map · entry.colon) (funext fun colon => ?_)
  simp [Text.slice, ofText, ending.split, Text.slice_behind]

end EndsAs

end YamlDialects.Outline
