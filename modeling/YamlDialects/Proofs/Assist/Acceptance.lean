import YamlDialects.Assist.Completion
import YamlDialects.Proofs.Assist.Snippet

set_option autoImplicit false

namespace YamlDialects

namespace Snippet

-- The text that a snippet inserts, with nothing in its placeholder.
def expandChars : List Char → List Char
  | '\\' :: c :: rest => c :: expandChars rest
  | '$' :: '1' :: rest => expandChars rest
  | c :: rest => c :: expandChars rest
  | [] => []

end Snippet

namespace Proposal

def accepted (proposal : Proposal) (text : String) : String :=
  String.ofList ((Text.takeBytes? text.toList proposal.replaced.start).getD [] ++
    (Snippet.expandChars proposal.insertion.toList ++ (Text.dropBytes? text.toList proposal.replaced.stop).getD []))

def withoutArrows : List Char → List Char
  | '→' :: ' ' :: rest => withoutArrows rest
  | '←' :: ' ' :: rest => withoutArrows rest
  | label => label

-- The proposal is shown under the name. Its arrows tell how far it has been moved, and are not inserted.
structure Spells (proposal : Proposal) (name : List Char) : Prop where
  label : withoutArrows proposal.label.toList = name
  unmarked : ∀ count arrow rest, Snippet.expandChars proposal.insertion.toList = Outline.blanks count ++ arrow :: rest →
    arrow ≠ '→' ∧ arrow ≠ '←'

end Proposal

namespace Snippet

open Outline

theorem expand_plain (chars rest : List Char) (plain : ∀ c ∈ chars, c ≠ '\\' ∧ c ≠ '$') :
    expandChars (chars ++ rest) = chars ++ expandChars rest := by
  induction chars with
  | nil => rfl
  | cons c chars ih =>
      obtain ⟨⟨notBackslash, notDollar⟩, others⟩ := List.forall_mem_cons.mp plain
      rw [List.cons_append, List.cons_append, expandChars.eq_def, ← ih others]
      split <;> simp_all

end Snippet

inductive KeyEnd where
  | value
  | item
  | nested

namespace KeyEnd

open Outline Snippet

def snippet (ending : KeyEnd) (column : Nat) : List Char :=
  match ending with
  | value => [ ' ', '$', '1']
  | item => '\n' :: (blanks column ++ [ '-', ' ', '$', '1'])
  | nested => '\n' :: (blanks (column + 2) ++ [ '$', '1'])

def written (ending : KeyEnd) (column : Nat) : List Char :=
  match ending with
  | value => [ ' ']
  | item => '\n' :: (blanks column ++ [ '-', ' '])
  | nested => '\n' :: blanks (column + 2)

theorem continuation_spec (schema : Schema) (type : TypeId) :
    ∃ ending : KeyEnd, (Completion.continuation schema type).toList = ending.snippet 0 := by
  unfold Completion.continuation
  split
  · exact ⟨value, rfl⟩
  · split
    · exact ⟨item, by decide⟩
    · split
      · exact ⟨nested, by decide⟩
      · exact ⟨value, rfl⟩

theorem snippet_indented (ending : KeyEnd) (column : Nat) : indentChars column (ending.snippet 0) = ending.snippet column := by
  cases ending with
  | value => rfl
  | item => rfl
  | nested =>
      rw [snippet, snippet, blanks_add column 2, List.append_assoc]
      rfl

theorem indent_snippet (ending : KeyEnd) (amount column : Nat) :
    indentChars amount (ending.snippet column) = ending.snippet (amount + column) := by
  rw [← snippet_indented, indent_indent, snippet_indented, Nat.add_comm]

theorem dedent_snippet (ending : KeyEnd) (amount column : Nat) :
    dedentChars amount 0 (ending.snippet (amount + column)) = ending.snippet column := by
  rw [← snippet_indented, dedent_indent, snippet_indented]

theorem expand_snippet (ending : KeyEnd) (column : Nat) : expandChars (ending.snippet column) = ending.written column := by
  have plain (count : Nat) : ∀ c ∈ '\n' :: blanks count, c ≠ '\\' ∧ c ≠ '$' := by
    intro c member
    rcases List.mem_cons.mp member with rfl | blank
    · decide
    · rw [blanks_plain count c blank]
      decide
  cases ending with
  | value => rfl
  | item =>
      rw [snippet, ← List.cons_append, expand_plain _ _ (plain column)]
      rfl
  | nested =>
      rw [snippet, ← List.cons_append, expand_plain _ _ (plain (column + 2)), written]
      exact List.append_nil _

theorem key_content (ending : KeyEnd) (column count : Nat) (name : List Char) :
    KeyContent column name (blanks column ++ (name ++ ':' :: (ending.written column ++ blanks count))) := by
  cases ending with
  | value => exact .value count
  | item =>
      have same : KeyContent column name _ := .item count
      simpa [written] using same
  | nested =>
      have same : KeyContent column name _ := .nested (column + 2 + count)
      simpa [written, blanks, List.replicate_append_replicate] using same

end KeyEnd

namespace Outline

theorem simple_key_plain (name : List Char) (simple : IsSimpleKey name) (c : Char) (member : c ∈ name) :
    c ≠ '\n' ∧ c ≠ '\\' ∧ c ≠ '$' ∧ Snippet.isSpecial c = false := by
  obtain ⟨_, _, _, _, inside⟩ := simple_key_cons name simple
  have ne := fun other outside => key_char_ne c other (inside c member) outside
  have backslash := ne '\\' (by decide +kernel)
  have dollar := ne '$' (by decide +kernel)
  have brace := ne '}' (by decide +kernel)
  exact ⟨ne '\n' (by decide +kernel), backslash, dollar, by simp [Snippet.isSpecial, backslash, dollar, brace]⟩

end Outline

namespace Cursor

open Outline

variable (text : String) (slot : Slot) (column : Nat) (rest : List Char)

theorem split_at (before after : List Char) (split : text.toList = before ++ after) :
    Text.splitBytes text.toList (Text.byteLength before) = (before, after) := by
  rw [Text.splitBytes, split, Text.take_bytes_append, Text.drop_bytes_append]

theorem line_before_blanks (split : text.toList = slot.before ++ blanks column ++ rest) :
    lineBefore text (slot.start + column) = blanks column := by
  have keeps : ∀ c ∈ (blanks column).reverse, (c != '\n') = true := by
    intro c member
    simpa using Snippet.blanks_not_feed column c (List.mem_reverse.mp member)
  rw [lineBefore, ← Slot.length_before, split_at text _ rest split]
  dsimp only
  rw [List.reverse_append, List.takeWhile_append_of_pos keeps]
  have stops : slot.before.reverse.takeWhile (· != '\n') = [] := by
    rcases slot.closed with empty | ⟨earlier, ends⟩
    · simp [empty]
    · simp [ends]
  rw [stops, List.append_nil, List.reverse_reverse]

theorem column_blanks (split : text.toList = slot.before ++ blanks column ++ rest) :
    Cursor.column text (slot.start + column) = column := by
  rw [Cursor.column, line_before_blanks text slot column rest split, blanks, List.length_replicate]

theorem line_start_blanks (split : text.toList = slot.before ++ blanks column ++ rest) :
    lineStart text (slot.start + column) = slot.start := by
  rw [lineStart, line_before_blanks text slot column rest split,
    show Text.byteLength (blanks column) = column from Text.byte_length_spaces column, Nat.add_sub_cancel]

theorem last_before (c : Char) (last : (slot.before ++ blanks column).getLast? = some c) : c = ' ' ∨ c = '\n' := by
  cases column with
  | zero =>
      rcases slot.closed with empty | ⟨earlier, ends⟩
      · simp [blanks, empty] at last
      · right
        simpa [blanks, ends, eq_comm] using last
  | succ count =>
      left
      simpa [blanks, List.replicate_succ', List.getLast?_append, eq_comm] using last

theorem follows_blanks (split : text.toList = slot.before ++ blanks column ++ rest) :
    followsBlank text (slot.start + column) = true := by
  rw [followsBlank, ← Slot.length_before, split_at text _ rest split]
  dsimp only
  cases last : (slot.before ++ blanks column).getLast? with
  | none => rfl
  | some c =>
      rcases last_before slot column c last with rfl | rfl <;> rfl

end Cursor

end YamlDialects
