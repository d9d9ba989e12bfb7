import YamlDialects.Assist.Proposal
import YamlDialects.Proofs.Outline.Insertion
import YamlDialects.Text.Search

set_option autoImplicit false

namespace YamlDialects

namespace Text

theorem replace_sign (sign : Char) (replacement chars : List Char) :
    replaceFrom [sign] replacement 0 chars = chars.flatMap fun c => if c = sign then replacement else [c] := by
  induction chars with
  | nil => rfl
  | cons c rest ih =>
      have occurs : [sign].isPrefixOf (c :: rest) = (sign == c) := Bool.and_true _
      rw [replaceFrom, occurs, List.flatMap_cons, ← ih]
      by_cases same : c = sign
      · rw [if_pos same, if_pos (beq_iff_eq.mpr same.symm)]
        rfl
      · rw [if_neg same, if_neg (mt beq_iff_eq.mp (Ne.symm same))]
        rfl

end Text

namespace Snippet

inductive Part where
  | char (c : Char)
  | opening
  | closing
deriving DecidableEq

-- The parts of a snippet that is read inside `depth` placeholders. A placeholder that opens with a brace lasts up to a
-- closing one. A backslash that does not stand before a special character is inserted.
def parts : Nat → List Char → List Part
  | _, [] => []
  | depth, '\\' :: c :: rest => if isSpecial c then .char c :: parts depth rest else .char '\\' :: parts depth (c :: rest)
  | depth, '$' :: '{' :: rest => .opening :: parts (depth + 1) rest
  | depth, '$' :: rest => .opening :: parts depth rest
  | depth + 1, '}' :: rest => .closing :: parts depth rest
  | depth, c :: rest => .char c :: parts depth rest

theorem parts_escaped (depth : Nat) (c : Char) (rest : List Char) (special : isSpecial c = true) :
    parts depth ('\\' :: c :: rest) = .char c :: parts depth rest := by
  rw [parts, if_pos special]

theorem parts_plain (depth : Nat) (c : Char) (rest : List Char) (plain : isSpecial c = false) :
    parts depth (c :: rest) = .char c :: parts depth rest := by
  rw [parts.eq_def]
  split <;> simp_all [isSpecial]

theorem parts_escape (depth : Nat) (chars rest : List Char) :
    parts depth (escapeChars chars ++ rest) = chars.map .char ++ parts depth rest := by
  induction chars with
  | nil => rfl
  | cons c chars ih =>
      rw [escapeChars, List.map_cons, List.cons_append, ← ih]
      cases special : isSpecial c with
      | true =>
          rw [if_pos rfl]
          exact parts_escaped depth c _ special
      | false =>
          rw [if_neg Bool.false_ne_true]
          exact parts_plain depth c _ special

def mark (sign c : Char) : List Char :=
  if c = sign then [ '\\', sign] else [c]

-- The backslashes go first: no later pass meets one, and none meets a sign that an earlier pass has marked.
theorem marks_escape (c : Char) :
    ((mark '\\' c).flatMap fun c => (mark '$' c).flatMap (mark '}')) = if isSpecial c then [ '\\', c] else [c] := by
  by_cases backslash : c = '\\'
  · subst backslash
    rfl
  by_cases dollar : c = '$'
  · subst dollar
    rfl
  by_cases brace : c = '}'
  · subst brace
    rfl
  · simp [mark, isSpecial, backslash, dollar, brace]

theorem escape_each (chars : List Char) :
    escapeChars chars = chars.flatMap fun c => if isSpecial c then [ '\\', c] else [c] := by
  induction chars with
  | nil => rfl
  | cons c rest ih =>
      rw [escapeChars, List.flatMap_cons, ← ih]
      cases isSpecial c <;> rfl

theorem escape_passes (chars : List Char) :
    Text.replaceFrom [ '}'] [ '\\', '}'] 0 (Text.replaceFrom [ '$'] [ '\\', '$'] 0
      (Text.replaceFrom [ '\\'] [ '\\', '\\'] 0 chars)) = escapeChars chars := by
  rw [Text.replace_sign, Text.replace_sign, Text.replace_sign, List.flatMap_assoc, List.flatMap_assoc, escape_each]
  exact congrArg chars.flatMap (funext marks_escape)

-- An escaped text is read as its characters and nothing else, at every depth and whatever follows. One pass for each of
-- the three signs comes to the same as one pass for all.
theorem escape_round_trip (text : String) :
    parts 0 (escape text).toList = text.toList.map .char ∧
      (∀ depth rest, parts depth ((escape text).toList ++ rest) = text.toList.map .char ++ parts depth rest) ∧
      Text.replaceAll (Text.replaceAll (Text.replaceAll text "\\" "\\\\") "$" "\\$") "\x7d" "\\\x7d" = escape text := by
  have chars : (escape text).toList = escapeChars text.toList := String.toList_ofList
  have inside (depth : Nat) (rest : List Char) :
      parts depth ((escape text).toList ++ rest) = text.toList.map .char ++ parts depth rest := by
    rw [chars, parts_escape]
  refine ⟨?_, inside, ?_⟩
  · simpa [parts] using inside 0 []
  · have passes := escape_passes text.toList
    simp [Text.replaceAll, escape, ← passes]

-- Without its backslashes the same text opens a placeholder and closes it.
example : parts 0 "$\x7b1\x7d".toList = [.opening, .char '1', .closing] ∧
    parts 0 (escape "$\x7b1\x7d").toList = "$\x7b1\x7d".toList.map .char := by decide

theorem escape_plain (chars : List Char) (plain : ∀ c ∈ chars, isSpecial c = false) : escapeChars chars = chars := by
  induction chars with
  | nil => rfl
  | cons c chars ih =>
      obtain ⟨other, others⟩ := List.forall_mem_cons.mp plain
      rw [escapeChars, if_neg (by simp [other]), ih others]

theorem blanks_plain (count : Nat) : ∀ c ∈ Outline.blanks count, c = ' ' :=
  fun _ member => List.eq_of_mem_replicate member

theorem blanks_not_feed (count : Nat) : ∀ c ∈ Outline.blanks count, c ≠ '\n' := by
  intro c member
  rw [blanks_plain count c member]
  decide

theorem blanks_add (first second : Nat) : Outline.blanks (first + second) = Outline.blanks first ++ Outline.blanks second :=
  (List.replicate_append_replicate ..).symm

theorem indent_feed (amount : Nat) (rest : List Char) :
    indentChars amount ( '\n' :: rest) = '\n' :: (Outline.blanks amount ++ indentChars amount rest) :=
  rfl

theorem indent_plain (amount : Nat) (chars rest : List Char) (plain : ∀ c ∈ chars, c ≠ '\n') :
    indentChars amount (chars ++ rest) = chars ++ indentChars amount rest := by
  induction chars with
  | nil => rfl
  | cons c chars ih =>
      obtain ⟨other, others⟩ := List.forall_mem_cons.mp plain
      rw [List.cons_append, List.cons_append, indentChars, if_neg other, ih others]

theorem dedent_feed (amount left : Nat) (rest : List Char) :
    dedentChars amount left ( '\n' :: rest) = '\n' :: dedentChars amount amount rest :=
  rfl

theorem dedent_plain (amount : Nat) (chars rest : List Char) (plain : ∀ c ∈ chars, c ≠ '\n') :
    dedentChars amount 0 (chars ++ rest) = chars ++ dedentChars amount 0 rest := by
  induction chars with
  | nil => rfl
  | cons c chars ih =>
      obtain ⟨other, others⟩ := List.forall_mem_cons.mp plain
      rw [List.cons_append, List.cons_append, dedentChars, if_neg other, if_neg (by simp), ih others]

theorem dedent_blanks (amount left : Nat) (rest : List Char) :
    dedentChars amount left (Outline.blanks left ++ rest) = dedentChars amount 0 rest := by
  induction left with
  | zero => rfl
  | succ left ih =>
      rw [Outline.blanks, List.replicate_succ, List.cons_append, dedentChars, if_neg (by decide), if_pos ⟨rfl, by omega⟩,
        Nat.add_sub_cancel]
      exact ih

theorem indent_none (chars : List Char) : indentChars 0 chars = chars := by
  induction chars with
  | nil => rfl
  | cons c rest ih =>
      by_cases feed : c = '\n'
      · rw [feed, indent_feed, ih]
        rfl
      · rw [indentChars, if_neg feed, ih]

theorem indent_indent (first second : Nat) (chars : List Char) :
    indentChars second (indentChars first chars) = indentChars (first + second) chars := by
  induction chars with
  | nil => rfl
  | cons c rest ih =>
      by_cases feed : c = '\n'
      · rw [feed, indent_feed, indent_feed, indent_feed, indent_plain second _ _ (blanks_not_feed first), ih,
          ← List.append_assoc, ← blanks_add, Nat.add_comm]
      · rw [indentChars, if_neg feed, indentChars, if_neg feed, indentChars, if_neg feed, ih]

theorem dedent_indent (amount more : Nat) (chars : List Char) :
    dedentChars amount 0 (indentChars (amount + more) chars) = indentChars more chars := by
  induction chars with
  | nil => rfl
  | cons c rest ih =>
      by_cases feed : c = '\n'
      · rw [feed, indent_feed, dedent_feed, blanks_add, List.append_assoc, dedent_blanks,
          dedent_plain amount _ _ (blanks_not_feed more), ih, indent_feed]
      · rw [indentChars, if_neg feed, dedentChars, if_neg feed, if_neg (by simp), ih, indentChars, if_neg feed]

theorem indent_replaces (text : String) (amount : Nat) :
    indent text amount = Text.replaceAll text "\n" ("\n" ++ spaces amount) := by
  have each (chars : List Char) :
      indentChars amount chars = chars.flatMap fun c => if c = '\n' then '\n' :: Outline.blanks amount else [c] := by
    induction chars with
    | nil => rfl
    | cons c rest ih =>
        rw [indentChars, List.flatMap_cons, ← ih]
        split <;> rfl
  rw [indent, each, Text.replaceAll]
  rw [show "\n".toList = [ '\n'] from rfl, Text.replace_sign, String.toList_append, spaces, String.toList_ofList,
    String.toList_ofList]
  rfl

-- Every line is shifted back by as much as was asked for and no more: blank lines, lines with spaces of their own and a
-- line feed at the end come back as they were.
theorem indentation_exact (text : String) (n m : Nat) :
    indent (indent text n) m = indent text (n + m) ∧
      (m ≤ n → dedent (indent text n) m = indent text (n - m)) ∧
      dedent (indent text n) n = text := by
  have less (amount more : Nat) : dedent (indent text (amount + more)) amount = indent text more := by
    rw [dedent, indent, indent, String.toList_ofList, dedent_indent]
  refine ⟨?_, ?_, ?_⟩
  · rw [indent, indent, indent, String.toList_ofList, indent_indent]
  · intro le
    have shifted := less m (n - m)
    rwa [Nat.add_sub_cancel' le] at shifted
  · have undone : dedent (indent text n) n = indent text 0 := less n 0
    rw [undone, indent, indent_none, String.ofList_toList]

theorem indentation_exact_spaced : 2 ≤ 5 ∧
    indent (indent "a:\n\n  b\n" 5) 2 = indent "a:\n\n  b\n" 7 ∧
    dedent (indent "a:\n\n  b\n" 5) 2 = indent "a:\n\n  b\n" 3 ∧
    indent "a:\n\n  b\n" 3 = "a:\n   \n     b\n   " := by
  obtain ⟨more, less, _⟩ := indentation_exact "a:\n\n  b\n" 5 2
  exact ⟨by decide, more, less (by decide), by decide⟩

end Snippet
end YamlDialects
