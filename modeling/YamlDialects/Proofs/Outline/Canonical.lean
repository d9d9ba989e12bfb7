import YamlDialects.Proofs.Outline.Insertion

/-!
Values in block style: a nested mapping stands two columns deeper than its key, a sequence under a key at the column of
the key or two columns deeper, and what belongs to an item stands behind its dash. The lines of a value open the keys
and items of the value, in its order and at its columns.
-/

set_option autoImplicit false

namespace YamlDialects.Outline

inductive Mark where
  | key (column : Nat) (name value : String)
  | item (column : Nat)
deriving DecidableEq

-- A value that can be written in block style. Of each entry it is said whether a sequence stands deeper than its key.
inductive Content where
  | scalar (text : List Char)
  | mapping (entries : List (List Char × Bool × Content))
  | sequence (items : List Content)

def indented (line : List Char) : List Char :=
  ' ' :: ' ' :: line

def dashed : List (List Char) → List (List Char)
  | [] => []
  | first :: further => ( '-' :: ' ' :: first) :: further.map indented

def keyed (name : List Char) (deeper : Bool) (value : Content) (inside : List (List Char)) : List (List Char) :=
  match value with
  | .scalar text => [name ++ ':' :: ' ' :: text]
  | .mapping _ => (name ++ [ ':']) :: inside.map indented
  | .sequence _ => (name ++ [ ':']) :: if deeper then inside.map indented else inside

def IsKeyLine (line : List Char) : Prop :=
  ∃ name tail, line = name ++ ':' :: tail ∧ IsSimpleKey name ∧ (tail = [] ∨ ∃ rest, tail = ' ' :: rest)

def IsItemLine (line : List Char) : Prop :=
  line = [ '-'] ∨ ∃ rest, line = '-' :: ' ' :: rest

namespace Content

def isScalar : Content → Bool
  | .scalar _ => true
  | _ => false

mutual

def lines : Content → List (List Char)
  | .scalar text => [text]
  | .mapping entries => entryLines entries
  | .sequence items => itemLines items

def entryLines : List (List Char × Bool × Content) → List (List Char)
  | [] => []
  | (name, deeper, value) :: rest => keyed name deeper value (lines value) ++ entryLines rest

def itemLines : List Content → List (List Char)
  | [] => []
  | item :: rest => dashed (lines item) ++ itemLines rest

end

mutual

-- No collection is empty, a scalar stands on one line, and as an item it does not look like a key or another item.
def IsCanonical : Content → Prop
  | .scalar text => '\n' ∉ text ∧ text.getLast? ≠ some '\r'
  | .mapping entries => entries ≠ [] ∧ EntriesCanonical entries
  | .sequence items => items ≠ [] ∧ ItemsCanonical items

def EntriesCanonical : List (List Char × Bool × Content) → Prop
  | [] => True
  | (name, _, value) :: rest => IsSimpleKey name ∧ IsCanonical value ∧ EntriesCanonical rest

def ItemsCanonical : List Content → Prop
  | [] => True
  | item :: rest => IsCanonical item ∧ (∀ text, item = .scalar text → ¬ IsKeyLine text ∧ ¬ IsItemLine text) ∧
      ItemsCanonical rest

end

def shown : Content → List Char
  | .scalar text => ' ' :: text
  | _ => []

def columnBelow (column : Nat) (deeper : Bool) : Content → Nat
  | .sequence _ => if deeper then column + 2 else column
  | _ => column + 2

mutual

def marks (column : Nat) : Content → List Mark
  | .scalar _ => []
  | .mapping entries => entryMarks column entries
  | .sequence items => itemMarks column items

def entryMarks (column : Nat) : List (List Char × Bool × Content) → List Mark
  | [] => []
  | (name, deeper, value) :: rest =>
      .key column (String.ofList name) (Text.trimmed (String.ofList value.shown)) ::
        (marks (value.columnBelow column deeper) value ++ entryMarks column rest)

def itemMarks (column : Nat) : List Content → List Mark
  | [] => []
  | item :: rest => .item column :: (marks (column + 2) item ++ itemMarks column rest)

end

end Content

def marksOf (column : Nat) (body : List Char) : List Mark :=
  match keyLength? body with
  | some _ => [.key column (String.ofList (body.takeWhile isKeyChar))
      (Text.trimmed (String.ofList ((body.dropWhile isKeyChar).drop 1)))]
  | none =>
      match body with
      | [ '-'] => [.item column]
      | '-' :: ' ' :: rest => .item column :: marksOf (column + 2) rest
      | _ => []

def lineMarks (column : Nat) (line : List Char) : List Mark :=
  marksOf (column + leadingSpaces line) (line.drop (leadingSpaces line))

theorem key_line_starts (line : List Char) (isKey : IsKeyLine line) :
    ∃ first rest, line = first :: rest ∧ Text.isWord first = true := by
  obtain ⟨name, tail, rfl, simple, -⟩ := isKey
  obtain ⟨first, rest, rfl, word, -⟩ := simple_key_cons name simple
  exact ⟨first, rest ++ ':' :: tail, rfl, word⟩

theorem leading_spaces_opens (line : List Char) (opens : IsKeyLine line ∨ IsItemLine line) : leadingSpaces line = 0 := by
  rcases opens with isKey | rfl | ⟨rest, rfl⟩
  · obtain ⟨first, rest, rfl, word⟩ := key_line_starts line isKey
    refine leading_spaces_other first rest ?_
    rintro rfl
    exact absurd word (by decide +kernel)
  · rfl
  · exact leading_spaces_other '-' _ (by decide)

theorem key_length_none_of_dash (rest : List Char) : keyLength? ( '-' :: rest) = none := by
  have notWord : Text.isWord '-' = false := by decide +kernel
  rw [keyLength?]
  split
  next first starts _ =>
    obtain rfl := Option.some.inj starts
    rw [notWord]
    rfl
  next first starts _ =>
    obtain rfl := Option.some.inj starts
    rw [notWord]
    rfl
  next => rfl

theorem key_line_of_length (body : List Char) (length : Nat) (found : keyLength? body = some length) : IsKeyLine body := by
  have whole : body = body.takeWhile isKeyChar ++ body.dropWhile isKeyChar := List.takeWhile_append_dropWhile.symm
  rw [keyLength?] at found
  split at found
  next first starts rest =>
    by_cases word : Text.isWord first = true
    · exact ⟨_, [], by rw [← rest]; exact whole, key_chars_simple body first starts word, .inl rfl⟩
    · rw [if_neg word] at found
      cases found
  next first tail starts rest =>
    by_cases word : Text.isWord first = true
    · exact ⟨_, ' ' :: tail, by rw [← rest]; exact whole, key_chars_simple body first starts word, .inr ⟨tail, rfl⟩⟩
    · rw [if_neg word] at found
      cases found
  next => cases found

theorem key_line_iff (body : List Char) : IsKeyLine body ↔ (keyLength? body).isSome = true := by
  constructor
  · rintro ⟨name, tail, rfl, simple, form⟩
    rw [key_length_of_simple name tail simple form]
    rfl
  · intro found
    obtain ⟨length, found⟩ := Option.isSome_iff_exists.mp found
    exact key_line_of_length body length found

instance : DecidablePred IsKeyLine :=
  fun body => decidable_of_iff _ (key_line_iff body).symm

theorem item_line_iff (body : List Char) : IsItemLine body ↔ body = [ '-'] ∨ body.take 2 = [ '-', ' '] := by
  refine or_congr_right ⟨?_, fun starts => ⟨body.drop 2, ?_⟩⟩
  · rintro ⟨rest, rfl⟩
    rfl
  · rw [← List.take_append_drop 2 body, starts]
    rfl

instance : DecidablePred IsItemLine :=
  fun body => decidable_of_iff _ (item_line_iff body).symm

theorem marks_of_key (column : Nat) (name tail : List Char) (simple : IsSimpleKey name)
    (ends : tail = [] ∨ ∃ rest, tail = ' ' :: rest) :
    marksOf column (name ++ ':' :: tail) = [.key column (String.ofList name) (Text.trimmed (String.ofList tail))] := by
  obtain ⟨_, _, _, _, inside⟩ := simple_key_cons name simple
  have closed : isKeyChar ':' = false := by decide +kernel
  have left : (name ++ ':' :: tail).dropWhile isKeyChar = ':' :: tail := by
    rw [List.dropWhile_append_of_pos inside, List.dropWhile_cons_of_neg (by simp [closed])]
  have taken : (name ++ ':' :: tail).takeWhile isKeyChar = name := by
    rw [List.takeWhile_append_of_pos inside, List.takeWhile_cons_of_neg (by simp [closed]), List.append_nil]
  rw [marksOf.eq_def, key_length_of_simple name tail simple ends, left, taken]
  rfl

theorem marks_of_item (column : Nat) (rest : List Char) :
    marksOf column ( '-' :: ' ' :: rest) = .item column :: marksOf (column + 2) rest := by
  rw [marksOf.eq_def, key_length_none_of_dash]
  rfl

theorem marks_of_neither (column : Nat) (body : List Char) (noKey : ¬ IsKeyLine body) (noItem : ¬ IsItemLine body) :
    marksOf column body = [] := by
  have missing : keyLength? body = none := Option.not_isSome_iff_eq_none.mp (mt (key_line_iff body).mpr noKey)
  rw [marksOf.eq_def]
  simp only [missing]
  split
  next => exact absurd (.inl rfl) noItem
  next rest => exact absurd (.inr ⟨rest, rfl⟩) noItem
  next => rfl

theorem line_marks_opens (column : Nat) (line : List Char) (opens : IsKeyLine line ∨ IsItemLine line) :
    lineMarks column line = marksOf column line := by
  rw [lineMarks, leading_spaces_opens line opens]
  rfl

theorem line_marks_indented (column : Nat) (line : List Char) :
    lineMarks column (indented line) = lineMarks (column + 2) line := by
  have count : leadingSpaces (indented line) = leadingSpaces line + 2 := by simp [leadingSpaces, indented]
  rw [lineMarks, lineMarks, count, ← Nat.add_assoc, Nat.add_right_comm column 2]
  rfl

theorem marks_indented (column : Nat) (lines : List (List Char)) :
    (lines.map indented).flatMap (lineMarks column) = lines.flatMap (lineMarks (column + 2)) := by
  rw [List.flatMap_map]
  exact congrArg (List.flatMap · lines) (funext (line_marks_indented column))

structure Opening (line : List Char) : Prop where
  opens : ∃ count body, line = blanks count ++ body ∧ (IsKeyLine body ∨ IsItemLine body)
  single : '\n' ∉ line
  ends : line.getLast? ≠ some '\r'

theorem opening_indented (line : List Char) (opening : Opening line) : Opening (indented line) := by
  obtain ⟨⟨count, body, rfl, opens⟩, single, ends⟩ := opening
  refine ⟨⟨count + 2, body, rfl, opens⟩, by simpa [indented] using single, ?_⟩
  cases whole : blanks count ++ body with
  | nil => simp [indented]
  | cons first rest =>
      rw [whole] at ends
      simpa [indented] using ends

namespace Content

theorem key_line_opening (name tail : List Char) (simple : IsSimpleKey name) (form : tail = [] ∨ ∃ rest, tail = ' ' :: rest)
    (single : '\n' ∉ tail) (ends : tail.getLast? ≠ some '\r') : Opening (name ++ ':' :: tail) := by
  have unbroken := unbroken_key name simple
  refine ⟨⟨0, _, rfl, .inl ⟨name, tail, rfl, simple, form⟩⟩, ?_, ?_⟩
  · intro member
    rcases List.mem_append.mp (show '\n' ∈ (name ++ [ ':']) ++ tail by simpa using member) with inKey | inTail
    · exact (unbroken '\n' inKey).1 rfl
    · exact single inTail
  · cases tail with
    | nil => simp
    | cons first rest => simpa using ends

theorem keyed_opening (name : List Char) (deeper : Bool) (value : Content) (simple : IsSimpleKey name)
    (canonical : value.IsCanonical) (inside : value.isScalar = false → ∀ line ∈ value.lines, Opening line) :
    ∀ line ∈ keyed name deeper value value.lines, Opening line := by
  have bare : Opening (name ++ [ ':']) := key_line_opening name [] simple (.inl rfl) List.not_mem_nil nofun
  cases value with
  | scalar text =>
      obtain ⟨single, ends⟩ := canonical
      refine List.forall_mem_singleton.mpr (key_line_opening name ( ' ' :: text) simple (.inr ⟨text, rfl⟩) (by simpa using single) ?_)
      cases text with
      | nil => simp
      | cons first rest => simpa using ends
  | mapping entries =>
      refine List.forall_mem_cons.mpr ⟨bare, fun line member => ?_⟩
      obtain ⟨own, listed, rfl⟩ := List.mem_map.mp member
      exact opening_indented own (inside rfl own listed)
  | sequence items =>
      refine List.forall_mem_cons.mpr ⟨bare, fun line member => ?_⟩
      split at member
      · obtain ⟨own, listed, rfl⟩ := List.mem_map.mp member
        exact opening_indented own (inside rfl own listed)
      · exact inside rfl line member

theorem dashed_opening (item : Content) (canonical : item.IsCanonical)
    (inside : item.isScalar = false → ∀ line ∈ item.lines, Opening line) : ∀ line ∈ dashed item.lines, Opening line := by
  have dash : ∀ first : List Char, '\n' ∉ first → first.getLast? ≠ some '\r' → Opening ( '-' :: ' ' :: first) := by
    intro first single ends
    refine ⟨⟨0, _, rfl, .inr (.inr ⟨first, rfl⟩)⟩, by simpa using single, ?_⟩
    cases first with
    | nil => simp
    | cons head rest => simpa using ends
  cases scalar : item.isScalar with
  | true =>
      cases item with
      | scalar text => exact List.forall_mem_singleton.mpr (dash text canonical.1 canonical.2)
      | mapping entries => cases scalar
      | sequence items => cases scalar
  | false =>
      have all := inside scalar
      cases listed : item.lines with
      | nil => exact List.forall_mem_nil _
      | cons first further =>
          rw [listed] at all
          obtain ⟨opening, others⟩ := List.forall_mem_cons.mp all
          refine List.forall_mem_cons.mpr ⟨dash first opening.single opening.ends, fun line member => ?_⟩
          obtain ⟨own, inFurther, rfl⟩ := List.mem_map.mp member
          exact opening_indented own (others own inFurther)

mutual

theorem lines_opening (value : Content) (canonical : value.IsCanonical) (collects : value.isScalar = false) :
    ∀ line ∈ value.lines, Opening line := by
  match value with
  | .scalar text => cases collects
  | .mapping entries => exact entry_lines_opening entries canonical.2
  | .sequence items => exact item_lines_opening items canonical.2

theorem entry_lines_opening (entries : List (List Char × Bool × Content)) (canonical : EntriesCanonical entries) :
    ∀ line ∈ entryLines entries, Opening line := by
  match entries with
  | [] => exact List.forall_mem_nil _
  | (name, deeper, value) :: rest =>
      obtain ⟨simple, own, others⟩ := canonical
      rw [entryLines]
      exact List.forall_mem_append.mpr ⟨keyed_opening name deeper value simple own (lines_opening value own),
        entry_lines_opening rest others⟩

theorem item_lines_opening (items : List Content) (canonical : ItemsCanonical items) :
    ∀ line ∈ itemLines items, Opening line := by
  match items with
  | [] => exact List.forall_mem_nil _
  | item :: rest =>
      obtain ⟨own, -, others⟩ := canonical
      rw [itemLines]
      exact List.forall_mem_append.mpr ⟨dashed_opening item own (lines_opening item own), item_lines_opening rest others⟩

end

theorem keyed_starts (name : List Char) (deeper : Bool) (value : Content) (inside : List (List Char))
    (simple : IsSimpleKey name) : ∃ first further, keyed name deeper value inside = first :: further ∧ IsKeyLine first := by
  cases value with
  | scalar text => exact ⟨_, _, rfl, name, _, rfl, simple, .inr ⟨text, rfl⟩⟩
  | mapping entries => exact ⟨_, _, rfl, name, [], rfl, simple, .inl rfl⟩
  | sequence items => exact ⟨_, _, rfl, name, [], rfl, simple, .inl rfl⟩

theorem lines_start (value : Content) (canonical : value.IsCanonical) :
    ∃ first further, value.lines = first :: further ∧ (value.isScalar = false → IsKeyLine first ∨ IsItemLine first) := by
  match value with
  | .scalar text => exact ⟨text, [], rfl, nofun⟩
  | .mapping [] => exact absurd rfl canonical.1
  | .mapping ((name, deeper, value) :: rest) =>
      obtain ⟨-, simple, -⟩ := canonical
      obtain ⟨first, further, starts, isKey⟩ := keyed_starts name deeper value value.lines simple
      exact ⟨first, further ++ entryLines rest, by rw [lines, entryLines, starts]; rfl, fun _ => .inl isKey⟩
  | .sequence [] => exact absurd rfl canonical.1
  | .sequence (item :: rest) =>
      obtain ⟨-, own, -⟩ := canonical
      obtain ⟨first, further, starts, -⟩ := lines_start item own
      exact ⟨_, further.map indented ++ itemLines rest, by rw [lines, itemLines, starts]; rfl, fun _ => .inr (.inr ⟨first, rfl⟩)⟩

mutual

theorem lines_marks (column : Nat) (value : Content) (canonical : value.IsCanonical) (collects : value.isScalar = false) :
    value.lines.flatMap (lineMarks column) = value.marks column := by
  match value with
  | .scalar text => cases collects
  | .mapping entries => exact entry_lines_marks column entries canonical.2
  | .sequence items => exact item_lines_marks column items canonical.2

theorem entry_lines_marks (column : Nat) (entries : List (List Char × Bool × Content)) (canonical : EntriesCanonical entries) :
    (entryLines entries).flatMap (lineMarks column) = entryMarks column entries := by
  match entries with
  | [] => rfl
  | (name, deeper, value) :: rest =>
      obtain ⟨simple, own, others⟩ := canonical
      have later := entry_lines_marks column rest others
      have keyMarks : ∀ tail, (tail = [] ∨ ∃ rest, tail = ' ' :: rest) → lineMarks column (name ++ ':' :: tail) =
          [.key column (String.ofList name) (Text.trimmed (String.ofList tail))] := fun tail form =>
        (line_marks_opens column _ (.inl ⟨name, tail, rfl, simple, form⟩)).trans (marks_of_key column name tail simple form)
      have here : (keyed name deeper value value.lines).flatMap (lineMarks column) =
          .key column (String.ofList name) (Text.trimmed (String.ofList value.shown)) ::
            value.marks (value.columnBelow column deeper) := by
        match value with
        | .scalar text =>
            rw [keyed, List.flatMap_singleton, keyMarks _ (.inr ⟨text, rfl⟩)]
            rfl
        | .mapping inner =>
            rw [keyed, List.flatMap_cons, keyMarks [] (.inl rfl), marks_indented, lines_marks _ (.mapping inner) own rfl]
            rfl
        | .sequence inner =>
            rw [keyed, List.flatMap_cons, keyMarks [] (.inl rfl)]
            cases deeper with
            | true =>
                rw [if_pos rfl, marks_indented, lines_marks _ (.sequence inner) own rfl]
                rfl
            | false =>
                rw [if_neg (by decide), lines_marks _ (.sequence inner) own rfl]
                rfl
      rw [entryLines, List.flatMap_append, here, later, entryMarks, List.cons_append]

theorem item_lines_marks (column : Nat) (items : List Content) (canonical : ItemsCanonical items) :
    (itemLines items).flatMap (lineMarks column) = itemMarks column items := by
  match items with
  | [] => rfl
  | item :: rest =>
      obtain ⟨own, neither, others⟩ := canonical
      have later := item_lines_marks column rest others
      have dashMarks : ∀ first, lineMarks column ( '-' :: ' ' :: first) = .item column :: marksOf (column + 2) first :=
        fun first => (line_marks_opens column _ (.inr (.inr ⟨first, rfl⟩))).trans (marks_of_item column first)
      have here : (dashed item.lines).flatMap (lineMarks column) = .item column :: item.marks (column + 2) := by
        cases scalar : item.isScalar with
        | true =>
            match item with
            | .scalar text =>
                obtain ⟨noKey, noItem⟩ := neither text rfl
                rw [lines, dashed, List.map_nil, List.flatMap_singleton, dashMarks, marks_of_neither _ text noKey noItem]
                rfl
        | false =>
            obtain ⟨first, further, starts, opens⟩ := lines_start item own
            have all := lines_marks (column + 2) item own scalar
            rw [starts, List.flatMap_cons, line_marks_opens _ first (opens scalar)] at all
            rw [starts, dashed, List.flatMap_cons, dashMarks, marks_indented, List.cons_append, all]
      rw [itemLines, List.flatMap_append, here, later, itemMarks, List.cons_append]

end

end Content

end YamlDialects.Outline
