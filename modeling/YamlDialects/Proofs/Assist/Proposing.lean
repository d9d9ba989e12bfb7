import YamlDialects.Proofs.Assist.Acceptance
import YamlDialects.Proofs.Outline.WellFormed

set_option autoImplicit false

namespace YamlDialects

open Outline

namespace Completion

structure OnBlank (completion : Completion) (slot : Slot) (count column : Nat) : Prop where
  whole : completion.text.toList = slot.fill (blanks count)
  offset : completion.cursor.offset = slot.start + column
  within : column ≤ count

section

variable (completion : Completion) (slot : Slot) (count column : Nat) (current : Block)

theorem on_blank_split (onBlank : completion.OnBlank slot count column) :
    completion.text.toList = slot.before ++ blanks column ++ (blanks (count - column) ++ slot.after) := by
  rw [onBlank.whole, slot.fill_cut column count onBlank.within]

theorem query_blank (onBlank : completion.OnBlank slot count column) (isRaw : current.kind = .raw) :
    completion.query current = "" := by
  have outside : completion.cursor.valueStart? current = none := by
    simp [Cursor.valueStart?, Block.isInValue, isRaw]
  have before := Cursor.line_before_blanks completion.cursor.text slot column _ (on_blank_split completion slot count column onBlank)
  rw [Completion.query, Cursor.query, outside]
  dsimp only
  rw [onBlank.offset, before]
  cases column with
  | zero => rfl
  | succ column => simp [blanks, List.replicate_succ', show Text.isBlank ' ' = true from rfl]

theorem typed_blank (onBlank : completion.OnBlank slot count column) (isRaw : current.kind = .raw) :
    completion.typed (completion.query current) = ⟨slot.start + column, slot.start + column⟩ := by
  rw [typed, query_blank completion slot count column current onBlank isRaw, onBlank.offset]
  rfl

theorem key_insertion_blank (onBlank : completion.OnBlank slot count column) (isRaw : current.kind = .raw) (name : String)
    (type : TypeId) : completion.keyInsertion (completion.query current) current name type =
      Snippet.indent (Snippet.escape name ++ ":" ++ continuation completion.schema type) column := by
  have split := on_blank_split completion slot count column onBlank
  have notKey : (current.kind == .key && current.isInValue completion.cursor.offset) = false := by simp [isRaw]
  have typedStart : (completion.typed (completion.query current)).start = slot.start + column := by
    rw [typed_blank completion slot count column current onBlank isRaw]
  simp only [keyInsertion, notKey, typedStart, Cursor.follows_blanks _ slot column _ split,
    Cursor.column_blanks _ slot column _ split, Bool.false_eq_true, if_false, if_true]

theorem not_after_colon (onBlank : completion.OnBlank slot count column) (relaxed : Bool) (around : Block)
    (belongs : around.outline = Outline.ofText completion.text relaxed) :
    completion.cursor.isAfterColon around = false := by
  rw [Cursor.isAfterColon, Bool.and_eq_false_iff]
  by_cases isKey : around.kind = .key
  · right
    have sound := block_sound completion.text relaxed around belongs
    have notRoot : around.kind ≠ .root := by simp [isKey]
    have read := around.read_entry (around.bound_of_kind notRoot)
    obtain ⟨before, key, after, split, start, _, colon, _⟩ :=
      (sound.shaped around.id around.entry (around.positive_of_kind _ sound notRoot) read).keyText isKey
    rw [show around.colon? = _ from colon, Option.any_some, beq_eq_false_iff_ne]
    intro same
    -- Two first parts of a text of the same length are the same.
    have width : Text.byteLength (before ++ key ++ [ ':']) = Text.byteLength (slot.before ++ blanks column) := by
      rw [Slot.length_before, ← onBlank.offset, ← same, ← start]
      simp [show Char.utf8Size ':' = 1 from rfl, Nat.add_assoc]
    have one := Text.take_bytes_append (before ++ key ++ [ ':']) after
    have other := Text.take_bytes_append (slot.before ++ blanks column) (blanks (count - column) ++ slot.after)
    rw [← on_blank_split completion slot count column onBlank, ← width, split] at other
    have whole : before ++ key ++ [ ':'] ++ after = before ++ (key ++ ':' :: after) := by simp
    rw [whole] at one
    have parts := Option.some.inj (one.symm.trans other)
    rcases Cursor.last_before slot column ':' (by rw [← parts]; simp) with space | feed
    · cases space
    · cases feed
  · left
    simpa using isKey

theorem of_hint_spec (type : TypeId) (context : SchemaContext) (hint : Hint) (proposal : Proposal) (query : String)
    (made : completion.ofHint? query type context current hint = some proposal) :
    proposal.kind = .value ∧ proposal.replaced = completion.typed query := by
  unfold ofHint? at made
  dsimp only at made
  split at made
  · cases made
  · obtain ⟨score, _, rfl⟩ := Option.map_eq_some_iff.mp made
    exact ⟨rfl, rfl⟩

theorem of_property_spec (query : String) (owner : TypeId) (property : Property) (proposal : Proposal)
    (made : completion.ofProperty? query owner current property = some proposal) :
    proposal.insertion = completion.keyInsertion query current proposal.label property.type ∧
      proposal.replaced = completion.typed query := by
  obtain ⟨⟨score, spelling⟩, _, rfl⟩ := Option.map_eq_some_iff.mp made
  dsimp only
  split <;> exact ⟨rfl, rfl⟩

theorem own_property (context : AssistContext) (type : TypeId) (proposal : Proposal)
    (member : proposal ∈ completion.own context current type) (isProperty : proposal.kind = .property) :
    ∃ type, proposal.insertion = completion.keyInsertion (completion.query current) current proposal.label type ∧
      proposal.replaced = completion.typed (completion.query current) := by
  unfold own at member
  dsimp only at member
  split at member
  · obtain ⟨property, _, made⟩ := List.mem_filterMap.mp member
    exact ⟨property.type, of_property_spec completion current _ type property proposal made⟩
  · obtain ⟨hint, _, made⟩ := List.mem_filterMap.mp member
    rw [(of_hint_spec completion current type _ hint proposal _ made).1] at isProperty
    cases isProperty

theorem items_dashed (context : AssistContext) (type : TypeId) (proposal : Proposal)
    (member : proposal ∈ completion.items context current type) : ∃ label, proposal.label = "- " ++ label := by
  unfold items at member
  dsimp only at member
  split at member
  · split at member
    · obtain ⟨inner, _, rfl⟩ := List.mem_map.mp member
      exact ⟨inner.label, rfl⟩
    · cases member
  · cases member

theorem in_block_property (onBlank : completion.OnBlank slot count column) (relaxed : Bool) (around : Block)
    (belongs : around.outline = Outline.ofText completion.text relaxed) (proposal : Proposal)
    (member : proposal ∈ completion.inBlock current around) (isProperty : proposal.kind = .property) :
    (∃ type, proposal.insertion = completion.keyInsertion (completion.query current) current proposal.label type ∧
      proposal.replaced = completion.typed (completion.query current)) ∨ ∃ label, proposal.label = "- " ++ label := by
  unfold inBlock at member
  dsimp only at member
  rw [not_after_colon completion slot count column onBlank relaxed around belongs, Bool.and_false] at member
  obtain ⟨context, _, inContext⟩ := List.mem_flatMap.mp member
  unfold Completion.inContext at inContext
  split at inContext
  · cases inContext
  · obtain ⟨type, _, offered⟩ := List.mem_flatMap.mp inContext
    rcases List.mem_append.mp offered with own | item
    · exact .inl (own_property completion current context type proposal own isProperty)
    · exact .inr (items_dashed completion current context type proposal item)

end

end Completion

namespace Proposal

theorem without_arrows_repeated (mark : String) (drops : ∀ rest, withoutArrows (mark.toList ++ rest) = withoutArrows rest)
    (count : Nat) (label : String) :
    withoutArrows (repeated mark count ++ label).toList = withoutArrows label.toList := by
  have chars : (repeated mark count).toList = (List.replicate count mark).flatMap String.toList := by
    simp [repeated, String.toList_join]
  rw [String.toList_append, chars]
  clear chars
  induction count with
  | zero => rfl
  | succ count ih => rw [List.replicate_succ, List.flatMap_cons, List.append_assoc, drops, ih]

theorem split_blank_visible (text : String) (first : Char) (rest : List Char) (starts : text.toList = first :: rest)
    (visible : Text.isBlank first = false) : Snippet.splitBlank text = ("", text) := by
  rw [Snippet.splitBlank, starts, List.takeWhile_cons_of_neg (by simp [visible]), List.dropWhile_cons_of_neg (by simp [visible]),
    ← starts, String.ofList_toList]

theorem dedented_spec (proposal result : Proposal) (amount : Nat) (text : String)
    (moved : proposal.dedented? amount text = some result) :
    result.kind = proposal.kind ∧ result.label = repeated "← " (amount / 2) ++ proposal.label ∧
      result.replaced = ⟨proposal.replaced.start - amount, proposal.replaced.stop⟩ ∧
      result.insertion = (Snippet.splitBlank proposal.insertion).1 ++ Snippet.dedent (Snippet.splitBlank proposal.insertion).2 amount ∧
      ∃ before, Text.slice? text.toList (proposal.replaced.start - amount) proposal.replaced.start = some before ∧
        before.all (· == ' ') = true := by
  unfold dedented? at moved
  dsimp only at moved
  split at moved
  · cases moved
  · split at moved
    · cases moved
    next before cut =>
      split at moved
      next spaces =>
        obtain rfl := Option.some.inj moved
        exact ⟨rfl, rfl, rfl, rfl, before, cut, spaces⟩
      next => cases moved

end Proposal

namespace Completion

section

variable (completion : Completion) (current around : Block) (column : Nat) (proposal result : Proposal)

theorem moved_cases (wanted : Nat) (target : childColumn around current proposal.hasDash = wanted)
    (moved : completion.moved? current around column proposal = some result) :
    (wanted = column ∧ result = proposal) ∨
    (column < wanted ∧ result = proposal.indented (wanted - column)) ∨
    (wanted < column ∧ proposal.dedented? (column - wanted) completion.text = some result) := by
  unfold moved? at moved
  rw [target] at moved
  dsimp only at moved
  split at moved
  next here => exact .inl ⟨here, (Option.some.inj moved).symm⟩
  next elsewhere =>
    split at moved
    next further =>
      split at moved
      next => exact .inr (.inl ⟨further, (Option.some.inj moved).symm⟩)
      next => cases moved
    next notFurther =>
      split at moved
      next => exact .inr (.inr ⟨by omega, moved⟩)
      next => cases moved

theorem moved_label (moved : completion.moved? current around column proposal = some result) :
    result.kind = proposal.kind ∧
      Proposal.withoutArrows result.label.toList = Proposal.withoutArrows proposal.label.toList := by
  have right : ∀ rest, Proposal.withoutArrows ("→ ".toList ++ rest) = Proposal.withoutArrows rest := fun _ => rfl
  have left : ∀ rest, Proposal.withoutArrows ("← ".toList ++ rest) = Proposal.withoutArrows rest := fun _ => rfl
  rcases moved_cases completion current around column proposal result _ rfl moved with
    ⟨_, rfl⟩ | ⟨_, rfl⟩ | ⟨_, dedented⟩
  · exact ⟨rfl, rfl⟩
  · exact ⟨rfl, Proposal.without_arrows_repeated _ right _ _⟩
  · obtain ⟨kind, label, _⟩ := Proposal.dedented_spec proposal result _ _ dedented
    rw [label]
    exact ⟨kind, Proposal.without_arrows_repeated _ left _ _⟩

theorem moved_insertion (first : Char) (rest : List Char) (starts : proposal.insertion.toList = first :: rest)
    (visible : Text.isBlank first = false) (wanted : Nat) (target : childColumn around current proposal.hasDash = wanted)
    (moved : completion.moved? current around column proposal = some result) :
    (wanted = column ∧ result = proposal) ∨
    (∃ amount, column + amount = wanted ∧ result.replaced = proposal.replaced ∧
      result.insertion.toList = blanks amount ++ Snippet.indentChars amount proposal.insertion.toList) ∨
    ∃ amount, wanted + amount = column ∧
      result.replaced = ⟨proposal.replaced.start - amount, proposal.replaced.stop⟩ ∧
      result.insertion.toList = Snippet.dedentChars amount 0 proposal.insertion.toList := by
  have split := Proposal.split_blank_visible _ first rest starts visible
  rcases moved_cases completion current around column proposal result wanted target moved with
    stays | ⟨further, rfl⟩ | ⟨nearer, dedented⟩
  · exact .inl stays
  · refine .inr (.inl ⟨wanted - column, by omega, rfl, ?_⟩)
    simp [Proposal.indented, Proposal.lowered, split, Snippet.spaces, Snippet.indent, blanks]
  · obtain ⟨_, _, replaced, insertion, _⟩ := Proposal.dedented_spec proposal result _ _ dedented
    refine .inr (.inr ⟨column - wanted, by omega, replaced, ?_⟩)
    simp [insertion, split, Snippet.dedent]

theorem moved_starts (first : Char) (rest : List Char) (starts : proposal.insertion.toList = first :: rest)
    (visible : Text.isBlank first = false) (ordinary : first ≠ '\n' ∧ first ≠ '\\' ∧ first ≠ '$')
    (moved : completion.moved? current around column proposal = some result) :
    ∃ count more, Snippet.expandChars result.insertion.toList = blanks count ++ first :: more := by
  have expand (count : Nat) (chars : List Char) :
      Snippet.expandChars (blanks count ++ first :: chars) = blanks count ++ first :: Snippet.expandChars chars := by
    rw [List.append_cons, Snippet.expand_plain (blanks count ++ [first]) chars, List.append_assoc]
    · rfl
    · intro c member
      rcases List.mem_append.mp member with blank | here
      · rw [Snippet.blanks_plain count c blank]
        decide
      · rw [List.mem_singleton.mp here]
        exact ordinary.2
  rcases moved_insertion completion current around column proposal result first rest starts visible _ rfl moved with
    ⟨_, rfl⟩ | ⟨amount, _, _, insertion⟩ | ⟨amount, _, _, insertion⟩
  · exact ⟨0, _, by rw [starts]; exact expand 0 rest⟩
  · exact ⟨amount, _, by rw [insertion, starts, Snippet.indentChars, if_neg ordinary.1]; exact expand amount _⟩
  · refine ⟨0, Snippet.expandChars (Snippet.dedentChars amount 0 rest), ?_⟩
    rw [insertion, starts, Snippet.dedentChars, if_neg ordinary.1, if_neg (by simp)]
    exact expand 0 _

theorem first_visible_eq (first second : Char) (count other : Nat) (rest more : List Char) (visible : Text.isBlank first = false)
    (alsoVisible : Text.isBlank second = false) (same : blanks count ++ first :: rest = blanks other ++ second :: more) :
    first = second := by
  have drop (c : Char) (amount : Nat) (chars : List Char) (seen : Text.isBlank c = false) :
      (blanks amount ++ c :: chars).dropWhile Text.isBlank = c :: chars := by
    rw [List.dropWhile_append_of_pos (by simp [blanks, show Text.isBlank ' ' = true from rfl]),
      List.dropWhile_cons_of_neg (by simp [seen])]
  have rests := congrArg (List.dropWhile Text.isBlank) same
  rw [drop first count rest visible, drop second other more alsoVisible] at rests
  exact (List.cons.inj rests).1

theorem insertion_starts (label suffix : String) (first : Char) (rest : List Char) (starts : label.toList = first :: rest)
    (ordinary : first ≠ '\n' ∧ Snippet.isSpecial first = false) :
    ∃ more, (Snippet.indent (Snippet.escape label ++ ":" ++ suffix) column).toList = first :: more := by
  simp [Snippet.indent, Snippet.escape, starts, Snippet.escapeChars, ordinary.2, Snippet.indentChars, ordinary.1]

theorem spelled_label (name : List Char) (suffix : String)
    (insertion : proposal.insertion = Snippet.indent (Snippet.escape proposal.label ++ ":" ++ suffix) column)
    (moved : completion.moved? current around column proposal = some result) (spells : result.Spells name) :
    proposal.label.toList = name := by
  have label := spells.label
  rw [(moved_label completion current around column proposal result moved).2] at label
  have noArrow (arrow : Char) (behind : List Char) (starts : proposal.label.toList = arrow :: behind)
      (visible : Text.isBlank arrow = false)
      (ordinary : arrow ≠ '\n' ∧ arrow ≠ '\\' ∧ arrow ≠ '$' ∧ Snippet.isSpecial arrow = false) :
      arrow ≠ '→' ∧ arrow ≠ '←' := by
    obtain ⟨others, chars⟩ := insertion_starts column proposal.label suffix arrow behind starts ⟨ordinary.1, ordinary.2.2.2⟩
    rw [← insertion] at chars
    obtain ⟨before, after, found⟩ := moved_starts completion current around column proposal result arrow others chars visible
      ⟨ordinary.1, ordinary.2.1, ordinary.2.2.1⟩ moved
    exact spells.unmarked before arrow after found
  rw [Proposal.withoutArrows.eq_def] at label
  split at label
  next behind starts => exact absurd rfl (noArrow _ _ starts (by decide) (by decide)).1
  next behind starts => exact absurd rfl (noArrow _ _ starts (by decide) (by decide)).2
  next => exact label

end

-- What a proposal for a key does on a blank line: it takes in spaces before the cursor or adds some, so that the key
-- stands at the column.
structure Writes (slot : Slot) (column wanted : Nat) (name : List Char) (ending : KeyEnd) (proposal : Proposal) where
  before : Nat
  extra : Nat
  within : before ≤ column
  lands : before + extra = wanted
  replaced : proposal.replaced = ⟨slot.start + before, slot.start + column⟩
  inserted : Snippet.expandChars proposal.insertion.toList = blanks extra ++ (name ++ ':' :: ending.written wanted)

theorem spells_of_inserted (proposal : Proposal) (name : List Char) (simple : IsSimpleKey name)
    (label : Proposal.withoutArrows proposal.label.toList = name) (count : Nat) (rest : List Char)
    (inserted : Snippet.expandChars proposal.insertion.toList = blanks count ++ (name ++ ':' :: rest)) :
    proposal.Spells name := by
  obtain ⟨first, more, split, word, _⟩ := simple_key_cons name simple
  refine ⟨label, fun other arrow behind starts => ?_⟩
  rw [inserted, split, List.cons_append] at starts
  have same (visible : Text.isBlank arrow = false) : first = arrow :=
    first_visible_eq first arrow count other _ behind (Text.word_visible first word) visible starts
  constructor
  · rintro rfl
    rw [same (by decide)] at word
    exact absurd word (by decide +kernel)
  · rintro rfl
    rw [same (by decide)] at word
    exact absurd word (by decide +kernel)

theorem name_not_dashed (label : String) (name : List Char) (simple : IsSimpleKey name) (same : label.toList = name) :
    label.startsWith "- " = false := by
  obtain ⟨first, rest, split, word, _⟩ := simple_key_cons name simple
  rw [String.startsWith_string_eq_false_iff, same, split]
  intro starts
  obtain ⟨dash, _⟩ := List.cons_prefix_cons.mp starts
  rw [← dash] at word
  exact absurd word (by decide +kernel)

theorem key_insertion_chars (completion : Completion) (slot : Slot) (count column : Nat) (current : Block)
    (onBlank : completion.OnBlank slot count column) (isRaw : current.kind = .raw) (label : String) (name : List Char)
    (simple : IsSimpleKey name) (same : label.toList = name) (type : TypeId) :
    ∃ ending : KeyEnd, (completion.keyInsertion (completion.query current) current label type).toList =
      name ++ ':' :: ending.snippet column := by
  obtain ⟨ending, continues⟩ := KeyEnd.continuation_spec completion.schema type
  have plain := simple_key_plain name simple
  have escaped : Snippet.escapeChars name = name := Snippet.escape_plain name fun c member => (plain c member).2.2.2
  refine ⟨ending, ?_⟩
  rw [key_insertion_blank completion slot count column current onBlank isRaw, Snippet.indent, Snippet.escape, same,
    escaped, String.toList_ofList, String.toList_append, String.toList_append, String.toList_ofList, continues,
    List.append_assoc, Snippet.indent_plain column name _ fun c member => (plain c member).1]
  exact congrArg (name ++ ':' :: ·) (ending.indent_snippet column 0)

theorem expand_key (name : List Char) (simple : IsSimpleKey name) (ending : KeyEnd) (amount wanted : Nat) :
    Snippet.expandChars (blanks amount ++ (name ++ ':' :: ending.snippet wanted)) =
      blanks amount ++ (name ++ ':' :: ending.written wanted) := by
  have plain := simple_key_plain name simple
  have noMark : ∀ c ∈ name ++ [ ':'], c ≠ '\\' ∧ c ≠ '$' := by
    intro c member
    rcases List.mem_append.mp member with inside | colon
    · exact ⟨(plain c inside).2.1, (plain c inside).2.2.1⟩
    · rw [List.mem_singleton.mp colon]
      decide
  have blank : ∀ c ∈ blanks amount, c ≠ '\\' ∧ c ≠ '$' := by
    intro c member
    rw [Snippet.blanks_plain amount c member]
    decide
  rw [Snippet.expand_plain _ _ blank, List.append_cons name, Snippet.expand_plain _ _ noMark, ending.expand_snippet]
  simp

theorem moved_writes (completion : Completion) (slot : Slot) (count column : Nat) (current around : Block)
    (onBlank : completion.OnBlank slot count column) (isRaw : current.kind = .raw) (proposal result : Proposal)
    (name : List Char) (simple : IsSimpleKey name) (type : TypeId) (label : proposal.label.toList = name)
    (insertion : proposal.insertion = completion.keyInsertion (completion.query current) current proposal.label type)
    (replaced : proposal.replaced = completion.typed (completion.query current))
    (moved : completion.moved? current around column proposal = some result) :
    ∃ ending, Nonempty (Writes slot column (childColumn around current false) name ending result) := by
  obtain ⟨first, rest, split, word, _⟩ := simple_key_cons name simple
  have noFeed : ∀ c ∈ name, c ≠ '\n' := fun c member => (simple_key_plain name simple c member).1
  -- Before it is moved, the insertion has its further lines at the column of the cursor.
  obtain ⟨ending, chars⟩ := key_insertion_chars completion slot count column current onBlank isRaw proposal.label name simple label type
  rw [← insertion] at chars
  have starts : proposal.insertion.toList = first :: (rest ++ ':' :: ending.snippet column) := by rw [chars, split]; rfl
  have undashed : proposal.hasDash = false := name_not_dashed proposal.label name simple label
  have place : proposal.replaced = ⟨slot.start + column, slot.start + column⟩ := by
    rw [replaced, typed_blank completion slot count column current onBlank isRaw]
  refine ⟨ending, ?_⟩
  rcases moved_insertion completion current around column proposal result first _ starts (Text.word_visible first word)
    (childColumn around current false) (by rw [undashed]) moved with
    ⟨here, rfl⟩ | ⟨amount, further, replacedEq, insertionEq⟩ | ⟨amount, nearer, replacedEq, insertionEq⟩
  · refine ⟨⟨column, 0, Nat.le_refl _, by omega, place, ?_⟩⟩
    rw [chars, here]
    exact expand_key name simple ending 0 column
  · refine ⟨⟨column, amount, Nat.le_refl _, further, by rw [replacedEq, place], ?_⟩⟩
    have shifted : Snippet.indentChars amount ( ':' :: ending.snippet column) = ':' :: ending.snippet (amount + column) :=
      congrArg ( ':' :: ·) (ending.indent_snippet amount column)
    rw [insertionEq, chars, Snippet.indent_plain amount name _ noFeed, shifted, ← further, Nat.add_comm column amount]
    exact expand_key name simple ending amount (amount + column)
  · refine ⟨⟨childColumn around current false, 0, by omega, Nat.add_zero _, ?_, ?_⟩⟩
    · rw [replacedEq, place]
      congr 1
      dsimp only
      omega
    · have shifted : Snippet.dedentChars amount 0 ( ':' :: ending.snippet column) =
          ':' :: ending.snippet (childColumn around current false) := by
        rw [← nearer, Nat.add_comm]
        exact congrArg ( ':' :: ·) (ending.dedent_snippet amount (childColumn around current false))
      rw [insertionEq, chars, Snippet.dedent_plain amount name _ noFeed, shifted]
      exact expand_key name simple ending 0 _

theorem spells_iff_label (completion : Completion) (slot : Slot) (count column : Nat) (current around : Block)
    (onBlank : completion.OnBlank slot count column) (isRaw : current.kind = .raw) (proposal result : Proposal)
    (name : List Char) (simple : IsSimpleKey name) (type : TypeId)
    (insertion : proposal.insertion = completion.keyInsertion (completion.query current) current proposal.label type)
    (replaced : proposal.replaced = completion.typed (completion.query current))
    (moved : completion.moved? current around column proposal = some result) :
    result.Spells name ↔ proposal.label.toList = name := by
  constructor
  · exact spelled_label completion current around column proposal result name _
      (by rw [insertion, key_insertion_blank completion slot count column current onBlank isRaw]) moved
  · intro label
    obtain ⟨ending, ⟨writes⟩⟩ := moved_writes completion slot count column current around onBlank isRaw proposal result name simple
      type label insertion replaced moved
    obtain ⟨first, rest, split, word, _⟩ := simple_key_cons name simple
    refine spells_of_inserted result name simple ?_ _ _ writes.inserted
    rw [(moved_label completion current around column proposal result moved).2, label, split, Proposal.withoutArrows.eq_def]
    split
    next _ starts =>
      rw [(List.cons.inj starts).1] at word
      exact absurd word (by decide +kernel)
    next _ starts =>
      rw [(List.cons.inj starts).1] at word
      exact absurd word (by decide +kernel)
    next => rfl

theorem writes_accepted (slot : Slot) (count column wanted : Nat) (name : List Char) (ending : KeyEnd) (proposal : Proposal)
    (text : String) (whole : text.toList = slot.fill (blanks count)) (within : column ≤ count)
    (writes : Writes slot column wanted name ending proposal) : (proposal.accepted text).toList =
      slot.fill (blanks wanted ++ (name ++ ':' :: (ending.written wanted ++ blanks (count - column)))) := by
  have cut (width : Nat) (le : width ≤ count) :
      text.toList = (slot.before ++ blanks width) ++ (blanks (count - width) ++ slot.after) := by
    rw [whole, slot.fill_cut width count le]
  have kept := Text.take_bytes_append (slot.before ++ blanks writes.before) (blanks (count - writes.before) ++ slot.after)
  have left := Text.drop_bytes_append (slot.before ++ blanks column) (blanks (count - column) ++ slot.after)
  rw [← cut _ (Nat.le_trans writes.within within), Slot.length_before] at kept
  rw [← cut column within, Slot.length_before] at left
  have target : blanks writes.before ++ blanks writes.extra = blanks wanted := by rw [blanks_join, writes.lands]
  rw [Proposal.accepted, String.toList_ofList, writes.replaced, kept, left, writes.inserted, Slot.fill, ← target]
  simp [List.append_assoc]

end Completion
end YamlDialects
