import Mathlib.Data.List.ReduceOption
import YamlDialects.Proofs.Outline.LineEnds
import YamlDialects.Proofs.Outline.Marks
import YamlDialects.Proofs.Text.Lines

/-!
An outline is made by cutting lines out of the text, at offsets that are counted up from line to line and behind each
dash. Here every cut is checked: it has to start and to end between two characters. None of them is refused, whatever the
text, and neither is the cut of the line of a block.
-/

set_option autoImplicit false

namespace YamlDialects

-- What comes to the same with checks for each item comes to the same for all of them.
section

variable {α β : Type} (all : List α)

theorem maps_checked (checked : α → Option β) (total : α → β) (each : ∀ item ∈ all, checked item = some (total item)) :
    all.mapM checked = some (all.map total) := by
  induction all with
  | nil => rfl
  | cons item rest ih =>
      obtain ⟨here, others⟩ := List.forall_mem_cons.mp each
      rw [List.mapM_cons, here, ih others]
      rfl

theorem folds_checked (checked : β → α → Option β) (total : β → α → β) (start : β)
    (each : ∀ item ∈ all, ∀ so_far, checked so_far item = some (total so_far item)) :
    all.foldlM checked start = some (all.foldl total start) := by
  induction all generalizing start with
  | nil => rfl
  | cons item rest ih =>
      obtain ⟨here, others⟩ := List.forall_mem_cons.mp each
      rw [List.foldlM_cons, here, Option.bind_eq_bind, Option.bind_some, ih _ others, List.foldl_cons]

theorem selects_checked (checked : α → Option (Option β)) (total : α → Option β)
    (each : ∀ item ∈ all, checked item = some (total item)) :
    (all.mapM checked).map List.reduceOption = some (all.filterMap total) := by
  rw [maps_checked all checked total each, Option.map_some, List.reduceOption, List.filterMap_map, Function.id_comp]

theorem gathers_checked (checked : α → Option (List β)) (total : α → List β)
    (each : ∀ item ∈ all, checked item = some (total item)) :
    (all.mapM checked).map List.flatten = some (all.flatMap total) := by
  rw [maps_checked all checked total each, Option.map_some, List.flatMap_def]

end

namespace Text

theorem find_offset_none (wanted : Char → Bool) (chars : List Char) (missing : ∀ c ∈ chars, wanted c = false) :
    findOffset? wanted chars = none := by
  induction chars with
  | nil => rfl
  | cons c rest ih =>
      obtain ⟨here, later⟩ := List.forall_mem_cons.mp missing
      rw [findOffset?, if_neg (by simp [here]), ih later, Option.map_none]

theorem find_offset_first (wanted : Char → Bool) (before after : List Char) (c : Char)
    (missing : ∀ c ∈ before, wanted c = false) (here : wanted c = true) : findOffset? wanted (before ++ c :: after) = some (byteLength before) := by
  induction before with
  | nil => rw [List.nil_append, findOffset?, if_pos here, byte_length_nil]
  | cons d rest ih =>
      obtain ⟨first, later⟩ := List.forall_mem_cons.mp missing
      rw [List.cons_append, findOffset?, if_neg (by simp [first]), ih later, Option.map_some, byte_length_cons]

end Text

namespace Outline

def contentEnd (line : List Char) (feed : Nat) : Nat :=
  if line.getLast? == some '\r' then feed - 1 else feed

-- The lines from an offset on. Each goes up to the next line feed, and a carriage return right before that is left out.
def linesChecked (chars : List Char) : Nat → Nat → Option (List Line)
  | 0, _ => none
  | fuel + 1, start => do
      let onward ← Text.dropBytes? chars start
      match Text.findOffset? (· == '\n') onward with
      | none =>
          let content ← Text.slice? chars start (Text.byteLength chars)
          return [⟨content, start, Text.byteLength chars, Text.byteLength chars, indentOf content⟩]
      | some distance =>
          let feed := start + distance
          let contentStop := contentEnd (onward.takeWhile (· != '\n')) feed
          let content ← Text.slice? chars start contentStop
          let later ← linesChecked chars fuel (feed + 1)
          return ⟨content, start, contentStop, feed + 1, indentOf content⟩ :: later

def preambleChecked (chars : List Char) : List Line → Option (List Line)
  | [] => some []
  | line :: rest =>
      if line.indent.isSome then do
        if isPreamble (← Text.slice? chars line.start line.contentStop) then return line :: (← preambleChecked chars rest)
        else return []
      else some []

def Line.cut? (chars : List Char) (line : Line) (indent : Nat) : Option (List Char) :=
  Text.slice? chars (min (line.start + indent) line.contentStop) line.contentStop

namespace Builder

def openBlocksChecked (chars : List Char) (line : Line) : Nat → Nat → Builder → Option Builder
  | 0, _, _ => none
  | fuel + 1, indent, builder => do
      let body ← line.cut? chars indent
      match keyLength? body with
      | some length => return builder.addKey line indent length
      | none =>
          if (itemRest? body).isSome then
            openBlocksChecked chars line fuel (min (indent + 2) (line.contentStop - line.start)) (builder.addItem line indent)
          else return builder

def addLineChecked (chars : List Char) (builder : Builder) (line : Line) : Option Builder :=
  match line.indent with
  | none => some (builder.addRaw line)
  | some indent => do
      let body ← line.cut? chars indent
      if isSeparator body then return builder.addDocument line.start line.contentStop line.stop
      else if isBlock body then openBlocksChecked chars line (body.length + 1) indent builder
      else return builder.addRaw line

end Builder

def separatedChecked (chars : List Char) (all : List Line) : Option Bool :=
  match all.head? with
  | none => some false
  | some line => (line.cut? chars (line.indent.getD 0)).map isSeparator

def tableOfChecked (chars : List Char) : Option Table := do
  let all ← linesChecked chars (chars.length + 1) 0
  let leading ← preambleChecked chars all
  let rest := all.drop leading.length
  let start : Builder := ⟨#[Table.rootOf (Text.byteLength chars)], 0⟩
  let ready := if ← separatedChecked chars rest then start else leading.foldl Builder.addRaw (start.addDocument 0 0 0)
  return (← rest.foldlM (Builder.addLineChecked chars) ready).table

-- The outline of a text, or nothing if a cut on the way would not be between two characters.
def ofTextChecked (text : String) (relaxedNames : Bool) : Option Outline :=
  (tableOfChecked text.toList).map fun table => ⟨text, table, relaxedNames⟩

theorem fed_line_cut (before line below : List Char) (single : '\n' ∉ line) : ∃ content,
    Text.slice? (before ++ (line ++ '\n' :: below)) (Text.byteLength before)
        (contentEnd line (Text.byteLength before + Text.byteLength line)) = some content ∧
      linesFrom (Text.byteLength before) [] (line ++ '\n' :: below) =
        ⟨content, Text.byteLength before, contentEnd line (Text.byteLength before + Text.byteLength line),
            Text.byteLength before + Text.byteLength line + 1, indentOf content⟩ ::
          linesFrom (Text.byteLength before + Text.byteLength line + 1) [] below := by
  by_cases carriage : line.getLast? = some '\r'
  · obtain ⟨content, rfl⟩ : ∃ content, line = content ++ [ '\r'] := List.getLast?_eq_some_iff.mp carriage
    have plain : '\n' ∉ content := fun member => single (List.mem_append_left _ member)
    have width : Text.byteLength before + Text.byteLength (content ++ [ '\r']) =
        Text.byteLength before + Text.byteLength content + 1 := by
      rw [Text.byte_length_append]
      rfl
    rw [contentEnd, if_pos (beq_iff_eq.mpr carriage), width, Nat.add_sub_cancel, List.append_assoc, List.singleton_append]
    refine ⟨content, Text.slice_append before content _, ?_⟩
    rw [lines_from_held _ [] content _ plain, lines_from_char _ _ _ '\r' (by decide), lines_from_return, List.append_nil,
      List.reverse_reverse]
    rfl
  · rw [contentEnd, if_neg (mt beq_iff_eq.mp carriage)]
    exact ⟨line, Text.slice_append before line _, lines_from_ended _ line below single carriage⟩

theorem lines_checked_from (before rest : List Char) (fuel : Nat) (enough : rest.length < fuel) :
    linesChecked (before ++ rest) fuel (Text.byteLength before) = some (linesFrom (Text.byteLength before) [] rest) := by
  induction fuel generalizing before rest with
  | zero => omega
  | succ fuel ih =>
      obtain ⟨line, tail, rfl, single, ends⟩ := Text.first_line_split rest
      have unfed : ∀ c ∈ line, (c == '\n') = false := by
        intro c member
        exact beq_false_of_ne fun same => single (same ▸ member)
      rw [linesChecked, Text.drop_bytes_append, Option.bind_eq_bind, Option.bind_some]
      rcases ends with rfl | ⟨below, rfl⟩
      · have whole := Text.slice_append before line []
        rw [List.append_nil] at whole ⊢
        rw [Text.find_offset_none _ line unfed, Text.byte_length_append, lines_from_last _ line single]
        simp only [whole]
        rfl
      · have taken : (line ++ '\n' :: below).takeWhile (· != '\n') = line := by
          rw [List.takeWhile_append_of_pos (fun c member => by rw [bne, unfed c member]; rfl), List.takeWhile_cons_of_neg (by simp),
            List.append_nil]
        have later := ih (before ++ (line ++ [ '\n'])) below (by simp at enough; omega)
        rw [Text.byte_length_append, Text.byte_length_append, Text.byte_length_cons, Text.byte_length_nil,
          show Char.utf8Size '\n' = 1 from rfl, Nat.add_zero, ← Nat.add_assoc,
          show before ++ (line ++ [ '\n']) ++ below = before ++ (line ++ '\n' :: below) by simp] at later
        obtain ⟨content, cut, whole⟩ := fed_line_cut before line below single
        rw [Text.find_offset_first _ line below '\n' unfed (by decide)]
        dsimp only
        rw [taken, cut, later, whole]
        rfl

theorem lines_checked (chars : List Char) : linesChecked chars (chars.length + 1) 0 = some (lines chars) :=
  lines_checked_from [] chars (chars.length + 1) (Nat.lt_succ_self _)

theorem spot_cut (chars : List Char) (line : Line) (indent : Nat) (body : List Char) (spot : Spot chars line indent body) :
    line.cut? chars indent = some body := by
  obtain ⟨before, after, split, start, stop⟩ := spot_split chars line indent body spot
  rw [Line.cut?, Nat.min_eq_left (by omega), ← stop, ← start, split, Text.slice_append]

theorem body_cut (chars : List Char) (line : Line) (within : line.Within chars) :
    line.cut? chars (line.indent.getD 0) = some line.body := by
  cases indented : line.indent with
  | none =>
      rw [Line.body, indented]
      exact spot_cut chars line 0 line.chars (spot_zero chars line within)
  | some indent => exact spot_cut chars line indent line.body (spot_body chars line indent within indented)

theorem preamble_checked (chars : List Char) (all : List Line) (within : ∀ line ∈ all, line.Within chars) :
    preambleChecked chars all = some (preamble all) := by
  induction all with
  | nil => rfl
  | cons line rest ih =>
      obtain ⟨here, others⟩ := List.forall_mem_cons.mp within
      have cut := spot_cut chars line 0 line.chars (spot_zero chars line here)
      rw [Line.cut?, Nat.add_zero, Nat.min_eq_left (line_start_le chars line here).1] at cut
      rw [preambleChecked, preamble, List.takeWhile_cons, cut, Option.bind_eq_bind, Option.bind_some, ih others]
      cases line.indent.isSome <;> cases isPreamble line.chars <;> rfl

theorem spot_end (chars : List Char) (line : Line) (within : line.Within chars) :
    Spot chars line (line.contentStop - line.start) [] := by
  obtain ⟨before, terminator, after, split, made⟩ := within
  refine ⟨⟨before, terminator, after, split, made⟩, line.chars, (List.append_nil _).symm, ?_⟩
  rw [made]
  exact (Nat.add_sub_cancel_left _ _).symm

namespace Builder

theorem open_blocks_stop (chars : List Char) (line : Line) (fuel indent : Nat) (body : List Char) (builder : Builder)
    (spot : Spot chars line indent body) (noKey : keyLength? body = none) (noItem : itemRest? body = none) :
    openBlocksChecked chars line (fuel + 1) indent builder = some builder := by
  rw [openBlocksChecked, spot_cut chars line indent body spot, Option.bind_eq_bind, Option.bind_some, noKey, noItem]
  rfl

theorem open_blocks_dash (chars : List Char) (line : Line) (fuel indent : Nat) (body : List Char) (builder : Builder)
    (spot : Spot chars line indent body) (noKey : keyLength? body = none) (item : (itemRest? body).isSome = true) :
    openBlocksChecked chars line (fuel + 1) indent builder =
      openBlocksChecked chars line fuel (min (indent + 2) (line.contentStop - line.start)) (builder.addItem line indent) := by
  rw [openBlocksChecked, spot_cut chars line indent body spot, Option.bind_eq_bind, Option.bind_some, noKey]
  exact if_pos item

theorem open_blocks_checked (chars : List Char) (line : Line) (fuel indent : Nat) (body : List Char) (builder : Builder)
    (spot : Spot chars line indent body) (enough : body.length < fuel) :
    openBlocksChecked chars line fuel indent builder = some (openBlocks line indent body builder) := by
  fun_induction openBlocks line indent body builder generalizing fuel with
  | case1 body indent builder length found =>
      obtain ⟨fuel, rfl⟩ := Nat.exists_eq_add_one_of_ne_zero (Nat.ne_zero_of_lt enough)
      rw [openBlocksChecked, spot_cut chars line indent body spot, Option.bind_eq_bind, Option.bind_some, found]
      rfl
  | case2 indent builder missing =>
      -- Behind a dash at the end of a line nothing is left to cut out.
      obtain ⟨fuel, rfl⟩ : ∃ more, fuel = more + 2 := ⟨fuel - 2, by simp at enough; omega⟩
      obtain ⟨before, after, split, start, stop⟩ := spot_split chars line indent [ '-'] spot
      have width : Text.byteLength [ '-'] = 1 := rfl
      rw [open_blocks_dash chars line _ indent _ builder spot missing rfl, Nat.min_eq_right (by omega)]
      exact open_blocks_stop chars line fuel _ [] _ (spot_end chars line spot.within) rfl rfl
  | case3 indent builder rest missing ih =>
      obtain ⟨fuel, rfl⟩ := Nat.exists_eq_add_one_of_ne_zero (Nat.ne_zero_of_lt enough)
      have behind := spot_after_dash chars line indent rest spot
      obtain ⟨before, after, split, start, stop⟩ := spot_split chars line (indent + 2) rest behind
      rw [open_blocks_dash chars line fuel indent _ builder spot missing rfl, Nat.min_eq_left (by omega)]
      exact ih fuel behind (by simp at enough; omega)
  | case4 body indent builder missing notDash notItem =>
      obtain ⟨fuel, rfl⟩ := Nat.exists_eq_add_one_of_ne_zero (Nat.ne_zero_of_lt enough)
      refine open_blocks_stop chars line fuel indent body builder spot missing ?_
      unfold itemRest?
      split
      · exact absurd rfl notDash
      · exact absurd rfl (notItem _)
      · rfl

theorem add_line_checked (chars : List Char) (builder : Builder) (line : Line) (within : line.Within chars) :
    addLineChecked chars builder line = some (addLine builder line) := by
  unfold addLineChecked addLine
  cases indented : line.indent with
  | none => rfl
  | some indent =>
      have spot := spot_body chars line indent within indented
      have cut := body_cut chars line within
      rw [indented, Option.getD_some] at cut
      dsimp only
      rw [cut, Option.bind_eq_bind, Option.bind_some,
        open_blocks_checked chars line _ indent line.body builder spot (Nat.lt_succ_self _)]
      split
      · rfl
      · split <;> rfl

end Builder

theorem separated_checked (chars : List Char) (all : List Line) (within : ∀ line ∈ all, line.Within chars) :
    separatedChecked chars all = some (all.head?.any fun line => isSeparator line.body) := by
  unfold separatedChecked
  cases first : all.head? with
  | none => rfl
  | some line =>
      dsimp only
      rw [body_cut chars line (within line (List.mem_of_head? first)), Option.map_some, Option.any_some]

theorem table_of_checked (chars : List Char) : tableOfChecked chars = some (tableOf chars) := by
  have within := lines_within chars
  have follows : ∀ line ∈ (lines chars).drop (preamble (lines chars)).length, line.Within chars :=
    fun line member => within line (List.drop_subset _ _ member)
  have added (start : Builder) := folds_checked _ (Builder.addLineChecked chars) Builder.addLine start fun line member builder =>
    Builder.add_line_checked chars builder line (follows line member)
  simp only [tableOfChecked, lines_checked, preamble_checked chars _ within, Option.bind_eq_bind, Option.bind_some,
    separated_checked chars _ follows, added _]
  rfl

theorem of_text_checked (text : String) (relaxedNames : Bool) :
    ofTextChecked text relaxedNames = some (ofText text relaxedNames) := by
  rw [ofTextChecked, table_of_checked]
  rfl

theorem opened_behind_dash (chars : List Char) (line : Line) (indent : Nat) (body : List Char)
    (spot : Spot chars line indent body) :
    ∀ entry ∈ line.opened indent body, entry.kind = .item → Text.IsBoundary chars (entry.start + 1) := by
  have behind (indent : Nat) (rest : List Char) (spot : Spot chars line indent ( '-' :: rest)) :
      Text.IsBoundary chars (line.start + indent + 1) := by
    obtain ⟨before, after, split, start, -⟩ := spot_split chars line indent ( '-' :: rest) spot
    refine (Text.boundary_iff_split _ _).mpr ⟨before ++ [ '-'], rest ++ after, by simpa using split, ?_⟩
    rw [Text.byte_length_append, start]
    rfl
  fun_induction Line.opened line indent body with
  | case1 body indent length found =>
      refine List.forall_mem_singleton.mpr fun isItem => ?_
      cases isItem
  | case2 indent missing => exact List.forall_mem_singleton.mpr fun _ => behind indent [] spot
  | case3 indent rest missing ih =>
      exact List.forall_mem_cons.mpr ⟨fun _ => behind indent _ spot, ih (spot_after_dash chars line indent rest spot)⟩
  | case4 => exact List.forall_mem_nil _

theorem opening_behind_dash (chars : List Char) :
    ∀ entry ∈ opening (lines chars), entry.kind = .item → Text.IsBoundary chars (entry.start + 1) := by
  refine opening_each _ _ (by simp) (fun line member isItem => by cases isItem) fun line member => ?_
  refine line.entries_each _ (fun isItem => by cases isItem) (fun isItem => by cases isItem) fun indent indented => ?_
  exact opened_behind_dash chars line indent line.body (spot_body chars line indent (lines_within chars line member) indented)

end Outline

namespace Block

open Outline

def textChecked (block : Block) : Option String :=
  (Text.slice? block.outline.text.toList block.start (max block.entry.contentStop block.start)).map String.ofList

def isInValueChecked (block : Block) (offset : Nat) : Option Bool :=
  match block.kind with
  | .item => block.textChecked.map fun text =>
      let dash := if text.utf8ByteSize = 1 then 1 else 2
      block.start + dash ≤ offset && offset ≤ block.treeStop
  | _ => some (block.isInValue offset)

section

variable (text : String) (relaxedNames : Bool) (block : Block) (belongs : block.outline = ofText text relaxedNames)

include belongs

theorem text_checked : block.textChecked = some block.text := by
  have placed : ∃ before middle after, text.toList = before ++ (middle ++ after) ∧
      block.entry.start = Text.byteLength before ∧ block.entry.contentStop = Text.byteLength before + Text.byteLength middle := by
    by_cases isRoot : block.kind = .root
    · rcases block.root_entry text relaxedNames belongs isRoot with whole | empty
      · exact ⟨[], text.toList, [], by simp, by rw [whole]; rfl, by rw [whole]; simp [Table.rootOf]⟩
      · exact ⟨[], [], text.toList, rfl, by rw [empty]; rfl, by rw [empty]; rfl⟩
    · obtain ⟨before, middle, after, split, -, start, stop, -⟩ := block.entry_on_line text relaxedNames belongs isRoot
      exact ⟨before, middle, after, split, start, stop⟩
  obtain ⟨before, middle, after, split, start, stop⟩ := placed
  have same : block.outline.text.toList = before ++ (middle ++ after) := by rw [belongs]; exact split
  rw [textChecked, Block.text, Text.slice, same, Block.start, start, stop, Nat.max_eq_left (Nat.le_add_right _ _),
    Text.slice_append]
  rfl

theorem in_value_checked (offset : Nat) : block.isInValueChecked offset = some (block.isInValue offset) := by
  unfold isInValueChecked
  split
  next isItem =>
    rw [block.text_checked text relaxedNames belongs, Option.map_some, isInValue, isItem]
  next => rfl

theorem behind_colon (isKey : block.kind = .key) (colon : Nat) (placed : block.colon? = some colon) :
    Text.IsBoundary text.toList (colon + 1) := by
  have sound := block_sound text relaxedNames block belongs
  have notRoot : block.kind ≠ .root := by simp [isKey]
  have read := block.read_entry (block.bound_of_kind notRoot)
  obtain ⟨before, key, after, split, start, -, found, -⟩ :=
    (sound.shaped block.id block.entry (block.positive_of_kind text.toList sound notRoot) read).keyText isKey
  obtain rfl : block.entry.start + Text.byteLength key = colon := Option.some.inj (found.symm.trans placed)
  refine (Text.boundary_iff_split _ _).mpr ⟨before ++ (key ++ [ ':']), after, by simpa using split, ?_⟩
  rw [Text.byte_length_append, Text.byte_length_append, start, Nat.add_assoc]
  rfl

theorem behind_dash (isItem : block.kind = .item) : Text.IsBoundary text.toList (block.start + 1) := by
  have notRoot : block.kind ≠ .root := by simp [isItem]
  have read := block.read_entry (block.bound_of_kind notRoot)
  have positive := block.positive_of_kind text.toList (block_sound text relaxedNames block belongs) notRoot
  rw [belongs] at read
  exact opening_behind_dash text.toList block.entry.bare (List.mem_of_getElem? (bare_after_root text relaxedNames block.id
    block.entry positive read)) isItem

end

end Block
end YamlDialects
