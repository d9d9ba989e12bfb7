import Mathlib.Data.List.Induction
import YamlDialects.Outline.Basic
import YamlDialects.Proofs.Outline.Line

set_option autoImplicit false

namespace YamlDialects.Outline.Table

theorem read_bound (table : Table) (id : Nat) (entry : Entry) (read : table[id]? = some entry) :
    id < table.size :=
  (Array.getElem?_eq_some_iff.mp read).1

theorem read_exists (table : Table) (id : Nat) (bound : id < table.size) : ∃ entry, table[id]? = some entry :=
  ⟨table[id], Array.getElem?_eq_getElem bound⟩

theorem read_push_before (table : Table) (fresh : Entry) (id : Nat) (bound : id < table.size) :
    (table.push fresh)[id]? = table[id]? := by
  rw [Array.getElem?_push, if_neg (Nat.ne_of_lt bound)]

theorem read_push (table : Table) (fresh entry : Entry) (id : Nat) (read : table[id]? = some entry) :
    (table.push fresh)[id]? = some entry :=
  (read_push_before table fresh id (read_bound table id entry read)).trans read

theorem read_push_last (table : Table) (fresh : Entry) : (table.push fresh)[table.size]? = some fresh := by
  rw [Array.getElem?_push, if_pos rfl]

theorem read_push_cases (table : Table) (fresh entry : Entry) (id : Nat)
    (read : (table.push fresh)[id]? = some entry) :
    (id = table.size ∧ entry = fresh) ∨ (id < table.size ∧ table[id]? = some entry) := by
  rw [Array.getElem?_push] at read
  by_cases last : id = table.size
  · rw [if_pos last] at read
    exact .inl ⟨last, (Option.some.inj read).symm⟩
  · rw [if_neg last] at read
    exact .inr ⟨read_bound table id entry read, read⟩

def Each (table : Table) (holds : Table → Nat → Entry → Prop) : Prop :=
  ∀ (id : Nat) (entry : Entry), 0 < id → table[id]? = some entry → holds table id entry

theorem each_push (table : Table) (fresh : Entry) (holds : Table → Nat → Entry → Prop)
    (kept : ∀ id entry, table[id]? = some entry → holds table id entry → holds (table.push fresh) id entry)
    (each : table.Each holds) (last : holds (table.push fresh) table.size fresh) :
    Each (table.push fresh) holds := by
  intro id entry positive read
  rcases read_push_cases table fresh entry id read with ⟨rfl, rfl⟩ | ⟨_, earlier⟩
  · exact last
  · exact kept id entry earlier (each id entry positive earlier)

inductive Under (table : Table) (top : Nat) : Nat → Prop where
  | here : Under table top top
  | step (id parent : Nat) (entry : Entry) (read : table[id]? = some entry)
      (child : entry.parent = some parent) (above : Under table top parent) : Under table top id

theorem under_trans (table : Table) (top middle id : Nat) (upper : table.Under top middle)
    (lower : table.Under middle id) : table.Under top id := by
  induction lower with
  | here => exact upper
  | step id parent entry read child _ ih => exact .step id parent entry read child ih

theorem under_push (table : Table) (fresh : Entry) (top id : Nat) (under : table.Under top id) :
    Under (table.push fresh) top id := by
  induction under with
  | here => exact .here
  | step id parent entry read child _ ih =>
      exact .step id parent entry (read_push table fresh entry id read) child ih

def Descending (table : Table) : Prop :=
  ∀ (id : Nat) (entry : Entry) (parent : Nat), table[id]? = some entry → entry.parent = some parent → parent < id

theorem under_le (table : Table) (descending : table.Descending) (top id : Nat) (under : table.Under top id) :
    top ≤ id := by
  induction under with
  | here => exact Nat.le_refl top
  | step id parent entry read child _ ih =>
      have smaller := descending id entry parent read child
      omega

theorem under_parent (table : Table) (top id parent : Nat) (entry : Entry) (read : table[id]? = some entry)
    (child : entry.parent = some parent) (different : top ≠ id) (under : table.Under top id) :
    table.Under top parent := by
  cases under with
  | here => exact absurd rfl different
  | step _ other found readOther childOther above =>
      obtain rfl : entry = found := Option.some.inj (read.symm.trans readOther)
      obtain rfl : parent = other := Option.some.inj (child.symm.trans childOther)
      exact above

theorem under_linear (table : Table) (descending : table.Descending) (upper lower id : Nat)
    (order : upper ≤ lower) (above : table.Under upper id) (near : table.Under lower id) :
    table.Under upper lower := by
  induction near with
  | here => exact above
  | step id parent entry read child between ih =>
      apply ih
      have bound := under_le table descending lower parent between
      have smaller := descending id entry parent read child
      exact under_parent table upper id parent entry read child (by omega) above

-- Every node is put below the node before it or below something above that.
def Preordered (table : Table) : Prop :=
  ∀ (id : Nat) (entry : Entry) (parent : Nat), table[id]? = some entry → entry.parent = some parent → table.Under parent (id - 1)

theorem under_between (table : Table) (preordered : table.Preordered) (top middle id : Nat) (lower : top ≤ middle)
    (upper : middle ≤ id) (under : table.Under top id) : table.Under top middle := by
  induction id with
  | zero =>
      obtain rfl : middle = 0 := by omega
      exact under
  | succ id ih =>
      by_cases last : middle = id + 1
      · rw [last]
        exact under
      · cases under with
        | here => omega
        | step _ parent entry read child above =>
            have spine := preordered (id + 1) entry parent read child
            exact ih (by omega) (under_trans table top parent id above spine)

theorem climb_spec (table : Table) (level : Entry → Bool) (descending : table.Descending)
    (rooted : table.Each fun table _ entry => ∃ parent, entry.parent = some parent ∧ parent < table.size)
    (unstepped : ∀ entry, table[0]? = some entry → entry.kind.isStep = false)
    (fuel id : Nat) (enough : id < fuel) (present : id < table.size) :
    table.Under (table.climb level fuel id) id ∧
      (∃ entry, table[table.climb level fuel id]? = some entry ∧ (entry.kind.isStep = false ∨ level entry = true)) ∧
      ∀ between entry, table.Under between id → table.climb level fuel id < between →
        table[between]? = some entry → entry.kind.isStep = true ∧ level entry = false := by
  induction fuel generalizing id with
  | zero => omega
  | succ fuel ih =>
      obtain ⟨entry, read⟩ := read_exists table id present
      by_cases stops : (!entry.kind.isStep || level entry) = true
      · have result : table.climb level (fuel + 1) id = id := by simp [climb, read, stops]
        rw [result]
        refine ⟨.here, ⟨entry, read, by simpa using stops⟩, ?_⟩
        intro between _ under beyond _
        have bound := under_le table descending between id under
        omega
      · have isStep : entry.kind.isStep = true := by simp_all
        have misses : level entry = false := by simp_all
        have positive : 0 < id := by
          rcases Nat.eq_zero_or_pos id with rfl | positive
          · simp [unstepped entry read] at isStep
          · exact positive
        obtain ⟨parent, child, inside⟩ := rooted id entry positive read
        have smaller := descending id entry parent read child
        have result : table.climb level (fuel + 1) id = table.climb level fuel parent := by
          simp [climb, read, isStep, misses, child]
        obtain ⟨under, stopped, passed⟩ := ih parent (by omega) inside
        rw [result]
        refine ⟨under_trans table _ parent id under (.step id parent entry read child .here), stopped, ?_⟩
        intro between found above beyond readBetween
        by_cases same : between = id
        · subst same
          obtain rfl : entry = found := Option.some.inj (read.symm.trans readBetween)
          exact ⟨isStep, misses⟩
        · exact passed between found (under_parent table between id parent entry read child same above) beyond readBetween

def childrenBefore (table : Table) (id parent : Nat) (kind : Kind) : List Nat :=
  (List.range id).filter fun each => (table[each]?).any fun entry => entry.parent == some parent && entry.kind == kind

theorem children_before_nodup (table : Table) (id parent : Nat) (kind : Kind) :
    (table.childrenBefore id parent kind).Nodup :=
  List.nodup_range.filter _

theorem mem_children_before (table : Table) (id parent : Nat) (kind : Kind) (each : Nat) :
    each ∈ table.childrenBefore id parent kind ↔
      each < id ∧ ∃ entry, table[each]? = some entry ∧ entry.parent = some parent ∧ entry.kind = kind := by
  simp [childrenBefore, Option.any_eq_true]

theorem children_before_push (table : Table) (fresh : Entry) (id parent : Nat) (kind : Kind) (bound : id ≤ table.size) :
    childrenBefore (table.push fresh) id parent kind = table.childrenBefore id parent kind := by
  apply List.filter_congr
  intro each member
  rw [read_push_before table fresh each (Nat.lt_of_lt_of_le (List.mem_range.mp member) bound)]

theorem filter_positions {α : Type} (keep : α → Bool) (items : List α) :
    (items.filter keep).length = ((List.range items.length).filter fun each => items[each]?.any keep).length := by
  induction items using List.reverseRecOn with
  | nil => rfl
  | append_singleton items last ih =>
      have earlier : (List.range items.length).filter (fun each => (items ++ [last])[each]?.any keep) =
          (List.range items.length).filter fun each => items[each]?.any keep := by
        apply List.filter_congr
        intro each member
        rw [List.getElem?_append_left (List.mem_range.mp member)]
      rw [List.filter_append, List.length_append, ih, List.length_append, List.length_singleton,
        List.range_succ, List.filter_append, List.length_append, earlier]
      cases kept : keep last <;> simp [kept]

theorem count_children_eq (table : Table) (parent : Nat) (kind : Kind) :
    table.countChildren parent kind = (table.childrenBefore table.size parent kind).length := by
  rw [countChildren, ← Array.length_toList, Array.toList_filter, filter_positions, Array.length_toList]
  simp only [Array.getElem?_toList]
  rfl

end YamlDialects.Outline.Table

namespace YamlDialects.Outline

def keyLevel (indent : Nat) (entry : Entry) : Bool :=
  entry.indent.any (· < indent)

def itemLevel (indent : Nat) (entry : Entry) : Bool :=
  entry.indent.getD 0 < indent || (entry.kind != .item && entry.indent.getD 0 ≤ indent)

namespace Builder

theorem key_parent_climb (builder : Builder) (indent : Nat) :
    builder.keyParent indent = builder.table.climb (keyLevel indent) builder.table.size builder.current := rfl

theorem item_parent_climb (builder : Builder) (indent : Nat) :
    builder.itemParent indent = builder.table.climb (itemLevel indent) builder.table.size builder.current := rfl

def Reaches (builder : Builder) (limit : Nat) : Prop :=
  ∀ (last : Entry), 1 < builder.table.size → builder.table[builder.table.size - 1]? = some last → last.stop ≤ limit

-- A line may go on at `indent`: either it is a new line or the last node is an item of it further left.
def Meets (builder : Builder) (line : Line) (indent : Nat) : Prop :=
  builder.Reaches line.start ∨
    ∃ last left, builder.current + 1 = builder.table.size ∧ builder.table[builder.current]? = some last ∧
      last.kind = .item ∧ last.indent = some left ∧ left < indent ∧ last.start ≤ line.start + indent ∧
      last.stop = line.stop

theorem reaches_mono (builder : Builder) (limit further : Nat) (order : limit ≤ further)
    (reaches : builder.Reaches limit) : builder.Reaches further := by
  intro last begun read
  exact Nat.le_trans (reaches last begun read) order

theorem reaches_push (table : Table) (current : Nat) (fresh : Entry) (limit : Nat) (bound : fresh.stop ≤ limit) :
    Reaches ⟨table.push fresh, current⟩ limit := by
  intro last _ read
  rw [Array.size_push, Nat.add_sub_cancel, Table.read_push_last] at read
  rw [← Option.some.inj read]
  exact bound

theorem meets_reaches (builder : Builder) (line : Line) (indent : Nat) (order : line.start ≤ line.stop)
    (meets : builder.Meets line indent) : builder.Reaches line.stop := by
  rcases meets with newLine | ⟨last, _, atEnd, read, _, _, _, _, stopEq⟩
  · exact reaches_mono builder line.start line.stop order newLine
  · intro other _ readOther
    rw [← atEnd, Nat.add_sub_cancel, read] at readOther
    rw [← Option.some.inj readOther]
    exact Nat.le_of_eq stopEq

end Builder

inductive Made (chars : List Char) : Builder → Prop where
  | root : Made chars ⟨#[Table.rootOf (Text.byteLength chars)], 0⟩
  | document (builder : Builder) (start contentStop stop : Nat) (made : Made chars builder) (order : start ≤ stop)
      (startBoundary : Text.IsBoundary chars start) (stopBoundary : Text.IsBoundary chars stop)
      (reaches : builder.Reaches start) : Made chars (builder.addDocument start contentStop stop)
  | raw (builder : Builder) (line : Line) (body : List Char) (made : Made chars builder)
      (begun : 1 < builder.table.size) (spot : Spot chars line (line.indent.getD 0) body)
      (reaches : builder.Reaches line.start) : Made chars (builder.addRaw line)
  | key (builder : Builder) (line : Line) (indent length : Nat) (body : List Char) (made : Made chars builder)
      (begun : 1 < builder.table.size) (spot : Spot chars line indent body) (found : keyLength? body = some length)
      (meets : builder.Meets line indent) : Made chars (builder.addKey line indent length)
  | item (builder : Builder) (line : Line) (indent : Nat) (body : List Char) (made : Made chars builder)
      (begun : 1 < builder.table.size) (spot : Spot chars line indent body)
      (meets : builder.Meets line indent) : Made chars (builder.addItem line indent)

structure Passed (chars : List Char) (limit : Nat) (builder : Builder) : Prop where
  made : Made chars builder
  begun : 1 < builder.table.size
  reaches : builder.Reaches limit

theorem passed_mono (chars : List Char) (limit further : Nat) (builder : Builder) (order : limit ≤ further)
    (passed : Passed chars limit builder) : Passed chars further builder :=
  ⟨passed.made, passed.begun, builder.reaches_mono limit further order passed.reaches⟩

theorem made_nonempty (chars : List Char) (builder : Builder) (made : Made chars builder) :
    0 < builder.table.size := by
  cases made with
  | root => simp
  | document => simp [Builder.addDocument, Table.addDocument]
  | raw => simp [Builder.addRaw, Table.addRaw]
  | key => simp [Builder.addKey, Table.addKey]
  | item => simp [Builder.addItem, Table.addItem]

theorem add_document_passed (chars : List Char) (builder : Builder) (start contentStop stop : Nat)
    (made : Made chars builder) (order : start ≤ stop) (startBoundary : Text.IsBoundary chars start)
    (stopBoundary : Text.IsBoundary chars stop) (reaches : builder.Reaches start) :
    Passed chars stop (builder.addDocument start contentStop stop) := by
  refine ⟨.document builder start contentStop stop made order startBoundary stopBoundary reaches, ?_, ?_⟩
  · have nonempty := made_nonempty chars builder made
    simp only [Builder.addDocument, Table.addDocument, Array.size_push]
    omega
  · exact Builder.reaches_push builder.table builder.table.size _ stop (Nat.le_refl stop)

theorem add_raw_passed (chars : List Char) (builder : Builder) (line : Line) (within : line.Within chars)
    (passed : Passed chars line.start builder) : Passed chars line.stop (builder.addRaw line) := by
  have spot : ∃ body, Spot chars line (line.indent.getD 0) body := by
    cases indented : line.indent with
    | none => exact ⟨line.chars, spot_zero chars line within⟩
    | some indent => exact ⟨line.body, spot_body chars line indent within indented⟩
  obtain ⟨body, spot⟩ := spot
  refine ⟨.raw builder line body passed.made passed.begun spot passed.reaches, ?_, ?_⟩
  · have begun := passed.begun
    simp only [Builder.addRaw, Table.addRaw, Array.size_push]
    omega
  · exact Builder.reaches_push builder.table builder.current _ line.stop (Nat.le_refl line.stop)

theorem add_key_passed (chars : List Char) (builder : Builder) (line : Line) (indent length : Nat) (body : List Char)
    (made : Made chars builder) (begun : 1 < builder.table.size) (spot : Spot chars line indent body)
    (found : keyLength? body = some length) (meets : builder.Meets line indent) :
    Passed chars line.stop (builder.addKey line indent length) := by
  refine ⟨.key builder line indent length body made begun spot found meets, ?_, ?_⟩
  · simp only [Builder.addKey, Table.addKey, Array.size_push]
    omega
  · exact Builder.reaches_push builder.table builder.table.size _ line.stop (Nat.le_refl line.stop)

theorem add_item_passed (chars : List Char) (builder : Builder) (line : Line) (indent : Nat) (body : List Char)
    (made : Made chars builder) (begun : 1 < builder.table.size) (spot : Spot chars line indent body)
    (meets : builder.Meets line indent) : Passed chars line.stop (builder.addItem line indent) := by
  refine ⟨.item builder line indent body made begun spot meets, ?_, ?_⟩
  · simp only [Builder.addItem, Table.addItem, Array.size_push]
    omega
  · exact Builder.reaches_push builder.table builder.table.size _ line.stop (Nat.le_refl line.stop)

theorem add_item_meets (builder : Builder) (line : Line) (indent : Nat) :
    (builder.addItem line indent).Meets line (indent + 2) := by
  refine .inr ⟨_, indent, ?_, Table.read_push_last builder.table _, rfl, rfl, by omega, ?_, rfl⟩
  · simp [Builder.addItem, Table.addItem]
  · simp

theorem open_blocks_passed (chars : List Char) (line : Line) (indent : Nat) (body : List Char) (builder : Builder)
    (made : Made chars builder) (begun : 1 < builder.table.size) (spot : Spot chars line indent body)
    (meets : builder.Meets line indent) :
    Passed chars line.stop (Builder.openBlocks line indent body builder) := by
  fun_induction Builder.openBlocks line indent body builder with
  | case1 body indent builder length found =>
      exact add_key_passed chars builder line indent length body made begun spot found meets
  | case2 indent builder _ => exact add_item_passed chars builder line indent [ '-'] made begun spot meets
  | case3 indent builder rest _ ih =>
      have item := add_item_passed chars builder line indent _ made begun spot meets
      exact ih item.made item.begun (spot_after_dash chars line indent rest spot) (add_item_meets builder line indent)
  | case4 =>
      have order := line_start_le chars line spot.within
      exact ⟨made, begun, Builder.meets_reaches _ line _ (Nat.le_trans order.1 order.2) meets⟩

theorem add_line_passed (chars : List Char) (builder : Builder) (line : Line) (within : line.Within chars)
    (passed : Passed chars line.start builder) : Passed chars line.stop (builder.addLine line) := by
  unfold Builder.addLine
  cases indented : line.indent with
  | none => exact add_raw_passed chars builder line within passed
  | some indent =>
      have order := line_start_le chars line within
      dsimp only
      by_cases separator : isSeparator line.body
      · rw [if_pos separator]
        exact add_document_passed chars builder line.start line.contentStop line.stop passed.made
          (Nat.le_trans order.1 order.2) (spot_boundary chars line 0 line.chars (spot_zero chars line within))
          (line_stop_boundary chars line within) passed.reaches
      · rw [if_neg separator]
        by_cases block : Builder.isBlock line.body
        · rw [if_pos block]
          exact open_blocks_passed chars line indent line.body builder passed.made passed.begun
            (spot_body chars line indent within indented) (.inl passed.reaches)
        · rw [if_neg block]
          exact add_raw_passed chars builder line within passed

theorem fold_passed (chars : List Char) (advance : Builder → Line → Builder)
    (keeps : ∀ builder line, line.Within chars → Passed chars line.start builder →
      Passed chars line.stop (advance builder line))
    (all : List Line) (within : ∀ line ∈ all, line.Within chars)
    (sorted : all.Pairwise fun first second => first.stop ≤ second.start)
    (limit further : Nat) (builder : Builder) (passed : Passed chars limit builder)
    (after : ∀ line ∈ all, limit ≤ line.start) (order : limit ≤ further) (before : ∀ line ∈ all, line.stop ≤ further) :
    Passed chars further (all.foldl advance builder) := by
  induction all generalizing limit builder with
  | nil => exact passed_mono chars limit further builder order passed
  | cons line rest ih =>
      obtain ⟨follow, sortedRest⟩ := List.pairwise_cons.mp sorted
      have ready := passed_mono chars limit line.start builder (after line (by simp)) passed
      have advanced := keeps builder line (within line (by simp)) ready
      exact ih (fun each member => within each (by simp [member])) sortedRest line.stop (advance builder line) advanced
        follow (before line (by simp)) (fun each member => before each (by simp [member]))

theorem separator_indented (chars : List Char) (line : Line) (within : line.Within chars)
    (separator : isSeparator line.body = true) : ∃ indent, line.indent = some indent := by
  cases indented : line.indent with
  | some indent => exact ⟨indent, rfl⟩
  | none =>
      have blank : ∀ c ∈ line.chars, Text.isBlank c = true := by
        obtain ⟨_, _, _, _, made⟩ := within
        rw [made] at indented
        by_cases all : line.chars.all Text.isBlank
        · exact List.all_eq_true.mp all
        · simp [Line.of, indentOf, all] at indented
      have body : line.body = line.chars := by simp [Line.body, indented]
      rw [body] at separator
      unfold isSeparator at separator
      split at separator
      · next starts => exact absurd (blank '-' (by simp [starts])) (by decide)
      · next starts => exact absurd (blank '.' (by simp [starts])) (by decide)
      · simp at separator

theorem fold_rest_passed (chars : List Char) (rest : List Line) (within : ∀ line ∈ rest, line.Within chars)
    (sorted : rest.Pairwise fun first second => first.stop ≤ second.start) (limit : Nat) (builder : Builder)
    (passed : Passed chars limit builder) (after : ∀ line ∈ rest, limit ≤ line.start)
    (bound : limit ≤ Text.byteLength chars) : Made chars (rest.foldl Builder.addLine builder) := by
  refine (fold_passed chars Builder.addLine (add_line_passed chars) rest within sorted limit (Text.byteLength chars)
    builder passed after bound ?_).made
  intro line member
  exact Text.boundary_le chars line.stop (line_stop_boundary chars line (within line member))

theorem separated_made (chars : List Char) (line : Line) (more : List Line)
    (within : ∀ each ∈ line :: more, each.Within chars)
    (sorted : (line :: more).Pairwise fun first second => first.stop ≤ second.start)
    (separator : isSeparator line.body = true) :
    Made chars ((line :: more).foldl Builder.addLine ⟨#[Table.rootOf (Text.byteLength chars)], 0⟩) := by
  have here := within line (by simp)
  have order := line_start_le chars line here
  obtain ⟨indent, indented⟩ := separator_indented chars line here separator
  have first : Builder.addLine ⟨#[Table.rootOf (Text.byteLength chars)], 0⟩ line =
      Builder.addDocument ⟨#[Table.rootOf (Text.byteLength chars)], 0⟩ line.start line.contentStop line.stop := by
    simp [Builder.addLine, indented, separator]
  rw [List.foldl_cons, first]
  refine fold_rest_passed chars more (fun each member => within each (by simp [member]))
    (List.pairwise_cons.mp sorted).2 line.stop _ ?_ (List.pairwise_cons.mp sorted).1
    (Text.boundary_le chars line.stop (line_stop_boundary chars line here))
  refine add_document_passed chars _ line.start line.contentStop line.stop .root (Nat.le_trans order.1 order.2)
    (spot_boundary chars line 0 line.chars (spot_zero chars line here)) (line_stop_boundary chars line here) ?_
  intro last begun _
  simp at begun

theorem implicit_made (chars : List Char) (leading rest : List Line)
    (within : ∀ each ∈ leading ++ rest, each.Within chars)
    (sorted : (leading ++ rest).Pairwise fun first second => first.stop ≤ second.start) :
    Made chars (rest.foldl Builder.addLine (leading.foldl Builder.addRaw
      (Builder.addDocument ⟨#[Table.rootOf (Text.byteLength chars)], 0⟩ 0 0 0))) := by
  obtain ⟨sortedLeading, sortedRest, apart⟩ := List.pairwise_append.mp sorted
  have opened : Passed chars 0 (Builder.addDocument ⟨#[Table.rootOf (Text.byteLength chars)], 0⟩ 0 0 0) := by
    refine add_document_passed chars _ 0 0 0 .root (Nat.le_refl 0) (Text.boundary_zero chars)
      (Text.boundary_zero chars) ?_
    intro last begun _
    simp at begun
  have raws : ∀ further, (∀ line ∈ leading, line.stop ≤ further) → Passed chars further
      (leading.foldl Builder.addRaw (Builder.addDocument ⟨#[Table.rootOf (Text.byteLength chars)], 0⟩ 0 0 0)) :=
    fun further before => fold_passed chars Builder.addRaw (add_raw_passed chars) leading
      (fun line member => within line (by simp [member])) sortedLeading 0 further _ opened
      (fun _ _ => Nat.zero_le _) (Nat.zero_le further) before
  cases rest with
  | nil =>
      refine (raws (Text.byteLength chars) ?_).made
      intro line member
      exact Text.boundary_le chars line.stop (line_stop_boundary chars line (within line (by simp [member])))
  | cons line more =>
      have here := within line (by simp)
      have start := spot_boundary chars line 0 line.chars (spot_zero chars line here)
      refine fold_rest_passed chars (line :: more) (fun each member => within each (by simp [member])) sortedRest
        line.start _ (raws line.start fun each member => apart each member line (by simp)) ?_
        (Text.boundary_le chars line.start start)
      intro each member
      rcases List.mem_cons.mp member with rfl | further
      · exact Nat.le_refl _
      · have ends := line_start_le chars line here
        have follow := (List.pairwise_cons.mp sortedRest).1 each further
        omega

theorem table_of_made (chars : List Char) : ∃ builder, Made chars builder ∧ builder.table = tableOf chars := by
  refine ⟨_, ?_, rfl⟩
  have whole : preamble (lines chars) ++ (lines chars).drop (preamble (lines chars)).length = lines chars :=
    (List.prefix_iff_eq_append.mp (List.takeWhile_prefix _))
  have within := lines_within chars
  have sorted := lines_sorted chars
  rw [← whole] at within sorted
  generalize (lines chars).drop (preamble (lines chars)).length = rest at within sorted ⊢
  by_cases separated : (rest.head?.any fun line => isSeparator line.body) = true
  · rw [if_pos separated]
    cases rest with
    | nil => simp at separated
    | cons line more =>
        exact separated_made chars line more (fun each member => within each (List.mem_append_right _ member))
          (List.pairwise_append.mp sorted).2.1 (by simpa using separated)
  · rw [if_neg separated]
    exact implicit_made chars (preamble (lines chars)) rest within sorted

end YamlDialects.Outline
