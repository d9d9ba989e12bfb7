import YamlDialects.Proofs.Outline.Growth

set_option autoImplicit false

namespace YamlDialects.Outline

def KeyText (chars : List Char) (entry : Entry) : Prop :=
  ∃ before key after, chars = before ++ (key ++ ':' :: after) ∧ Text.byteLength before = entry.start ∧
    IsSimpleKey key ∧ entry.colon = some (entry.start + Text.byteLength key) ∧
    entry.start + Text.byteLength key < entry.contentStop ∧ entry.contentStop ≤ entry.stop

-- Only adjacent entries are compared. All else about order follows by induction over the table.
structure Shaped (chars : List Char) (table : Table) (id : Nat) (entry : Entry) : Prop where
  notRoot : entry.kind ≠ .root
  hangs : ∃ parent above, entry.parent = some parent ∧ parent < id ∧ table[parent]? = some above ∧
    above.kind ≠ .raw ∧ (parent = 0 ↔ entry.kind = .document) ∧ table.Under parent (id - 1)
  indented : entry.kind.isStep = true → ∃ indent, entry.indent = some indent
  span : entry.start ≤ entry.stop
  startBoundary : Text.IsBoundary chars entry.start
  stopBoundary : Text.IsBoundary chars entry.stop
  follows : ∀ (previous : Entry), 1 < id → table[id - 1]? = some previous → previous.stop ≤ entry.start ∨
    (previous.kind = .item ∧ entry.parent = some (id - 1) ∧ previous.start ≤ entry.start ∧ previous.stop = entry.stop)
  position : entry.kind = .item ∨ entry.kind = .document → ∀ parent, entry.parent = some parent →
    entry.position = (table.childrenBefore id parent entry.kind).length
  keyText : entry.kind = .key → KeyText chars entry

structure Sound (chars : List Char) (table : Table) : Prop where
  root : table[0]? = some (Table.rootOf (Text.byteLength chars))
  shaped : table.Each (Shaped chars)

theorem shaped_push (chars : List Char) (table : Table) (fresh : Entry) (id : Nat) (entry : Entry)
    (read : table[id]? = some entry) (shaped : Shaped chars table id entry) :
    Shaped chars (table.push fresh) id entry := by
  have bound := table.read_bound id entry read
  refine ⟨shaped.notRoot, ?_, shaped.indented, shaped.span, shaped.startBoundary, shaped.stopBoundary, ?_, ?_, shaped.keyText⟩
  · obtain ⟨parent, above, child, smaller, readAbove, notRaw, top, spine⟩ := shaped.hangs
    exact ⟨parent, above, child, smaller, table.read_push fresh above parent readAbove, notRaw, top,
      table.under_push fresh parent (id - 1) spine⟩
  · intro previous later readPrevious
    rw [table.read_push_before fresh (id - 1) (by omega)] at readPrevious
    exact shaped.follows previous later readPrevious
  · intro counted parent child
    rw [table.children_before_push fresh id parent entry.kind (Nat.le_of_lt bound)]
    exact shaped.position counted parent child

theorem sound_push (chars : List Char) (table : Table) (fresh : Entry) (sound : Sound chars table)
    (fits : Shaped chars (table.push fresh) table.size fresh) : Sound chars (table.push fresh) :=
  ⟨table.read_push fresh _ 0 sound.root,
    table.each_push fresh (Shaped chars) (shaped_push chars table fresh) sound.shaped fits⟩

theorem sound_hangs (chars : List Char) (table : Table) (sound : Sound chars table) (id : Nat) (entry : Entry)
    (parent : Nat) (read : table[id]? = some entry) (child : entry.parent = some parent) :
    parent < id ∧ table.Under parent (id - 1) := by
  rcases Nat.eq_zero_or_pos id with rfl | positive
  · rw [sound.root] at read
    rw [← Option.some.inj read] at child
    simp [Table.rootOf] at child
  · obtain ⟨other, _, childOther, smaller, _, _, _, spine⟩ := (sound.shaped id entry positive read).hangs
    obtain rfl : parent = other := Option.some.inj (child.symm.trans childOther)
    exact ⟨smaller, spine⟩

theorem sound_descending (chars : List Char) (table : Table) (sound : Sound chars table) : table.Descending :=
  fun id entry parent read child => (sound_hangs chars table sound id entry parent read child).1

theorem sound_preordered (chars : List Char) (table : Table) (sound : Sound chars table) : table.Preordered :=
  fun id entry parent read child => (sound_hangs chars table sound id entry parent read child).2

theorem sound_rooted (chars : List Char) (table : Table) (sound : Sound chars table) :
    table.Each fun table _ entry => ∃ parent, entry.parent = some parent ∧ parent < table.size := by
  intro id entry positive read
  obtain ⟨parent, above, child, _, readAbove, _⟩ := (sound.shaped id entry positive read).hangs
  exact ⟨parent, child, table.read_bound parent above readAbove⟩

theorem sound_root_kind (chars : List Char) (table : Table) (sound : Sound chars table) (entry : Entry)
    (read : table[0]? = some entry) : entry.kind = .root := by
  rw [← Option.some.inj (sound.root.symm.trans read)]
  rfl

theorem root_not_step (chars : List Char) (table : Table) (sound : Sound chars table) (entry : Entry)
    (read : table[0]? = some entry) : entry.kind.isStep = false := by
  rw [sound_root_kind chars table sound entry read]
  rfl

theorem positive_of_read (chars : List Char) (table : Table) (sound : Sound chars table) (id : Nat) (entry : Entry)
    (read : table[id]? = some entry) (notRoot : entry.kind ≠ .root) : 0 < id := by
  apply Nat.pos_of_ne_zero
  rintro rfl
  exact notRoot (sound_root_kind chars table sound entry read)

theorem step_not_root (entry : Entry) (isStep : entry.kind.isStep = true) : entry.kind ≠ .root := by
  intro isRoot
  rw [isRoot] at isStep
  simp [Kind.isStep] at isStep

theorem under_root (chars : List Char) (table : Table) (sound : Sound chars table) (id : Nat) (bound : id < table.size) :
    table.Under 0 id := by
  induction id using Nat.strongRecOn with
  | ind id ih =>
      rcases Nat.eq_zero_or_pos id with rfl | positive
      · exact .here
      · obtain ⟨entry, read⟩ := table.read_exists id bound
        obtain ⟨parent, child, inside⟩ := sound_rooted chars table sound id entry positive read
        have smaller := sound_descending chars table sound id entry parent read child
        exact .step id parent entry read child (ih parent smaller inside)

theorem under_child (table : Table) (top id : Nat) (different : top ≠ id) (under : table.Under top id) :
    ∃ child entry, table[child]? = some entry ∧ entry.parent = some top ∧ table.Under child id := by
  induction under with
  | here => exact absurd rfl different
  | step id parent entry read child _ ih =>
      by_cases last : top = parent
      · exact ⟨id, entry, read, last ▸ child, .here⟩
      · obtain ⟨between, found, readFound, childFound, below⟩ := ih last
        exact ⟨between, found, readFound, childFound,
          table.under_trans between parent id below (.step id parent entry read child .here)⟩

theorem under_not_raw (chars : List Char) (table : Table) (sound : Sound chars table) (top id : Nat)
    (different : top ≠ id) (under : table.Under top id) (entry : Entry) (read : table[top]? = some entry) :
    entry.kind ≠ .raw := by
  obtain ⟨child, found, readFound, childFound, _⟩ := under_child table top id different under
  have positive : 0 < child := Nat.zero_lt_of_lt (sound_descending chars table sound child found top readFound childFound)
  obtain ⟨parent, above, childParent, _, readAbove, notRaw, _⟩ := (sound.shaped child found positive readFound).hangs
  obtain rfl : top = parent := Option.some.inj (childFound.symm.trans childParent)
  rw [Option.some.inj (read.symm.trans readAbove)]
  exact notRaw

structure Ready (chars : List Char) (builder : Builder) : Prop where
  sound : Sound chars builder.table
  opened : ∃ (entry : Entry), builder.table[builder.current]? = some entry ∧ entry.kind ≠ .raw
  spine : builder.table.Under builder.current (builder.table.size - 1)
  begun : builder.current = 0 → builder.table.size = 1

theorem ready_push_open (chars : List Char) (builder : Builder) (fresh : Entry) (ready : Ready chars builder)
    (fits : Shaped chars (builder.table.push fresh) builder.table.size fresh) (notRaw : fresh.kind ≠ .raw) :
    Ready chars ⟨builder.table.push fresh, builder.table.size⟩ := by
  refine ⟨sound_push chars builder.table fresh ready.sound fits,
    ⟨fresh, builder.table.read_push_last fresh, notRaw⟩, ?_, ?_⟩
  · rw [Array.size_push, Nat.add_sub_cancel]
    exact .here
  · intro empty
    obtain ⟨entry, read, _⟩ := ready.opened
    have bound := builder.table.read_bound builder.current entry read
    dsimp only at empty
    omega

theorem ready_push_raw (chars : List Char) (builder : Builder) (fresh : Entry) (ready : Ready chars builder)
    (fits : Shaped chars (builder.table.push fresh) builder.table.size fresh)
    (child : fresh.parent = some builder.current) (begun : 1 < builder.table.size) :
    Ready chars ⟨builder.table.push fresh, builder.current⟩ := by
  obtain ⟨entry, read, notRaw⟩ := ready.opened
  refine ⟨sound_push chars builder.table fresh ready.sound fits,
    ⟨entry, builder.table.read_push fresh entry builder.current read, notRaw⟩, ?_, ?_⟩
  · rw [Array.size_push, Nat.add_sub_cancel]
    exact .step builder.table.size builder.current fresh (builder.table.read_push_last fresh) child .here
  · intro empty
    have single := ready.begun empty
    omega

theorem hangs_push (chars : List Char) (builder : Builder) (fresh : Entry) (parent : Nat) (ready : Ready chars builder)
    (child : fresh.parent = some parent) (under : builder.table.Under parent builder.current)
    (top : parent = 0 ↔ fresh.kind = .document) :
    ∃ (parent : Nat) (above : Entry), fresh.parent = some parent ∧ parent < builder.table.size ∧
      (builder.table.push fresh)[parent]? = some above ∧ above.kind ≠ .raw ∧
      (parent = 0 ↔ fresh.kind = .document) ∧ Table.Under (builder.table.push fresh) parent (builder.table.size - 1) := by
  obtain ⟨current, readCurrent, currentNotRaw⟩ := ready.opened
  have inside := builder.table.read_bound builder.current current readCurrent
  have order := builder.table.under_le (sound_descending chars _ ready.sound) parent builder.current under
  obtain ⟨above, readAbove⟩ := builder.table.read_exists parent (by omega)
  refine ⟨parent, above, child, by omega, builder.table.read_push fresh above parent readAbove, ?_, top, ?_⟩
  · by_cases same : parent = builder.current
    · rw [Option.some.inj (readAbove.symm.trans (same ▸ readCurrent))]
      exact currentNotRaw
    · exact under_not_raw chars builder.table ready.sound parent builder.current same under above readAbove
  · exact builder.table.under_push fresh parent _
      (builder.table.under_trans parent builder.current _ under ready.spine)

theorem climb_ready (chars : List Char) (builder : Builder) (level : Entry → Bool) (ready : Ready chars builder)
    (begun : 1 < builder.table.size) :
    builder.table.Under (builder.table.climb level builder.table.size builder.current) builder.current ∧
      builder.table.climb level builder.table.size builder.current ≠ 0 := by
  obtain ⟨current, readCurrent, _⟩ := ready.opened
  have inside := builder.table.read_bound builder.current current readCurrent
  obtain ⟨under, _, passed⟩ := builder.table.climb_spec level (sound_descending chars _ ready.sound)
    (sound_rooted chars _ ready.sound) (root_not_step chars _ ready.sound) builder.table.size builder.current inside inside
  refine ⟨under, ?_⟩
  intro atRoot
  rw [atRoot] at under passed
  have different : 0 ≠ builder.current := by
    intro same
    have single := ready.begun same.symm
    omega
  obtain ⟨between, entry, read, child, below⟩ := under_child builder.table 0 builder.current different under
  have positive : 0 < between := sound_descending chars builder.table ready.sound between entry 0 read child
  obtain ⟨parent, _, childParent, _, _, _, top, _⟩ := (ready.sound.shaped between entry positive read).hangs
  obtain rfl : 0 = parent := Option.some.inj (child.symm.trans childParent)
  have isStep := (passed between entry below positive read).1
  rw [top.mp rfl] at isStep
  simp [Kind.isStep] at isStep

theorem climb_here (table : Table) (level : Entry → Bool) (fuel id : Nat) (entry : Entry) (enough : 0 < fuel)
    (read : table[id]? = some entry) (holds : level entry = true) : table.climb level fuel id = id := by
  cases fuel with
  | zero => omega
  | succ fuel => simp [Table.climb, read, holds]

theorem follows_push (builder : Builder) (line : Line) (indent : Nat) (level : Entry → Bool) (fresh : Entry)
    (meets : builder.Meets line indent)
    (holds : ∀ last left, last.kind = .item → last.indent = some left → left < indent → level last = true)
    (child : fresh.parent = some (builder.table.climb level builder.table.size builder.current))
    (start : fresh.start = line.start + indent) (stop : fresh.stop = line.stop) :
    ∀ (previous : Entry), 1 < builder.table.size →
      (builder.table.push fresh)[builder.table.size - 1]? = some previous → previous.stop ≤ fresh.start ∨
      (previous.kind = .item ∧ fresh.parent = some (builder.table.size - 1) ∧ previous.start ≤ fresh.start ∧
        previous.stop = fresh.stop) := by
  intro previous begun read
  rw [builder.table.read_push_before fresh _ (by omega)] at read
  rcases meets with reaches | ⟨last, left, atEnd, readLast, isItem, indented, further, before, ends⟩
  · have bound := reaches previous begun read
    exact .inl (by omega)
  · have here : builder.table.climb level builder.table.size builder.current = builder.current :=
      climb_here builder.table level _ _ last (by omega) readLast (holds last left isItem indented further)
    have atLast : builder.table.size - 1 = builder.current := by omega
    obtain rfl : previous = last := by
      rw [atLast] at read
      exact Option.some.inj (read.symm.trans readLast)
    refine .inr ⟨isItem, ?_, by omega, by omega⟩
    rw [child, here, atLast]

theorem add_document_ready (chars : List Char) (builder : Builder) (start contentStop stop : Nat)
    (ready : Ready chars builder) (order : start ≤ stop) (startBoundary : Text.IsBoundary chars start)
    (stopBoundary : Text.IsBoundary chars stop) (reaches : builder.Reaches start) :
    Ready chars (builder.addDocument start contentStop stop) := by
  obtain ⟨current, readCurrent, _⟩ := ready.opened
  have under := under_root chars builder.table ready.sound builder.current (builder.table.read_bound _ current readCurrent)
  refine ready_push_open chars builder _ ready ?_ (by simp)
  refine ⟨by simp, hangs_push chars builder _ 0 ready rfl under (by simp), by simp [Kind.isStep], order, startBoundary,
    stopBoundary, ?_, ?_, by simp⟩
  · intro previous begun read
    rw [builder.table.read_push_before _ _ (by omega)] at read
    exact .inl (reaches previous begun read)
  · intro _ parent child
    obtain rfl : 0 = parent := by simpa using child
    rw [builder.table.children_before_push _ _ _ _ (Nat.le_refl _)]
    exact builder.table.count_children_eq 0 .document

theorem add_raw_ready (chars : List Char) (builder : Builder) (line : Line) (body : List Char)
    (ready : Ready chars builder) (begun : 1 < builder.table.size)
    (spot : Spot chars line (line.indent.getD 0) body) (reaches : builder.Reaches line.start) :
    Ready chars (builder.addRaw line) := by
  have opened : builder.current ≠ 0 := by
    intro empty
    have single := ready.begun empty
    omega
  refine ready_push_raw chars builder _ ready ?_ rfl begun
  refine ⟨by simp, hangs_push chars builder _ builder.current ready rfl .here (by simpa using opened),
    by simp [Kind.isStep], ?_,
    spot_boundary chars line _ body spot, line_stop_boundary chars line spot.within, ?_, by simp, by simp⟩
  · exact spot_start_le chars line _ body spot
  · intro previous begun read
    rw [builder.table.read_push_before _ _ (by omega)] at read
    have bound := reaches previous begun read
    exact .inl (by dsimp only; omega)

theorem add_key_ready (chars : List Char) (builder : Builder) (line : Line) (indent length : Nat) (body : List Char)
    (ready : Ready chars builder) (begun : 1 < builder.table.size) (spot : Spot chars line indent body)
    (found : keyLength? body = some length) (meets : builder.Meets line indent) :
    Ready chars (builder.addKey line indent length) := by
  obtain ⟨under, notRoot⟩ := climb_ready chars builder (keyLevel indent) ready begun
  rw [← builder.key_parent_climb] at under notRoot
  refine ready_push_open chars builder _ ready ?_ (by simp)
  refine ⟨by simp, hangs_push chars builder _ _ ready rfl under (by simpa using notRoot), fun _ => ⟨indent, rfl⟩,
    spot_start_le chars line indent body spot, spot_boundary chars line indent body spot,
    line_stop_boundary chars line spot.within, ?_, by simp, ?_⟩
  · refine follows_push builder line indent (keyLevel indent) _ meets ?_ rfl rfl rfl
    intro last left _ indented further
    simp [keyLevel, indented, further]
  · intro _
    obtain ⟨key, rest, split, simple, size⟩ := key_length_spec body length found
    obtain ⟨before, after, whole, start, ends⟩ := spot_split chars line indent body spot
    refine ⟨before, key, rest ++ after, ?_, start, simple, by rw [size], ?_, (line_start_le chars line spot.within).2⟩
    · rw [whole, split]
      simp
    · rw [split, Text.byte_length_append, Text.byte_length_cons] at ends
      have colon := Char.utf8Size_pos ':'
      dsimp only
      omega

theorem add_item_ready (chars : List Char) (builder : Builder) (line : Line) (indent : Nat) (body : List Char)
    (ready : Ready chars builder) (begun : 1 < builder.table.size) (spot : Spot chars line indent body)
    (meets : builder.Meets line indent) : Ready chars (builder.addItem line indent) := by
  obtain ⟨under, notRoot⟩ := climb_ready chars builder (itemLevel indent) ready begun
  rw [← builder.item_parent_climb] at under notRoot
  refine ready_push_open chars builder _ ready ?_ (by simp)
  refine ⟨by simp, hangs_push chars builder _ _ ready rfl under (by simpa using notRoot), fun _ => ⟨indent, rfl⟩,
    spot_start_le chars line indent body spot, spot_boundary chars line indent body spot,
    line_stop_boundary chars line spot.within, ?_, ?_, by simp⟩
  · refine follows_push builder line indent (itemLevel indent) _ meets ?_ rfl rfl rfl
    intro last left _ indented further
    simp [itemLevel, indented, further]
  · intro _ parent child
    obtain rfl : builder.itemParent indent = parent := by simpa using child
    rw [builder.table.children_before_push _ _ _ _ (Nat.le_refl _)]
    exact builder.table.count_children_eq _ .item

theorem made_ready (chars : List Char) (builder : Builder) (made : Made chars builder) : Ready chars builder := by
  induction made with
  | root =>
      refine ⟨⟨rfl, ?_⟩, ⟨_, rfl, by simp [Table.rootOf]⟩, .here, fun _ => rfl⟩
      intro id entry positive read
      have bound := Table.read_bound _ id entry read
      simp at bound
      omega
  | document builder start contentStop stop _ order startBoundary stopBoundary reaches ih =>
      exact add_document_ready chars builder start contentStop stop ih order startBoundary stopBoundary reaches
  | raw builder line body _ begun spot reaches ih => exact add_raw_ready chars builder line body ih begun spot reaches
  | key builder line indent length body _ begun spot found meets ih =>
      exact add_key_ready chars builder line indent length body ih begun spot found meets
  | item builder line indent body _ begun spot meets ih =>
      exact add_item_ready chars builder line indent body ih begun spot meets

theorem table_of_sound (chars : List Char) : Sound chars (tableOf chars) := by
  obtain ⟨builder, made, same⟩ := table_of_made chars
  rw [← same]
  exact (made_ready chars builder made).sound

end YamlDialects.Outline
