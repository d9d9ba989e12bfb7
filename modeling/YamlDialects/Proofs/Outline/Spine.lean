import YamlDialects.Proofs.Outline.Shape

/-!
Where keys, items and other lines are put. The builder only climbs from the node that is open, yet it finds
the nearest suitable node of the document: whatever is no longer on the way up is dominated by something
that is, which suits every later key and item that the dropped node suits.
-/

set_option autoImplicit false

namespace YamlDialects.Outline

-- Whatever may hang below the lower entry may hang below the upper one.
def Dominates (upper lower : Entry) : Prop :=
  ∀ indent, (keyLevel indent lower = true → keyLevel indent upper = true) ∧
    (itemLevel indent lower = true → itemLevel indent upper = true)

theorem dominates_refl (entry : Entry) : Dominates entry entry :=
  fun _ => ⟨id, id⟩

theorem dominates_trans (upper middle lower : Entry) (first : Dominates upper middle) (second : Dominates middle lower) :
    Dominates upper lower :=
  fun indent => ⟨fun holds => (first indent).1 ((second indent).1 holds),
    fun holds => (first indent).2 ((second indent).2 holds)⟩

theorem key_dominates (fresh dropped : Entry) (indent left : Nat) (isKey : fresh.kind = .key)
    (indented : fresh.indent = some indent) (leftOf : dropped.indent = some left)
    (misses : keyLevel indent dropped = false) : Dominates fresh dropped := by
  have order : indent ≤ left := by simpa [keyLevel, leftOf] using misses
  intro other
  constructor
  · intro holds
    have bound : left < other := by simpa [keyLevel, leftOf] using holds
    simpa [keyLevel, indented] using Nat.lt_of_le_of_lt order bound
  · intro holds
    have bound : left ≤ other := by
      simp only [itemLevel, leftOf, Option.getD_some, Bool.or_eq_true, Bool.and_eq_true, decide_eq_true_eq] at holds
      omega
    simp only [itemLevel, indented, isKey, Option.getD_some, Bool.or_eq_true, Bool.and_eq_true, decide_eq_true_eq]
    exact .inr ⟨rfl, Nat.le_trans order bound⟩

theorem item_dominates (fresh dropped : Entry) (indent left : Nat) (indented : fresh.indent = some indent)
    (leftOf : dropped.indent = some left) (misses : itemLevel indent dropped = false) : Dominates fresh dropped := by
  simp only [itemLevel, leftOf, Option.getD_some, Bool.or_eq_false_iff, Bool.and_eq_false_iff, decide_eq_false_iff_not]
    at misses
  intro other
  constructor
  · intro holds
    have bound : left < other := by simpa [keyLevel, leftOf] using holds
    have order : indent < other := by omega
    simpa [keyLevel, indented] using order
  · intro holds
    simp only [itemLevel, leftOf, Option.getD_some, Bool.or_eq_true, Bool.and_eq_true, decide_eq_true_eq] at holds
    have order : indent < other := by
      rcases holds with bound | ⟨notItem, bound⟩
      · omega
      · rcases misses.2 with isItem | further
        · rw [notItem] at isItem
          simp at isItem
        · omega
    simp [itemLevel, indented, order]

structure Nearest (table : Table) (id : Nat) (suits : Entry → Bool) (document parent : Nat) : Prop where
  within : document ≤ parent
  suitable : document < parent → ∃ (entry : Entry), table[parent]? = some entry ∧ entry.kind.isStep = true ∧
    suits entry = true
  nearest : ∀ (between : Nat) (entry : Entry), parent < between → between < id → table[between]? = some entry →
    entry.kind.isStep = true → suits entry = false

structure Placed (table : Table) (id : Nat) (entry : Entry) (document parent : Nat) : Prop where
  hangs : entry.parent = some parent
  top : ∃ (found : Entry), table[document]? = some found ∧ found.kind = .document
  under : table.Under document id
  key : entry.kind = .key → ∃ indent, entry.indent = some indent ∧ Nearest table id (keyLevel indent) document parent
  item : entry.kind = .item → ∃ indent, entry.indent = some indent ∧ Nearest table id (itemLevel indent) document parent
  raw : entry.kind = .raw → ∀ (between : Nat) (other : Entry), parent < between → between < id →
    table[between]? = some other → other.kind = .raw

def IsPlaced (table : Table) (id : Nat) (entry : Entry) : Prop :=
  ∃ document parent, Placed table id entry document parent

theorem nearest_push (table : Table) (fresh : Entry) (id : Nat) (suits : Entry → Bool) (document parent : Nat)
    (bound : id ≤ table.size) (nearest : Nearest table id suits document parent) :
    Nearest (table.push fresh) id suits document parent := by
  refine ⟨nearest.within, ?_, ?_⟩
  · intro below
    obtain ⟨entry, read, isStep, holds⟩ := nearest.suitable below
    exact ⟨entry, table.read_push fresh entry parent read, isStep, holds⟩
  · intro between entry after before read isStep
    rw [table.read_push_before fresh between (by omega)] at read
    exact nearest.nearest between entry after before read isStep

theorem placed_push (table : Table) (fresh : Entry) (id : Nat) (entry : Entry) (read : table[id]? = some entry)
    (placed : IsPlaced table id entry) : IsPlaced (table.push fresh) id entry := by
  obtain ⟨document, parent, placed⟩ := placed
  have bound := Nat.le_of_lt (table.read_bound id entry read)
  obtain ⟨found, readTop, isDocument⟩ := placed.top
  refine ⟨document, parent, placed.hangs, ⟨found, table.read_push fresh found document readTop, isDocument⟩,
    table.under_push fresh document id placed.under, ?_, ?_, ?_⟩
  · intro isKey
    obtain ⟨indent, indented, nearest⟩ := placed.key isKey
    exact ⟨indent, indented, nearest_push table fresh id _ document parent bound nearest⟩
  · intro isItem
    obtain ⟨indent, indented, nearest⟩ := placed.item isItem
    exact ⟨indent, indented, nearest_push table fresh id _ document parent bound nearest⟩
  · intro isRaw between other after before readOther
    rw [table.read_push_before fresh between (by omega)] at readOther
    exact placed.raw isRaw between other after before readOther

structure Spined (builder : Builder) (document : Nat) : Prop where
  top : ∃ (found : Entry), builder.table[document]? = some found ∧ found.kind = .document
  under : builder.table.Under document builder.current
  closed : ∀ (id : Nat) (entry : Entry), builder.current < id → builder.table[id]? = some entry → entry.kind = .raw
  dominated : ∀ (id : Nat) (entry : Entry), document < id → builder.table[id]? = some entry →
    entry.kind.isStep = true → ∃ (upper : Nat) (found : Entry), builder.table.Under upper builder.current ∧
      document < upper ∧ id ≤ upper ∧ builder.table[upper]? = some found ∧ Dominates found entry

structure Found (builder : Builder) (level : Entry → Bool) (document result : Nat) : Prop where
  under : builder.table.Under result builder.current
  top : builder.table.Under document result
  nearest : Nearest builder.table builder.table.size level document result
  passed : ∀ (between : Nat) (entry : Entry), builder.table.Under between builder.current → result < between →
    builder.table[between]? = some entry → entry.kind.isStep = true ∧ level entry = false

theorem step_below_document (chars : List Char) (table : Table) (sound : Sound chars table) (document id : Nat)
    (entry : Entry) (positive : 0 < document) (order : document < id) (under : table.Under document id)
    (read : table[id]? = some entry) (notRaw : entry.kind ≠ .raw) : entry.kind.isStep = true := by
  have shaped := sound.shaped id entry (by omega) read
  have notRoot := shaped.notRoot
  obtain ⟨parent, _, child, _, _, _, top, _⟩ := shaped.hangs
  have above := table.under_parent document id parent entry read child (Nat.ne_of_lt order) under
  have bound := table.under_le (sound_descending chars table sound) document parent above
  have notDocument : entry.kind ≠ .document := fun isDocument => by
    have zero := top.mpr isDocument
    omega
  cases kind : entry.kind with
  | root => exact absurd kind notRoot
  | document => exact absurd kind notDocument
  | key => rfl
  | item => rfl
  | raw => exact absurd kind notRaw

theorem climb_found (chars : List Char) (builder : Builder) (level : Entry → Bool) (document : Nat)
    (ready : Ready chars builder) (spined : Spined builder document)
    (kept : ∀ upper lower, Dominates upper lower → level lower = true → level upper = true) :
    Found builder level document (builder.table.climb level builder.table.size builder.current) := by
  obtain ⟨current, readCurrent, currentNotRaw⟩ := ready.opened
  have inside := builder.table.read_bound builder.current current readCurrent
  have descending := sound_descending chars _ ready.sound
  obtain ⟨under, ⟨stopped, readStopped, stops⟩, passed⟩ := builder.table.climb_spec level descending
    (sound_rooted chars _ ready.sound) (root_not_step chars _ ready.sound) builder.table.size builder.current inside inside
  generalize builder.table.climb level builder.table.size builder.current = result at under readStopped passed
  obtain ⟨top, readTop, isDocument⟩ := spined.top
  have positive := positive_of_read chars _ ready.sound document top readTop (by simp [isDocument])
  have within : document ≤ result := by
    apply Nat.le_of_not_lt
    intro beyond
    have isStep := (passed document top spined.under beyond readTop).1
    rw [isDocument] at isStep
    simp [Kind.isStep] at isStep
  have topUnder := builder.table.under_linear descending document result builder.current within spined.under under
  refine ⟨under, topUnder, ⟨within, ?_, ?_⟩, passed⟩
  · intro below
    have notRaw : stopped.kind ≠ .raw := by
      by_cases same : result = builder.current
      · rw [Option.some.inj (readStopped.symm.trans (same ▸ readCurrent))]
        exact currentNotRaw
      · exact under_not_raw chars _ ready.sound result builder.current same under stopped readStopped
    have isStep := step_below_document chars _ ready.sound document result stopped positive below topUnder readStopped notRaw
    refine ⟨stopped, readStopped, isStep, ?_⟩
    rcases stops with notStep | holds
    · rw [isStep] at notStep
      simp at notStep
    · exact holds
  · -- Whatever lies between is dominated by something on the way up, and the climb has passed that.
    intro between entry after before read isStep
    obtain ⟨upper, found, above, _, later, readUpper, dominates⟩ := spined.dominated between entry (by omega) read isStep
    have misses := (passed upper found above (by omega) readUpper).2
    cases holds : level entry with
    | false => rfl
    | true =>
        rw [kept found entry dominates holds] at misses
        simp at misses

theorem spined_push_step (chars : List Char) (builder : Builder) (fresh : Entry) (level : Entry → Bool)
    (document result : Nat) (ready : Ready chars builder) (spined : Spined builder document)
    (found : Found builder level document result) (child : fresh.parent = some result)
    (drops : ∀ (dropped : Entry) (left : Nat), dropped.indent = some left → level dropped = false → Dominates fresh dropped) :
    Spined ⟨builder.table.push fresh, builder.table.size⟩ document := by
  have descending := sound_descending chars _ ready.sound
  have last := builder.table.read_push_last fresh
  have reach : ∀ upper, builder.table.Under upper result → Table.Under (builder.table.push fresh) upper builder.table.size :=
    fun upper under => .step builder.table.size result fresh last child (builder.table.under_push fresh upper result under)
  obtain ⟨top, readTop, isDocument⟩ := spined.top
  have topBound := builder.table.read_bound document top readTop
  refine ⟨⟨top, builder.table.read_push fresh top document readTop, isDocument⟩, reach document found.top, ?_, ?_⟩
  · intro id entry beyond read
    have bound := Table.read_bound _ id entry read
    rw [Array.size_push] at bound
    dsimp only at beyond
    omega
  · intro id entry below read isStep
    rcases builder.table.read_push_cases fresh entry id read with ⟨rfl, rfl⟩ | ⟨before, readOld⟩
    · exact ⟨builder.table.size, entry, .here, topBound, Nat.le_refl _, last, dominates_refl entry⟩
    · obtain ⟨upper, kept, under, inside, later, readUpper, dominates⟩ := spined.dominated id entry below readOld isStep
      by_cases above : upper ≤ result
      · have stays := builder.table.under_linear descending upper result builder.current above under found.under
        exact ⟨upper, kept, reach upper stays, inside, later, builder.table.read_push fresh kept upper readUpper, dominates⟩
      · obtain ⟨isPassed, misses⟩ := found.passed upper kept under (by omega) readUpper
        obtain ⟨left, indented⟩ := (ready.sound.shaped upper kept (by omega) readUpper).indented isPassed
        exact ⟨builder.table.size, fresh, .here, topBound, Nat.le_of_lt before, last,
          dominates_trans fresh kept entry (drops kept left indented misses) dominates⟩

theorem spined_push_raw (builder : Builder) (fresh : Entry) (document : Nat) (isRaw : fresh.kind = .raw)
    (spined : Spined builder document) : Spined ⟨builder.table.push fresh, builder.current⟩ document := by
  obtain ⟨top, readTop, isDocument⟩ := spined.top
  refine ⟨⟨top, builder.table.read_push fresh top document readTop, isDocument⟩,
    builder.table.under_push fresh document builder.current spined.under, ?_, ?_⟩
  · intro id entry beyond read
    rcases builder.table.read_push_cases fresh entry id read with ⟨_, rfl⟩ | ⟨_, readOld⟩
    · exact isRaw
    · exact spined.closed id entry beyond readOld
  · intro id entry below read isStep
    rcases builder.table.read_push_cases fresh entry id read with ⟨_, rfl⟩ | ⟨_, readOld⟩
    · rw [isRaw] at isStep
      simp [Kind.isStep] at isStep
    · obtain ⟨upper, kept, under, inside, later, readUpper, dominates⟩ := spined.dominated id entry below readOld isStep
      exact ⟨upper, kept, builder.table.under_push fresh upper builder.current under, inside, later,
        builder.table.read_push fresh kept upper readUpper, dominates⟩

theorem spined_push_document (table : Table) (fresh : Entry) (isDocument : fresh.kind = .document) :
    Spined ⟨table.push fresh, table.size⟩ table.size := by
  refine ⟨⟨fresh, table.read_push_last fresh, isDocument⟩, .here, ?_, ?_⟩
  · intro id entry beyond read
    have bound := Table.read_bound _ id entry read
    rw [Array.size_push] at bound
    dsimp only at beyond
    omega
  · intro id entry beyond read
    have bound := Table.read_bound _ id entry read
    rw [Array.size_push] at bound
    omega

structure Ordered (chars : List Char) (builder : Builder) : Prop where
  ready : Ready chars builder
  placed : builder.table.Each IsPlaced
  spined : 1 < builder.table.size → ∃ document, Spined builder document

theorem ordered_push (chars : List Char) (builder : Builder) (fresh : Entry) (current document : Nat)
    (ordered : Ordered chars builder) (ready : Ready chars ⟨builder.table.push fresh, current⟩)
    (spined : Spined ⟨builder.table.push fresh, current⟩ document)
    (last : IsPlaced (builder.table.push fresh) builder.table.size fresh) :
    Ordered chars ⟨builder.table.push fresh, current⟩ :=
  ⟨ready, builder.table.each_push fresh IsPlaced (placed_push builder.table fresh) ordered.placed last,
    fun _ => ⟨document, spined⟩⟩

theorem climb_spined (chars : List Char) (builder : Builder) (fresh : Entry) (level : Entry → Bool)
    (ordered : Ordered chars builder) (begun : 1 < builder.table.size)
    (kept : ∀ upper lower, Dominates upper lower → level lower = true → level upper = true)
    (drops : ∀ (dropped : Entry) (left : Nat), dropped.indent = some left → level dropped = false → Dominates fresh dropped)
    (child : fresh.parent = some (builder.table.climb level builder.table.size builder.current)) :
    ∃ document, Spined ⟨builder.table.push fresh, builder.table.size⟩ document ∧
      Nearest (builder.table.push fresh) builder.table.size level document
        (builder.table.climb level builder.table.size builder.current) := by
  obtain ⟨document, spined⟩ := ordered.spined begun
  have found := climb_found chars builder level document ordered.ready spined kept
  exact ⟨document, spined_push_step chars builder fresh level document _ ordered.ready spined found child drops,
    nearest_push builder.table fresh _ level document _ (Nat.le_refl _) found.nearest⟩

theorem add_key_ordered (chars : List Char) (builder : Builder) (line : Line) (indent length : Nat)
    (ordered : Ordered chars builder) (begun : 1 < builder.table.size)
    (ready : Ready chars (builder.addKey line indent length)) : Ordered chars (builder.addKey line indent length) := by
  obtain ⟨document, spined, nearest⟩ : ∃ document, Spined (builder.addKey line indent length) document ∧
      Nearest (builder.addKey line indent length).table builder.table.size (keyLevel indent) document
        (builder.keyParent indent) :=
    climb_spined chars builder _ (keyLevel indent) ordered begun (fun _ _ dominates => (dominates indent).1)
      (fun dropped left => key_dominates _ dropped indent left rfl rfl) rfl
  refine ordered_push chars builder _ _ document ordered ready spined ?_
  exact ⟨document, builder.keyParent indent, rfl, spined.top, spined.under, fun _ => ⟨indent, rfl, nearest⟩, by simp, by simp⟩

theorem add_item_ordered (chars : List Char) (builder : Builder) (line : Line) (indent : Nat)
    (ordered : Ordered chars builder) (begun : 1 < builder.table.size)
    (ready : Ready chars (builder.addItem line indent)) : Ordered chars (builder.addItem line indent) := by
  obtain ⟨document, spined, nearest⟩ : ∃ document, Spined (builder.addItem line indent) document ∧
      Nearest (builder.addItem line indent).table builder.table.size (itemLevel indent) document
        (builder.itemParent indent) :=
    climb_spined chars builder _ (itemLevel indent) ordered begun (fun _ _ dominates => (dominates indent).2)
      (fun dropped left => item_dominates _ dropped indent left rfl) rfl
  refine ordered_push chars builder _ _ document ordered ready spined ?_
  exact ⟨document, builder.itemParent indent, rfl, spined.top, spined.under, by simp, fun _ => ⟨indent, rfl, nearest⟩, by simp⟩

theorem add_raw_ordered (chars : List Char) (builder : Builder) (line : Line) (ordered : Ordered chars builder)
    (begun : 1 < builder.table.size) (ready : Ready chars (builder.addRaw line)) : Ordered chars (builder.addRaw line) := by
  obtain ⟨document, spined⟩ := ordered.spined begun
  have next : Spined (builder.addRaw line) document := spined_push_raw builder _ document rfl spined
  refine ordered_push chars builder _ _ document ordered ready next ?_
  refine ⟨document, builder.current, rfl, next.top, ?_, by simp, by simp, ?_⟩
  · exact .step builder.table.size builder.current _ (builder.table.read_push_last _) rfl next.under
  · intro _ between other after _ read
    exact next.closed between other after read

theorem add_document_ordered (chars : List Char) (builder : Builder) (start contentStop stop : Nat)
    (ordered : Ordered chars builder) (ready : Ready chars (builder.addDocument start contentStop stop)) :
    Ordered chars (builder.addDocument start contentStop stop) := by
  have next : Spined (builder.addDocument start contentStop stop) builder.table.size :=
    spined_push_document builder.table _ rfl
  refine ordered_push chars builder _ _ builder.table.size ordered ready next ?_
  exact ⟨builder.table.size, 0, rfl, next.top, .here, by simp, by simp, by simp⟩

theorem made_ordered (chars : List Char) (builder : Builder) (made : Made chars builder) : Ordered chars builder := by
  have ready := made_ready chars builder made
  induction made with
  | root =>
      refine ⟨ready, ?_, by simp⟩
      intro id entry positive read
      have bound := Table.read_bound _ id entry read
      simp at bound
      omega
  | document builder start contentStop stop before _ _ _ _ ih =>
      exact add_document_ordered chars builder start contentStop stop (ih (made_ready chars builder before)) ready
  | raw builder line body before begun _ _ ih =>
      exact add_raw_ordered chars builder line (ih (made_ready chars builder before)) begun ready
  | key builder line indent length body before begun _ _ _ ih =>
      exact add_key_ordered chars builder line indent length (ih (made_ready chars builder before)) begun ready
  | item builder line indent body before begun _ _ ih =>
      exact add_item_ordered chars builder line indent (ih (made_ready chars builder before)) begun ready

theorem table_of_placed (chars : List Char) : (tableOf chars).Each IsPlaced := by
  obtain ⟨builder, made, same⟩ := table_of_made chars
  rw [← same]
  exact (made_ordered chars builder made).placed

end YamlDialects.Outline
