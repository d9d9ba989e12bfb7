import YamlDialects.Proofs.Outline.Order
import YamlDialects.Proofs.Outline.Spine
import YamlDialects.Proofs.Outline.WellFormed

set_option autoImplicit false

namespace YamlDialects.Block

open Outline

def earlier (block : Block) : List Block :=
  (List.range block.id).reverse.map block.withId

def sharesDocument (other block : Block) : Bool :=
  other.document?.map Block.id == block.document?.map Block.id

def isLeftOf (other block : Block) : Bool :=
  match other.indent, block.indent with
  | some left, some right => left < right
  | _, _ => false

def isAlignedWith (other block : Block) : Bool :=
  match other.indent, block.indent with
  | some left, some right => left == right
  | _, _ => false

def mayHoldKey (other key : Block) : Bool :=
  other.isLeftOf key

-- The items of a key may stand right below it.
def mayHoldItem (other item : Block) : Bool :=
  other.isLeftOf item || (other.kind == .key && other.isAlignedWith item)

def nearestStep? (block : Block) (suits : Block → Bool) : Option Block :=
  block.earlier.find? fun other => other.kind.isStep && other.sharesDocument block && suits other

def ruledParent? (block : Block) : Option Block :=
  match block.kind with
  | .root => none
  | .document => some block.outline.root
  | .key => (block.nearestStep? (·.mayHoldKey block)).or block.document?
  | .item => (block.nearestStep? (·.mayHoldItem block)).or block.document?
  | .raw => block.earlier.find? fun other => other.kind.isStep || other.kind == .document

theorem find_nearest (outline : Outline) (suits : Block → Bool) (nearest id : Nat) (order : nearest < id)
    (holds : suits ⟨outline, nearest⟩ = true)
    (between : ∀ each, nearest < each → each < id → suits ⟨outline, each⟩ = false) :
    (Block.mk outline id).earlier.find? suits = some ⟨outline, nearest⟩ := by
  induction id with
  | zero => omega
  | succ id ih =>
      have first : (Block.mk outline (id + 1)).earlier = ⟨outline, id⟩ :: (Block.mk outline id).earlier := by
        simp [earlier, List.range_succ, withId]
      rw [first]
      by_cases last : nearest = id
      · rw [← last, List.find?_cons_of_pos holds]
      · have misses := between id (by omega) (by omega)
        rw [List.find?_cons_of_neg (by simp [misses])]
        exact ih (by omega) fun each after before => between each after (by omega)

theorem placed_document (chars : List Char) (outline : Outline) (id document parent : Nat) (entry : Entry)
    (sound : Sound chars outline.table) (placed : Placed outline.table id entry document parent) :
    (Block.mk outline id).document? = some ⟨outline, document⟩ := by
  obtain ⟨found, read, isDocument⟩ := placed.top
  refine document_of_under chars outline document id sound ?_ placed.under
  rw [kind_of_read ⟨outline, document⟩ found read, isDocument]

theorem shares_document_iff (chars : List Char) (outline : Outline) (id other document parent : Nat)
    (entry otherEntry : Entry) (sound : Sound chars outline.table) (each : outline.table.Each IsPlaced)
    (placed : Placed outline.table id entry document parent) (positive : 0 < other)
    (read : outline.table[other]? = some otherEntry) :
    (Block.mk outline other).sharesDocument ⟨outline, id⟩ = true ↔ outline.table.Under document other := by
  have own := placed_document chars outline id document parent entry sound placed
  obtain ⟨otherDocument, otherParent, otherPlaced⟩ := each other otherEntry positive read
  have others := placed_document chars outline other otherDocument otherParent otherEntry sound otherPlaced
  constructor
  · intro shares
    obtain rfl : otherDocument = document := by simpa [sharesDocument, own, others] using shares
    exact otherPlaced.under
  · intro under
    obtain ⟨found, readTop, isDocument⟩ := placed.top
    have kindEq : (Block.mk outline document).kind = .document := by
      rw [kind_of_read ⟨outline, document⟩ found readTop, isDocument]
    simp [sharesDocument, own, document_of_under chars outline document other sound kindEq under]

theorem step_behind_document (chars : List Char) (outline : Outline) (id other document parent : Nat)
    (entry otherEntry : Entry) (sound : Sound chars outline.table) (each : outline.table.Each IsPlaced)
    (placed : Placed outline.table id entry document parent) (read : outline.table[other]? = some otherEntry)
    (isStep : otherEntry.kind.isStep = true) (shares : (Block.mk outline other).sharesDocument ⟨outline, id⟩ = true) :
    document < other := by
  have positive := positive_of_read chars _ sound other otherEntry read (step_not_root otherEntry isStep)
  have under := (shares_document_iff chars outline id other document parent entry otherEntry sound each placed
    positive read).mp shares
  refine Nat.lt_of_le_of_ne (outline.table.under_le (sound_descending chars _ sound) document other under) ?_
  rintro rfl
  obtain ⟨top, readTop, isDocument⟩ := placed.top
  rw [Option.some.inj (read.symm.trans readTop), isDocument] at isStep
  simp [Kind.isStep] at isStep

theorem nearest_step_spec (chars : List Char) (outline : Outline) (id document parent : Nat) (entry : Entry)
    (level : Entry → Bool) (suits : Block → Bool) (sound : Sound chars outline.table)
    (each : outline.table.Each IsPlaced) (read : outline.table[id]? = some entry)
    (placed : Placed outline.table id entry document parent) (nearest : Nearest outline.table id level document parent)
    (agrees : ∀ (other : Nat) (otherEntry : Entry), outline.table[other]? = some otherEntry →
      otherEntry.kind.isStep = true → suits ⟨outline, other⟩ = level otherEntry) :
    ((Block.mk outline id).nearestStep? suits).or (Block.mk outline id).document? = some ⟨outline, parent⟩ := by
  have bound := outline.table.read_bound id entry read
  have parentBefore : parent < id := sound_descending chars _ sound id entry parent read placed.hangs
  have skipped : ∀ other, parent < other → other < id → (Block.mk outline other).kind.isStep = true →
      suits ⟨outline, other⟩ = false := by
    intro other after before isStep
    obtain ⟨otherEntry, readOther⟩ := outline.table.read_exists other (by omega)
    rw [kind_of_read ⟨outline, other⟩ otherEntry readOther] at isStep
    rw [agrees other otherEntry readOther isStep]
    exact nearest.nearest other otherEntry after before readOther isStep
  rcases Nat.lt_or_eq_of_le nearest.within with below | atTop
  · obtain ⟨parentEntry, readParent, isStep, holds⟩ := nearest.suitable below
    have different : document ≠ id := by omega
    have under := outline.table.under_parent document id parent entry read placed.hangs different placed.under
    have shares := (shares_document_iff chars outline id parent document parent entry parentEntry sound each placed
      (by omega) readParent).mpr under
    have found : (Block.mk outline id).nearestStep? suits = some ⟨outline, parent⟩ := by
      refine find_nearest outline _ parent id parentBefore ?_ fun other after before => ?_
      · rw [shares, agrees parent parentEntry readParent isStep, holds,
          kind_of_read ⟨outline, parent⟩ parentEntry readParent, isStep]
        rfl
      · cases isStep : (Block.mk outline other).kind.isStep with
        | false => rfl
        | true => rw [skipped other after before isStep, Bool.and_false]
    rw [found]
    rfl
  · have missing : (Block.mk outline id).nearestStep? suits = none := by
      apply List.find?_eq_none.mpr
      intro block member holds
      obtain ⟨other, found, rfl⟩ := List.mem_map.mp member
      have before : other < id := by simpa using found
      obtain ⟨otherEntry, readOther⟩ := outline.table.read_exists other (by omega)
      simp only [withId, Bool.and_eq_true] at holds
      obtain ⟨⟨isStep, shares⟩, suitable⟩ := holds
      have kindEq := kind_of_read ⟨outline, other⟩ otherEntry readOther
      -- it would stand behind the document, where no step is suitable
      have behind := step_behind_document chars outline id other document parent entry otherEntry sound each placed
        readOther (kindEq ▸ isStep) shares
      rw [skipped other (by omega) before isStep] at suitable
      cases suitable
    rw [missing, ← atTop, placed_document chars outline id document parent entry sound placed]
    rfl

theorem may_hold_key_eq (outline : Outline) (id other indent : Nat) (entry otherEntry : Entry)
    (read : outline.table[id]? = some entry) (indented : entry.indent = some indent)
    (readOther : outline.table[other]? = some otherEntry) :
    (Block.mk outline other).mayHoldKey ⟨outline, id⟩ = keyLevel indent otherEntry := by
  rw [mayHoldKey, isLeftOf, Block.indent, Block.indent, entry_of_read ⟨outline, id⟩ entry read, indented,
    entry_of_read ⟨outline, other⟩ otherEntry readOther, keyLevel]
  cases otherEntry.indent with
  | none => rfl
  | some left => rfl

theorem may_hold_item_eq (outline : Outline) (id other indent : Nat) (entry otherEntry : Entry)
    (read : outline.table[id]? = some entry) (indented : entry.indent = some indent)
    (readOther : outline.table[other]? = some otherEntry) (otherIndented : ∃ left, otherEntry.indent = some left)
    (isStep : otherEntry.kind.isStep = true) :
    (Block.mk outline other).mayHoldItem ⟨outline, id⟩ = itemLevel indent otherEntry := by
  obtain ⟨left, leftEq⟩ := otherIndented
  rw [mayHoldItem, isLeftOf, isAlignedWith, Block.indent, Block.indent, kind, entry_of_read ⟨outline, id⟩ entry read,
    indented, entry_of_read ⟨outline, other⟩ otherEntry readOther, leftEq, itemLevel, leftEq, Bool.eq_iff_iff]
  simp only [Option.getD_some, Bool.or_eq_true, Bool.and_eq_true, decide_eq_true_eq, beq_iff_eq, bne_iff_ne]
  cases kindEq : otherEntry.kind with
  | root => simp [kindEq, Kind.isStep] at isStep
  | document => simp [kindEq, Kind.isStep] at isStep
  | raw => simp [kindEq, Kind.isStep] at isStep
  | item => simp
  | key =>
      simp
      omega

theorem raw_parent_spec (chars : List Char) (outline : Outline) (id document parent : Nat) (entry : Entry)
    (sound : Sound chars outline.table) (positive : 0 < id) (read : outline.table[id]? = some entry)
    (isRaw : entry.kind = .raw) (placed : Placed outline.table id entry document parent) :
    ((Block.mk outline id).earlier.find? fun other => other.kind.isStep || other.kind == .document) =
      some ⟨outline, parent⟩ := by
  have bound := outline.table.read_bound id entry read
  obtain ⟨hung, above, child, smaller, readAbove, notRaw, atTop, _⟩ := (sound.shaped id entry positive read).hangs
  obtain rfl : parent = hung := Option.some.inj (placed.hangs.symm.trans child)
  refine find_nearest outline _ parent id smaller ?_ ?_
  · have notTop : parent ≠ 0 := by
      intro zero
      rw [atTop.mp zero] at isRaw
      simp at isRaw
    have notRoot := (sound.shaped parent above (by omega) readAbove).notRoot
    rw [kind_of_read ⟨outline, parent⟩ above readAbove]
    cases kindEq : above.kind with
    | root => exact absurd kindEq notRoot
    | raw => exact absurd kindEq notRaw
    | document => rfl
    | key => rfl
    | item => rfl
  · intro other after before
    obtain ⟨otherEntry, readOther⟩ := outline.table.read_exists other (by omega)
    rw [kind_of_read ⟨outline, other⟩ otherEntry readOther, placed.raw isRaw other otherEntry after before readOther]
    rfl

theorem ruled_parent_spec (chars : List Char) (outline : Outline) (id : Nat) (entry : Entry)
    (sound : Sound chars outline.table) (each : outline.table.Each IsPlaced) (positive : 0 < id)
    (read : outline.table[id]? = some entry) :
    (Block.mk outline id).parent? = (Block.mk outline id).ruledParent? := by
  obtain ⟨document, parent, placed⟩ := each id entry positive read
  have shaped := sound.shaped id entry positive read
  have entryEq := entry_of_read ⟨outline, id⟩ entry read
  have hangs := parent_of_read ⟨outline, id⟩ entry read parent placed.hangs
  rw [hangs, ruledParent?, kind, entryEq]
  cases kindEq : entry.kind with
  | root => exact absurd kindEq shaped.notRoot
  | document =>
      obtain ⟨hung, _, child, _, _, _, atTop, _⟩ := shaped.hangs
      rw [Option.some.inj (placed.hangs.symm.trans child), atTop.mpr kindEq]
      rfl
  | raw => exact (raw_parent_spec chars outline id document parent entry sound positive read kindEq placed).symm
  | key =>
      obtain ⟨indent, indented, nearest⟩ := placed.key kindEq
      refine (nearest_step_spec chars outline id document parent entry (keyLevel indent) _ sound each read
        placed nearest ?_).symm
      intro other otherEntry readOther _
      exact may_hold_key_eq outline id other indent entry otherEntry read indented readOther
  | item =>
      obtain ⟨indent, indented, nearest⟩ := placed.item kindEq
      refine (nearest_step_spec chars outline id document parent entry (itemLevel indent) _ sound each read
        placed nearest ?_).symm
      intro other otherEntry readOther isStep
      have otherPositive := positive_of_read chars _ sound other otherEntry readOther (step_not_root otherEntry isStep)
      exact may_hold_item_eq outline id other indent entry otherEntry read indented readOther
        ((sound.shaped other otherEntry otherPositive readOther).indented isStep) isStep

end YamlDialects.Block

namespace YamlDialects.Outline

open Block

theorem parent_follows_rule (text : String) (relaxed : Bool) (block : Block)
    (member : block ∈ (ofText text relaxed).blocks) : block.parent? = block.ruledParent? := by
  obtain ⟨same, bound⟩ := (mem_blocks _ block).mp member
  obtain ⟨outline, id⟩ := block
  obtain rfl : outline = ofText text relaxed := same
  have sound := of_text_sound text relaxed
  obtain ⟨entry, read⟩ := (ofText text relaxed).table.read_exists id bound
  rcases Nat.eq_zero_or_pos id with rfl | positive
  · rw [ruledParent?, kind, parent?, entry_of_read ⟨ofText text relaxed, 0⟩ _ sound.root]
    rfl
  · exact ruled_parent_spec text.toList _ id entry sound (table_of_placed text.toList) positive read

-- The last key is left of the key before it and belongs to the item further up.
theorem parent_follows_rule_outdented :
    (Block.mk (ofText "a:\n- b:\n    c: 1\n  d: 2\n" false) 6).parent? =
        (Block.mk (ofText "a:\n- b:\n    c: 1\n  d: 2\n" false) 6).ruledParent? ∧
      (Block.mk (ofText "a:\n- b:\n    c: 1\n  d: 2\n" false) 6).ruledParent?.map Block.id = some 3 := by
  refine ⟨parent_follows_rule _ false _ ((mem_blocks _ _).mpr ⟨rfl, ?_⟩), ?_⟩
  · decide
  · decide

end YamlDialects.Outline
