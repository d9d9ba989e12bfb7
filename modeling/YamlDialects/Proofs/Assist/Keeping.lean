import YamlDialects.Proofs.Assist.Landing
import YamlDialects.Proofs.Outline.Counterpart

/-!
What accepting a proposal for a key does to the keys and items that are there. They are moved along, and each keeps its
path unless the new key takes it, or something above it, or an item that it is counted after. Before a proposal is moved to the left, the blocks that it leaves are
asked whether they go on behind the line, but nobody asks when it stays where it is or is moved to the right.
-/

set_option autoImplicit false

namespace YamlDialects

open Outline

namespace Proposal

def column (proposal : Proposal) (text : String) : Nat :=
  Cursor.column text proposal.replaced.start + leadingSpaces (Snippet.expandChars proposal.insertion.toList)

-- Where an offset of the text is when the proposal has been accepted.
def shifted (proposal : Proposal) (offset : Nat) : Nat :=
  if offset ≤ proposal.replaced.start then offset
  else offset + Text.byteLength (Snippet.expandChars proposal.insertion.toList) - proposal.replaced.length

structure Moves (proposal : Proposal) (block same : Block) : Prop where
  kind : same.kind = block.kind
  key : same.key? = block.key?
  start : same.start = proposal.shifted block.start

theorem mem_drop_repeats (proposals : List Proposal) (proposal : Proposal) (member : proposal ∈ dropRepeats proposals) :
    proposal ∈ proposals := by
  have among (items kept : List Proposal) (listed : proposal ∈ items.foldl
      (fun kept proposal => if kept.any proposal.isSameAs then kept else kept ++ [proposal]) kept) :
      proposal ∈ kept ∨ proposal ∈ items := by
    induction items generalizing kept with
    | nil => exact .inl listed
    | cons item rest ih =>
        rcases ih _ listed with old | later
        · dsimp only at old
          split at old
          next => exact .inl old
          next =>
            rcases List.mem_append.mp old with before | here
            · exact .inl before
            · exact .inr (by rw [List.mem_singleton.mp here]; exact List.mem_cons_self)
        · exact .inr (List.mem_cons_of_mem _ later)
  exact (among proposals [] member).resolve_left (by simp)

theorem mem_ranked (proposals : List Proposal) (proposal : Proposal) (member : proposal ∈ ranked proposals) :
    proposal ∈ proposals :=
  List.mem_mergeSort.mp (mem_drop_repeats _ proposal member)

end Proposal

namespace Completion

theorem in_blocks_made (completion : Completion) (current : Block) (column : Nat) (penalty : Float) (blocks : List Block)
    (proposal : Proposal) (member : proposal ∈ inBlocks completion current column penalty blocks) :
    ∃ around ∈ blocks, ∃ own ∈ (completion.inBlock current around).filterMap (completion.moved? current around column),
      ∃ amount, proposal = own.lowered amount := by
  induction blocks generalizing penalty with
  | nil => cases member
  | cons around rest ih =>
      rcases List.mem_append.mp member with here | further
      · obtain ⟨own, made, same⟩ := List.mem_map.mp here
        exact ⟨around, List.mem_cons_self, own, made, penalty, same.symm⟩
      · obtain ⟨other, among, made⟩ := ih _ further
        exact ⟨other, List.mem_cons_of_mem _ among, made⟩

def between (schema : Schema) (root : TypeId) (mayDedent : Bool) (text : String) (offset : Nat) : Completion :=
  ⟨schema, root, ⟨Outline.ofText text schema.options.relaxedNames, offset⟩, mayDedent⟩

section

variable (schema : Schema) (root : TypeId) (mayDedent : Bool) (text : String) (offset : Nat) (current : Block)

theorem find_made (floor : Text.floorBoundary text.toList offset = offset)
    (found : (Outline.ofText text schema.options.relaxedNames).find? offset = some current) (isRaw : current.kind = .raw)
    (proposal : Proposal) (offered : proposal ∈ find schema root mayDedent text offset) :
    ∃ around ∈ candidates (between schema root mayDedent text offset).cursor current
        ((between schema root mayDedent text offset).columnAt current),
      ∃ own ∈ (between schema root mayDedent text offset).madeFor current around, ∃ amount, proposal = own.lowered amount := by
  rw [find, floor] at offered
  change proposal ∈ proposals (between schema root mayDedent text offset) at offered
  unfold proposals at offered
  dsimp only at offered
  split at offered
  · cases offered
  · rw [show (between schema root mayDedent text offset).cursor.outline.find?
      (between schema root mayDedent text offset).cursor.offset = some current from found] at offered
    dsimp only at offered
    rw [isRaw, if_pos (by rfl)] at offered
    exact in_blocks_made _ current _ 0 _ proposal (Proposal.mem_ranked _ proposal offered)

theorem found_acceptance (line : Line) (member : line ∈ lines text.toList) (blank : ∀ c ∈ line.chars, c = ' ')
    (after : line.start ≤ offset) (before : offset ≤ line.contentStop)
    (found : (Outline.ofText text schema.options.relaxedNames).find? offset = some current) (proposal : Proposal)
    (offered : proposal ∈ find schema root mayDedent text offset) (isProperty : proposal.kind = .property) (name : List Char)
    (simple : IsSimpleKey name) (spells : proposal.Spells name) :
    ∃ wanted, Nonempty (Acceptance text schema.options.relaxedNames line.start current proposal wanted name) := by
  obtain ⟨slot, id, whole, start, contentStop, blankAt, place⟩ := found_blank (between schema root mayDedent text offset) text
    schema.options.relaxedNames line current rfl member blank after before found
  have isRaw : current.kind = .raw := by
    rw [place]
    exact (blank_spec _ _ text _ id blankAt).1
  have floor : Text.floorBoundary text.toList offset = offset := by
    obtain ⟨column, rfl⟩ : ∃ column, offset = slot.start + column := ⟨offset - slot.start, by omega⟩
    rw [whole, slot.fill_cut column _ (by omega), ← slot.length_before column, Text.floor_boundary_split]
  obtain ⟨around, among, own, made, amount, rfl⟩ :=
    find_made schema root mayDedent text offset current floor found isRaw proposal offered
  obtain ⟨belongs, _, _⟩ := candidate_spec _ text schema.options.relaxedNames _ current around (by rw [place]) isRaw among
  obtain ⟨acceptance⟩ := made_acceptance (between schema root mayDedent text offset) text schema.options.relaxedNames line current
    around rfl member blank after before found belongs own made isProperty name simple ⟨spells.label, spells.unmarked⟩
  obtain ⟨slot, count, column, ending, writes, within, insertion, whole, changed, start, current⟩ := acceptance
  obtain ⟨before, extra, inside, lands, replaced, inserted⟩ := writes
  exact ⟨_, ⟨⟨slot, count, column, ending, ⟨before, extra, inside, lands, replaced, inserted⟩, within, insertion, whole, changed,
    start, current⟩⟩⟩

end

section

variable (text : String) (relaxed : Bool) (start : Nat) (current : Block) (proposal : Proposal) (wanted : Nat) (name : List Char)
variable (acceptance : Acceptance text relaxed start current proposal wanted name)

include acceptance

theorem acceptance_column (simple : IsSimpleKey name) : proposal.column text = wanted := by
  obtain ⟨slot, count, column, ending, ⟨before, extra, inside, lands, replaced, inserted⟩, within, _, whole, _, _, _⟩ := acceptance
  obtain ⟨first, rest, split, word, _⟩ := simple_key_cons name simple
  have cut := slot.fill_cut before count (by omega)
  rw [← whole] at cut
  rw [Proposal.column, replaced, Cursor.column_blanks text slot before _ cut, inserted, split, List.cons_append,
    leading_blanks_visible extra first _ (Text.word_visible first word), lands]

theorem acceptance_shifted (old new : Nat)
    (moved : (old ≤ acceptance.slot.start ∧ new = old) ∨ (acceptance.slot.start + acceptance.count < old ∧
      new + acceptance.count = old + Text.byteLength (blanks wanted ++
        (name ++ ':' :: (acceptance.ending.written wanted ++ blanks (acceptance.count - acceptance.column)))))) :
    new = proposal.shifted old := by
  obtain ⟨slot, count, column, ending, ⟨before, extra, inside, lands, replaced, inserted⟩, within, _, _, _, _, _⟩ := acceptance
  dsimp only at moved
  have width (amount : Nat) : Text.byteLength (blanks amount) = amount := Text.byte_length_spaces amount
  simp only [Text.byte_length_append, Text.byte_length_cons, width] at moved
  rw [Proposal.shifted, replaced, inserted, Region.length]
  simp only [Text.byte_length_append, Text.byte_length_cons, width]
  split <;> omega

-- All keys and items are still there. Each of them is where it was unless something on the way to it goes below the key or
-- is recounted, and all of them are if and only if the next one stays out of the key.
theorem acceptance_keeps (simple : IsSimpleKey name)
    (fresh : ∀ host, current.hostAt (proposal.column text) = some host → String.ofList name ∉ host.childKeys) :
    (∀ block ∈ (Outline.ofText text relaxed).blocks, block.kind.isStep = true →
      ∃ same ∈ (Outline.ofText (proposal.accepted text) relaxed).blocks, proposal.Moves block same) ∧
    ((∀ block ∈ (Outline.ofText text relaxed).blocks, block.kind.isStep = true →
      ∃ same ∈ (Outline.ofText (proposal.accepted text) relaxed).blocks, proposal.Moves block same ∧ same.path = block.path) ↔
        current.follower?.any (Block.isCaptured (proposal.column text)) = false) ∧
    ∀ block ∈ (Outline.ofText text relaxed).blocks, block.kind.isStep = true →
      ((∃ same ∈ (Outline.ofText (proposal.accepted text) relaxed).blocks, proposal.Moves block same ∧ same.path = block.path) ↔
        ∀ above ∈ block.ancestry, ¬ Block.IsTaken (proposal.column text) current above ∧
          ¬ Block.IsRecounted (proposal.column text) current above) := by
  have columnEq := acceptance_column text relaxed start current proposal wanted name acceptance simple
  have shifted := acceptance_shifted text relaxed start current proposal wanted name acceptance
  obtain ⟨slot, count, column, ending, writes, within, insertion, whole, changed, _, place⟩ := acceptance
  dsimp only at shifted
  rw [columnEq] at fresh ⊢
  have path := counterpart_path_iff insertion text (proposal.accepted text) relaxed whole changed _ rfl current place fresh
  have paths := counterpart_paths_iff insertion text (proposal.accepted text) relaxed whole changed _ rfl current place fresh
  have spec := counterpart_spec insertion text (proposal.accepted text) relaxed whole changed
  generalize proposal.accepted text = accepted at *
  have moves (block : Block) (listed : block ∈ (Outline.ofText text relaxed).blocks) (isStep : block.kind.isStep = true) :
      ⟨Outline.ofText accepted relaxed, insertion.counterpart block.id⟩ ∈ (Outline.ofText accepted relaxed).blocks ∧
        proposal.Moves block ⟨Outline.ofText accepted relaxed, insertion.counterpart block.id⟩ := by
    obtain ⟨kindEq, keyEq, moved⟩ := spec block ((mem_blocks _ _).mp listed).1 isStep _ rfl
    refine ⟨(mem_blocks _ _).mpr ⟨rfl, Block.bound_of_kind _ (Block.step_ne_root _ (by rw [kindEq, isStep]))⟩, kindEq, keyEq, shifted _ _ moved⟩
  -- No other key or item starts there.
  have kept_iff (block : Block) (listed : block ∈ (Outline.ofText text relaxed).blocks) (isStep : block.kind.isStep = true) :
      (∃ same ∈ (Outline.ofText accepted relaxed).blocks, proposal.Moves block same ∧ same.path = block.path) ↔
        (Block.mk (Outline.ofText accepted relaxed) (insertion.counterpart block.id)).path = block.path := by
    obtain ⟨among, expected⟩ := moves block listed isStep
    constructor
    · rintro ⟨same, member, moved, path⟩
      rw [← path]
      congr 1
      exact Block.step_eq_of_start accepted relaxed _ same rfl ((mem_blocks _ _).mp member).1 (by rw [expected.kind, isStep])
        (by rw [moved.kind, isStep]) (by rw [expected.start, moved.start])
    · exact fun path => ⟨_, among, expected, path⟩
  refine ⟨fun block listed isStep => ⟨_, moves block listed isStep⟩, ?_, fun block listed isStep => ?_⟩
  · rw [← paths]
    constructor
    · intro kept block belongs isStep
      have bound := Block.bound_of_kind block (block.step_ne_root isStep)
      have listed := (mem_blocks _ _).mpr ⟨belongs, by rwa [belongs] at bound⟩
      exact (kept_iff block listed isStep).mp (kept block listed isStep)
    · exact fun kept block listed isStep => (kept_iff block listed isStep).mpr (kept block ((mem_blocks _ _).mp listed).1 isStep)
  · exact (kept_iff block listed isStep).trans (path block ((mem_blocks _ _).mp listed).1 isStep)

end

theorem proposal_keeps_paths_iff (schema : Schema) (root : TypeId) (mayDedent : Bool) (text : String) (offset : Nat) (line : Line)
    (current : Block) (member : line ∈ lines text.toList) (blank : ∀ c ∈ line.chars, c = ' ') (after : line.start ≤ offset)
    (before : offset ≤ line.contentStop)
    (found : (Outline.ofText text schema.options.relaxedNames).find? offset = some current) (proposal : Proposal)
    (offered : proposal ∈ find schema root mayDedent text offset) (isProperty : proposal.kind = .property) (name : List Char)
    (simple : IsSimpleKey name) (spells : proposal.Spells name)
    (fresh : ∀ host, current.hostAt (proposal.column text) = some host → String.ofList name ∉ host.childKeys) :
    (∀ block ∈ (Outline.ofText text schema.options.relaxedNames).blocks, block.kind.isStep = true →
      ∃ same ∈ (Outline.ofText (proposal.accepted text) schema.options.relaxedNames).blocks, proposal.Moves block same) ∧
    ((∀ block ∈ (Outline.ofText text schema.options.relaxedNames).blocks, block.kind.isStep = true →
      ∃ same ∈ (Outline.ofText (proposal.accepted text) schema.options.relaxedNames).blocks,
        proposal.Moves block same ∧ same.path = block.path) ↔
          current.follower?.any (Block.isCaptured (proposal.column text)) = false) ∧
    ∀ block ∈ (Outline.ofText text schema.options.relaxedNames).blocks, block.kind.isStep = true →
      ((∃ same ∈ (Outline.ofText (proposal.accepted text) schema.options.relaxedNames).blocks,
        proposal.Moves block same ∧ same.path = block.path) ↔
          ∀ above ∈ block.ancestry, ¬ Block.IsTaken (proposal.column text) current above ∧
            ¬ Block.IsRecounted (proposal.column text) current above) := by
  obtain ⟨wanted, ⟨acceptance⟩⟩ := found_acceptance schema root mayDedent text offset current line member blank after before found
    proposal offered isProperty name simple spells
  exact acceptance_keeps text schema.options.relaxedNames line.start current proposal wanted name acceptance simple fresh

theorem proposal_read (schema : Schema) (root : TypeId) (mayDedent : Bool) (text : String) (offset place : Nat) (label : String)
    (chars : List Char) (offered : (find schema root mayDedent text offset).any (fun proposal => proposal.kind == .property &&
      (proposal.label == label && (proposal.replaced == ⟨place, place⟩ &&
        Snippet.expandChars proposal.insertion.toList == chars))) = true) :
    ∃ proposal ∈ find schema root mayDedent text offset, proposal.kind = .property ∧ proposal.label = label ∧
      proposal.replaced = ⟨place, place⟩ ∧ Snippet.expandChars proposal.insertion.toList = chars := by
  obtain ⟨proposal, made, holds⟩ := List.any_eq_true.mp offered
  simp only [Bool.and_eq_true, beq_iff_eq] at holds
  exact ⟨proposal, made, holds⟩

-- A blank line above a key that stands where new ones are put.
def spacedText : String :=
  "a:\n\n  b: 1\n"

theorem proposal_keeps_paths_spaced : ∃ proposal ∈ find nestedSchema 3 true spacedText 3, proposal.label = "→ x" ∧
    ∀ block ∈ (Outline.ofText spacedText).blocks, block.kind.isStep = true →
      ∃ same ∈ (Outline.ofText (proposal.accepted spacedText)).blocks, proposal.Moves block same ∧ same.path = block.path := by
  obtain ⟨proposal, made, isProperty, label, replaced, inserted⟩ := proposal_read nestedSchema 3 true spacedText 3 3 "→ x"
    [ ' ', ' ', 'x', ':', ' '] (by decide +kernel)
  have column : proposal.column spacedText = 2 := by
    rw [Proposal.column, replaced, inserted]
    decide +kernel
  refine ⟨proposal, made, label, (proposal_keeps_paths_iff nestedSchema 3 true spacedText 3 ⟨[], 3, 3, 4, none⟩
    ⟨Outline.ofText spacedText, 3⟩ (List.mem_of_getElem? (i := 1) rfl) (by simp) (by decide) (by decide) (by rfl) proposal made
    isProperty [ 'x'] ⟨by decide +kernel, by simp⟩ (spells_of_inserted proposal [ 'x'] ⟨by decide +kernel, by simp⟩ (by rw [label]; rfl) 2 [ ' '] inserted) ?_).2.1.mpr ?_⟩
  · intro host hosted
    have found : (Block.mk (Outline.ofText spacedText) 3).hostAt 2 = some ⟨Outline.ofText spacedText, 2⟩ := by rfl
    rw [column] at hosted
    obtain rfl := Option.some.inj (found.symm.trans hosted)
    decide +kernel
  · rw [column]
    decide +kernel

-- The line above a key that is further in, which goes below the new key.
def enteredText : String :=
  "a:\n  b:\n\n    c: 1\n"

theorem proposal_takes_key : (∃ line ∈ lines enteredText.toList, (∀ c ∈ line.chars, c = ' ') ∧ line.start ≤ 8 ∧ 8 ≤ line.contentStop) ∧
    (Outline.ofText enteredText).find? 8 = some ⟨Outline.ofText enteredText, 4⟩ ∧
    ∃ proposal ∈ find nestedSchema 3 true enteredText 8, proposal.kind = .property ∧ IsSimpleKey [ 'x'] ∧ proposal.Spells [ 'x'] ∧
      (∀ host, (Block.mk (Outline.ofText enteredText) 4).hostAt (proposal.column enteredText) = some host →
        String.ofList [ 'x'] ∉ host.childKeys) ∧
      ∃ key ∈ (Outline.ofText enteredText).blocks, key.kind = .key ∧
        ∀ same ∈ (Outline.ofText (proposal.accepted enteredText)).blocks, proposal.Moves key same → same.path ≠ key.path := by
  obtain ⟨proposal, made, isProperty, label, replaced, inserted⟩ := proposal_read nestedSchema 3 true enteredText 8 8 "→ x"
    [ ' ', ' ', 'x', ':', ' '] (by decide +kernel)
  have column : proposal.column enteredText = 2 := by
    rw [Proposal.column, replaced, inserted]
    decide +kernel
  have accepted : proposal.accepted enteredText = "a:\n  b:\n  x: \n    c: 1\n" := by
    rw [Proposal.accepted, replaced, inserted]
    decide +kernel
  refine ⟨⟨⟨[], 8, 8, 9, none⟩, List.mem_of_getElem? (i := 2) rfl, by simp, by decide, by decide⟩, by rfl, proposal, made,
    isProperty, ⟨by decide +kernel, by simp⟩, (spells_of_inserted proposal [ 'x'] ⟨by decide +kernel, by simp⟩ (by rw [label]; rfl) 2 [ ' '] inserted), ?_, ⟨Outline.ofText enteredText, 5⟩,
    (mem_blocks _ _).mpr ⟨rfl, by decide +kernel⟩, by decide +kernel, ?_⟩
  · intro host hosted
    have found : (Block.mk (Outline.ofText enteredText) 4).hostAt 2 = some ⟨Outline.ofText enteredText, 2⟩ := by rfl
    rw [column] at hosted
    obtain rfl := Option.some.inj (found.symm.trans hosted)
    decide +kernel
  · rw [accepted]
    intro same among moved
    have start : same.start = 18 := by
      rw [moved.start, Proposal.shifted, replaced, inserted]
      decide +kernel
    have elsewhere : (Outline.ofText "a:\n  b:\n  x: \n    c: 1\n").blocks.all (fun block => block.start != 18 ||
        block.path != (Block.mk (Outline.ofText enteredText) 5).path) = true := by decide +kernel
    have apart := List.all_eq_true.mp elsewhere same among
    simpa [start] using apart

end Completion
end YamlDialects
