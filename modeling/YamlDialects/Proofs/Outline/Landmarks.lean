import YamlDialects.Proofs.Landmark
import YamlDialects.Proofs.Outline.Entries
import YamlDialects.Proofs.Outline.Spine

set_option autoImplicit false

namespace YamlDialects

namespace Outline

namespace Entry

def name (text : String) (entry : Entry) : String :=
  (entry.colon.map (Text.slice text entry.start)).getD ""

def landmark? (text : String) (entry : Entry) : Option Landmark :=
  match entry.kind with
  | .document => some .document
  | .key => some (.key (entry.indent.getD 0) (entry.name text) ⟨entry.start, entry.colon.getD entry.start⟩)
  | .item => some (.item (entry.indent.getD 0))
  | _ => none

def segment (text : String) (entry : Entry) : Segment :=
  match entry.kind with
  | .key => .value (entry.name text)
  | _ => .index entry.position

end Entry

namespace Table

def landmarks (text : String) (table : Table) (count : Nat) : List Landmark :=
  (table.toList.take count).filterMap (Entry.landmark? text)

def rung (text : String) (table : Table) (id : Nat) (entry : Entry) : Rung :=
  ⟨entry.kind, entry.indent.getD 0, entry.segment text, table.countChildren id .item⟩

inductive Spine (text : String) (table : Table) : Nat → List Rung → Prop where
  | document (id : Nat) (entry : Entry) (read : table[id]? = some entry) (isDocument : entry.kind = .document) :
      Spine text table id [table.rung text id entry]
  | step (id parent : Nat) (entry : Entry) (rest : List Rung) (read : table[id]? = some entry)
      (isStep : entry.kind.isStep = true) (child : entry.parent = some parent) (smaller : parent < id)
      (above : Spine text table parent rest) : Spine text table id (table.rung text id entry :: rest)

theorem landmarks_push (text : String) (table : Table) (fresh : Entry) (count : Nat) (le : count ≤ table.size) :
    landmarks text (table.push fresh) count = landmarks text table count := by
  rw [landmarks, Array.toList_push, List.take_append_of_le_length (by rwa [Array.length_toList]), landmarks]

theorem landmarks_push_whole (text : String) (table : Table) (fresh : Entry) :
    landmarks text (table.push fresh) (table.size + 1) = landmarks text table table.size ++ (fresh.landmark? text).toList := by
  have whole : (table.toList ++ [fresh]).take (table.size + 1) = table.toList ++ [fresh] :=
    List.take_of_length_le (by simp)
  have old : table.toList.take table.size = table.toList := List.take_of_length_le (by simp)
  rw [landmarks, Array.toList_push, whole, landmarks, old, List.filterMap_append]
  cases known : fresh.landmark? text <;> simp [known]

theorem count_children_push (table : Table) (fresh : Entry) (parent : Nat) (kind : Kind) :
    countChildren (table.push fresh) parent kind =
      table.countChildren parent kind + if fresh.parent = some parent ∧ fresh.kind = kind then 1 else 0 := by
  unfold countChildren
  rw [Array.filter_push]
  by_cases counted : fresh.parent = some parent ∧ fresh.kind = kind
  · simp [counted]
  · rw [if_neg counted, if_neg (by simpa using counted)]
    rfl

theorem count_children_size (chars : List Char) (table : Table) (sound : Sound chars table) (kind : Kind) :
    table.countChildren table.size kind = 0 := by
  rw [countChildren, Array.size_eq_zero_iff, Array.filter_eq_empty_iff]
  intro entry member counted
  simp only [Bool.and_eq_true, beq_iff_eq] at counted
  obtain ⟨id, read⟩ := Array.mem_iff_getElem?.mp member
  have smaller := sound_descending chars table sound id entry table.size read counted.1
  exact absurd (table.read_bound id entry read) (by omega)

section

variable {text : String} {table : Table} {id : Nat} {rungs : List Rung}

theorem spine_bound (spine : Spine text table id rungs) : id < table.size := by
  cases spine with
  | document _ entry read => exact table.read_bound id entry read
  | step _ parent entry rest read => exact table.read_bound id entry read

theorem spine_head (spine : Spine text table id rungs) :
    ∃ host outer, rungs = host :: outer ∧ host.items = table.countChildren id .item := by
  cases spine with
  | document => exact ⟨_, _, rfl, rfl⟩
  | step => exact ⟨_, _, rfl, rfl⟩

theorem rung_push (fresh entry : Entry) (other : ¬ (fresh.parent = some id ∧ fresh.kind = .item)) :
    rung text (table.push fresh) id entry = table.rung text id entry := by
  rw [rung, rung, count_children_push, if_neg other]
  rfl

theorem spine_push (fresh : Entry) (spine : Spine text table id rungs)
    (elsewhere : fresh.kind = .item → ∀ parent, fresh.parent = some parent → id < parent) :
    Spine text (table.push fresh) id rungs := by
  induction spine with
  | document id entry read isDocument =>
      rw [← rung_push fresh entry fun counted => Nat.lt_irrefl _ (elsewhere counted.2 id counted.1)]
      exact .document id entry (table.read_push fresh entry id read) isDocument
  | step id parent entry rest read isStep child smaller above ih =>
      rw [← rung_push fresh entry fun counted => Nat.lt_irrefl _ (elsewhere counted.2 id counted.1)]
      exact .step id parent entry rest (table.read_push fresh entry id read) isStep child smaller
        (ih fun isItem other hangs => Nat.lt_trans smaller (elsewhere isItem other hangs))

theorem spine_push_item (fresh : Entry) (host : Rung) (outer : List Rung) (spine : Spine text table id (host :: outer))
    (isItem : fresh.kind = .item) (hangs : fresh.parent = some id) :
    Spine text (table.push fresh) id (host.addItem :: outer) := by
  have counted (entry : Entry) : rung text (table.push fresh) id entry = (table.rung text id entry).addItem := by
    rw [rung, count_children_push, if_pos ⟨hangs, isItem⟩]
    rfl
  cases spine with
  | document _ entry read isDocument =>
      rw [← counted]
      exact .document id entry (table.read_push fresh entry id read) isDocument
  | step _ parent entry _ read isStep child smaller above =>
      rw [← counted]
      refine .step id parent entry outer (table.read_push fresh entry id read) isStep child smaller ?_
      refine spine_push fresh above fun _ other same => ?_
      rwa [Option.some.inj (same.symm.trans hangs)]

theorem spine_uncounted (fresh : Entry) (spine : Spine text table id rungs) :
    ∃ later, Spine text (table.push fresh) id later ∧ later.map Rung.uncounted = rungs.map Rung.uncounted := by
  induction spine with
  | document id entry read isDocument =>
      exact ⟨_, .document id entry (table.read_push fresh entry id read) isDocument, rfl⟩
  | step id parent entry rest read isStep child smaller above ih =>
      obtain ⟨later, stands, same⟩ := ih
      exact ⟨_, .step id parent entry later (table.read_push fresh entry id read) isStep child smaller stands,
        by simp [same, rung, Rung.uncounted]⟩

theorem climb_spine (level : Entry → Bool) (holds : Rung → Bool) (fuel : Nat) (spine : Spine text table id rungs)
    (enough : rungs.length ≤ fuel) (atTop : ∀ rung : Rung, rung.kind.isStep = false → holds rung = true)
    (agrees : ∀ id entry, table[id]? = some entry → entry.kind.isStep = true → level entry = holds (table.rung text id entry)) :
    Spine text table (table.climb level fuel id) (rungs.dropWhile (!holds ·)) := by
  induction spine generalizing fuel with
  | document id entry read isDocument =>
      obtain ⟨fuel, rfl⟩ : ∃ less, fuel = less + 1 := ⟨fuel - 1, by simp at enough; omega⟩
      have held : holds (table.rung text id entry) = true := atTop _ (by simp [rung, isDocument, Kind.isStep])
      rw [climb, read, List.dropWhile_cons_of_neg (by simp [held])]
      simp only [isDocument, Kind.isStep, Bool.not_false, Bool.true_or, if_true]
      exact .document id entry read isDocument
  | step id parent entry rest read isStep child smaller above ih =>
      obtain ⟨fuel, rfl⟩ : ∃ less, fuel = less + 1 := ⟨fuel - 1, by simp at enough; omega⟩
      have same := agrees id entry read isStep
      rw [climb, read]
      simp only [isStep, Bool.not_true, Bool.false_or, child]
      cases held : level entry with
      | true =>
          rw [held] at same
          rw [List.dropWhile_cons_of_neg (by simp [← same])]
          exact .step id parent entry rest read isStep child smaller above
      | false =>
          rw [held] at same
          rw [List.dropWhile_cons_of_pos (by simp [← same])]
          exact ih fuel (by simpa using enough)

theorem spine_length (spine : Spine text table id rungs) : rungs.length ≤ id + 1 := by
  induction spine with
  | document => simp
  | step id parent entry rest _ _ _ smaller _ ih =>
      rw [List.length_cons]
      omega

end
end Table

open Table

theorem key_level_holds (text : String) (table : Table) (indent id : Nat) (entry : Entry)
    (indented : ∃ left, entry.indent = some left) (isStep : entry.kind.isStep = true) :
    keyLevel indent entry = (table.rung text id entry).holdsKey indent := by
  obtain ⟨left, same⟩ := indented
  simp [keyLevel, Rung.holdsKey, rung, same, isStep]

theorem item_level_holds (text : String) (table : Table) (indent id : Nat) (entry : Entry)
    (indented : ∃ left, entry.indent = some left) (isStep : entry.kind.isStep = true) :
    itemLevel indent entry = (table.rung text id entry).holdsItem indent := by
  obtain ⟨left, same⟩ := indented
  simp [itemLevel, Rung.holdsItem, Rung.holdsKey, rung, same, isStep]

structure Surveyed (text : String) (builder : Builder) : Prop where
  documents : (Trail.along (landmarks text builder.table builder.table.size)).documents =
    builder.table.countChildren 0 .document
  spine : 1 < builder.table.size →
    Spine text builder.table builder.current (Trail.along (landmarks text builder.table builder.table.size)).rungs
  paths : ∀ id entry, builder.table[id]? = some entry → (entry.landmark? text).isSome = true →
    ∃ rungs, Spine text builder.table id rungs ∧
      rungs.map Rung.uncounted = (Trail.along (landmarks text builder.table (id + 1))).rungs.map Rung.uncounted

section

variable (text : String) (chars : List Char) (builder : Builder) (fresh : Entry)

theorem surveyed_push (current : Nat) (trail : Trail) (surveyed : Surveyed text builder)
    (noted : Trail.along (landmarks text (builder.table.push fresh) (builder.table.size + 1)) = trail)
    (documents : trail.documents = countChildren (builder.table.push fresh) 0 .document)
    (spine : Spine text (builder.table.push fresh) current trail.rungs)
    (last : (fresh.landmark? text).isSome = true → current = builder.table.size) :
    Surveyed text ⟨builder.table.push fresh, current⟩ := by
  have size : (builder.table.push fresh).size = builder.table.size + 1 := Array.size_push _
  refine ⟨by rw [size, noted]; exact documents, fun _ => by rw [size, noted]; exact spine, fun id entry read known => ?_⟩
  rcases builder.table.read_push_cases fresh entry id read with ⟨rfl, rfl⟩ | ⟨before, readOld⟩
  · exact ⟨_, last known ▸ spine, by rw [noted]⟩
  · obtain ⟨rungs, stands, same⟩ := surveyed.paths id entry readOld known
    obtain ⟨later, stays, unchanged⟩ := spine_uncounted fresh stands
    refine ⟨later, stays, unchanged.trans ?_⟩
    rw [same, landmarks_push text builder.table fresh (id + 1) before]

theorem along_push (landmark : Landmark) (known : fresh.landmark? text = some landmark) :
    Trail.along (landmarks text (builder.table.push fresh) (builder.table.size + 1)) =
      (Trail.along (landmarks text builder.table builder.table.size)).note landmark := by
  rw [landmarks_push_whole, known]
  exact Trail.along_append _ landmark

theorem fresh_rung (parent : Nat) (sound : Sound chars builder.table) (hangs : fresh.parent = some parent)
    (bound : parent < builder.table.size) : rung text (builder.table.push fresh) builder.table.size fresh =
      ⟨fresh.kind, fresh.indent.getD 0, fresh.segment text, 0⟩ := by
  rw [rung, count_children_push, count_children_size chars builder.table sound, if_neg]
  rw [hangs]
  rintro ⟨same, -⟩
  exact absurd (Option.some.inj same) (Nat.ne_of_lt bound)

theorem push_document_surveyed (nonempty : 0 < builder.table.size) (sound : Sound chars builder.table)
    (surveyed : Surveyed text builder) (isDocument : fresh.kind = .document) (hangs : fresh.parent = some 0)
    (indented : fresh.indent = some 0) (position : fresh.position = builder.table.countChildren 0 .document) :
    Surveyed text ⟨builder.table.push fresh, builder.table.size⟩ := by
  have noted := along_push text builder fresh .document (by simp [Entry.landmark?, isDocument])
  refine surveyed_push text builder fresh _ _ surveyed noted ?_ ?_ fun _ => rfl
  · rw [count_children_push, if_pos ⟨hangs, isDocument⟩, ← surveyed.documents]
    rfl
  · have stands : Spine text _ _ _ := .document _ fresh (builder.table.read_push_last fresh) isDocument
    rw [fresh_rung text chars builder fresh 0 sound hangs nonempty] at stands
    simpa [Trail.note, surveyed.documents, Entry.segment, isDocument, indented, position] using stands

theorem push_raw_surveyed (begun : 1 < builder.table.size) (surveyed : Surveyed text builder) (isRaw : fresh.kind = .raw) :
    Surveyed text ⟨builder.table.push fresh, builder.current⟩ := by
  have unknown : fresh.landmark? text = none := by simp [Entry.landmark?, isRaw]
  refine surveyed_push text builder fresh _ _ surveyed rfl ?_ ?_ fun known => by simp [unknown] at known
  · rw [landmarks_push_whole, unknown, count_children_push, if_neg (by simp [isRaw]), ← surveyed.documents]
    simp
  · rw [landmarks_push_whole, unknown, Option.toList_none, List.append_nil]
    exact spine_push fresh (surveyed.spine begun) fun isItem => by simp [isRaw] at isItem

theorem climbed_spine (level : Entry → Bool) (holds : Rung → Bool) (begun : 1 < builder.table.size)
    (sound : Sound chars builder.table) (surveyed : Surveyed text builder)
    (atTop : ∀ rung : Rung, rung.kind.isStep = false → holds rung = true)
    (agrees : ∀ id entry, (∃ left, entry.indent = some left) → entry.kind.isStep = true →
      level entry = holds (builder.table.rung text id entry)) :
    Spine text builder.table (builder.table.climb level builder.table.size builder.current)
      ((Trail.along (landmarks text builder.table builder.table.size)).rungs.dropWhile (!holds ·)) := by
  have spine := surveyed.spine begun
  refine climb_spine level holds builder.table.size spine (Nat.le_trans (spine_length spine) (spine_bound spine)) atTop ?_
  intro id entry read isStep
  have positive := positive_of_read chars _ sound id entry read (step_not_root entry isStep)
  exact agrees id entry ((sound.shaped id entry positive read).indented isStep) isStep

theorem push_key_surveyed (indent : Nat) (begun : 1 < builder.table.size) (sound : Sound chars builder.table)
    (surveyed : Surveyed text builder) (isKey : fresh.kind = .key) (indented : fresh.indent = some indent)
    (hangs : fresh.parent = some (builder.keyParent indent)) :
    Surveyed text ⟨builder.table.push fresh, builder.table.size⟩ := by
  have parent : Spine text builder.table (builder.keyParent indent) _ :=
    climbed_spine text chars builder (keyLevel indent) (Rung.holdsKey indent) begun sound surveyed
      (fun rung top => by simp [Rung.holdsKey, top]) (key_level_holds text builder.table indent)
  have noted := along_push text builder fresh _ (by rw [Entry.landmark?, isKey])
  refine surveyed_push text builder fresh _ _ surveyed noted ?_ ?_ fun _ => rfl
  · rw [count_children_push, if_neg (by simp [isKey]), ← surveyed.documents]
    rfl
  · have stands := Spine.step _ _ fresh _ (builder.table.read_push_last fresh) (by simp [isKey, Kind.isStep]) hangs
      (spine_bound parent) (spine_push fresh parent fun isItem => by simp [isKey] at isItem)
    rw [fresh_rung text chars builder fresh _ sound hangs (spine_bound parent)] at stands
    simpa [Trail.note, Entry.segment, isKey, indented] using stands

theorem push_item_surveyed (indent : Nat) (begun : 1 < builder.table.size) (sound : Sound chars builder.table)
    (surveyed : Surveyed text builder) (isItem : fresh.kind = .item) (indented : fresh.indent = some indent)
    (hangs : fresh.parent = some (builder.itemParent indent))
    (position : fresh.position = builder.table.countChildren (builder.itemParent indent) .item) :
    Surveyed text ⟨builder.table.push fresh, builder.table.size⟩ := by
  have parent : Spine text builder.table (builder.itemParent indent) _ :=
    climbed_spine text chars builder (itemLevel indent) (Rung.holdsItem indent) begun sound surveyed
      (fun rung top => by simp [Rung.holdsItem, Rung.holdsKey, top]) (item_level_holds text builder.table indent)
  obtain ⟨host, outer, climbed, counted⟩ := spine_head parent
  have noted := along_push text builder fresh (.item indent) (by simp [Entry.landmark?, isItem, indented])
  simp only [Trail.note, climbed] at noted
  rw [climbed] at parent
  refine surveyed_push text builder fresh _ _ surveyed noted ?_ ?_ fun _ => rfl
  · rw [count_children_push, if_neg (by simp [isItem]), ← surveyed.documents]
    rfl
  · have stands := Spine.step _ _ fresh _ (builder.table.read_push_last fresh) (by simp [isItem, Kind.isStep]) hangs
      (spine_bound parent) (spine_push_item fresh host outer parent isItem hangs)
    rw [fresh_rung text chars builder fresh _ sound hangs (spine_bound parent)] at stands
    simpa [Entry.segment, isItem, indented, position, counted] using stands

theorem made_surveyed (made : Made chars builder) : Surveyed text builder := by
  have ready := made_ready chars builder made
  induction made with
  | root =>
      refine ⟨rfl, by simp, fun id entry read known => ?_⟩
      have bound := Table.read_bound _ id entry read
      obtain rfl : id = 0 := by simpa using bound
      obtain rfl : _ = entry := by simpa using read
      simp [Entry.landmark?, rootOf] at known
  | document builder start contentStop stop before _ _ _ _ ih =>
      have old := made_ready chars builder before
      exact push_document_surveyed text chars builder _ (made_nonempty chars builder before) old.sound (ih old) rfl rfl rfl rfl
  | raw builder line body before begun _ _ ih =>
      exact push_raw_surveyed text builder _ begun (ih (made_ready chars builder before)) rfl
  | key builder line indent length body before begun _ _ _ ih =>
      have old := made_ready chars builder before
      exact push_key_surveyed text chars builder _ indent begun old.sound (ih old) rfl rfl rfl
  | item builder line indent body before begun _ _ ih =>
      have old := made_ready chars builder before
      exact push_item_surveyed text chars builder _ indent begun old.sound (ih old) rfl rfl rfl rfl

end
end Outline

namespace Block

open Outline Table

def landmarks (block : Block) : List Landmark :=
  block.outline.table.landmarks block.outline.text (block.id + 1)

theorem path_of_spine (text : String) (relaxedNames : Bool) (outline : Outline)
    (same : outline = Outline.ofText text relaxedNames) (id : Nat) (rungs : List Rung)
    (spine : Spine outline.text outline.table id rungs) : (Block.mk outline id).path = (rungs.map Rung.segment).reverse := by
  induction spine with
  | document id entry read isDocument =>
      have kindEq : (Block.mk outline id).kind = .document := by rw [kind_of_read ⟨outline, id⟩ entry read, isDocument]
      rw [document_path text relaxedNames ⟨outline, id⟩ same kindEq, position, entry_of_read ⟨outline, id⟩ entry read]
      simp [rung, Entry.segment, isDocument]
  | step id parent entry rest read isStep child smaller above ih =>
      have entryEq := entry_of_read ⟨outline, id⟩ entry read
      have hangs := parent_of_read ⟨outline, id⟩ entry read parent child
      have sound := Outline.block_sound text relaxedNames ⟨outline, id⟩ same
      have positive := positive_of_read _ _ sound id entry read (step_not_root entry isStep)
      have segment : (Block.mk outline id).segment? = some (entry.segment outline.text) := by
        cases kindEq : entry.kind with
        | key =>
            obtain ⟨_, _, _, _, _, _, colon, _, _⟩ := (sound.shaped id entry positive read).keyText kindEq
            simp [segment?, kind, key?, colon?, Block.start, entryEq, kindEq, Entry.segment, Entry.name, colon]
        | item => simp [segment?, kind, position, entryEq, kindEq, Entry.segment]
        | _ => simp [kindEq, Kind.isStep] at isStep
      rw [path, ancestry_parent _ _ _ sound hangs, List.filterMap_append, ← path, ih, List.filterMap_cons, segment]
      simp [rung]

theorem landmark_spine (text : String) (id : Nat) (entry : Entry) (read : (tableOf text.toList)[id]? = some entry)
    (known : (entry.landmark? text).isSome = true) :
    ∃ rungs, Spine text (tableOf text.toList) id rungs ∧ rungs.map Rung.uncounted =
      (Trail.along ((tableOf text.toList).landmarks text (id + 1))).rungs.map Rung.uncounted := by
  obtain ⟨builder, made, same⟩ := table_of_made text.toList
  rw [← same] at read ⊢
  exact (made_surveyed text text.toList builder made).paths id entry read known

theorem segments_of_uncounted (first second : List Rung) (same : first.map Rung.uncounted = second.map Rung.uncounted) :
    first.map Rung.segment = second.map Rung.segment := by
  have segments (rungs : List Rung) : rungs.map Rung.segment = (rungs.map Rung.uncounted).map Rung.segment := by
    rw [List.map_map]
    rfl
  rw [segments first, segments second, same]

theorem path_of_landmark (text : String) (relaxedNames : Bool) (block : Block)
    (belongs : block.outline = Outline.ofText text relaxedNames) (known : (block.entry.landmark? text).isSome = true) :
    block.path = (Trail.along block.landmarks).path := by
  obtain ⟨outline, id⟩ := block
  obtain rfl : outline = Outline.ofText text relaxedNames := belongs
  have notRoot : (Block.mk (Outline.ofText text relaxedNames) id).kind ≠ .root := by
    intro isRoot
    simp [Entry.landmark?, show Entry.kind _ = .root from isRoot] at known
  have read := (Block.mk (Outline.ofText text relaxedNames) id).read_entry (bound_of_kind _ notRoot)
  obtain ⟨rungs, spine, same⟩ := landmark_spine text id _ read known
  rw [path_of_spine text relaxedNames _ rfl id rungs spine, segments_of_uncounted _ _ same]
  rfl

theorem path_eq_along (text : String) (relaxedNames : Bool) (block : Block)
    (belongs : block.outline = Outline.ofText text relaxedNames) (isKey : block.kind = .key) :
    block.path = (Trail.along block.landmarks).path := by
  refine block.path_of_landmark text relaxedNames belongs ?_
  rw [Entry.landmark?, show Entry.kind _ = .key from isKey]
  rfl

theorem key_landmark (text : String) (relaxed : Bool) (block : Block) (belongs : block.outline = ofText text relaxed)
    (isKey : block.kind = .key) (column : Nat) (name : String) (region : Region)
    (last : block.landmarks.getLast? = some (.key column name region)) : block.keyRegion? = some region := by
  have read := block.read_entry (block.bound_of_kind (by simp [isKey]))
  have positive := block.positive_of_kind text.toList (block_sound text relaxed block belongs) (by simp [isKey])
  obtain ⟨_, _, _, _, _, _, colon, _, _⟩ := ((block_sound text relaxed block belongs).shaped block.id _ positive read).keyText isKey
  have known : block.entry.landmark? block.outline.text =
      some (.key (block.entry.indent.getD 0) (block.entry.name block.outline.text)
        ⟨block.entry.start, block.entry.colon.getD block.entry.start⟩) := by
    rw [Entry.landmark?, show Entry.kind _ = .key from isKey]
  rw [landmarks, Table.landmarks, List.take_add_one, Array.getElem?_toList, read, Option.toList_some, List.filterMap_append,
    List.getLast?_append, List.filterMap_cons, known] at last
  obtain ⟨-, -, rfl⟩ := Landmark.key.inj (Option.some.inj last)
  rw [keyRegion?, colon?, colon]
  rfl

end Block
end YamlDialects
