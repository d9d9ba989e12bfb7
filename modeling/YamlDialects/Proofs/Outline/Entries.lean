import YamlDialects.Proofs.Outline.Growth
import YamlDialects.Proofs.Outline.Line
import YamlDialects.Proofs.Outline.Order
import YamlDialects.Proofs.Outline.WellFormed

set_option autoImplicit false

namespace YamlDialects.Outline

namespace Entry

-- An entry without what depends on the entries before it.
def bare (entry : Entry) : Entry :=
  { entry with parent := none, position := 0 }

def shift (amount : Nat) (entry : Entry) : Entry :=
  { entry with
    start := amount + entry.start
    contentStop := amount + entry.contentStop
    stop := amount + entry.stop
    colon := entry.colon.map (amount + ·) }

end Entry

def Table.bare (table : Table) : List Entry :=
  table.toList.map Entry.bare

namespace Line

def rawEntry (line : Line) : Entry :=
  ⟨.raw, none, line.indent, line.start + line.indent.getD 0, line.contentStop, line.stop, 0, none⟩

def documentEntry (line : Line) : Entry :=
  ⟨.document, none, some 0, line.start, line.contentStop, line.stop, 0, none⟩

def keyEntry (line : Line) (indent length : Nat) : Entry :=
  ⟨.key, none, some indent, line.start + indent, line.contentStop, line.stop, 0, some (line.start + indent + length)⟩

def itemEntry (line : Line) (indent : Nat) : Entry :=
  ⟨.item, none, some indent, line.start + indent, line.contentStop, line.stop, 0, none⟩

def opened (line : Line) (indent : Nat) (body : List Char) : List Entry :=
  match keyLength? body with
  | some length => [line.keyEntry indent length]
  | none =>
      match body with
      | [ '-'] => [line.itemEntry indent]
      | '-' :: ' ' :: rest => line.itemEntry indent :: line.opened (indent + 2) rest
      | _ => []

def entries (line : Line) : List Entry :=
  match line.indent with
  | none => [line.rawEntry]
  | some indent =>
      if isSeparator line.body then [line.documentEntry]
      else if Builder.isBlock line.body then line.opened indent line.body
      else [line.rawEntry]

structure IsOrdinary (line : Line) : Prop where
  notLeading : (line.indent.isSome && isPreamble line.chars) = false
  notSeparator : isSeparator line.body = false

end Line

def opening (all : List Line) : List Entry :=
  let leading := preamble all
  let rest := all.drop leading.length
  (if rest.head?.any fun line => isSeparator line.body then []
    else ⟨.document, none, some 0, 0, 0, 0, 0, none⟩ :: leading.map Line.rawEntry) ++ rest.flatMap Line.entries

theorem Line.entries_each (line : Line) (property : Entry → Prop) (raw : property line.rawEntry) (document : property line.documentEntry)
    (opened : ∀ indent, line.indent = some indent → ∀ entry ∈ line.opened indent line.body, property entry) :
    ∀ entry ∈ line.entries, property entry := by
  rw [Line.entries]
  split
  next => exact List.forall_mem_singleton.mpr raw
  next indent indented =>
    split
    · exact List.forall_mem_singleton.mpr document
    · split
      · exact opened indent indented
      · exact List.forall_mem_singleton.mpr raw

theorem opening_each (all : List Line) (property : Entry → Prop) (document : property ⟨.document, none, some 0, 0, 0, 0, 0, none⟩)
    (raw : ∀ line ∈ all, property line.rawEntry) (entries : ∀ line ∈ all, ∀ entry ∈ line.entries, property entry) :
    ∀ entry ∈ opening all, property entry := by
  have leads : preamble all ⊆ all := (List.takeWhile_prefix _).subset
  have follows : all.drop (preamble all).length ⊆ all := List.drop_subset _ _
  rw [opening]
  refine List.forall_mem_append.mpr ⟨?_, fun entry member => ?_⟩
  · split
    · exact List.forall_mem_nil _
    · refine List.forall_mem_cons.mpr ⟨document, fun entry member => ?_⟩
      obtain ⟨line, inside, rfl⟩ := List.mem_map.mp member
      exact raw line (leads inside)
  · obtain ⟨line, inside, listed⟩ := List.mem_flatMap.mp member
    exact entries line (follows inside) entry listed

theorem bare_push (table : Table) (fresh : Entry) : Table.bare (table.push fresh) = table.bare ++ [fresh.bare] := by
  simp [Table.bare]

theorem bare_read (table : Table) (id : Nat) (bare : Entry) (read : table.bare[id]? = some bare) :
    ∃ entry, table[id]? = some entry ∧ entry.bare = bare := by
  rw [Table.bare, List.getElem?_map, Array.getElem?_toList] at read
  exact Option.map_eq_some_iff.mp read

theorem bare_size (table : Table) : table.bare.length = table.size := by
  rw [Table.bare, List.length_map, Array.length_toList]

theorem open_blocks_bare (line : Line) (indent : Nat) (body : List Char) (builder : Builder) :
    (Builder.openBlocks line indent body builder).table.bare = builder.table.bare ++ line.opened indent body := by
  fun_induction Builder.openBlocks line indent body builder with
  | case1 body indent builder length found =>
      rw [Line.opened.eq_def]
      simp only [found]
      exact bare_push builder.table _
  | case2 indent builder missing =>
      rw [Line.opened.eq_def]
      simp only [missing]
      exact bare_push builder.table _
  | case3 indent builder rest missing ih =>
      rw [ih, Line.opened.eq_def line indent]
      simp only [missing]
      rw [List.append_cons]
      exact congrArg (· ++ _) (bare_push builder.table _)
  | case4 body indent builder missing notDash notItem =>
      rw [Line.opened.eq_def]
      simp [missing]

theorem add_line_bare (builder : Builder) (line : Line) :
    (builder.addLine line).table.bare = builder.table.bare ++ line.entries := by
  unfold Builder.addLine Line.entries
  cases line.indent with
  | none => exact bare_push builder.table _
  | some indent =>
      dsimp only
      split
      · exact bare_push builder.table _
      · split
        · exact open_blocks_bare line indent line.body builder
        · exact bare_push builder.table _

theorem fold_lines_bare (all : List Line) (builder : Builder) :
    (all.foldl Builder.addLine builder).table.bare = builder.table.bare ++ all.flatMap Line.entries := by
  induction all generalizing builder with
  | nil => simp
  | cons line rest ih => rw [List.foldl_cons, ih, add_line_bare, List.flatMap_cons, List.append_assoc]

theorem fold_raws_bare (all : List Line) (builder : Builder) :
    (all.foldl Builder.addRaw builder).table.bare = builder.table.bare ++ all.map Line.rawEntry := by
  induction all generalizing builder with
  | nil => simp
  | cons line rest ih =>
      have pushed : (builder.addRaw line).table.bare = builder.table.bare ++ [line.rawEntry] := bare_push builder.table _
      rw [List.foldl_cons, ih, pushed, List.map_cons, List.append_assoc]
      rfl

theorem table_of_bare (chars : List Char) :
    (tableOf chars).bare = Table.rootOf (Text.byteLength chars) :: opening (lines chars) := by
  unfold tableOf opening
  dsimp only
  rw [fold_lines_bare]
  split
  · rfl
  · rw [fold_raws_bare]
    rfl

theorem opening_before (earlier : List Line) :
    ∃ first, ∀ line later, line.IsOrdinary → opening (earlier ++ line :: later) =
      first ++ (line :: later).flatMap Line.entries := by
  refine ⟨opening earlier, fun line later ordinary => ?_⟩
  unfold opening preamble
  rw [List.takeWhile_append]
  by_cases whole : (earlier.takeWhile fun line => line.indent.isSome && isPreamble line.chars).length = earlier.length
  · have all := (List.takeWhile_prefix _).eq_of_length whole
    rw [if_pos whole, List.takeWhile_cons_of_neg (by simp [ordinary.notLeading]), List.append_nil, all]
    simp [ordinary.notSeparator]
  · have shorter := (List.takeWhile_prefix (fun line : Line => line.indent.isSome && isPreamble line.chars)
      (l := earlier)).length_le
    rw [if_neg whole]
    dsimp only
    rw [List.drop_append_of_le_length shorter]
    generalize left : earlier.drop _ = rest
    cases rest with
    | nil =>
        have longer := List.drop_eq_nil_iff.mp left
        omega
    | cons first rest =>
        simp only [List.cons_append, List.head?_cons, Option.any_some, List.flatMap_cons, List.flatMap_append,
          List.append_assoc]
        rfl

theorem raw_entry_shift (amount : Nat) (line : Line) : (line.shift amount).rawEntry = line.rawEntry.shift amount := by
  simp [Line.rawEntry, Line.shift, Entry.shift, Nat.add_assoc]

theorem item_entry_shift (amount : Nat) (line : Line) (indent : Nat) :
    (line.shift amount).itemEntry indent = (line.itemEntry indent).shift amount := by
  simp [Line.itemEntry, Line.shift, Entry.shift, Nat.add_assoc]

theorem opened_shift (amount : Nat) (line : Line) (indent : Nat) (body : List Char) :
    (line.shift amount).opened indent body = (line.opened indent body).map (Entry.shift amount) := by
  fun_induction Line.opened line indent body with
  | case1 body indent length found =>
      rw [Line.opened.eq_def]
      simp [found, Line.keyEntry, Line.shift, Entry.shift, Nat.add_assoc]
  | case2 indent missing =>
      rw [Line.opened.eq_def]
      simp [missing, item_entry_shift]
  | case3 indent rest missing ih =>
      rw [Line.opened.eq_def]
      simp [missing, item_entry_shift, ih]
  | case4 body indent missing notDash notItem =>
      rw [Line.opened.eq_def]
      simp [missing]

theorem entries_shift (amount : Nat) (line : Line) :
    (line.shift amount).entries = line.entries.map (Entry.shift amount) := by
  have body : (line.shift amount).body = line.body := rfl
  unfold Line.entries
  rw [body, show (line.shift amount).indent = line.indent from rfl]
  cases line.indent with
  | none => simp [raw_entry_shift]
  | some indent =>
      dsimp only
      split
      · simp [Line.documentEntry, Line.shift, Entry.shift]
      · split
        · exact opened_shift amount line indent line.body
        · simp [raw_entry_shift]

theorem entries_of_shifted (amount : Nat) (all : List Line) :
    (all.map (Line.shift amount)).flatMap Line.entries = (all.flatMap Line.entries).map (Entry.shift amount) := by
  rw [List.flatMap_map, List.map_flatMap]
  exact congrArg (List.flatMap · all) (funext (entries_shift amount))

end YamlDialects.Outline

namespace YamlDialects

namespace Outline

def Entry.Precedes (first second : Entry) : Prop :=
  first.kind.isStep = true → second.kind.isStep = true → first.start < second.start

theorem spot_before_stop (chars : List Char) (line : Line) (indent : Nat) (first : Char) (rest : List Char)
    (spot : Spot chars line indent (first :: rest)) : line.start + indent < line.contentStop := by
  obtain ⟨_, _, _, _, length⟩ := spot_split chars line indent (first :: rest) spot
  have positive := first.utf8Size_pos
  rw [Text.byte_length_cons] at length
  omega

theorem opened_sorted (chars : List Char) (line : Line) (indent : Nat) (body : List Char) (spot : Spot chars line indent body) :
    (line.opened indent body).Pairwise Entry.Precedes ∧ ∀ entry ∈ line.opened indent body,
      line.start + indent ≤ entry.start ∧ entry.start < line.contentStop := by
  fun_induction Line.opened line indent body with
  | case1 body indent length found =>
      refine ⟨List.pairwise_singleton _ _, fun entry member => ?_⟩
      obtain rfl := List.mem_singleton.mp member
      cases body with
      | nil => simp [keyLength?] at found
      | cons first rest => exact ⟨Nat.le_refl _, spot_before_stop chars line indent first rest spot⟩
  | case2 indent missing =>
      refine ⟨List.pairwise_singleton _ _, fun entry member => ?_⟩
      obtain rfl := List.mem_singleton.mp member
      exact ⟨Nat.le_refl _, spot_before_stop chars line indent '-' [] spot⟩
  | case3 indent rest missing ih =>
      obtain ⟨sorted, within⟩ := ih (spot_after_dash chars line indent rest spot)
      refine ⟨List.pairwise_cons.mpr ⟨fun entry member _ _ => ?_, sorted⟩, List.forall_mem_cons.mpr ⟨?_, ?_⟩⟩
      · have after := (within entry member).1
        simp only [Line.itemEntry]
        omega
      · exact ⟨Nat.le_refl _, spot_before_stop chars line indent '-' _ spot⟩
      · intro entry member
        obtain ⟨after, before⟩ := within entry member
        exact ⟨by omega, before⟩
  | case4 => exact ⟨List.Pairwise.nil, fun _ member => by cases member⟩

theorem line_steps (chars : List Char) (line : Line) (within : line.Within chars) :
    line.entries.Pairwise Entry.Precedes ∧ ∀ entry ∈ line.entries, entry.kind.isStep = true →
      line.start ≤ entry.start ∧ entry.start < line.stop := by
  have alone (entry : Entry) (other : entry.kind.isStep = false) : [entry].Pairwise Entry.Precedes ∧
      ∀ found ∈ [entry], found.kind.isStep = true → line.start ≤ found.start ∧ found.start < line.stop := by
    refine ⟨List.pairwise_singleton _ _, fun found member isStep => ?_⟩
    rw [List.mem_singleton.mp member, other] at isStep
    cases isStep
  unfold Line.entries
  cases indented : line.indent with
  | none => exact alone line.rawEntry rfl
  | some indent =>
      dsimp only
      split
      · exact alone line.documentEntry rfl
      · split
        · obtain ⟨sorted, inside⟩ := opened_sorted chars line indent line.body (spot_body chars line indent within indented)
          refine ⟨sorted, fun entry member _ => ?_⟩
          obtain ⟨after, before⟩ := inside entry member
          have stop := (line_start_le chars line within).2
          exact ⟨by omega, by omega⟩
        · exact alone line.rawEntry rfl

theorem lines_steps (chars : List Char) (all : List Line) (among : ∀ line ∈ all, line.Within chars)
    (sorted : all.Pairwise fun first second => first.stop ≤ second.start) :
    (all.flatMap Line.entries).Pairwise Entry.Precedes := by
  refine List.pairwise_flatMap.mpr ⟨fun line member => (line_steps chars line (among line member)).1, ?_⟩
  refine sorted.imp_of_mem fun {first second} memberFirst memberSecond apart entry inFirst other inSecond isStep otherStep => ?_
  have before := ((line_steps chars first (among first memberFirst)).2 entry inFirst isStep).2
  have after := ((line_steps chars second (among second memberSecond)).2 other inSecond otherStep).1
  omega

theorem opening_steps (chars : List Char) : (opening (lines chars)).Pairwise Entry.Precedes := by
  have steps := lines_steps chars _ (fun line member => lines_within chars line (List.drop_subset _ _ member))
    ((lines_sorted chars).sublist (List.drop_sublist (preamble (lines chars)).length _))
  have leading (other : Prop) [Decidable other] (entry : Entry) (member : entry ∈ if other then []
      else ⟨.document, none, some 0, 0, 0, 0, 0, none⟩ :: (preamble (lines chars)).map Line.rawEntry) :
      entry.kind.isStep = false := by
    split at member
    · cases member
    · rcases List.mem_cons.mp member with rfl | raw
      · rfl
      · obtain ⟨line, _, rfl⟩ := List.mem_map.mp raw
        rfl
  unfold opening
  dsimp only
  refine List.pairwise_append.mpr ⟨?_, steps, fun entry member _ _ isStep => ?_⟩
  · refine List.pairwise_iff_forall_sublist.mpr fun {first second} pair isStep => ?_
    rw [leading _ first (pair.subset (by simp))] at isStep
    cases isStep
  · rw [leading _ entry member] at isStep
    cases isStep

def Entry.ColonOfKey (entry : Entry) : Prop :=
  entry.kind ≠ .key → entry.colon = none

theorem opened_colons (line : Line) (indent : Nat) (body : List Char) :
    ∀ entry ∈ line.opened indent body, entry.ColonOfKey := by
  fun_induction Line.opened line indent body with
  | case1 body indent length found => exact List.forall_mem_singleton.mpr fun other => absurd rfl other
  | case2 indent missing => exact List.forall_mem_singleton.mpr fun _ => rfl
  | case3 indent rest missing ih => exact List.forall_mem_cons.mpr ⟨fun _ => rfl, ih⟩
  | case4 => exact List.forall_mem_nil _

theorem entries_colons (line : Line) : ∀ entry ∈ line.entries, entry.ColonOfKey := by
  unfold Line.entries
  cases line.indent with
  | none => exact List.forall_mem_singleton.mpr fun _ => rfl
  | some indent =>
      dsimp only
      split
      · exact List.forall_mem_singleton.mpr fun _ => rfl
      · split
        · exact opened_colons line indent line.body
        · exact List.forall_mem_singleton.mpr fun _ => rfl

theorem opening_colons (all : List Line) : ∀ entry ∈ opening all, entry.ColonOfKey := by
  unfold opening
  dsimp only
  refine List.forall_mem_append.mpr ⟨?_, fun entry member => ?_⟩
  · split
    · exact List.forall_mem_nil _
    · refine List.forall_mem_cons.mpr ⟨fun _ => rfl, fun entry member => ?_⟩
      obtain ⟨line, _, rfl⟩ := List.mem_map.mp member
      exact fun _ => rfl
  · obtain ⟨line, _, inside⟩ := List.mem_flatMap.mp member
    exact entries_colons line entry inside

end Outline

namespace Block

open Outline

theorem bare_after_root (text : String) (relaxed : Bool) (id : Nat) (entry : Entry) (positive : 0 < id)
    (read : (Outline.ofText text relaxed).table[id]? = some entry) :
    (opening (lines text.toList))[id - 1]? = some entry.bare := by
  obtain ⟨index, rfl⟩ : ∃ less, id = less + 1 := ⟨id - 1, by omega⟩
  have bare : (tableOf text.toList).bare[index + 1]? = some entry.bare := by
    rw [Table.bare, List.getElem?_map, Array.getElem?_toList]
    exact congrArg (Option.map Entry.bare) read
  rw [table_of_bare, List.getElem?_cons_succ] at bare
  exact bare

theorem step_ne_root (block : Block) (isStep : block.kind.isStep = true) : block.kind ≠ .root :=
  step_not_root block.entry isStep

theorem step_eq_of_start (text : String) (relaxed : Bool) (first second : Block)
    (firstBelongs : first.outline = Outline.ofText text relaxed) (secondBelongs : second.outline = Outline.ofText text relaxed)
    (firstStep : first.kind.isStep = true) (secondStep : second.kind.isStep = true) (sameStart : first.start = second.start) :
    first = second := by
  have ordered (before after : Block) (beforeBelongs : before.outline = Outline.ofText text relaxed)
      (afterBelongs : after.outline = Outline.ofText text relaxed) (beforeStep : before.kind.isStep = true)
      (afterStep : after.kind.isStep = true) (order : before.id < after.id) : before.start < after.start := by
    have sound := of_text_sound text relaxed
    have readBefore := before.read_entry (before.bound_of_kind (before.step_ne_root beforeStep))
    have readAfter := after.read_entry (after.bound_of_kind (after.step_ne_root afterStep))
    have positive := before.positive_of_kind text.toList (beforeBelongs ▸ sound) (before.step_ne_root beforeStep)
    rw [beforeBelongs] at readBefore
    rw [afterBelongs] at readAfter
    have one := bare_after_root text relaxed before.id before.entry positive readBefore
    have other := bare_after_root text relaxed after.id after.entry (by omega) readAfter
    obtain ⟨boundOne, one⟩ := List.getElem?_eq_some_iff.mp one
    obtain ⟨boundOther, other⟩ := List.getElem?_eq_some_iff.mp other
    have precedes := List.pairwise_iff_getElem.mp (opening_steps text.toList) _ _ boundOne boundOther (by omega)
    rw [one, other] at precedes
    exact precedes beforeStep afterStep
  obtain ⟨outline, firstId⟩ := first
  obtain ⟨other, secondId⟩ := second
  obtain rfl : outline = Outline.ofText text relaxed := firstBelongs
  obtain rfl : other = Outline.ofText text relaxed := secondBelongs
  rcases Nat.lt_trichotomy firstId secondId with before | rfl | after
  · have apart := ordered _ _ rfl rfl firstStep secondStep before
    omega
  · rfl
  · have apart := ordered _ _ rfl rfl secondStep firstStep after
    omega

end Block
end YamlDialects

namespace YamlDialects

theorem Outline.block_iff (outline : Outline) (id : Nat) (block : Block) :
    outline.block? id = some block ↔ id < outline.size ∧ block = ⟨outline, id⟩ := by
  rw [Outline.block?]
  split
  next bound => simp [bound, eq_comm]
  next beyond => simp [beyond]

namespace Block

variable (text : String) (relaxedNames : Bool)

theorem document_path (document : Block) (belongs : document.outline = Outline.ofText text relaxedNames)
    (isDocument : document.kind = .document) : document.path = [.index document.position] := by
  have sound := Outline.block_sound text relaxedNames document belongs
  have notRoot : document.kind ≠ .root := by simp [isDocument]
  have positive := document.positive_of_kind text.toList sound notRoot
  obtain ⟨parent, _, child, _, _, _, atTop, _⟩ :=
    (sound.shaped document.id _ positive (document.read_entry (document.bound_of_kind notRoot))).hangs
  obtain rfl : parent = 0 := atTop.mpr isDocument
  have hangs : document.parent? = some document.outline.root := by rw [parent?, child]; rfl
  obtain ⟨top, rootKind⟩ := root_above text.toList document.outline sound
  rw [path, ancestry_parent text.toList document _ sound hangs, ancestry_root _ top]
  simp [segment?, rootKind, isDocument]

theorem key_eq_of_start (first second : Block) (firstBelongs : first.outline = Outline.ofText text relaxedNames)
    (secondBelongs : second.outline = Outline.ofText text relaxedNames) (firstKey : first.kind = .key)
    (secondKey : second.kind = .key) (sameStart : first.start = second.start) : first = second :=
  step_eq_of_start text relaxedNames first second firstBelongs secondBelongs (by rw [firstKey]; rfl) (by rw [secondKey]; rfl)
    sameStart

theorem key_region_spec (block : Block) (belongs : block.outline = Outline.ofText text relaxedNames)
    (isKey : block.kind = .key) (region : Region) (shown : block.keyRegion? = some region) :
    region.start = block.start ∧ region.start < region.stop ∧ block.treeRegion.encloses region = true := by
  have sound := Outline.block_sound text relaxedNames block belongs
  have notRoot : block.kind ≠ .root := by simp [isKey]
  have bound := block.bound_of_kind notRoot
  have positive := block.positive_of_kind text.toList sound notRoot
  obtain ⟨_, key, _, _, _, simple, colon, onLine, ends⟩ :=
    (sound.shaped block.id _ positive (block.read_entry bound)).keyText isKey
  obtain ⟨place, placed, rfl⟩ := Option.map_eq_some_iff.mp shown
  obtain rfl := Option.some.inj (colon.symm.trans placed)
  have room : 0 < Text.byteLength key := by
    cases key with
    | nil => cases simple
    | cons c rest =>
        have width := c.utf8Size_pos
        simp only [Text.byte_length_cons]
        omega
  have below : block.stop ≤ block.treeStop := by
    rw [treeStop, if_neg notRoot]
    exact Nat.le_max_right _ _
  refine ⟨rfl, Nat.lt_add_of_pos_right room, (Region.encloses_iff _ _).mpr ⟨Nat.le_refl _, ?_⟩⟩
  exact Nat.le_of_lt (Nat.lt_of_lt_of_le (Nat.lt_of_lt_of_le onLine ends) below)

end Block

def Block.HoldsKey (block : Block) (region : Region) : Prop :=
  ∃ inner : Block, inner.outline = block.outline ∧ block.outline.table.Under block.id inner.id ∧ inner.kind = .key ∧
    inner.keyRegion? = some region

theorem Block.holds_key_child (block child : Block) (region : Region) (member : child ∈ block.children)
    (holds : child.HoldsKey region) : block.HoldsKey region := by
  obtain ⟨id, found, rfl⟩ := List.mem_map.mp member
  obtain ⟨entry, read, isChild⟩ := (Option.any_eq_true _ _).mp (List.mem_filter.mp found).2
  obtain ⟨inner, same, under, rest⟩ := holds
  have step : block.outline.table.Under block.id id := .step id block.id entry read (by simpa using isChild) .here
  exact ⟨inner, same, block.outline.table.under_trans _ _ _ step under, rest⟩

end YamlDialects
