import Mathlib.Data.List.Nodup
import YamlDialects.Proofs.Outline.Keeping

/-!
A table with one more key, and what becomes of the keys and items behind it. A key or an item hangs below the nearest entry
before it that may hold it. The new key takes what follows as long as that fits below it; what comes behind hangs where it
hung before, but an item is no longer counted after those that the key has taken.
-/

set_option autoImplicit false

namespace YamlDialects.Outline

namespace Entry

def holds (upper lower : Entry) : Bool :=
  upper.kind == .document || (upper.kind.isStep && match lower.kind with
    | .key => lower.indent.any (keyLevel · upper)
    | .item => lower.indent.any (itemLevel · upper)
    | _ => false)

theorem holds_alike (upper other lower another : Entry) (kind : other.kind = upper.kind) (indent : other.indent = upper.indent)
    (lowerKind : another.kind = lower.kind) (lowerIndent : another.indent = lower.indent) :
    other.holds another = upper.holds lower := by
  unfold holds keyLevel itemLevel
  rw [kind, indent, lowerKind, lowerIndent]

theorem holds_known (upper lower : Entry) (held : upper.holds lower = true) :
    (upper.kind.isStep || upper.kind == .document) = true := by
  unfold holds at held
  simp only [Bool.or_eq_true, Bool.and_eq_true] at held ⊢
  exact held.symm.imp_left And.left

theorem held_step (upper lower : Entry) (held : upper.holds lower = true) (notDocument : upper.kind ≠ .document) :
    lower.kind.isStep = true := by
  unfold holds at held
  cases kindEq : lower.kind <;> simp_all [Kind.isStep]

theorem dominates_holds (upper lower entry : Entry) (dominates : Dominates upper lower) (isStep : upper.kind.isStep = true)
    (lowerStep : lower.kind.isStep = true) (held : lower.holds entry = true) : upper.holds entry = true := by
  have notDocument : lower.kind ≠ .document := by
    intro isDocument
    rw [isDocument] at lowerStep
    cases lowerStep
  unfold holds at held ⊢
  rw [isStep]
  cases kindEq : entry.kind <;> cases indented : entry.indent <;> simp_all
  next own => exact .inr ((dominates own).1 held)
  next own => exact .inr ((dominates own).2 held)

theorem unheld_dominates (key entry : Entry) (isKey : key.kind = .key) (indented : ∃ column, key.indent = some column)
    (isStep : entry.kind.isStep = true) (entryIndented : ∃ own, entry.indent = some own) (free : key.holds entry = false) :
    Dominates entry key := by
  obtain ⟨column, columnEq⟩ := indented
  obtain ⟨own, ownEq⟩ := entryIndented
  cases kindEq : entry.kind with
  | key => exact key_dominates entry key own column kindEq ownEq columnEq (by simpa [holds, isKey, kindEq, ownEq, Kind.isStep] using free)
  | item => exact item_dominates entry key own column ownEq columnEq (by simpa [holds, isKey, kindEq, ownEq, Kind.isStep] using free)
  | _ => simp [kindEq, Kind.isStep] at isStep

theorem held_dominated (upper lower : Entry) (isStep : upper.kind.isStep = true) (indented : ∃ left, upper.indent = some left)
    (lowerIndented : ∃ own, lower.indent = some own) (held : upper.holds lower = true) : Dominates upper lower := by
  obtain ⟨left, leftEq⟩ := indented
  obtain ⟨own, ownEq⟩ := lowerIndented
  have notDocument : upper.kind ≠ .document := fun isDocument => by simp [isDocument, Kind.isStep] at isStep
  intro further
  cases kindEq : lower.kind <;>
    simp [holds, notDocument, isStep, kindEq, leftEq, ownEq, keyLevel, itemLevel] at held ⊢ <;> omega

theorem holds_trans (upper middle lower : Entry) (indented : upper.kind.isStep = true → ∃ left, upper.indent = some left)
    (middleIndented : ∃ own, middle.indent = some own) (middleStep : middle.kind.isStep = true) (held : upper.holds middle = true)
    (next : middle.holds lower = true) : upper.holds lower = true := by
  cases isStep : upper.kind.isStep with
  | true =>
      have dominates := held_dominated upper middle isStep (indented isStep) middleIndented held
      exact dominates_holds upper middle lower dominates isStep middleStep next
  | false =>
      have known := holds_known upper middle held
      simp only [isStep, Bool.false_or, beq_iff_eq] at known
      simp [holds, known]

theorem unheld_trans (upper middle key : Entry) (isKey : key.kind = .key) (isStep : middle.kind.isStep = true)
    (indented : ∃ own, middle.indent = some own) (misses : upper.holds middle = false) (free : middle.holds key = false) :
    upper.holds key = false := by
  obtain ⟨own, ownEq⟩ := indented
  have notDocument : middle.kind ≠ .document := fun isDocument => by simp [isDocument, Kind.isStep] at isStep
  cases held : upper.holds key with
  | false => rfl
  | true =>
      have above : upper.kind = .document ∨ (upper.kind.isStep = true ∧ ∃ column, key.indent = some column ∧
          ∃ left, upper.indent = some left ∧ left < column) := by
        simpa [holds, isKey, keyLevel, Option.any_eq_true] using held
      rcases above with isDocument | ⟨upperStep, column, columnEq, left, leftEq, less⟩
      · simp [holds, isDocument] at misses
      · have order : column ≤ own := by simpa [holds, notDocument, isStep, isKey, columnEq, ownEq, keyLevel] using free
        cases kindEq : middle.kind with
        | key =>
            simp [holds, upperStep, kindEq, ownEq, keyLevel, leftEq] at misses
            omega
        | item =>
            simp [holds, upperStep, kindEq, ownEq, itemLevel, leftEq] at misses
            omega
        | _ => simp [kindEq, Kind.isStep] at isStep

end Entry

structure Holder (table : Table) (id : Nat) (lower : Entry) (parent : Nat) : Prop where
  before : parent < id
  holds : ∃ upper, table[parent]? = some upper ∧ upper.holds lower = true
  nearest : ∀ between entry, parent < between → between < id → table[between]? = some entry → entry.holds lower = false

section

variable (table : Table) (id : Nat) (lower : Entry)

theorem holder_le (parent other : Nat) (upper : Entry) (holder : Holder table id lower parent) (before : other < id)
    (read : table[other]? = some upper) (held : upper.holds lower = true) : other ≤ parent := by
  apply Nat.le_of_not_lt
  intro behind
  rw [holder.nearest other upper behind before read] at held
  cases held

theorem holder_unique (parent other : Nat) (first : Holder table id lower parent) (second : Holder table id lower other) :
    parent = other := by
  obtain ⟨upper, read, held⟩ := first.holds
  obtain ⟨above, readOther, heldOther⟩ := second.holds
  exact Nat.le_antisymm (holder_le table id lower other parent upper second first.before read held)
    (holder_le table id lower parent other above first second.before readOther heldOther)

theorem step_holder (chars : List Char) (sound : Sound chars table) (each : table.Each IsPlaced) (read : table[id]? = some lower)
    (isStep : lower.kind.isStep = true) : ∃ parent, lower.parent = some parent ∧ Holder table id lower parent := by
  have positive := positive_of_read chars table sound id lower read (step_not_root lower isStep)
  obtain ⟨document, parent, placed⟩ := each id lower positive read
  have smaller := sound_descending chars table sound id lower parent read placed.hangs
  obtain ⟨top, readTop, isDocument⟩ := placed.top
  have topPositive := positive_of_read chars table sound document top readTop (by simp [isDocument])
  -- There is no other document on the way.
  have single (between : Nat) (entry : Entry) (after : document < between) (before : between < id)
      (readEntry : table[between]? = some entry) : entry.kind ≠ .document := fun other =>
    document_not_below chars table sound document between entry topPositive after readEntry other
      (table.under_between (sound_preordered chars table sound) document between id (by omega) (by omega) placed.under)
  have holder (level : Entry → Bool) (nearest : Nearest table id level document parent)
      (agrees : ∀ entry, entry.kind.isStep = true → entry.holds lower = level entry) : Holder table id lower parent := by
    have within := nearest.within
    refine ⟨smaller, ?_, fun between entry after before readEntry => ?_⟩
    · rcases Nat.lt_or_eq_of_le within with below | rfl
      · obtain ⟨upper, readUpper, upperStep, held⟩ := nearest.suitable below
        exact ⟨upper, readUpper, by rw [agrees upper upperStep, held]⟩
      · exact ⟨top, readTop, by simp [Entry.holds, isDocument]⟩
    · cases entryStep : entry.kind.isStep with
      | true => rw [agrees entry entryStep, nearest.nearest between entry after before readEntry entryStep]
      | false => simp [Entry.holds, entryStep, single between entry (by omega) before readEntry]
  refine ⟨parent, placed.hangs, ?_⟩
  cases kindEq : lower.kind with
  | key =>
      obtain ⟨indent, indented, nearest⟩ := placed.key kindEq
      refine holder _ nearest fun entry entryStep => ?_
      have notDocument : entry.kind ≠ .document := fun other => by simp [other, Kind.isStep] at entryStep
      simp [Entry.holds, entryStep, notDocument, kindEq, indented]
  | item =>
      obtain ⟨indent, indented, nearest⟩ := placed.item kindEq
      refine holder _ nearest fun entry entryStep => ?_
      have notDocument : entry.kind ≠ .document := fun other => by simp [other, Kind.isStep] at entryStep
      simp [Entry.holds, entryStep, notDocument, kindEq, indented]
  | _ => simp [kindEq, Kind.isStep] at isStep

end

def displaced (place extra id : Nat) : Nat :=
  if id < place then id else id + extra

theorem displaced_lt_iff (place extra first second : Nat) : displaced place extra first < displaced place extra second ↔ first < second := by
  unfold displaced
  split <;> split <;> omega

theorem displaced_injective (place extra : Nat) : Function.Injective (displaced place extra) := by
  intro first second same
  have notLess := displaced_lt_iff place extra first second
  have notGreater := displaced_lt_iff place extra second first
  omega

theorem displaced_elsewhere (place extra id : Nat) (elsewhere : id ≠ place) :
    (id < place ∧ displaced place extra id < place) ∨ (place < id ∧ place + extra < displaced place extra id) := by
  unfold displaced
  split <;> omega

theorem step_indented {chars : List Char} {table : Table} (sound : Sound chars table) (id : Nat) (entry : Entry)
    (read : table[id]? = some entry) (isStep : entry.kind.isStep = true) : ∃ own, entry.indent = some own :=
  (sound.shaped id entry (positive_of_read chars table sound id entry read (step_not_root entry isStep)) read).indented isStep

-- The new table has a key where the old one has a raw line, perhaps with an item or a raw line right behind it.
structure GainsKey (old new : Table) (place extra : Nat) (key : Entry) : Prop where
  positive : 0 < place
  blank : ∃ entry, old[place]? = some entry ∧ entry.kind = .raw
  read : new[place]? = some key
  isKey : key.kind = .key
  indented : ∃ column, key.indent = some column
  few : extra ≤ 1
  below : ∀ id entry, place < id → id ≤ place + extra → new[id]? = some entry →
    entry.kind = .raw ∨ (entry.kind = .item ∧ entry.indent = key.indent)
  kept : ∀ id entry, id ≠ place → old[id]? = some entry → ∃ other, new[displaced place extra id]? = some other ∧
    other.kind = entry.kind ∧ other.indent = entry.indent
  size : new.size = old.size + extra

-- What comes right behind the key and goes below it.
structure Captures (table : Table) (place : Nat) (key : Entry) (id : Nat) : Prop where
  behind : place < id
  held : ∀ between entry, place < between → between ≤ id → table[between]? = some entry →
    (entry.kind.isStep || entry.kind == .document) = true → key.holds entry = true

theorem taken_before (table : Table) (place id earlier : Nat) (key : Entry) (taken : Captures table place key id)
    (behind : place < earlier) (before : earlier ≤ id) : Captures table place key earlier :=
  ⟨behind, fun between entry after within => taken.held between entry after (by omega)⟩

theorem untaken_cases (table : Table) (place id : Nat) (key : Entry) (untaken : ¬ Captures table place key id) :
    id ≤ place ∨ ∃ mark entry, place < mark ∧ mark ≤ id ∧ table[mark]? = some entry ∧
      (entry.kind.isStep || entry.kind == .document) = true ∧ key.holds entry = false := by
  by_cases before : id ≤ place
  · exact .inl before
  · refine .inr (by_contra fun none => untaken ⟨by omega, fun between entry after within read known => ?_⟩)
    cases held : key.holds entry with
    | true => rfl
    | false => exact absurd ⟨between, entry, after, within, read, known, held⟩ none

section

variable {oldChars newChars : List Char} {old new : Table} {place extra : Nat} {key : Entry}
variable (gains : GainsKey old new place extra key) (oldSound : Sound oldChars old) (newSound : Sound newChars new)
variable (oldPlaced : old.Each IsPlaced) (newPlaced : new.Each IsPlaced)

include gains

theorem gained_read (id : Nat) (entry : Entry) (read : new[id]? = some entry) : (place ≤ id ∧ id ≤ place + extra) ∨
    ∃ before other, id = displaced place extra before ∧ before ≠ place ∧ old[before]? = some other ∧
      entry.kind = other.kind ∧ entry.indent = other.indent := by
  by_cases inside : place ≤ id ∧ id ≤ place + extra
  · exact .inl inside
  · obtain ⟨_, blank, _⟩ := gains.blank
    have size := gains.size
    have bound := new.read_bound id entry read
    have placeBound := old.read_bound place _ blank
    obtain ⟨before, same, elsewhere, within⟩ : ∃ before, id = displaced place extra before ∧ before ≠ place ∧ before < old.size := by
      by_cases less : id < place
      · exact ⟨id, by rw [displaced, if_pos less], by omega, by omega⟩
      · exact ⟨id - extra, by rw [displaced, if_neg (by omega)]; omega, by omega, by omega⟩
    obtain ⟨other, readOther⟩ := old.read_exists before within
    obtain ⟨again, readAgain, alike⟩ := gains.kept before other elsewhere readOther
    rw [same, readAgain] at read
    exact .inr ⟨before, other, same, elsewhere, readOther, Option.some.inj read ▸ alike⟩

theorem step_elsewhere (id : Nat) (entry : Entry) (read : old[id]? = some entry) (notRaw : entry.kind ≠ .raw) : id ≠ place := by
  rintro rfl
  obtain ⟨blank, readBlank, isRaw⟩ := gains.blank
  exact notRaw (Option.some.inj (read.symm.trans readBlank) ▸ isRaw)

theorem key_holds_item (item : Entry) (isItem : item.kind = .item) (aligned : item.indent = key.indent) : key.holds item = true := by
  obtain ⟨column, columnEq⟩ := gains.indented
  simp [Entry.holds, gains.isKey, isItem, aligned, columnEq, Kind.isStep, itemLevel]

theorem held_behind (id parent : Nat) (entry : Entry) (behind : place < id) (held : key.holds entry = true)
    (holder : Holder new id entry parent) : place ≤ parent :=
  holder_le new id entry parent place key holder behind gains.read held

include oldSound

theorem untaken_unheld (id parent : Nat) (entry : Entry) (read : old[id]? = some entry) (untaken : ¬ Captures old place key id)
    (behind : place < id) (holder : Holder old id entry parent) (near : parent < place ∨ Captures old place key parent) :
    key.holds entry = false := by
  obtain before | ⟨mark, upper, after, within, readUpper, known, free⟩ := untaken_cases old place id key untaken
  · omega
  cases held : key.holds entry with
  | false => rfl
  | true =>
      rcases Nat.lt_or_eq_of_le within with less | rfl
      · have hidden : parent < mark := by
          apply Nat.lt_of_not_le
          intro above
          rcases near with front | taken
          · omega
          · rw [taken.held mark upper after above readUpper known] at free
            cases free
        have misses := holder.nearest mark upper hidden less readUpper
        cases upperStep : upper.kind.isStep with
        | true =>
            have dominates := Entry.unheld_dominates key upper gains.isKey gains.indented upperStep
              (step_indented oldSound mark upper readUpper upperStep) free
            rw [Entry.dominates_holds upper key entry dominates upperStep (by rw [gains.isKey]; rfl) held] at misses
            cases misses
        | false =>
            have isDocument : upper.kind = .document := by simpa [upperStep] using known
            simp [Entry.holds, isDocument] at misses
      · rw [← Option.some.inj (read.symm.trans readUpper), held] at free
        cases free

theorem parent_untaken (id parent : Nat) (entry : Entry) (read : old[id]? = some entry) (untaken : ¬ Captures old place key id)
    (holder : Holder old id entry parent) : ¬ Captures old place key parent := by
  intro taken
  have before := holder.before
  have behind := taken.behind
  obtain ⟨upper, readUpper, held⟩ := holder.holds
  have keyHolds := taken.held parent upper behind (Nat.le_refl _) readUpper (Entry.holds_known upper entry held)
  have upperStep := Entry.held_step key upper keyHolds (by rw [gains.isKey]; simp)
  have free := untaken_unheld gains oldSound id parent entry read untaken (by omega) holder (.inr taken)
  rw [Entry.holds_trans key upper entry (fun _ => gains.indented) (step_indented oldSound parent upper readUpper upperStep)
    upperStep keyHolds held] at free
  cases free

theorem holder_moves (id parent : Nat) (entry other : Entry) (read : old[id]? = some entry) (elsewhere : id ≠ place)
    (untaken : ¬ Captures old place key id) (holder : Holder old id entry parent) (kind : other.kind = entry.kind)
    (indent : other.indent = entry.indent) : Holder new (displaced place extra id) other (displaced place extra parent) := by
  obtain ⟨upper, readUpper, held⟩ := holder.holds
  have above : parent ≠ place := step_elsewhere gains parent upper readUpper (by
    intro isRaw
    simp [Entry.holds, isRaw, Kind.isStep] at held)
  have alike (upper another : Entry) (kindEq : another.kind = upper.kind) (indentEq : another.indent = upper.indent) :
      another.holds other = upper.holds entry := Entry.holds_alike upper another entry other kindEq indentEq kind indent
  refine ⟨(displaced_lt_iff place extra parent id).mpr holder.before, ?_, fun between another after before readAnother => ?_⟩
  · obtain ⟨another, readAnother, kindEq, indentEq⟩ := gains.kept parent upper above readUpper
    exact ⟨another, readAnother, by rw [alike upper another kindEq indentEq, held]⟩
  · rcases gained_read gains between another readAnother with ⟨fromKey, toKey⟩ | ⟨earlier, same, rfl, _, readSame, kindEq, indentEq⟩
    · -- The new entries do not hold it, for something before it hides them.
      have front : parent < place := by
        have side := displaced_elsewhere place extra parent above
        omega
      have behind : place < id := by
        have side := displaced_elsewhere place extra id elsewhere
        omega
      have free := untaken_unheld gains oldSound id parent entry read untaken behind holder (.inl front)
      rw [← Entry.holds_alike key key entry other rfl rfl kind indent] at free
      rcases Nat.lt_or_eq_of_le fromKey with beyond | rfl
      · rcases gains.below between another beyond toKey readAnother with isRaw | ⟨isItem, aligned⟩
        · simp [Entry.holds, isRaw, Kind.isStep]
        · obtain ⟨column, columnEq⟩ := gains.indented
          cases anotherHolds : another.holds other with
          | false => rfl
          | true =>
              rw [Entry.holds_trans key another other (fun _ => gains.indented) ⟨column, by rw [aligned, columnEq]⟩
                (by rw [isItem]; rfl) (key_holds_item gains another isItem aligned) anotherHolds] at free
              cases free
      · rwa [← Option.some.inj (gains.read.symm.trans readAnother)]
    · rw [alike same another kindEq indentEq]
      exact holder.nearest earlier same ((displaced_lt_iff place extra _ _).mp after) ((displaced_lt_iff place extra _ _).mp before) readSame

include newSound oldPlaced newPlaced

theorem parent_moves (id : Nat) (entry : Entry) (positive : 0 < id) (read : old[id]? = some entry) (notRaw : entry.kind ≠ .raw)
    (untaken : ¬ Captures old place key id) : ∃ parent other, entry.parent = some parent ∧ parent ≠ place ∧
      ¬ Captures old place key parent ∧ new[displaced place extra id]? = some other ∧ other.kind = entry.kind ∧
        other.parent = some (displaced place extra parent) := by
  have elsewhere := step_elsewhere gains id entry read notRaw
  obtain ⟨other, readOther, kindEq, indentEq⟩ := gains.kept id entry elsewhere read
  have placePositive := gains.positive
  cases isStep : entry.kind.isStep with
  | true =>
      obtain ⟨parent, hangs, holder⟩ := step_holder old id entry oldChars oldSound oldPlaced read isStep
      obtain ⟨next, hangsNow, holderNow⟩ := step_holder new _ other newChars newSound newPlaced readOther (by rw [kindEq, isStep])
      obtain ⟨upper, readUpper, held⟩ := holder.holds
      have same := holder_unique new _ other _ _ holderNow
        (holder_moves gains oldSound id parent entry other read elsewhere untaken holder kindEq indentEq)
      refine ⟨parent, other, hangs, step_elsewhere gains parent upper readUpper fun isRaw => ?_,
        parent_untaken gains oldSound id parent entry read untaken holder, readOther, kindEq, by rw [hangsNow, same]⟩
      simp [Entry.holds, isRaw, Kind.isStep] at held
  | false =>
      have shaped := oldSound.shaped id entry positive read
      have isDocument : entry.kind = .document := by
        have notRoot := shaped.notRoot
        cases kind : entry.kind <;> simp_all [Kind.isStep]
      obtain ⟨parent, _, hangs, _, _, _, atTop, _⟩ := shaped.hangs
      obtain rfl := atTop.mpr isDocument
      have further : 0 < displaced place extra id := by
        unfold displaced
        split <;> omega
      obtain ⟨next, _, hangsNow, _, _, _, atTopNow, _⟩ := (newSound.shaped _ other further readOther).hangs
      obtain rfl := atTopNow.mpr (by rw [kindEq, isDocument])
      refine ⟨0, other, hangs, by omega, fun taken => Nat.not_lt_zero _ taken.behind, readOther, kindEq, ?_⟩
      rw [hangsNow, displaced, if_pos placePositive]

omit oldSound oldPlaced in
theorem below_hangs (id : Nat) (entry : Entry) (behind : place < id) (within : id ≤ place + extra) (read : new[id]? = some entry)
    (isStep : entry.kind.isStep = true) : entry.parent = some place := by
  have few := gains.few
  rcases gains.below id entry behind within read with isRaw | ⟨isItem, aligned⟩
  · simp [isRaw, Kind.isStep] at isStep
  · obtain ⟨parent, hangs, holder⟩ := step_holder new id entry newChars newSound newPlaced read isStep
    have lower := held_behind gains id parent entry behind (key_holds_item gains entry isItem aligned) holder
    have smaller := holder.before
    rw [hangs, show parent = place by omega]

omit oldSound oldPlaced in
theorem taken_hangs (id : Nat) (entry : Entry) (read : old[id]? = some entry) (isStep : entry.kind.isStep = true)
    (taken : Captures old place key id) : ∃ other parent upper, new[displaced place extra id]? = some other ∧ other.parent = some parent ∧
      new[parent]? = some upper ∧ upper.kind.isStep = true ∧ ((place ≤ parent ∧ parent ≤ place + extra) ∨
        ∃ before same, parent = displaced place extra before ∧ before < id ∧ old[before]? = some same ∧ same.kind = upper.kind ∧
          Captures old place key before) := by
  have behind := taken.behind
  obtain ⟨other, readOther, kindEq, indentEq⟩ := gains.kept id entry (by omega) read
  have held : key.holds other = true := by
    rw [Entry.holds_alike key key entry other rfl rfl kindEq indentEq]
    exact taken.held id entry behind (Nat.le_refl _) read (by rw [isStep]; rfl)
  obtain ⟨parent, hangs, holder⟩ := step_holder new _ other newChars newSound newPlaced readOther (by rw [kindEq, isStep])
  have fromKey := held_behind gains _ parent other (by unfold displaced; split <;> omega) held holder
  obtain ⟨upper, readUpper, upperHolds⟩ := holder.holds
  refine ⟨other, parent, upper, readOther, hangs, readUpper, ?_⟩
  have known := Entry.holds_known upper other upperHolds
  rcases gained_read gains parent upper readUpper with inside | ⟨before, same, rfl, _, readSame, sameKind, _⟩
  · refine ⟨?_, .inl inside⟩
    rcases Nat.lt_or_eq_of_le inside.1 with beyond | rfl
    · rcases gains.below parent upper beyond inside.2 readUpper with isRaw | ⟨isItem, _⟩
      · simp [isRaw, Kind.isStep] at known
      · rw [isItem]
        rfl
    · rw [← Option.some.inj (gains.read.symm.trans readUpper), gains.isKey]
      rfl
  · have side : place < before := by
      unfold displaced at fromKey
      split at fromKey <;> omega
    have less := (displaced_lt_iff place extra before id).mp holder.before
    have takenToo := taken_before old place id before key taken side (Nat.le_of_lt less)
    rw [sameKind] at known
    have keyHolds := takenToo.held before same side (Nat.le_refl _) readSame known
    refine ⟨?_, .inr ⟨before, same, rfl, less, readSame, sameKind.symm, takenToo⟩⟩
    rw [sameKind, Entry.held_step key same keyHolds (by rw [gains.isKey]; simp)]

omit oldSound oldPlaced in
theorem taken_under (id : Nat) (entry : Entry) (read : old[id]? = some entry) (isStep : entry.kind.isStep = true)
    (taken : Captures old place key id) : new.Under place (displaced place extra id) := by
  induction id using Nat.strongRecOn generalizing entry with
  | ind id ih =>
      obtain ⟨other, parent, upper, readOther, hangs, readUpper, upperStep, fits⟩ :=
        taken_hangs gains newSound newPlaced id entry read isStep taken
      refine .step _ parent other readOther hangs ?_
      rcases fits with ⟨fromKey, toKey⟩ | ⟨before, same, rfl, less, readSame, sameKind, takenToo⟩
      · rcases Nat.lt_or_eq_of_le fromKey with beyond | rfl
        · exact .step parent place upper readUpper (below_hangs gains newSound newPlaced parent upper beyond toKey readUpper upperStep) .here
        · exact .here
      · exact ih before less same readSame (by rw [sameKind, upperStep]) takenToo

omit newSound newPlaced in
theorem taken_below (host : Nat) (top : Entry) (front : host < place) (under : old.Under host place) (readTop : old[host]? = some top)
    (topHolds : top.holds key = true) (id : Nat) (entry : Entry) (read : old[id]? = some entry) (isStep : entry.kind.isStep = true)
    (taken : Captures old place key id) : old.Under host id := by
  induction id using Nat.strongRecOn generalizing entry with
  | ind id ih =>
      have behind := taken.behind
      obtain ⟨parent, hangs, holder⟩ := step_holder old id entry oldChars oldSound oldPlaced read isStep
      have held := taken.held id entry behind (Nat.le_refl _) read (by rw [isStep]; rfl)
      have heldToo := Entry.holds_trans top key entry (step_indented oldSound host top readTop) gains.indented
        (by rw [gains.isKey]; rfl) topHolds held
      have lower := holder_le old id entry parent host top holder (by omega) readTop heldToo
      obtain ⟨upper, readUpper, upperHolds⟩ := holder.holds
      refine .step id parent entry read hangs ?_
      by_cases before : parent ≤ place
      · exact old.under_between (sound_preordered oldChars old oldSound) host parent place lower before under
      · have takenToo := taken_before old place id parent key taken (by omega) (Nat.le_of_lt holder.before)
        have keyHolds := takenToo.held parent upper (by omega) (Nat.le_refl _) readUpper (Entry.holds_known upper entry upperHolds)
        exact ih parent holder.before upper readUpper (Entry.held_step key upper keyHolds (by rw [gains.isKey]; simp)) takenToo

omit oldSound oldPlaced in
theorem gained_hangs_elsewhere (each parent : Nat) (entry : Entry) (read : new[each]? = some entry) (fromKey : place ≤ each)
    (toKey : each ≤ place + extra) (counted : entry.kind = .item ∨ entry.kind = .document) (above : parent ≠ place) :
    entry.parent ≠ some (displaced place extra parent) := by
  intro hangs
  rcases Nat.lt_or_eq_of_le fromKey with beyond | rfl
  · rcases gains.below each entry beyond toKey read with isRaw | ⟨isItem, _⟩
    · simp [isRaw] at counted
    · have hangsToo := below_hangs gains newSound newPlaced each entry beyond toKey read (by rw [isItem]; rfl)
      have side := displaced_elsewhere place extra parent above
      rw [Option.some.inj (hangs.symm.trans hangsToo)] at side
      omega
  · simp [← Option.some.inj (gains.read.symm.trans read), gains.isKey] at counted

omit oldSound oldPlaced in
theorem taken_hangs_elsewhere (id parent : Nat) (entry other : Entry) (read : old[id]? = some entry)
    (readOther : new[displaced place extra id]? = some other) (isStep : entry.kind.isStep = true) (taken : Captures old place key id)
    (above : parent ≠ place) (untaken : ¬ Captures old place key parent) : other.parent ≠ some (displaced place extra parent) := by
  intro hangs
  obtain ⟨_, next, _, readNext, hangsNext, _, _, fits⟩ := taken_hangs gains newSound newPlaced id entry read isStep taken
  obtain rfl := Option.some.inj (readOther.symm.trans readNext)
  obtain rfl := Option.some.inj (hangs.symm.trans hangsNext)
  rcases fits with inside | ⟨holder, _, same, _, _, _, takenToo⟩
  · have side := displaced_elsewhere place extra parent above
    omega
  · exact untaken (displaced_injective place extra same ▸ takenToo)

theorem mem_children_displaced (id parent : Nat) (kind : Kind) (counted : kind = .item ∨ kind = .document)
    (above : parent ≠ place) (untaken : ¬ Captures old place key parent) (each : Nat) :
    each ∈ new.childrenBefore (displaced place extra id) (displaced place extra parent) kind ↔
      ∃ earlier ∈ old.childrenBefore id parent kind, ¬ Captures old place key earlier ∧ displaced place extra earlier = each := by
  have notRaw : kind ≠ .raw := by rcases counted with rfl | rfl <;> simp
  have notRoot : kind ≠ .root := by rcases counted with rfl | rfl <;> simp
  rw [Table.mem_children_before]
  constructor
  · rintro ⟨before, entry, read, hangs, rfl⟩
    rcases gained_read gains each entry read with ⟨fromKey, toKey⟩ | ⟨earlier, other, rfl, _, readOther, sameKind, _⟩
    · exact absurd hangs (gained_hangs_elsewhere gains newSound newPlaced each parent entry read fromKey toKey counted above)
    · have known : (other.kind.isStep || other.kind == .document) = true := by
        rw [← sameKind]
        rcases counted with isItem | isDocument
        · rw [isItem]
          rfl
        · rw [isDocument]
          rfl
      have free : ¬ Captures old place key earlier := by
        intro taken
        have held := taken.held earlier other taken.behind (Nat.le_refl _) readOther known
        exact taken_hangs_elsewhere gains newSound newPlaced earlier parent other entry readOther read
          (Entry.held_step key other held (by rw [gains.isKey]; simp)) taken above untaken hangs
      have positive := positive_of_read oldChars old oldSound earlier other readOther (sameKind ▸ notRoot)
      obtain ⟨own, again, hangsOld, _, _, readAgain, _, hangsNow⟩ :=
        parent_moves gains oldSound newSound oldPlaced newPlaced earlier other positive readOther (sameKind ▸ notRaw) free
      obtain rfl := Option.some.inj (read.symm.trans readAgain)
      have same := displaced_injective place extra (Option.some.inj (hangsNow.symm.trans hangs))
      exact ⟨earlier, (Table.mem_children_before _ _ _ _ _).mpr ⟨(displaced_lt_iff place extra earlier id).mp before, other, readOther,
        by rw [hangsOld, same], sameKind.symm⟩, free, rfl⟩
  · rintro ⟨earlier, listed, free, rfl⟩
    obtain ⟨before, entry, read, hangs, rfl⟩ := (Table.mem_children_before _ _ _ _ _).mp listed
    have positive := positive_of_read oldChars old oldSound earlier entry read notRoot
    obtain ⟨known, other, hangsToo, _, _, readOther, kindEq, hangsNow⟩ :=
      parent_moves gains oldSound newSound oldPlaced newPlaced earlier entry positive read notRaw free
    obtain rfl := Option.some.inj (hangs.symm.trans hangsToo)
    exact ⟨(displaced_lt_iff place extra earlier id).mpr before, other, readOther, hangsNow, kindEq⟩

theorem positions_kept_iff (id parent : Nat) (kind : Kind) (counted : kind = .item ∨ kind = .document)
    (above : parent ≠ place) (untaken : ¬ Captures old place key parent) :
    (new.childrenBefore (displaced place extra id) (displaced place extra parent) kind).length = (old.childrenBefore id parent kind).length ↔
      ∀ each ∈ old.childrenBefore id parent kind, ¬ Captures old place key each := by
  classical
  have same : (new.childrenBefore (displaced place extra id) (displaced place extra parent) kind).Perm
      (((old.childrenBefore id parent kind).filter fun each => ¬ Captures old place key each).map (displaced place extra)) := by
    refine (List.perm_ext_iff_of_nodup (Table.children_before_nodup _ _ _ _) ?_).mpr fun each => ?_
    · exact List.Nodup.map (displaced_injective place extra) ((Table.children_before_nodup _ _ _ _).filter _)
    · rw [mem_children_displaced gains oldSound newSound oldPlaced newPlaced id parent kind counted above untaken]
      simp [and_assoc]
  rw [same.length_eq, List.length_map, List.length_filter_eq_length_iff]
  simp

end

end YamlDialects.Outline

namespace YamlDialects.Block

open Outline

def mayHost (column : Nat) (block : Block) : Bool :=
  block.kind == .document || (block.kind.isStep && block.indent.any (· < column))

def hostAt (block : Block) (column : Nat) : Option Block :=
  block.ancestry.reverse.find? (mayHost column)

theorem host_at_cases (chars : List Char) (block parent : Block) (column : Nat) (sound : Sound chars block.outline.table)
    (hangs : block.parent? = some parent) :
    block.hostAt column = if block.mayHost column then some block else parent.hostAt column := by
  rw [hostAt, ancestry_parent chars block parent sound hangs, List.reverse_append, List.reverse_singleton,
    List.singleton_append, List.find?_cons]
  cases block.mayHost column <;> rfl

section

variable (column : Nat) (key : Entry) (isKey : key.kind = .key) (indented : key.indent = some column)

include isKey indented

theorem may_host_eq (block : Block) : block.mayHost column = block.entry.holds key := by
  simp [mayHost, Entry.holds, isKey, indented, keyLevel, kind, indent]

theorem host_nearest (chars : List Char) (outline : Outline) (sound : Sound chars outline.table) (placed : outline.table.Each IsPlaced)
    (id : Nat) (entry : Entry) (positive : 0 < id) (read : outline.table[id]? = some entry) :
    ∃ host upper, (Block.mk outline id).hostAt column = some ⟨outline, host⟩ ∧ outline.table.Under host id ∧
      outline.table[host]? = some upper ∧ upper.holds key = true ∧ ∀ between other, host < between → between ≤ id →
        outline.table[between]? = some other → other.holds key = false := by
  induction id using Nat.strongRecOn generalizing entry with
  | ind id ih =>
      obtain ⟨parent, above, hangs, smaller, readAbove, _, atTop, _⟩ := (sound.shaped id entry positive read).hangs
      have entryEq := entry_of_read ⟨outline, id⟩ entry read
      have parentEq := parent_of_read ⟨outline, id⟩ entry read parent hangs
      rw [host_at_cases chars _ _ column sound parentEq, may_host_eq column key isKey indented, entryEq]
      cases held : entry.holds key with
      | true => exact ⟨id, entry, if_pos rfl, .here, read, held, fun between other after within => by omega⟩
      | false =>
          have notDocument : entry.kind ≠ .document := fun isDocument => by simp [Entry.holds, isDocument] at held
          have parentPositive : 0 < parent := Nat.pos_of_ne_zero fun zero => notDocument (atTop.mp zero)
          obtain ⟨host, upper, found, under, readHost, hostHolds, nearest⟩ := ih parent smaller above parentPositive readAbove
          refine ⟨host, upper, by simpa using found, .step id parent entry read hangs under, readHost, hostHolds, ?_⟩
          intro between other after within readOther
          rcases Nat.lt_or_ge parent between with beyond | before
          · rcases Nat.lt_or_eq_of_le within with less | rfl
            · cases isStep : entry.kind.isStep with
              | true =>
                  obtain ⟨next, hangsToo, holder⟩ := step_holder outline.table id entry chars sound placed read isStep
                  obtain rfl := Option.some.inj (hangs.symm.trans hangsToo)
                  exact Entry.unheld_trans other entry key isKey isStep (step_indented sound id entry read isStep)
                    (holder.nearest between other beyond less readOther) held
              | false =>
                  obtain ⟨document, next, places⟩ := placed id entry positive read
                  obtain rfl := Option.some.inj (hangs.symm.trans places.hangs)
                  have isRaw : entry.kind = .raw := by
                    have notRoot := (sound.shaped id entry positive read).notRoot
                    cases kindEq : entry.kind <;> simp_all [Kind.isStep]
                  simp [Entry.holds, places.raw isRaw between other beyond less readOther, Kind.isStep]
            · rwa [← Option.some.inj (read.symm.trans readOther)]
          · exact nearest between other after before readOther

end

end YamlDialects.Block
