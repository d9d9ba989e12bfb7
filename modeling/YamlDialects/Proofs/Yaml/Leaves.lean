import Mathlib.Data.List.DropRight
import YamlDialects.Proofs.Yaml.Event.Order
import YamlDialects.Proofs.Yaml.Event.Turn
import YamlDialects.Proofs.Yaml.Walk

set_option autoImplicit false

namespace YamlDialects.Yaml

namespace Reader

theorem told_other (chars : List Char) (located : LocatedEvent) (other : located.event.isLeaf = false) :
    Told chars located := by
  intro text style properties isScalar
  rw [isScalar] at other
  cases other

theorem turn_told (chars : List Char) (state : ReaderState) (stack control : List ReaderState) (columns inner : List Int)
    (located : LocatedEvent) (turn : Turn chars state stack columns located control inner) : Told chars located := by
  obtain ⟨event, span⟩ := located
  have sequence (opens : event.opensSequence = true) : Told chars ⟨event, span⟩ :=
    told_other chars _ (by cases event <;> first | rfl | cases opens)
  have mapping (opens : event.opensMapping = true) : Told chars ⟨event, span⟩ :=
    told_other chars _ (by cases event <;> first | rfl | cases opens)
  cases turn with
  | start root outside begins isRoot => exact told_other chars _ (by rw [begins]; rfl)
  | finish next read ends outside => exact told_other chars _ (by rw [ends]; rfl)
  | node waiting _ _ waits reads =>
      cases reads with
      | leaf isLeaf told => exact told
      | flowSequence opens => exact sequence opens
      | flowMapping opens => exact mapping opens
      | dash opens allowed => exact sequence opens
      | blockSequence opens allowed deeper => exact sequence opens
      | blockMapping opens allowed deeper => exact mapping opens
  | pair inSequence opens => exact mapping opens
  | closeBlock column outer innermost closes =>
      exact told_other chars _ (by cases event <;> first | rfl | (cases state <;> cases closes))
  | close closes => exact told_other chars _ (by cases event <;> first | rfl | (cases state <;> cases closes))
  | pairEnd mark atEnd ends => exact told_other chars _ (by rw [ends]; rfl)

theorem run_told (chars : List Char) (reader : Reader) (events : List LocatedEvent) (run : Run reader events)
    (columns : List Int) (sited : Sited chars reader columns) : ∀ located ∈ events, Told chars located := by
  induction run generalizing columns with
  | stop => exact List.forall_mem_nil _
  | step reader next located events steps rest ih =>
      obtain ⟨inner, onward, turn⟩ := step_leads chars columns reader next located sited steps
      exact List.forall_mem_cons.mpr ⟨turn_told chars _ _ _ _ _ located turn, ih inner onward⟩

end Reader

-- What a reader tells of its scalars is written in the text.
def TextReader.Told (read : TextReader) : Prop :=
  ∀ chars events, read chars = .ok events → ∀ located ∈ events, Yaml.Told chars located

theorem read_text_told : TextReader.Told readText := by
  intro chars events reads
  exact Reader.run_told chars _ events (read_text_run chars events reads) [] (Reader.start_sited chars)

def Source.Comes (source : Source) (events : List LocatedEvent) (text : String) (region : Region) : Prop :=
  (text = "" ∧ region.start = region.stop) ∨
    ∃ event ∈ events, ∃ last, Composer.leaf? source last event = some (.scalar text region)

def Source.ScalarsCome (source : Source) (events : List LocatedEvent) (node : Node) : Prop :=
  ∀ text region, Node.Within (.scalar text region) node → source.Comes events text region

namespace Composer

variable (source : Source) (all : List LocatedEvent)

theorem scalar_comes (text : String) (region : Region) (comes : source.Comes all text region) :
    source.ScalarsCome all (.scalar text region) := by
  intro other inner inside
  rcases (Node.within_iff _ _).mp inside with same | ⟨child, member, -⟩
  · obtain ⟨rfl, rfl⟩ := Node.scalar.inj same
    exact comes
  · cases member

theorem collection_comes (node : Node) (collects : node.isScalar = false)
    (children : ∀ child ∈ node.children, source.ScalarsCome all child) : source.ScalarsCome all node := by
  intro text region inside
  rcases (Node.within_iff _ _).mp inside with rfl | ⟨child, member, deeper⟩
  · cases collects
  · exact children child member text region deeper

theorem leaf_comes (event : LocatedEvent) (last : Nat) (node : Node) (member : event ∈ all)
    (leaf : leaf? source last event = some node) : source.ScalarsCome all node := by
  obtain ⟨name, place, rfl⟩ := leaf_isScalar source last event node leaf
  exact scalar_comes source all name place (.inr ⟨event, member, last, leaf⟩)

mutual

theorem node_comes (fuel : Nat) (before after : Composer) (found : Node) (within_ : before.events <:+ all)
    (composes : node source fuel before = some (found, after)) : source.ScalarsCome all found ∧ after.events <:+ all := by
  match fuel, before with
  | 0, _ => simp [node] at composes
  | _ + 1, ⟨[], _⟩ => simp [node] at composes
  | fuel + 1, ⟨⟨event, span⟩ :: rest, last⟩ =>
      have member : ⟨event, span⟩ ∈ all := within_.mem List.mem_cons_self
      have later : rest <:+ all := (List.suffix_cons _ _).trans within_
      rw [node] at composes
      cases event with
      | scalar text style properties =>
          obtain ⟨onward, leaf⟩ := scalar_leaf source text style properties span rest last
          have read : scalar source text style span rest last = (found, after) := Option.some.inj composes
          rw [read] at onward leaf
          exact ⟨leaf_comes source all _ last found member leaf, onward ▸ later⟩
      | reference name =>
          obtain ⟨rfl, rfl⟩ := Prod.mk.inj (Option.some.inj composes)
          exact ⟨leaf_comes source all _ last _ member rfl, later⟩
      | mappingStart properties =>
          obtain ⟨rfl, rfl⟩ := Prod.mk.inj (Option.some.inj composes)
          obtain ⟨inside, onward⟩ := entries_come (source.offset span.start) fuel (source.offset span.start)
            ⟨rest, source.offset span.start⟩ later
          refine ⟨collection_comes source all _ rfl fun child among => ?_, onward⟩
          obtain ⟨entry, listed, here⟩ := List.mem_flatMap.mp among
          rcases List.mem_pair.mp here with rfl | rfl
          · exact (inside entry listed).1
          · exact (inside entry listed).2
      | sequenceStart properties =>
          obtain ⟨rfl, rfl⟩ := Prod.mk.inj (Option.some.inj composes)
          obtain ⟨inside, onward⟩ := items_come (source.offset span.start) fuel (source.offset span.start)
            ⟨rest, Text.floorBoundary source.shown (source.offset span.start + 1)⟩ later
          exact ⟨collection_comes source all _ rfl inside, onward⟩
      | _ => simp at composes
termination_by structural fuel

theorem entries_come (start fuel stop : Nat) (composer : Composer) (within_ : composer.events <:+ all) :
    (∀ entry ∈ (entries source start fuel stop composer).1, source.ScalarsCome all entry.1 ∧ source.ScalarsCome all entry.2) ∧
      (entries source start fuel stop composer).2.2 <:+ all := by
  match fuel with
  | 0 => exact ⟨List.forall_mem_nil _, within_⟩
  | fuel + 1 =>
      rw [entries]
      split
      next none => exact ⟨List.forall_mem_nil _, none ▸ within_⟩
      next span rest ends => exact ⟨List.forall_mem_nil _, (List.suffix_cons _ _).trans (ends ▸ within_)⟩
      next =>
        split
        next => exact ⟨List.forall_mem_nil _, within_⟩
        next key after composesKey =>
          obtain ⟨keyComes, onward⟩ := node_comes fuel composer after key within_ composesKey
          cases composesValue : node source fuel after with
          | none =>
              obtain ⟨others, rest⟩ := entries_come start fuel _ after onward
              exact ⟨List.forall_mem_cons.mpr ⟨⟨keyComes, scalar_comes source all _ _ (.inl ⟨rfl, rfl⟩)⟩, others⟩, rest⟩
          | some found =>
              obtain ⟨valueComes, further⟩ := node_comes fuel after found.2 found.1 onward composesValue
              obtain ⟨others, rest⟩ := entries_come start fuel _ found.2 further
              exact ⟨List.forall_mem_cons.mpr ⟨⟨keyComes, valueComes⟩, others⟩, rest⟩
termination_by structural fuel

theorem items_come (start fuel stop : Nat) (composer : Composer) (within_ : composer.events <:+ all) :
    (∀ item ∈ (items source start fuel stop composer).1, source.ScalarsCome all item) ∧
      (items source start fuel stop composer).2.2 <:+ all := by
  match fuel with
  | 0 => exact ⟨List.forall_mem_nil _, within_⟩
  | fuel + 1 =>
      rw [items]
      split
      next none => exact ⟨List.forall_mem_nil _, none ▸ within_⟩
      next span rest ends => exact ⟨List.forall_mem_nil _, (List.suffix_cons _ _).trans (ends ▸ within_)⟩
      next =>
        split
        next => exact ⟨List.forall_mem_nil _, within_⟩
        next item after composesItem =>
          obtain ⟨itemComes, onward⟩ := node_comes fuel composer after item within_ composesItem
          obtain ⟨others, rest⟩ := items_come start fuel _ after onward
          exact ⟨List.forall_mem_cons.mpr ⟨itemComes, others⟩, rest⟩
termination_by structural fuel

end

theorem after_document_suffix (events : List LocatedEvent) : afterDocument events <:+ events := by
  induction events with
  | nil => exact List.suffix_refl _
  | cons event rest ih =>
      rw [afterDocument]
      split
      · exact List.suffix_cons _ _
      · exact ih.trans (List.suffix_cons _ _)

theorem roots_come (fuel : Nat) (events : List LocatedEvent) (within_ : events <:+ all) :
    ∀ root ∈ roots source fuel events, source.ScalarsCome all root := by
  induction fuel generalizing events with
  | zero => exact List.forall_mem_nil _
  | succ fuel ih =>
      cases events with
      | nil => exact List.forall_mem_nil _
      | cons event rest =>
          have later : rest <:+ all := (List.suffix_cons _ _).trans within_
          rw [roots]
          split
          next =>
            have first : source.ScalarsCome all ((node source (2 * rest.length + 2) ⟨rest, source.offset event.span.start⟩).getD
                  (.scalar "" (.empty (source.offset event.span.start)), ⟨rest, source.offset event.span.start⟩)).1 ∧
                ((node source (2 * rest.length + 2) ⟨rest, source.offset event.span.start⟩).getD
                  (.scalar "" (.empty (source.offset event.span.start)), ⟨rest, source.offset event.span.start⟩)).2.events <:+ all := by
              cases composes : node source (2 * rest.length + 2) ⟨rest, source.offset event.span.start⟩ with
              | none => exact ⟨scalar_comes source all _ _ (.inl ⟨rfl, rfl⟩), later⟩
              | some found => exact node_comes source all _ _ found.2 found.1 later composes
            exact List.forall_mem_cons.mpr ⟨first.1, ih _ ((after_document_suffix _).trans first.2)⟩
          next => exact ih rest later

end Composer

theorem documents_come (source : Source) (events : List LocatedEvent) :
    ∀ root ∈ composeDocuments source events, source.ScalarsCome events root :=
  Composer.roots_come source events _ events (List.suffix_refl _)

-- A value behind a colon: gaps come before it, and nothing that can be seen comes after it on the line.
structure LoneValue (chars : List Char) where
  before : List Char
  gaps : List Char
  body : List Char
  after : List Char
  rest : List Char
  whole : chars = before ++ ':' :: (gaps ++ (body ++ (after ++ rest)))
  spaced : ∀ c ∈ gaps, isGap c = true
  hidden : ∀ c ∈ after, Text.isBlank c = true
  unbroken : ∀ c ∈ body, isBreak c = false
  unmarked : ∀ c ∈ (body ++ (after ++ rest)).head?, c ∉ ['\'', '"', '|', '>']

namespace LoneValue

variable {chars : List Char} (line : LoneValue chars)

def colon : Nat :=
  Text.byteLength line.before

def start : Nat :=
  Text.byteLength (line.before ++ ':' :: line.gaps)

def region : Region :=
  ⟨line.start, line.start + Text.byteLength line.body⟩

def stop : Nat :=
  line.start + Text.byteLength line.body + Text.byteLength line.after

theorem split : chars = (line.before ++ ':' :: line.gaps) ++ (line.body ++ (line.after ++ line.rest)) := by
  rw [List.append_assoc, List.cons_append]
  exact line.whole

theorem not_starts_line (place : Nat) (behind : chars.take place = line.before ++ ':' :: line.gaps) :
    ¬ StartsLine chars place := by
  rintro ⟨broken, c, lower, read, isBroken, spaces⟩
  have parts : line.before ++ ':' :: line.gaps = chars.take broken ++ c :: written chars (broken + 1) place := by
    obtain ⟨count, rfl⟩ := Nat.exists_eq_add_of_lt lower
    rw [← behind, written, Nat.add_assoc, Nat.add_comm count 1, ← Nat.add_assoc, Nat.add_sub_cancel_left, List.take_add,
      List.take_add_one, read]
    simp
  rcases List.append_eq_append_iff.mp parts with ⟨more, -, onward⟩ | ⟨more, -, onward⟩
  · -- the break comes among the gaps
    cases more with
    | nil =>
        obtain ⟨rfl, -⟩ := List.cons.inj onward
        cases isBroken
    | cons first further =>
        obtain ⟨-, gaps⟩ := List.cons.inj onward
        have gap := line.spaced c (by rw [gaps]; exact List.mem_append_right _ List.mem_cons_self)
        have either : c = ' ' ∨ c = '\t' := by simpa [isGap] using gap
        rcases either with rfl | rfl <;> cases isBroken
  · -- the colon would be a space
    cases more with
    | nil =>
        obtain ⟨rfl, -⟩ := List.cons.inj onward
        cases isBroken
    | cons first further =>
        obtain ⟨-, spaced⟩ := List.cons.inj onward
        have space := spaces ':' (by rw [spaced]; exact List.mem_append_right _ List.mem_cons_self)
        cases space

theorem not_marked (place : Nat) (behind : chars.take place = line.before ++ ':' :: line.gaps) : ¬ Marked chars place := by
  rintro (⟨c, among, read⟩ | starts)
  · refine line.unmarked c ?_ among
    have onward : chars.drop place = line.body ++ (line.after ++ line.rest) := by
      refine List.append_cancel_left ((List.take_append_drop place chars).trans ?_)
      rw [behind]
      exact line.split
    rw [← onward, List.head?_drop]
    exact read
  · exact line.not_starts_line place behind starts

end LoneValue

theorem gap_blank (c : Char) (gap : isGap c = true) : Text.isBlank c = true := by
  have either : c = ' ' ∨ c = '\t' := by simpa [isGap] using gap
  rcases either with rfl | rfl <;> decide

theorem trimmed_ends (chars before blanks : List Char) (shown : Text.trimRight chars = before ++ blanks)
    (blank : ∀ c ∈ blanks, Text.isBlank c = true) : blanks = [] := by
  have again : Text.trimRight (before ++ blanks) = before ++ blanks := by
    rw [← shown, Text.trimRight, Text.trimRight, List.reverse_reverse, List.dropWhile_idempotent]
  have split := congrArg List.length (Text.trim_right_split before)
  rw [← Text.trim_right_append before blanks blank, again] at split
  simp only [List.length_append] at split
  exact List.eq_nil_of_length_eq_zero (by omega)

theorem conveys_trimmed (writing reading body : List Char) (conveys : Conveys writing reading)
    (shown : Text.trimRight writing = body) (unbroken : ∀ c ∈ body, isBreak c = false) :
    ∃ blanks, reading = body ++ blanks ∧ ∀ c ∈ blanks, Text.isBlank c = true := by
  obtain ⟨line, more, told, written, rfl, cases_⟩ := conveys
  have split := Text.trim_right_split writing
  have hidden : ∀ c ∈ (writing.reverse.takeWhile Text.isBlank).reverse, Text.isBlank c = true := fun c member =>
    List.all_eq_true.mp List.all_takeWhile c (List.mem_reverse.mp member)
  generalize (writing.reverse.takeWhile Text.isBlank).reverse = tail at split hidden
  rw [shown] at split
  rcases cases_ with ⟨rfl, rfl⟩ | ⟨⟨gaps, broken, rest, rfl, spaced, isBroken⟩, folded⟩
  · exact ⟨tail, by rw [← split, written], hidden⟩
  · -- the line goes at least as far as what can be seen: only gaps come before the break
    obtain ⟨inner, rfl, onward⟩ : ∃ inner, line = body ++ inner ∧ tail = inner ++ (gaps ++ broken :: rest) := by
      rcases List.append_eq_append_iff.mp (written.symm.trans split) with ⟨inner, within_, onward⟩ | longer
      · have blank : ∀ c ∈ inner, Text.isBlank c = true := by
          intro c member
          have unseen : broken ∉ inner := fun among => by
            have free := unbroken broken (by rw [within_]; exact List.mem_append_right _ among)
            rw [isBroken] at free
            cases free
          rcases List.append_eq_append_iff.mp onward with ⟨later, rfl, behind⟩ | ⟨later, rfl, -⟩
          · cases later with
            | nil => exact gap_blank c (spaced c (by simpa using member))
            | cons first others =>
                obtain ⟨rfl, -⟩ := List.cons.inj behind
                exact absurd (List.mem_append_right _ List.mem_cons_self) unseen
          · exact gap_blank c (spaced c (List.mem_append_left _ member))
        obtain rfl := trimmed_ends writing line inner (shown.trans within_) blank
        exact ⟨[], by rw [within_, List.append_nil, List.append_nil], by rw [onward, List.nil_append, List.nil_append]⟩
      · exact longer
    refine ⟨inner ++ told, List.append_assoc _ _ _, fun c member => ?_⟩
    rcases List.mem_append.mp member with inLine | inTold
    · exact hidden c (by rw [onward]; exact List.mem_append_left _ inLine)
    · rcases folded c inTold with rfl | rfl | inMore
      · decide
      · decide
      · exact hidden c (by rw [onward]; exact List.mem_append_right _ inMore)

theorem between_written (chars : List Char) (start stop : Mark) :
    Source.between ⟨chars, chars⟩ (byteOf chars start.index)
      (max (byteOf chars start.index) (min (byteOf chars stop.index) (Text.byteLength chars))) =
        written chars start.index stop.index := by
  have slice (middle after : List Char) (split : chars = chars.take start.index ++ (middle ++ after)) (limit : Nat)
      (ends : limit = byteOf chars start.index + Text.byteLength middle) :
      Source.between ⟨chars, chars⟩ (byteOf chars start.index) limit = middle := by
    have found := Text.slice_append (chars.take start.index) middle after
    rw [← split] at found
    rw [Source.between, ends, byteOf, found, Option.getD_some]
  rcases Nat.le_total start.index stop.index with le | le
  · have first := written_append chars 0 start.index stop.index (Nat.zero_le _) le
    simp only [written, List.drop_zero, Nat.sub_zero] at first
    have whole : chars = chars.take start.index ++ (written chars start.index stop.index ++ chars.drop stop.index) := by
      rw [written, ← List.append_assoc, first, List.take_append_drop]
    refine slice _ _ whole _ ?_
    have length := congrArg Text.byteLength whole
    rw [Text.byte_length_append, Text.byte_length_append] at length
    rw [show byteOf chars stop.index = byteOf chars start.index + Text.byteLength (written chars start.index stop.index) by
      rw [byteOf, ← first, Text.byte_length_append]
      rfl]
    change _ = byteOf chars start.index + _ at length
    omega
  · rw [written, Nat.sub_eq_zero_of_le le, List.take_zero]
    refine slice [] (chars.drop start.index) (List.take_append_drop _ _).symm _ ?_
    have fewer : byteOf chars stop.index ≤ byteOf chars start.index := by
      have first := written_append chars 0 stop.index start.index (Nat.zero_le _) le
      simp only [written, List.drop_zero, Nat.sub_zero] at first
      rw [byteOf, byteOf, ← first, Text.byte_length_append]
      exact Nat.le_add_right _ _
    rw [Text.byte_length_nil]
    omega

namespace LoneValue

variable {chars : List Char} (line : LoneValue chars)

theorem body_nil (nothing : line.region.start = line.region.stop) : line.body = [] := by
  have length : Text.byteLength line.body = 0 := by
    change line.start = line.start + Text.byteLength line.body at nothing
    omega
  cases body : line.body with
  | nil => rfl
  | cons c rest =>
      rw [body, Text.byte_length_cons] at length
      have width := c.utf8Size_pos
      omega

theorem said (events : List LocatedEvent) (told : ∀ located ∈ events, Told chars located) (value : String)
    (comes : Source.Comes ⟨chars, chars⟩ events value line.region) (tilde : value = "~" → line.body = [ '~']) :
    ∃ blanks, value.toList = line.body ++ blanks ∧ ∀ c ∈ blanks, Text.isBlank c = true := by
  have missing (empty : value = "") (nothing : line.region.start = line.region.stop) :
      ∃ blanks, value.toList = line.body ++ blanks ∧ ∀ c ∈ blanks, Text.isBlank c = true :=
    ⟨[], by rw [empty, line.body_nil nothing]; rfl, List.forall_mem_nil _⟩
  rcases comes with ⟨empty, nothing⟩ | ⟨⟨event, span⟩, member, last, leaf⟩
  · exact missing empty nothing
  cases event with
  | scalar text style properties =>
      simp only [Composer.leaf?, Composer.scalar] at leaf
      split at leaf
      next =>
        obtain ⟨empty, place⟩ := Node.scalar.inj (Option.some.inj leaf)
        exact missing empty.symm (by rw [← place]; rfl)
      next present =>
        obtain ⟨rfl, place⟩ := Node.scalar.inj (Option.some.inj leaf)
        rw [Source.trimmed, Source.plain_offset, Source.plain_offset, between_written] at place
        obtain ⟨starts, stops⟩ := Region.mk.inj place
        change _ = line.start + Text.byteLength line.body at stops
        obtain ⟨behind, onward⟩ := Text.prefix_unique _ _ _ _
          ((List.take_append_drop span.start.index chars).trans line.split) starts
        rcases told _ member text style properties rfl with ⟨rfl, rfl | rfl⟩ | spelled
        · exact absurd rfl present
        · exact ⟨[], by rw [tilde rfl]; rfl, List.forall_mem_nil _⟩
        · by_cases plain : style = .plain
          · subst plain
            refine conveys_trimmed _ _ _ spelled ?_ line.unbroken
            have parts : Text.trimRight (written chars span.start.index span.stop.index) ++
                (((written chars span.start.index span.stop.index).reverse.takeWhile Text.isBlank).reverse ++
                  (chars.drop span.start.index).drop (span.stop.index - span.start.index)) =
                    line.body ++ (line.after ++ line.rest) := by
              rw [← List.append_assoc, ← Text.trim_right_split, ← onward]
              exact List.take_append_drop _ _
            exact (Text.prefix_unique _ _ _ _ parts (by omega)).1
          · have marked : Marked chars span.start.index := by
              cases style with
              | plain => exact absurd rfl plain
              | _ => exact spelled
            exact absurd marked (line.not_marked span.start.index behind)
  | reference name =>
      obtain ⟨same, place⟩ := Node.scalar.inj (Option.some.inj leaf)
      have found := Text.slice_append (line.before ++ ':' :: line.gaps) line.body (line.after ++ line.rest)
      rw [← line.split] at found
      rw [place, Source.between] at same
      refine ⟨[], ?_, List.forall_mem_nil _⟩
      rw [← same, String.toList_ofList, List.append_nil]
      exact congrArg (Option.getD · []) found
  | _ => cases leaf

end LoneValue

end YamlDialects.Yaml
