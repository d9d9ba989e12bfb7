import YamlDialects.Proofs.Yaml.Frames
import YamlDialects.Proofs.Yaml.Reading

/-!
Two readings of one text. One goes through the events of the documents, the other through the lines of the outline, and each
makes landmarks. While they keep abreast, what only one of them has met is passed by sooner or later, and then the landmarks
of the outline lead to where the events have come.
-/

set_option autoImplicit false

namespace YamlDialects.Yaml

namespace Frame

-- Events as moves from one frame to the next, with the landmarks they make.
inductive Laid (source : Source) : List Frame → List LocatedEvent → List Frame → List Landmark → Prop where
  | done (frames : List Frame) : Laid source frames [] frames []
  | move (frames between after : List Frame) (event : LocatedEvent) (events : List LocatedEvent) (mark : Option Landmark)
      (marks : List Landmark) (first : Move source frames event between mark) (rest : Laid source between events after marks) :
      Laid source frames (event :: events) after (mark.toList ++ marks)

section

variable (source : Source)

theorem laid_walks (frames after : List Frame) (events : List LocatedEvent) (marks : List Landmark)
    (laid : Laid source frames events after marks) :
    events.foldlM (Composer.walk source) (slots frames) = some (slots after) := by
  induction laid with
  | done => rfl
  | move frames between after event events mark marks first rest ih =>
      rw [List.foldlM_cons, move_walks source frames between event mark first]
      exact ih

theorem laid_ruled (frames after : List Frame) (events : List LocatedEvent) (marks : List Landmark)
    (laid : Laid source frames events after marks) (ruled : Ruled frames) : Ruled after := by
  induction laid with
  | done => exact ruled
  | move frames between after event events mark marks first rest ih =>
      exact ih (move_ruled source frames between event mark first ruled)

theorem laid_split (frames after : List Frame) (events : List LocatedEvent) (marks others : List Landmark)
    (laid : Laid source frames events after (marks ++ others)) :
    ∃ first second between, events = first ++ second ∧ Laid source frames first between marks ∧
      Laid source between second after others := by
  generalize whole : marks ++ others = all at laid
  induction laid generalizing marks with
  | done frames =>
      obtain ⟨rfl, rfl⟩ := List.append_eq_nil_iff.mp whole
      exact ⟨[], [], frames, rfl, .done frames, .done frames⟩
  | move frames between after event events mark rest first later ih =>
      cases mark with
      | none =>
          obtain ⟨earlier, further, inner, rfl, before, behind⟩ := ih marks whole
          exact ⟨event :: earlier, further, inner, rfl, .move frames between inner event earlier none marks first before, behind⟩
      | some mark =>
          cases marks with
          | nil =>
              obtain rfl : others = mark :: rest := whole
              exact ⟨[], event :: events, frames, rfl, .done frames, .move frames between after event events (some mark) rest first later⟩
          | cons head tail =>
              obtain ⟨rfl, same⟩ := List.cons.inj whole
              obtain ⟨earlier, further, inner, rfl, before, behind⟩ := ih tail same
              exact ⟨event :: earlier, further, inner, rfl, .move frames between inner event earlier (some head) tail first before, behind⟩

theorem laid_mark (frames after : List Frame) (events : List LocatedEvent) (mark : Landmark) (marks : List Landmark)
    (laid : Laid source frames events after (mark :: marks)) :
    ∃ idle event rest between inner, events = idle ++ event :: rest ∧ Laid source frames idle between [] ∧
      Move source between event inner (some mark) ∧ Laid source inner rest after marks := by
  generalize whole : mark :: marks = all at laid
  induction laid with
  | done frames => cases whole
  | move frames between after event events made rest first later ih =>
      cases made with
      | none =>
          obtain ⟨idle, next, further, before, inner, rfl, quiet, moves, behind⟩ := ih whole
          exact ⟨event :: idle, next, further, before, inner, rfl, .move frames between before event idle none [] first quiet, moves, behind⟩
      | some own =>
          obtain ⟨rfl, rfl⟩ := List.cons.inj whole
          exact ⟨[], event, events, frames, between, rfl, .done frames, first, later⟩

end

def Nested (frames : List Frame) : Prop :=
  (columns frames).Pairwise (· > ·)

theorem nested_next (name : String) (frame : Frame) (outer : List Frame) (nested : Nested (frame :: outer)) :
    Nested (frame.next name :: outer) :=
  nested

theorem nested_outer (frame : Frame) (outer : List Frame) (nested : Nested (frame :: outer)) : Nested outer := by
  rw [Nested, columns_cons] at nested
  exact (List.pairwise_append.mp nested).2.1

theorem move_nested (source : Source) (frames after : List Frame) (event : LocatedEvent) (mark : Option Landmark)
    (move : Move source frames event after mark) (nested : Nested frames) : Nested after := by
  cases move with
  | start => exact List.Pairwise.nil
  | finish => exact List.Pairwise.nil
  | leaf frame outer => exact nested_next _ frame outer nested
  | opens frame opened outer _ open_ starts fits =>
      cases fits with
      | flow => exact nested
      | dash => exact nested
      | block slot column inBlock deeper =>
          refine List.pairwise_cons.mpr ⟨fun other (member : other ∈ columns (frame :: outer)) => ?_, nested⟩
          cases blocks : columns (frame :: outer) with
          | nil => rw [blocks] at member; cases member
          | cons innermost rest =>
              rw [blocks] at member deeper
              have less := deeper innermost rfl
              rcases List.mem_cons.mp member with rfl | further
              · exact less
              · rw [Nested, blocks] at nested
                exact Nat.lt_trans (List.rel_of_pairwise_cons nested further) less
  | closes closed frame outer => exact nested_next _ frame outer (nested_outer closed _ nested)

theorem laid_nested (source : Source) (frames after : List Frame) (events : List LocatedEvent) (marks : List Landmark)
    (laid : Laid source frames events after marks) (nested : Nested frames) : Nested after := by
  induction laid with
  | done => exact nested
  | move frames between after event events mark marks first rest ih =>
      exact ih (move_nested source frames between event mark first nested)

theorem nested_deeper (frame : Frame) (column own : Nat) (inner outer : List Frame) (slot : Slot)
    (nested : Nested (frame :: (inner ++ ⟨slot, .block own⟩ :: outer))) (known : frame.style = .block column) :
    own < column := by
  rw [Nested, columns_cons, columns_append, known] at nested
  exact List.rel_of_pairwise_cons nested (List.mem_append_right (columns inner) List.mem_cons_self)

-- Inside a block at the column or right of it, where the landmarks have led no further than to what is around the block.
inductive Adrift (column : Nat) : List Frame → Nat → List Rung → Prop where
  | within (inner : List Frame) (slot : Slot) (own : Nat) (outer : List Frame) (documents : Nat) (passed : List Rung) (host : Rung)
      (more : List Rung) (le : column ≤ own) (inside : ∀ frame ∈ inner, ∀ further ∈ frame.style.column?, column ≤ further)
      (live : Live outer documents (host :: more)) (holds : host.holdsKey column = true)
      (closed : ∀ rung ∈ passed, rung.holdsKey column = false) :
      Adrift column (inner ++ ⟨slot, .block own⟩ :: outer) documents (passed ++ host :: more)

theorem live_head (frames : List Frame) (documents column : Nat) (rung : Rung) (rest : List Rung)
    (live : Live frames documents (rung :: rest)) (ruled : Ruled frames) (head : (columns frames).head? = some column) :
    rung.holdsKey column = false := by
  cases live with
  | root => cases head
  | value name own outer =>
      obtain rfl : own = column := Option.some.inj head
      exact (holds_key_false own _).mpr ⟨rfl, Nat.le_refl own⟩
  | item position style own outer _ host more items known =>
      obtain rfl : own = column := Option.some.inj ((head_column _ outer own ruled known).symm.trans head)
      exact (holds_key_false own _).mpr ⟨rfl, Nat.le_refl own⟩

theorem holds_key_left (column own : Nat) (rung : Rung) (away : rung.holdsKey own = false) (le : column ≤ own) :
    rung.holdsKey column = false := by
  obtain ⟨isStep, deeper⟩ := (holds_key_false own rung).mp away
  exact (holds_key_false column rung).mpr ⟨isStep, Nat.le_trans le deeper⟩

theorem adrift_here (column own : Nat) (above : List Frame) (frame : Frame) (outer : List Frame) (documents : Nat)
    (passed : List Rung) (host : Rung) (more : List Rung) (live : Live outer documents (host :: more)) (ruled : Ruled (frame :: outer))
    (known : frame.style.column? = some own) (le : column ≤ own)
    (inside : ∀ other ∈ above, ∀ further ∈ other.style.column?, column ≤ further) (holds : host.holdsKey column = true)
    (closed : ∀ rung ∈ passed, rung.holdsKey column = false) :
    Adrift column (above ++ frame :: outer) documents (passed ++ host :: more) := by
  obtain ⟨slot, style⟩ := frame
  cases style with
  | top => cases known
  | flow => cases known
  | block further =>
      obtain rfl := Option.some.inj known
      exact .within above slot further outer documents passed host more le inside live holds closed
  | dash further =>
      -- the block around a sequence without indentation would have its column
      obtain rfl := Option.some.inj known
      have away := live_head outer documents further host more live ruled.2 (ruled.1 further rfl)
      rw [holds_key_left column further host away le] at holds
      cases holds

theorem adrift_over (column own : Nat) (above : List Frame) (frame : Frame) (outer : List Frame) (documents : Nat)
    (passed rungs : List Rung) (live : Live outer documents rungs) (ruled : Ruled (frame :: outer))
    (known : frame.style.column? = some own) (le : column ≤ own)
    (inside : ∀ other ∈ above, ∀ further ∈ other.style.column?, column ≤ further)
    (closed : ∀ rung ∈ passed, rung.holdsKey column = false) :
    Adrift column (above ++ frame :: outer) documents (passed ++ rungs) := by
  induction live generalizing above frame own passed with
  | root position items =>
      exact adrift_here column own above frame _ _ passed _ [] (.root position items) ruled known le inside rfl closed
  | value name further outer documents host more items below holds ih =>
      cases held : Rung.holdsKey column ⟨.key, further, .value name, items⟩ with
      | true =>
          exact adrift_here column own above frame _ documents passed _ _ (.value name further outer documents host more items below holds)
            ruled known le inside held closed
      | false =>
          rw [List.append_cons above, List.append_cons passed]
          have deep := ((holds_key_false column _).mp held).2
          refine ih further (above ++ [frame]) ⟨.value name, .block further⟩ (passed ++ [_]) ruled.2 rfl deep ?_ ?_
          · exact List.forall_mem_append.mpr ⟨inside, List.forall_mem_singleton.mpr (by simpa [known] using le)⟩
          · exact List.forall_mem_append.mpr ⟨closed, List.forall_mem_singleton.mpr held⟩
  | item position style further outer documents host more items isAt below counted holds ih =>
      cases held : Rung.holdsKey column ⟨.item, further, .index position, items⟩ with
      | true =>
          exact adrift_here column own above frame _ documents passed _ _
            (.item position style further outer documents host more items isAt below counted holds) ruled known le inside held closed
      | false =>
          rw [List.append_cons above, List.append_cons passed]
          have deep := ((holds_key_false column _).mp held).2
          refine ih further (above ++ [frame]) ⟨.item position, style⟩ (passed ++ [_]) ruled.2 isAt deep ?_ ?_
          · exact List.forall_mem_append.mpr ⟨inside, List.forall_mem_singleton.mpr (by simpa [known] using le)⟩
          · exact List.forall_mem_append.mpr ⟨closed, List.forall_mem_singleton.mpr held⟩

theorem adrift_move (source : Source) (column : Nat) (frames after : List Frame) (event : LocatedEvent) (mark : Option Landmark)
    (documents : Nat) (rungs : List Rung) (move : Move source frames event after mark) (adrift : Adrift column frames documents rungs) :
    Adrift column after documents rungs ∨ Stands after documents rungs := by
  obtain ⟨inner, slot, own, outer, documents, passed, host, more, le, inside, live, holds, closed⟩ := adrift
  have stays (rest : List Frame) (deeper : ∀ frame ∈ rest, ∀ further ∈ frame.style.column?, column ≤ further) (slot : Slot) :
      Adrift column (rest ++ ⟨slot, .block own⟩ :: outer) documents (passed ++ host :: more) :=
    .within rest slot own outer documents passed host more le deeper live holds closed
  generalize split : inner ++ ⟨slot, .block own⟩ :: outer = frames at move
  cases move with
  | start position => cases inner <;> simp at split
  | finish position => rcases inner with _ | ⟨_, _ | _⟩ <;> simp at split
  | leaf frame around _ name region open_ leaf =>
      left
      cases inner with
      | nil =>
          obtain ⟨rfl, rfl⟩ := List.cons.inj split
          exact stays [] inside _
      | cons first rest =>
          obtain ⟨rfl, rfl⟩ := List.cons.inj split
          exact stays (first.next name :: rest) (List.forall_mem_cons.mpr (List.forall_mem_cons.mp inside)) slot
  | opens frame opened around _ open_ starts fits =>
      left
      rw [← split]
      have deep := opens_inside frame opened around inner slot column own outer split.symm le fits inside
      exact stays (opened :: inner) (List.forall_mem_cons.mpr ⟨deep, inside⟩) slot
  | closes closing frame around _ open_ ends =>
      cases inner with
      | nil =>
          obtain ⟨rfl, rfl⟩ := List.cons.inj split
          right
          exact live_closes frame around documents passed host more "" live fun rung member =>
            ⟨column, closed rung member, by rw [Rung.holdsItem, holds, Bool.true_or]⟩
      | cons first rest =>
          left
          obtain ⟨rfl, onward⟩ := List.cons.inj split
          have deeper := (List.forall_mem_cons.mp inside).2
          cases rest with
          | nil =>
              obtain ⟨rfl, rfl⟩ := List.cons.inj onward
              exact stays [] deeper _
          | cons second others =>
              obtain ⟨rfl, rfl⟩ := List.cons.inj onward
              exact stays (second.next "" :: others) (List.forall_mem_cons.mpr (List.forall_mem_cons.mp deeper)) slot

-- What makes no landmark of its own leaves the landmarks where they stand; otherwise they fall behind.
section

variable (column : Nat) (frame : Frame) (outer : List Frame) (documents : Nat) (rungs : List Rung) (landmark : Landmark)

theorem leaf_drifts (name : String) (region : Region) (stands : Stands (frame :: outer) documents rungs)
    (ruled : Ruled (frame :: outer)) (open_ : frame.slot.isOpen = true)
    (marks : (frame.keyMark? name region).or frame.itemMark? = some landmark) (deeper : landmark.isDeeper column = true) :
    Adrift column (frame.next name :: outer) documents rungs ∨ Stands (frame.next name :: outer) documents rungs := by
  cases stands with
  | outside => cases open_
  | read => cases open_
  | fresh _ _ _ rung rest live empty noItem =>
      rw [live_marks frame outer documents _ name region live, noItem] at marks
      cases marks
  | item position style own _ _ passed host more known live counted holds closed =>
      left
      obtain rfl : Landmark.item own = landmark := by simpa [keyMark?, itemMark?, known] using marks
      have le : column ≤ own := by simpa [Landmark.isDeeper, Landmark.column?] using deeper
      refine adrift_over column own [] _ outer documents passed _ live ruled known le (List.forall_mem_nil _) fun rung member => ?_
      exact holds_key_left column own rung (Bool.or_eq_false_iff.mp (closed rung member)).1 le
  | key _ inner own around _ passed host more split live holds closed inside =>
      cases inner with
      | nil =>
          left
          obtain ⟨rfl, rfl⟩ := List.cons.inj split
          obtain rfl : Landmark.key own name region = landmark := by simpa [keyMark?] using marks
          have le : column ≤ own := by simpa [Landmark.isDeeper, Landmark.column?] using deeper
          exact adrift_over column own [] _ outer documents passed _ live ruled rfl le (List.forall_mem_nil _)
            fun rung member => holds_key_left column own rung (closed rung member) le
      | cons first others =>
          right
          obtain ⟨rfl, rfl⟩ := List.cons.inj split
          exact .key _ (frame.next name :: others) own around documents passed host more rfl live holds closed
            (List.forall_mem_cons.mpr (List.forall_mem_cons.mp inside))
  | flow _ top inner around _ _ split bracketed live =>
      obtain ⟨rfl, rfl⟩ := List.cons.inj split
      obtain ⟨noKey, noItem⟩ := flow_marks frame name region (bracketed frame List.mem_cons_self)
      rw [noKey, noItem] at marks
      cases marks

theorem opens_drifts (opened : Frame) (stands : Stands (frame :: outer) documents rungs) (ruled : Ruled (frame :: outer))
    (open_ : frame.slot.isOpen = true) (fits : Opens frame outer opened) (marks : frame.itemMark? = some landmark)
    (deeper : landmark.isDeeper column = true) :
    Adrift column (opened :: frame :: outer) documents rungs ∨ Stands (opened :: frame :: outer) documents rungs := by
  cases stands with
  | outside => cases open_
  | read => cases open_
  | fresh _ _ _ rung rest live empty noItem => simp [noItem] at marks
  | item position style own _ _ passed host more known live counted holds closed =>
      left
      obtain rfl : Landmark.item own = landmark := by simpa [itemMark?, known] using marks
      have le : column ≤ own := by simpa [Landmark.isDeeper, Landmark.column?] using deeper
      have deep := opens_right _ opened outer column own (head_column _ outer own ruled known) le fits
      refine adrift_over column own [opened] _ outer documents passed _ live ruled known le (List.forall_mem_singleton.mpr deep) ?_
      exact fun rung member => holds_key_left column own rung (Bool.or_eq_false_iff.mp (closed rung member)).1 le
  | key _ inner own around _ passed host more split live holds closed inside =>
      cases inner with
      | nil =>
          obtain ⟨rfl, rfl⟩ := List.cons.inj split
          cases marks
      | cons first others =>
          right
          have deep := opens_inside frame opened outer _ .key own own around split (Nat.le_refl _) fits inside
          rw [split]
          exact .key _ (opened :: first :: others) own around documents passed host more rfl live holds closed
            (List.forall_mem_cons.mpr ⟨deep, inside⟩)
  | flow _ top inner around _ _ split bracketed live =>
      obtain ⟨rfl, rfl⟩ := List.cons.inj split
      rw [(flow_marks frame "" (.empty 0) (bracketed frame List.mem_cons_self)).2] at marks
      cases marks

theorem closes_drifts (closing : Frame) (stands : Stands (closing :: frame :: outer) documents rungs)
    (ruled : Ruled (frame :: outer)) (marks : frame.keyMark? "" (.empty 0) = some landmark)
    (deeper : landmark.isDeeper column = true) :
    Adrift column (frame.next "" :: outer) documents rungs ∨ Stands (frame.next "" :: outer) documents rungs := by
  have dead (rungs : List Rung) (live : Live (frame :: outer) documents rungs) : False := by
    cases live <;> cases marks
  cases stands with
  | read => cases marks
  | fresh _ _ _ rung rest live =>
      cases live with
      | root => cases marks
      | value name own _ _ host more items below => exact (dead _ below).elim
      | item position style own _ _ host more items known below => exact (dead _ below).elim
  | item position style own _ _ passed host more known live => exact (dead _ live).elim
  | key _ inner own around _ passed host more split live holds closed inside =>
      obtain ⟨further, rfl, rfl⟩ := key_mark_column frame "" _ landmark marks
      rcases inner with _ | ⟨first, _ | ⟨second, others⟩⟩
      · obtain ⟨-, rfl⟩ := List.cons.inj split
        exact (dead _ live).elim
      · left
        obtain ⟨-, onward⟩ := List.cons.inj split
        obtain ⟨same, rfl⟩ := List.cons.inj onward
        obtain rfl : further = own := by simpa using same
        have le : column ≤ further := by simpa [Landmark.isDeeper, Landmark.column?] using deeper
        exact adrift_over column further [] _ outer documents passed _ live ruled rfl le (List.forall_mem_nil _)
          fun rung member => holds_key_left column further rung (closed rung member) le
      · right
        obtain ⟨-, onward⟩ := List.cons.inj split
        obtain ⟨rfl, rfl⟩ := List.cons.inj onward
        have deep := (List.forall_mem_cons.mp inside).2
        exact .key _ (_ :: others) own around documents passed host more rfl live holds closed
          (List.forall_mem_cons.mpr (List.forall_mem_cons.mp deep))
  | flow _ top inner around _ _ split bracketed live =>
      obtain ⟨rfl, onward⟩ := List.cons.inj split
      cases inner with
      | nil =>
          obtain rfl : frame :: outer = around := onward
          exact (dead _ live).elim
      | cons second others =>
          obtain ⟨rfl, rfl⟩ := List.cons.inj onward
          rw [(flow_marks frame "" _ (bracketed frame (List.mem_cons_of_mem _ List.mem_cons_self))).1] at marks
          cases marks

end

theorem stands_move (source : Source) (column : Nat) (frames after : List Frame) (event : LocatedEvent) (mark : Option Landmark)
    (documents : Nat) (rungs : List Rung) (move : Move source frames event after mark) (ruled : Ruled frames)
    (deeper : ∀ landmark ∈ mark, landmark.isDeeper column = true) (stands : Stands frames documents rungs) :
    Adrift column after documents rungs ∨ Stands after documents rungs := by
  have quiet (none : mark = none) : Stands after documents rungs := by
    subst none
    exact move_stands source frames after event none documents rungs move ruled stands
  cases marked : mark with
  | none => exact .inr (quiet marked)
  | some landmark =>
      have deep := deeper landmark marked
      cases move with
      | start =>
          obtain rfl := Option.some.inj marked
          cases deep
      | finish => cases marked
      | leaf frame outer _ name region open_ =>
          exact leaf_drifts column frame outer documents rungs landmark name region stands ruled open_ marked deep
      | opens frame opened outer _ open_ starts fits =>
          exact opens_drifts column frame outer documents rungs landmark opened stands ruled open_ fits marked deep
      | closes closing frame outer _ open_ ends =>
          exact closes_drifts column frame outer documents rungs landmark closing stands ruled.2 marked deep

theorem laid_drifts (source : Source) (column : Nat) (frames after : List Frame) (events : List LocatedEvent) (marks : List Landmark)
    (documents : Nat) (rungs : List Rung) (laid : Laid source frames events after marks) (ruled : Ruled frames)
    (deeper : ∀ landmark ∈ marks, landmark.isDeeper column = true)
    (here : Adrift column frames documents rungs ∨ Stands frames documents rungs) :
    Adrift column after documents rungs ∨ Stands after documents rungs := by
  induction laid with
  | done => exact here
  | move frames between after event events mark marks first rest ih =>
      obtain ⟨own, others⟩ := List.forall_mem_append.mp deeper
      refine ih (move_ruled source frames between event mark first ruled) others ?_
      rcases here with adrift | stands
      · exact adrift_move source column frames between event mark documents rungs first adrift
      · exact stands_move source column frames between event mark documents rungs first ruled
          (fun landmark made => own landmark (Option.mem_toList.mpr made)) stands

theorem move_marker (source : Source) (frames after : List Frame) (event : LocatedEvent) (landmark : Landmark)
    (move : Move source frames event after (some landmark)) :
    (∃ position, frames = [⟨.document position, .top⟩]) ∨
      (∃ frame outer, frames = frame :: outer ∧ frame.itemMark? = some landmark) ∨
        ∃ above column outer name region, frames = above ++ ⟨.key, .block column⟩ :: outer ∧
          (above = [] ∨ ∃ closing, above = [closing]) ∧ landmark = .key column name region := by
  generalize marked : some landmark = mark at move
  cases move with
  | start position => exact .inl ⟨position, rfl⟩
  | finish => cases marked
  | leaf frame outer _ name region =>
      rcases Option.or_eq_some_iff.mp marked.symm with isKey | ⟨-, isItem⟩
      · obtain ⟨column, rfl, rfl⟩ := key_mark_column frame name region landmark isKey
        exact .inr (.inr ⟨[], column, outer, name, region, rfl, .inl rfl, rfl⟩)
      · exact .inr (.inl ⟨frame, outer, rfl, isItem.trans marked⟩)
  | opens frame opened outer => exact .inr (.inl ⟨frame, outer, rfl, rfl⟩)
  | closes closing frame outer =>
      obtain ⟨column, rfl, rfl⟩ := key_mark_column frame "" _ landmark marked.symm
      exact .inr (.inr ⟨[closing], column, outer, "", _, rfl, .inr ⟨closing, rfl⟩, rfl⟩)

theorem adrift_marks (source : Source) (frames after : List Frame) (event : LocatedEvent) (landmark : Landmark) (documents : Nat)
    (rungs : List Rung) (move : Move source frames event after (some landmark)) (nested : Nested frames)
    (adrift : Adrift landmark.reach frames documents rungs) : Stands frames documents rungs := by
  generalize reached : landmark.reach = column at adrift
  obtain ⟨inner, slot, own, outer, documents, passed, host, more, le, inside, live, holds, closed⟩ := adrift
  rcases move_marker source _ after event landmark move with ⟨position, split⟩ | ⟨frame, around, split, isItem⟩ |
    ⟨above, further, around, name, region, split, few, rfl⟩
  · cases inner <;> simp at split
  · obtain ⟨further, known, rfl⟩ := item_mark_column frame landmark isItem
    obtain rfl : further + 1 = column := reached
    cases inner with
    | nil =>
        obtain ⟨rfl, -⟩ := List.cons.inj split
        obtain rfl : own = further := Option.some.inj known
        omega
    | cons first rest =>
        obtain ⟨rfl, -⟩ := List.cons.inj split
        have right := inside first List.mem_cons_self further known
        omega
  · obtain rfl : further = column := reached
    have here (same : (⟨slot, .block own⟩ : Frame) = ⟨.key, .block further⟩) :
        Stands (inner ++ ⟨slot, .block own⟩ :: outer) documents (passed ++ host :: more) := by
      obtain ⟨rfl, rfl⟩ : slot = .key ∧ own = further := by simpa using same
      exact .key _ inner own outer documents passed host more rfl live holds closed inside
    have apart (rest others : List Frame) (nested : Nested (⟨.key, .block further⟩ :: others))
        (same : rest ++ ⟨slot, .block own⟩ :: outer = others) : False := by
      subst same
      have less := nested_deeper _ further own rest outer slot nested rfl
      omega
    rcases few with rfl | ⟨closing, rfl⟩
    · cases inner with
      | nil => exact here (List.cons.inj split).1
      | cons first rest =>
          rw [split] at nested
          exact (apart rest around nested (List.cons.inj split).2).elim
    · rcases inner with _ | ⟨first, _ | ⟨second, others⟩⟩
      · obtain ⟨-, rfl⟩ := List.cons.inj split
        cases live
      · exact here (List.cons.inj (List.cons.inj split).2).1
      · rw [split] at nested
        exact (apart others around (nested_outer closing _ nested) (List.cons.inj (List.cons.inj split).2).2).elim

theorem is_deeper_left (column further : Nat) (landmark : Landmark) (deeper : landmark.isDeeper further = true)
    (le : column ≤ further) : landmark.isDeeper column = true := by
  cases landmark with
  | document => cases deeper
  | key own =>
      have right : further ≤ own := by simpa [Landmark.isDeeper, Landmark.column?] using deeper
      exact key_deeper column own _ _ (Nat.le_trans le right)
  | item own =>
      have right : further ≤ own := by simpa [Landmark.isDeeper, Landmark.column?] using deeper
      exact item_deeper column own (Nat.le_trans le right)

section

variable (documents column : Nat) (rungs : List Rung) (marks : List Landmark)

theorem inside_notes (inner around : List Frame) (own : Nat) (passed : List Rung) (host : Rung) (more : List Rung)
    (live : Live around documents (host :: more)) (holds : host.holdsKey own = true)
    (closed : ∀ rung ∈ passed, rung.holdsKey own = false) (le : own ≤ column)
    (inside : ∀ frame ∈ inner, ∀ further ∈ frame.style.column?, own ≤ further)
    (deeper : ∀ mark ∈ marks, mark.isDeeper column = true) :
    Stands (inner ++ ⟨.key, .block own⟩ :: around) documents (marks.foldl Trail.note ⟨documents, passed ++ host :: more⟩).rungs := by
  obtain ⟨left, items, same, away⟩ := Trail.notes_deeper documents own marks passed host more
    (fun mark member => is_deeper_left own column mark (deeper mark member) le) holds closed
  rw [same]
  exact .key _ inner own around documents left _ more rfl (live_items around documents host more items live) holds away inside

theorem key_notes (above outer : List Frame) (stands : Stands (above ++ ⟨.key, .block column⟩ :: outer) documents rungs)
    (few : above = [] ∨ ∃ closing, above = [closing]) (deeper : ∀ mark ∈ marks, mark.isDeeper column = true) :
    Stands (above ++ ⟨.key, .block column⟩ :: outer) documents (marks.foldl Trail.note ⟨documents, rungs⟩).rungs := by
  have dead (rungs : List Rung) : ¬ Live (⟨.key, .block column⟩ :: outer) documents rungs := by
    intro live
    cases live
  generalize whole : above ++ ⟨.key, .block column⟩ :: outer = frames at stands
  cases stands with
  | outside => exact .outside _ _
  | read position => exact .read position _
  | fresh frame around _ rung rest live =>
      rcases few with rfl | ⟨closing, rfl⟩
      · obtain ⟨rfl, rfl⟩ := List.cons.inj whole
        exact (dead _ live).elim
      · obtain ⟨rfl, rfl⟩ := List.cons.inj whole
        cases live with
        | value name own _ _ host more items below => exact (dead _ below).elim
        | item position style own _ _ host more items known below => exact (dead _ below).elim
  | item position style own around _ passed host more known live =>
      rcases few with rfl | ⟨closing, rfl⟩
      · cases (List.cons.inj whole).1
      · obtain ⟨-, rfl⟩ := List.cons.inj whole
        exact (dead _ live).elim
  | key _ inner own around _ passed host more split live holds closed inside =>
      subst split
      refine inside_notes documents column marks inner around own passed host more live holds closed ?_ inside deeper
      -- the key that comes next is this one or inside it
      have same (equal : (⟨.key, .block column⟩ : Frame) = ⟨.key, .block own⟩) : own ≤ column := by
        obtain rfl : column = own := by simpa using equal
        exact Nat.le_refl _
      rcases few with rfl | ⟨closing, rfl⟩
      · cases inner with
        | nil => exact same (List.cons.inj whole).1
        | cons first rest =>
            obtain ⟨rfl, -⟩ := List.cons.inj whole
            exact inside _ List.mem_cons_self column rfl
      · rcases inner with _ | ⟨first, _ | ⟨second, others⟩⟩
        · obtain ⟨-, rfl⟩ := List.cons.inj whole
          exact (dead _ live).elim
        · exact same (List.cons.inj (List.cons.inj whole).2).1
        · obtain ⟨rfl, -⟩ := List.cons.inj (List.cons.inj whole).2
          exact inside _ (List.mem_cons_of_mem _ List.mem_cons_self) column rfl
  | flow _ top inner around _ _ split bracketed live =>
      rw [split] at whole
      rcases few with rfl | ⟨closing, rfl⟩
      · rw [← (List.cons.inj whole).1] at bracketed
        cases bracketed _ List.mem_cons_self
      · cases inner with
        | nil =>
            obtain ⟨-, rfl⟩ := List.cons.inj whole
            exact (dead _ live).elim
        | cons second others =>
            obtain ⟨rfl, -⟩ := List.cons.inj (List.cons.inj whole).2
            cases bracketed _ (List.mem_cons_of_mem _ List.mem_cons_self)

theorem live_documents (frames : List Frame) (documents : Nat) (rungs : List Rung) (live : Live frames documents rungs) :
    documents ≠ 0 := by
  induction live with
  | root position => exact Nat.succ_ne_zero position
  | value _ _ _ _ _ _ _ _ _ ih => exact ih
  | item _ _ _ _ _ _ _ _ _ _ _ _ ih => exact ih

theorem outside_notes (position documents : Nat) (rungs others : List Rung)
    (stands : Stands [⟨.document position, .top⟩] documents rungs) : Stands [⟨.document position, .top⟩] documents others := by
  cases stands with
  | outside => exact .outside _ _
  | fresh _ _ _ rung rest live => cases live
  | key _ inner own around _ passed host more split => cases inner <;> simp at split
  | flow _ top inner around _ _ split bracketed =>
      rw [← (List.cons.inj split).1] at bracketed
      cases bracketed _ List.mem_cons_self

theorem item_notes (frame : Frame) (outer : List Frame) (stands : Stands (frame :: outer) documents rungs)
    (made : frame.itemMark? = some (.item column)) (deeper : ∀ mark ∈ marks, mark.isDeeper (column + 1) = true)
    (again : documents ≠ 0 → ∃ left rung rest, rungs = left ++ rung :: rest ∧ rung.kind = .item ∧ rung.column = column ∧
      ∀ other ∈ left, other.holdsKey (column + 1) = false) :
    Stands (frame :: outer) documents (marks.foldl Trail.note ⟨documents, rungs⟩).rungs := by
  cases stands with
  | outside => cases made
  | read => cases made
  | fresh _ _ _ rung rest live empty noItem => simp [noItem] at made
  | item position style own _ _ passed host more known live counted holds closed =>
      obtain rfl : own = column := by simpa [itemMark?, known] using made
      obtain ⟨left, rung, rest, split, isItem, rfl, away⟩ := again (live_documents outer documents _ live)
      have passesRight (other : Rung) (right : other.holdsKey (rung.column + 1) = false) : other.holdsItem rung.column = false := by
        obtain ⟨isStep, less⟩ := (holds_key_false _ other).mp right
        simp [Rung.holdsItem, Rung.holdsKey, isStep]
        omega
      have passesOwn (items : Nat) : Rung.holdsItem rung.column { rung with items := items } = false := by
        simp [Rung.holdsItem, Rung.holdsKey, isItem, Outline.Kind.isStep]
      -- the item before this one is among what this one passes by
      have between : rest.dropWhile (!·.holdsItem rung.column) = host :: more := by
        rw [← Trail.drop_to_host (Rung.holdsItem rung.column) passed host more closed holds, split, List.append_cons,
          List.dropWhile_append_of_pos]
        intro other member
        rcases List.mem_append.mp member with before | same
        · simp [passesRight other (away other before)]
        · rw [List.mem_singleton.mp same]
          simp [passesOwn rung.items]
      obtain ⟨later, items, noted, further⟩ := Trail.notes_deeper documents (rung.column + 1) marks left rung rest deeper
        (by simp [Rung.holdsKey]) away
      rw [split, noted, ← List.takeWhile_append_dropWhile (p := (!·.holdsItem rung.column)) (l := rest), between,
        ← List.cons_append, ← List.append_assoc]
      refine .item position style rung.column outer documents _ host more known live counted holds fun other member => ?_
      rcases List.mem_append.mp member with before | after
      · exact passesRight other (further other before)
      · rcases List.mem_cons.mp after with rfl | inside
        · exact passesOwn items
        · simpa using List.all_eq_true.mp List.all_takeWhile other inside
  | key _ inner own around _ passed host more split live holds closed inside =>
      rw [split]
      refine inside_notes documents (column + 1) marks inner around own passed host more live holds closed ?_ inside deeper
      cases inner with
      | nil =>
          obtain ⟨rfl, -⟩ := List.cons.inj split
          cases made
      | cons first rest =>
          obtain ⟨rfl, -⟩ := List.cons.inj split
          obtain ⟨further, known, same⟩ := item_mark_column frame _ made
          obtain rfl := Landmark.item.inj same
          exact Nat.le_succ_of_le (inside _ List.mem_cons_self _ known)
  | flow _ top inner around _ _ split bracketed live =>
      obtain ⟨rfl, rfl⟩ := List.cons.inj split
      rw [(flow_marks frame "" (.empty 0) (bracketed frame List.mem_cons_self)).2] at made
      cases made

end

theorem mark_notes (source : Source) (frames after : List Frame) (event : LocatedEvent) (landmark : Landmark)
    (earlier own : List Landmark) (move : Move source frames event after (some landmark))
    (stands : Stands frames (Trail.along earlier).documents (Trail.along earlier).rungs)
    (deeper : ∀ other ∈ own, other.isDeeper landmark.reach = true) (counted : own = [] ∨ landmark.comesAgain earlier) :
    Stands frames (Trail.along (earlier ++ own)).documents (Trail.along (earlier ++ own)).rungs := by
  rw [Trail.along_split, Trail.notes_documents _ own _ deeper]
  rcases move_marker source frames after event landmark move with ⟨position, rfl⟩ | ⟨frame, outer, rfl, isItem⟩ |
    ⟨above, column, outer, name, region, rfl, few, rfl⟩
  · exact outside_notes position _ _ _ stands
  · obtain ⟨column, -, rfl⟩ := item_mark_column frame landmark isItem
    rcases counted with rfl | again
    · exact stands
    · exact item_notes _ column _ own frame outer stands isItem deeper fun begun => Trail.again_rungs column earlier begun again
  · exact key_notes _ column _ own above outer stands few deeper

theorem laid_append (source : Source) (frames between after : List Frame) (events others : List LocatedEvent)
    (marks further : List Landmark) (first : Laid source frames events between marks) (second : Laid source between others after further) :
    Laid source frames (events ++ others) after (marks ++ further) := by
  induction first with
  | done => exact second
  | move frames middle between event events mark marks moves rest ih =>
      rw [List.append_assoc]
      exact .move frames middle after event (events ++ others) mark (marks ++ further) moves (ih second)

theorem abreast_meets (source : Source) (events : List LocatedEvent) (after : List Frame) (first second own others : List Landmark)
    (landmark : Landmark) (laid : Laid source [⟨.document 0, .top⟩] events after (second ++ (others ++ [landmark])))
    (behind : ∀ earlier between, Laid source [⟨.document 0, .top⟩] earlier between second →
      Stands between (Trail.along first).documents (Trail.along first).rungs)
    (ownPassed : ∀ other ∈ own, other.isDeeper landmark.reach = true)
    (othersPassed : ∀ other ∈ others, other.isDeeper landmark.reach = true)
    (counted : own = [] ∨ landmark.comesAgain first) :
    ∃ before event rest between inner, events = before ++ event :: rest ∧
      Laid source [⟨.document 0, .top⟩] before between (second ++ others) ∧ Move source between event inner (some landmark) ∧
      Laid source inner rest after [] ∧
      Stands between (Trail.along (first ++ own)).documents (Trail.along (first ++ own)).rungs := by
  obtain ⟨earlier, later, met, rfl, before, onward⟩ := laid_split source _ after _ second _ laid
  obtain ⟨foreign, remaining, left, rfl, drifts, nearly⟩ := laid_split source met after _ others _ onward
  obtain ⟨idle, event, rest, between, inner, rfl, quiet, moves, behind_⟩ := laid_mark source left after _ landmark [] nearly
  have ruled := laid_ruled source _ met earlier second before (by simp [Ruled])
  have ruledLeft := laid_ruled source met left foreign others drifts ruled
  have nested := laid_nested source _ met earlier second before List.Pairwise.nil
  have nestedBetween := laid_nested source left between idle [] quiet (laid_nested source met left foreign others drifts nested)
  have apart := laid_drifts source landmark.reach met left foreign others _ _ drifts ruled othersPassed
    (.inr (behind earlier met before))
  have here : Stands between (Trail.along first).documents (Trail.along first).rungs := by
    rcases laid_drifts source landmark.reach left between idle [] _ _ quiet ruledLeft (List.forall_mem_nil _) apart with adrift | stands
    · exact adrift_marks source between inner event landmark _ _ moves nestedBetween adrift
    · exact stands
  refine ⟨earlier ++ (foreign ++ idle), event, rest, between, inner, by simp, ?_, moves, behind_, ?_⟩
  · have both := laid_append source met left between foreign idle others [] drifts quiet
    rw [List.append_nil] at both
    exact laid_append source _ met between earlier (foreign ++ idle) second others before both
  · exact mark_notes source between inner event landmark first own moves here ownPassed counted

theorem idle_stands (source : Source) (frames after : List Frame) (events : List LocatedEvent) (documents : Nat) (rungs : List Rung)
    (idle : Laid source frames events after []) (ruled : Ruled frames) (stands : Stands frames documents rungs) :
    Stands after documents rungs := by
  generalize none : ([] : List Landmark) = marks at idle
  induction idle with
  | done => exact stands
  | move frames between after event events mark marks first rest ih =>
      obtain ⟨silent, rfl⟩ := List.append_eq_nil_iff.mp none.symm
      obtain rfl := Option.toList_eq_nil_iff.mp silent
      exact ih (move_ruled source frames between event _ first ruled)
        (move_stands source frames between event _ documents rungs first ruled stands) rfl

theorem abreast_stands (source : Source) (first second : List Landmark) (abreast : Abreast first second) (events : List LocatedEvent)
    (after : List Frame) (laid : Laid source [⟨.document 0, .top⟩] events after second) :
    Stands after (Trail.along first).documents (Trail.along first).rungs := by
  induction abreast generalizing events after with
  | start => exact idle_stands source _ after events 0 [] laid (by simp [Ruled]) (.outside 0 [])
  | meet first second own others mark before ownPassed othersPassed counted ih =>
      obtain ⟨earlier, event, rest, between, inner, rfl, marked, moves, idle, stands⟩ :=
        abreast_meets source events after first second own others mark laid ih ownPassed othersPassed counted
      have ruled := laid_ruled source _ between earlier _ marked (by simp [Ruled])
      have onward := move_stands source between inner event _ _ _ moves ruled stands
      rw [← List.append_assoc, Trail.along_append]
      exact idle_stands source inner after rest _ _ idle (move_ruled source between inner event _ moves ruled) onward

end Frame

def TextReader.LaidOut (read : TextReader) (marks : List Char → List Landmark) : Prop :=
  ∀ chars events, read chars = .ok events →
    ∃ frames, Frame.Laid ⟨chars, chars⟩ [⟨.document 0, .top⟩] events frames (marks chars)

end YamlDialects.Yaml
