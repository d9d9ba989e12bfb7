import YamlDialects.Proofs.Landmark
import YamlDialects.Proofs.Yaml.Walk

set_option autoImplicit false

namespace YamlDialects.Yaml

namespace Slot

def isOpen : Slot → Bool
  | .root => true
  | .key => true
  | .value _ => true
  | .item _ => true
  | _ => false

def next (name : String) : Slot → Slot
  | .root => .read
  | .key => .value name
  | .value _ => .key
  | .item position => .item (position + 1)
  | slot => slot

theorem done_of_open (name : String) (slot : Slot) (outer : List Slot) (open_ : slot.isOpen = true) :
    done? name (slot :: outer) = some (slot.next name :: outer) := by
  cases slot <;> first | rfl | cases open_

end Slot

-- How a collection is written: as a block, as a sequence without indentation in the mapping around it, or in brackets.
inductive Style where
  | top
  | block (column : Nat)
  | dash (column : Nat)
  | flow
deriving DecidableEq

namespace Style

def column? : Style → Option Nat
  | .block column => some column
  | .dash column => some column
  | _ => none

def block? : Style → Option Nat
  | .block column => some column
  | _ => none

end Style

structure Frame where
  slot : Slot
  style : Style
deriving DecidableEq

namespace Frame

def next (name : String) (frame : Frame) : Frame :=
  { frame with slot := frame.slot.next name }

def columns (frames : List Frame) : List Nat :=
  frames.filterMap fun frame => frame.style.block?

theorem columns_cons (frame : Frame) (outer : List Frame) :
    columns (frame :: outer) = frame.style.block?.toList ++ columns outer := by
  cases known : frame.style.block? <;> simp [columns, known]

def slots (frames : List Frame) : List Slot :=
  frames.map Frame.slot

def keyMark? (name : String) (region : Region) : Frame → Option Landmark
  | ⟨.key, .block column⟩ => some (.key column name region)
  | _ => none

def itemMark? : Frame → Option Landmark
  | ⟨.item _, style⟩ => style.column?.map .item
  | _ => none

def Ruled : List Frame → Prop
  | [] => True
  | frame :: outer => (∀ column, frame.style = .dash column → (columns outer).head? = some column) ∧ Ruled outer

theorem head_column (frame : Frame) (outer : List Frame) (column : Nat) (ruled : Ruled (frame :: outer))
    (known : frame.style.column? = some column) : (columns (frame :: outer)).head? = some column := by
  obtain ⟨slot, style⟩ := frame
  cases style with
  | block own => exact known
  | dash own =>
      obtain rfl := Option.some.inj known
      exact ruled.1 own rfl
  | top => cases known
  | flow => cases known

inductive Opens (frame : Frame) (outer : List Frame) : Frame → Prop where
  | flow (slot : Slot) : Opens frame outer ⟨slot, .flow⟩
  | block (slot : Slot) (column : Nat) (inBlock : frame.style ≠ .flow)
      (deeper : ∀ around ∈ (columns (frame :: outer)).head?, around < column) : Opens frame outer ⟨slot, .block column⟩
  | dash (column : Nat) (inMapping : frame.slot = .key ∨ ∃ name, frame.slot = .value name)
      (around : frame.style = .block column) : Opens frame outer ⟨.item 0, .dash column⟩

-- One event and the landmark it makes.
inductive Move (source : Source) : List Frame → LocatedEvent → List Frame → Option Landmark → Prop where
  | start (position : Nat) (event : LocatedEvent) (begins : event.event = .documentStart) :
      Move source [⟨.document position, .top⟩] event [⟨.root, .top⟩, ⟨.document position, .top⟩] (some .document)
  | finish (position : Nat) (event : LocatedEvent) (ends : event.event = .documentEnd) :
      Move source [⟨.read, .top⟩, ⟨.document position, .top⟩] event [⟨.document (position + 1), .top⟩] none
  | leaf (frame : Frame) (outer : List Frame) (event : LocatedEvent) (name : String) (region : Region)
      (open_ : frame.slot.isOpen = true) (leaf : Composer.leaf? source 0 event = some (.scalar name region)) :
      Move source (frame :: outer) event (frame.next name :: outer) ((frame.keyMark? name region).or frame.itemMark?)
  | opens (frame opened : Frame) (outer : List Frame) (event : LocatedEvent) (open_ : frame.slot.isOpen = true)
      (starts : ((∃ properties, event.event = .mappingStart properties) ∧ opened.slot = .key) ∨
        ((∃ properties, event.event = .sequenceStart properties) ∧ opened.slot = .item 0))
      (fits : Opens frame outer opened) : Move source (frame :: outer) event (opened :: frame :: outer) frame.itemMark?
  | closes (closed frame : Frame) (outer : List Frame) (event : LocatedEvent) (open_ : frame.slot.isOpen = true)
      (ends : (event.event = .mappingEnd ∧ closed.slot = .key) ∨
        (event.event = .sequenceEnd ∧ ∃ position, closed.slot = .item position)) :
      Move source (closed :: frame :: outer) event (frame.next "" :: outer) (frame.keyMark? "" (.empty 0))

theorem move_walks (source : Source) (frames after : List Frame) (event : LocatedEvent) (mark : Option Landmark)
    (move : Move source frames event after mark) : Composer.walk source (slots frames) event = some (slots after) := by
  cases move with
  | start position _ begins => simp [Composer.walk, begins, slots]
  | finish position _ ends => simp [Composer.walk, ends, slots]
  | leaf frame outer _ name region open_ leaf =>
      have known := Composer.leaf_name source 0 event _ leaf
      have walks : Composer.walk source (slots (frame :: outer)) event =
          Slot.done? (Composer.leafName source event) (slots (frame :: outer)) := by
        unfold Composer.walk
        cases kind : event.event <;> first | rfl | simp [Composer.leaf?, kind] at leaf
      rw [walks, known]
      exact Slot.done_of_open name frame.slot (slots outer) open_
  | opens frame opened outer _ open_ starts fits =>
      have done := Slot.done_of_open "" frame.slot (slots outer) open_
      rcases starts with ⟨⟨properties, begins⟩, isKey⟩ | ⟨⟨properties, begins⟩, isItem⟩
      · simp only [Composer.walk, begins, slots, List.map_cons, isKey]
        rw [show Slot.done? "" (frame.slot :: outer.map Frame.slot) = _ from done]
        rfl
      · simp only [Composer.walk, begins, slots, List.map_cons, isItem]
        rw [show Slot.done? "" (frame.slot :: outer.map Frame.slot) = _ from done]
        rfl
  | closes closed frame outer _ open_ ends =>
      have done := Slot.done_of_open "" frame.slot (slots outer) open_
      rcases ends with ⟨closes, isKey⟩ | ⟨closes, position, isItem⟩
      · simp only [Composer.walk, closes, slots, List.map_cons, isKey]
        exact done
      · simp only [Composer.walk, closes, slots, List.map_cons, isItem]
        exact done

theorem ruled_next (name : String) (frame : Frame) (outer : List Frame) (ruled : Ruled (frame :: outer)) :
    Ruled (frame.next name :: outer) :=
  ruled

theorem move_ruled (source : Source) (frames after : List Frame) (event : LocatedEvent) (mark : Option Landmark)
    (move : Move source frames event after mark) (ruled : Ruled frames) : Ruled after := by
  cases move with
  | start => simp [Ruled]
  | finish => simp [Ruled]
  | leaf frame outer => exact ruled_next _ frame outer ruled
  | opens frame opened outer _ open_ starts fits =>
      refine ⟨fun column isDash => ?_, ruled⟩
      cases fits with
      | flow => cases isDash
      | block => cases isDash
      | dash own inMapping around =>
          obtain rfl := Style.dash.inj isDash
          simp [columns, around, Style.block?]
  | closes closed frame outer => exact ruled_next _ frame outer ruled.2

inductive Live : List Frame → Nat → List Rung → Prop where
  | root (position items : Nat) : Live [⟨.root, .top⟩, ⟨.document position, .top⟩] (position + 1)
      [⟨.document, 0, .index position, items⟩]
  | value (name : String) (column : Nat) (outer : List Frame) (documents : Nat) (host : Rung) (more : List Rung) (items : Nat)
      (below : Live outer documents (host :: more)) (holds : host.holdsKey column = true) :
      Live (⟨.value name, .block column⟩ :: outer) documents (⟨.key, column, .value name, items⟩ :: host :: more)
  | item (position : Nat) (style : Style) (column : Nat) (outer : List Frame) (documents : Nat) (host : Rung) (more : List Rung)
      (items : Nat) (known : style.column? = some column) (below : Live outer documents (host :: more))
      (counted : host.items = position + 1) (holds : host.holdsItem column = true) :
      Live (⟨.item position, style⟩ :: outer) documents (⟨.item, column, .index position, items⟩ :: host :: more)

inductive Stands : List Frame → Nat → List Rung → Prop where
  | outside (position : Nat) (rungs : List Rung) : Stands [⟨.document position, .top⟩] position rungs
  | read (position : Nat) (rungs : List Rung) : Stands [⟨.read, .top⟩, ⟨.document position, .top⟩] (position + 1) rungs
  | fresh (frame : Frame) (outer : List Frame) (documents : Nat) (rung : Rung) (rest : List Rung)
      (live : Live (frame :: outer) documents (rung :: rest)) (empty : rung.items = 0)
      (noItem : frame.itemMark? = none) : Stands (frame :: outer) documents (rung :: rest)
  | item (position : Nat) (style : Style) (column : Nat) (outer : List Frame) (documents : Nat) (passed : List Rung) (host : Rung)
      (more : List Rung) (known : style.column? = some column) (live : Live outer documents (host :: more))
      (counted : host.items = position) (holds : host.holdsItem column = true)
      (closed : ∀ rung ∈ passed, rung.holdsItem column = false) :
      Stands (⟨.item position, style⟩ :: outer) documents (passed ++ host :: more)
  | key (frames inner : List Frame) (column : Nat) (outer : List Frame) (documents : Nat) (passed : List Rung) (host : Rung)
      (more : List Rung) (split : frames = inner ++ ⟨.key, .block column⟩ :: outer) (live : Live outer documents (host :: more))
      (holds : host.holdsKey column = true) (closed : ∀ rung ∈ passed, rung.holdsKey column = false)
      (inside : ∀ frame ∈ inner, ∀ own ∈ frame.style.column?, column ≤ own) : Stands frames documents (passed ++ host :: more)
  | flow (frames : List Frame) (frame : Frame) (inner outer : List Frame) (documents : Nat) (rungs : List Rung)
      (split : frames = frame :: (inner ++ outer)) (bracketed : ∀ other ∈ frame :: inner, other.style = .flow)
      (live : Live outer documents rungs) : Stands frames documents rungs

theorem live_items (frames : List Frame) (documents : Nat) (rung : Rung) (rest : List Rung) (items : Nat)
    (live : Live frames documents (rung :: rest)) : Live frames documents ({ rung with items := items } :: rest) := by
  cases live with
  | root position => exact .root position items
  | value name column outer _ host more _ below holds => exact .value name column outer _ host more items below holds
  | item position style column outer _ host more _ known below counted holds =>
      exact .item position style column outer _ host more items known below counted holds

theorem live_path (frames : List Frame) (documents : Nat) (rungs : List Rung) (live : Live frames documents rungs) :
    (rungs.map Rung.segment).reverse = Slot.path (slots frames) := by
  induction live with
  | root => rfl
  | value name column outer _ host more items below holds ih =>
      rw [List.map_cons, List.reverse_cons, ih]
      simp [Slot.path, slots, Slot.segment?]
  | item position style column outer _ host more items known below counted holds ih =>
      rw [List.map_cons, List.reverse_cons, ih]
      simp [Slot.path, slots, Slot.segment?]

theorem holds_key_false (column : Nat) (rung : Rung) :
    rung.holdsKey column = false ↔ rung.kind.isStep = true ∧ column ≤ rung.column := by
  simp [Rung.holdsKey]

theorem live_closes (frame : Frame) (outer : List Frame) (documents : Nat) (passed : List Rung) (host : Rung) (more : List Rung)
    (name : String) (live : Live (frame :: outer) documents (host :: more))
    (closed : ∀ rung ∈ passed, ∃ column, rung.holdsKey column = false ∧ host.holdsItem column = true) :
    Stands (frame.next name :: outer) documents (passed ++ host :: more) := by
  cases live with
  | root position => exact .read position _
  | value name column _ _ host more items below holds =>
      rw [List.append_cons passed]
      refine .key _ [] column outer documents _ host more rfl below holds (fun rung member => ?_) (by simp)
      rw [holds_key_false]
      rcases List.mem_append.mp member with before | same
      · obtain ⟨deeper, away, held⟩ := closed rung before
        obtain ⟨isStep, le⟩ := (holds_key_false deeper rung).mp away
        simp only [Rung.holdsItem, Rung.holdsKey, Outline.Kind.isStep, Bool.or_eq_true, Bool.and_eq_true, decide_eq_true_eq] at held
        exact ⟨isStep, by simp at held; omega⟩
      · rw [List.mem_singleton.mp same]
        exact ⟨rfl, Nat.le_refl _⟩
  | item position style column _ _ host more items known below counted holds =>
      rw [List.append_cons passed]
      refine .item (position + 1) style column outer documents _ host more known below counted holds fun rung member => ?_
      rcases List.mem_append.mp member with before | same
      · obtain ⟨deeper, away, held⟩ := closed rung before
        obtain ⟨isStep, le⟩ := (holds_key_false deeper rung).mp away
        simp only [Rung.holdsItem, Rung.holdsKey, Outline.Kind.isStep, Bool.or_eq_true, Bool.and_eq_true, decide_eq_true_eq] at held
        simp only [Rung.holdsItem, Rung.holdsKey, isStep]
        simp at held ⊢
        omega
      · rw [List.mem_singleton.mp same]
        simp [Rung.holdsItem, Rung.holdsKey, Outline.Kind.isStep]

theorem live_holds (frame : Frame) (outer : List Frame) (documents : Nat) (rung : Rung) (rest : List Rung) (column : Nat)
    (live : Live (frame :: outer) documents (rung :: rest)) (ruled : Ruled (frame :: outer))
    (deeper : ∀ around ∈ (columns (frame :: outer)).head?, around < column) : rung.holdsKey column = true := by
  cases live with
  | root => rfl
  | value name own _ _ host more items below holds =>
      have less := deeper own (head_column _ outer own ruled rfl)
      simpa [Rung.holdsKey, Outline.Kind.isStep] using less
  | item position style own _ _ host more items known below counted holds =>
      have less := deeper own (head_column _ outer own ruled known)
      simpa [Rung.holdsKey, Outline.Kind.isStep] using less

theorem live_opens (frame opened : Frame) (outer : List Frame) (documents : Nat) (rung : Rung) (rest : List Rung)
    (live : Live (frame :: outer) documents (rung :: rest)) (empty : rung.items = 0) (ruled : Ruled (frame :: outer))
    (fits : Opens frame outer opened) (starts : opened.slot = .key ∨ opened.slot = .item 0) :
    Stands (opened :: frame :: outer) documents (rung :: rest) := by
  cases fits with
  | flow slot => exact .flow _ ⟨slot, .flow⟩ [] (frame :: outer) documents _ rfl (by simp) live
  | block slot column inBlock deeper =>
      have holds := live_holds frame outer documents rung rest column live ruled deeper
      rcases starts with isKey | isItem
      · obtain rfl : slot = .key := isKey
        exact .key _ [] column (frame :: outer) documents [] rung rest rfl live holds (by simp) (by simp)
      · obtain rfl : slot = .item 0 := isItem
        exact .item 0 (.block column) column (frame :: outer) documents [] rung rest rfl live empty
          (by rw [Rung.holdsItem, holds, Bool.true_or]) (by simp)
  | dash column inMapping around =>
      refine .item 0 (.dash column) column (frame :: outer) documents [] rung rest rfl live empty ?_ (by simp)
      cases live with
      | root => simp at around
      | value name own _ _ host more items below holds =>
          obtain rfl := Style.block.inj around
          simp [Rung.holdsItem]
      | item => simp at inMapping

theorem note_item_live (position : Nat) (style : Style) (column : Nat) (outer : List Frame) (documents : Nat) (passed : List Rung)
    (host : Rung) (more : List Rung) (known : style.column? = some column) (live : Live outer documents (host :: more))
    (counted : host.items = position) (holds : host.holdsItem column = true)
    (closed : ∀ rung ∈ passed, rung.holdsItem column = false) :
    ∃ rung rest, Trail.note ⟨documents, passed ++ host :: more⟩ (.item column) = ⟨documents, rung :: rest⟩ ∧ rung.items = 0 ∧
      Live (⟨.item position, style⟩ :: outer) documents (rung :: rest) := by
  refine ⟨_, _, Trail.note_item documents column passed host more closed holds, rfl, ?_⟩
  rw [counted]
  exact .item position style column outer documents host.addItem more 0 known
    (live_items outer documents host more (host.items + 1) live) (by rw [Rung.addItem, counted]) holds

theorem note_key_live (column : Nat) (name : String) (region : Region) (outer : List Frame) (documents : Nat) (passed : List Rung)
    (host : Rung) (more : List Rung) (live : Live outer documents (host :: more)) (holds : host.holdsKey column = true)
    (closed : ∀ rung ∈ passed, rung.holdsKey column = false) :
    ∃ rung, Trail.note ⟨documents, passed ++ host :: more⟩ (.key column name region) = ⟨documents, rung :: host :: more⟩ ∧
      rung.segment = .value name ∧ Stands (⟨.value name, .block column⟩ :: outer) documents (rung :: host :: more) :=
  ⟨_, Trail.note_key documents column name region passed host more closed holds, rfl,
    .fresh _ outer documents _ _ (.value name column outer documents host more 0 live holds) rfl rfl⟩

def noted (trail : Trail) (mark : Option Landmark) : Trail :=
  mark.toList.foldl Trail.note trail

theorem noted_some (trail : Trail) (landmark : Landmark) : noted trail (some landmark) = trail.note landmark :=
  rfl

theorem item_deeper (column own : Nat) (le : column ≤ own) : (Landmark.item own).isDeeper column = true := by
  simpa [Landmark.isDeeper, Landmark.column?] using le

theorem key_deeper (column own : Nat) (name : String) (region : Region) (le : column ≤ own) :
    (Landmark.key own name region).isDeeper column = true := by
  simpa [Landmark.isDeeper, Landmark.column?] using le

theorem note_inside (after : List Frame) (column : Nat) (outer : List Frame) (documents : Nat) (passed : List Rung) (host : Rung)
    (more : List Rung) (mark : Option Landmark) (live : Live outer documents (host :: more)) (holds : host.holdsKey column = true)
    (closed : ∀ rung ∈ passed, rung.holdsKey column = false)
    (deeper : ∀ landmark ∈ mark, landmark.isDeeper column = true)
    (inside : ∀ frame ∈ after, ∀ own ∈ frame.style.column?, column ≤ own) :
    Stands (after ++ ⟨.key, .block column⟩ :: outer) (noted ⟨documents, passed ++ host :: more⟩ mark).documents
      (noted ⟨documents, passed ++ host :: more⟩ mark).rungs := by
  cases mark with
  | none => exact .key _ after column outer documents passed host more rfl live holds closed inside
  | some landmark =>
      obtain ⟨left, items, same, away⟩ := Trail.note_deeper documents column landmark passed host more (deeper landmark rfl) holds closed
      rw [noted_some, same]
      exact .key _ after column outer documents left _ more rfl (live_items outer documents host more items live) holds away inside

theorem item_mark_column (frame : Frame) (landmark : Landmark) (marks : frame.itemMark? = some landmark) :
    ∃ own, frame.style.column? = some own ∧ landmark = .item own := by
  obtain ⟨slot, style⟩ := frame
  cases slot with
  | item position =>
      obtain ⟨own, known, rfl⟩ := Option.map_eq_some_iff.mp marks
      exact ⟨own, known, rfl⟩
  | _ => cases marks

theorem key_mark_column (frame : Frame) (name : String) (region : Region) (landmark : Landmark)
    (marks : frame.keyMark? name region = some landmark) :
    ∃ own, frame = ⟨.key, .block own⟩ ∧ landmark = .key own name region := by
  unfold keyMark? at marks
  split at marks
  next own => exact ⟨own, rfl, (Option.some.inj marks).symm⟩
  next => cases marks

theorem live_marks (frame : Frame) (outer : List Frame) (documents : Nat) (rungs : List Rung) (name : String) (region : Region)
    (live : Live (frame :: outer) documents rungs) : frame.keyMark? name region = none := by
  cases live <;> rfl

theorem flow_marks (frame : Frame) (name : String) (region : Region) (isFlow : frame.style = .flow) :
    frame.keyMark? name region = none ∧ frame.itemMark? = none := by
  obtain ⟨slot, style⟩ := frame
  obtain rfl : style = .flow := isFlow
  cases slot <;> exact ⟨rfl, rfl⟩

theorem leaf_stands (frame : Frame) (outer : List Frame) (documents : Nat) (rungs : List Rung) (name : String) (region : Region)
    (stands : Stands (frame :: outer) documents rungs) (open_ : frame.slot.isOpen = true) :
    Stands (frame.next name :: outer) (noted ⟨documents, rungs⟩ ((frame.keyMark? name region).or frame.itemMark?)).documents
      (noted ⟨documents, rungs⟩ ((frame.keyMark? name region).or frame.itemMark?)).rungs := by
  cases stands with
  | outside => cases open_
  | read => cases open_
  | fresh _ _ _ rung rest live empty noItem =>
      rw [live_marks frame outer documents _ name region live, noItem]
      exact live_closes frame outer documents [] rung rest name live (by simp)
  | item position style column _ _ passed host more known live counted holds closed =>
      obtain ⟨rung, rest, notes, -, inside⟩ :=
        note_item_live position style column outer documents passed host more known live counted holds closed
      have marks : itemMark? ⟨.item position, style⟩ = some (.item column) := by rw [itemMark?, known]; rfl
      rw [show keyMark? name region ⟨.item position, style⟩ = none from rfl, marks, Option.none_or, noted_some, notes]
      exact live_closes ⟨.item position, style⟩ outer documents [] rung rest name inside (by simp)
  | key _ inner column around _ passed host more split live holds closed inside =>
      cases inner with
      | nil =>
          obtain ⟨rfl, rfl⟩ := List.cons.inj split
          obtain ⟨rung, notes, -, stands⟩ := note_key_live column name region outer documents passed host more live holds closed
          rw [show keyMark? name region ⟨.key, .block column⟩ = some (.key column name region) from rfl, Option.some_or, noted_some, notes]
          exact stands
      | cons first others =>
          obtain ⟨rfl, rfl⟩ := List.cons.inj split
          refine note_inside (frame.next name :: others) column around documents passed host more _ live holds closed ?_
            (List.forall_mem_cons.mpr (List.forall_mem_cons.mp inside))
          intro landmark marks
          rcases Option.or_eq_some_iff.mp marks with isKey | ⟨-, isItem⟩
          · obtain ⟨own, rfl, rfl⟩ := key_mark_column frame name region landmark isKey
            exact key_deeper column own name region (inside _ List.mem_cons_self own rfl)
          · obtain ⟨own, known, rfl⟩ := item_mark_column frame landmark isItem
            exact item_deeper column own (inside _ List.mem_cons_self own known)
  | flow _ top inner around _ _ split bracketed live =>
      obtain ⟨rfl, rfl⟩ := List.cons.inj split
      obtain ⟨noKey, noItem⟩ := flow_marks frame name region (bracketed frame List.mem_cons_self)
      rw [noKey, noItem]
      refine .flow _ (frame.next name) inner around documents rungs rfl ?_ live
      exact List.forall_mem_cons.mpr ⟨bracketed frame List.mem_cons_self, fun other member => bracketed other (List.mem_cons_of_mem _ member)⟩

theorem columns_append (inner outer : List Frame) (slot : Slot) (column : Nat) :
    columns (inner ++ ⟨slot, .block column⟩ :: outer) = columns inner ++ column :: columns outer := by
  simp [columns, Style.block?]

theorem opens_right (frame opened : Frame) (outer : List Frame) (column innermost : Nat)
    (head : (columns (frame :: outer)).head? = some innermost) (le : column ≤ innermost) (fits : Opens frame outer opened) :
    ∀ own ∈ opened.style.column?, column ≤ own := by
  intro own known
  cases fits with
  | flow => cases known
  | block slot further inBlock deeper =>
      obtain rfl := Option.some.inj known
      exact Nat.le_of_lt (Nat.lt_of_le_of_lt le (deeper innermost head))
  | dash further inMapping around =>
      obtain rfl := Option.some.inj known
      have same : (columns (frame :: outer)).head? = some further := by simp [columns, around, Style.block?]
      rw [same] at head
      obtain rfl := Option.some.inj head
      exact le

theorem opens_inside (frame opened : Frame) (outer inner : List Frame) (slot : Slot) (column own : Nat) (around : List Frame)
    (split : frame :: outer = inner ++ ⟨slot, .block own⟩ :: around) (le : column ≤ own) (fits : Opens frame outer opened)
    (inside : ∀ other ∈ inner, ∀ further ∈ other.style.column?, column ≤ further) :
    ∀ further ∈ opened.style.column?, column ≤ further := by
  -- the innermost block is this one or inside it
  obtain ⟨innermost, head, lower⟩ : ∃ innermost, (columns (frame :: outer)).head? = some innermost ∧ column ≤ innermost := by
    rw [split, columns_append]
    cases blocks : columns inner with
    | nil => exact ⟨own, rfl, le⟩
    | cons first rest =>
        refine ⟨first, rfl, ?_⟩
        have member : first ∈ columns inner := by rw [blocks]; exact List.mem_cons_self
        obtain ⟨other, among, known⟩ := List.mem_filterMap.mp member
        refine inside other among first ?_
        cases style : other.style <;> simp_all [Style.block?, Style.column?]
  exact opens_right frame opened outer column innermost head lower fits

theorem opens_stands (frame opened : Frame) (outer : List Frame) (documents : Nat) (rungs : List Rung)
    (stands : Stands (frame :: outer) documents rungs) (ruled : Ruled (frame :: outer)) (open_ : frame.slot.isOpen = true)
    (fits : Opens frame outer opened) (starts : opened.slot = .key ∨ opened.slot = .item 0) :
    Stands (opened :: frame :: outer) (noted ⟨documents, rungs⟩ frame.itemMark?).documents
      (noted ⟨documents, rungs⟩ frame.itemMark?).rungs := by
  cases stands with
  | outside => cases open_
  | read => cases open_
  | fresh _ _ _ rung rest live empty noItem =>
      rw [noItem]
      exact live_opens frame opened outer documents rung rest live empty ruled fits starts
  | item position style column _ _ passed host more known live counted holds closed =>
      obtain ⟨rung, rest, notes, empty, inside⟩ :=
        note_item_live position style column outer documents passed host more known live counted holds closed
      have marks : itemMark? ⟨.item position, style⟩ = some (.item column) := by rw [itemMark?, known]; rfl
      rw [marks, noted_some, notes]
      exact live_opens _ opened outer documents rung rest inside empty ruled fits starts
  | key _ inner column around _ passed host more split live holds closed inside =>
      have deep := opens_inside frame opened outer inner .key column column around split (Nat.le_refl _) fits inside
      rw [split]
      refine note_inside (opened :: inner) column around documents passed host more _ live holds closed ?_
        (List.forall_mem_cons.mpr ⟨deep, inside⟩)
      intro landmark marks
      obtain ⟨own, known, rfl⟩ := item_mark_column frame landmark marks
      cases inner with
      | nil =>
          obtain ⟨rfl, -⟩ := List.cons.inj split
          cases marks
      | cons first others =>
          obtain ⟨rfl, -⟩ := List.cons.inj split
          exact item_deeper column own (inside _ List.mem_cons_self own known)
  | flow _ top inner around _ _ split bracketed live =>
      obtain ⟨rfl, rfl⟩ := List.cons.inj split
      have isFlow := bracketed frame List.mem_cons_self
      rw [(flow_marks frame "" (.empty 0) isFlow).2]
      have flows : opened.style = .flow := by
        cases fits with
        | flow => rfl
        | block slot column inBlock => exact absurd isFlow inBlock
        | dash column inMapping block => rw [isFlow] at block; cases block
      exact .flow _ opened (frame :: inner) around documents rungs rfl (List.forall_mem_cons.mpr ⟨flows, bracketed⟩) live

theorem closes_stands (closed frame : Frame) (outer : List Frame) (documents : Nat) (rungs : List Rung)
    (stands : Stands (closed :: frame :: outer) documents rungs)
    (ends : closed.slot = .key ∨ ∃ position, closed.slot = .item position) :
    Stands (frame.next "" :: outer) (noted ⟨documents, rungs⟩ (frame.keyMark? "" (.empty 0))).documents
      (noted ⟨documents, rungs⟩ (frame.keyMark? "" (.empty 0))).rungs := by
  cases stands with
  | read => simp at ends
  | fresh _ _ _ rung rest live empty noItem =>
      cases live with
      | root => simp at ends
      | value => simp at ends
      | item position style column _ _ host more items known => simp [itemMark?, known] at noItem
  | item position style column _ _ passed host more known live counted holds away =>
      rw [live_marks frame outer documents _ "" _ live]
      refine live_closes frame outer documents passed host more "" live fun rung member => ⟨column, ?_, holds⟩
      have none := away rung member
      rw [Rung.holdsItem, Bool.or_eq_false_iff] at none
      exact none.1
  | key _ inner column around _ passed host more split live holds away inside =>
      cases inner with
      | nil =>
          obtain ⟨rfl, rfl⟩ := List.cons.inj split
          rw [live_marks frame outer documents _ "" _ live]
          exact live_closes frame outer documents passed host more "" live fun rung member =>
            ⟨column, away rung member, by rw [Rung.holdsItem, holds, Bool.true_or]⟩
      | cons first others =>
          obtain ⟨rfl, onward⟩ := List.cons.inj split
          cases others with
          | nil =>
              obtain ⟨rfl, rfl⟩ := List.cons.inj onward
              obtain ⟨rung, notes, -, stands⟩ := note_key_live column "" (.empty 0) outer documents passed host more live holds away
              rw [show keyMark? "" (.empty 0) ⟨.key, .block column⟩ = some (.key column "" (.empty 0)) from rfl, noted_some, notes]
              exact stands
          | cons second others =>
              obtain ⟨rfl, rfl⟩ := List.cons.inj onward
              have deep := (List.forall_mem_cons.mp inside).2
              refine note_inside (frame.next "" :: others) column around documents passed host more _ live holds away ?_
                (List.forall_mem_cons.mpr (List.forall_mem_cons.mp deep))
              intro landmark marks
              obtain ⟨own, rfl, rfl⟩ := key_mark_column frame "" _ landmark marks
              exact key_deeper column own "" _ (deep _ List.mem_cons_self own rfl)
  | flow _ top inner around _ _ split bracketed live =>
      obtain ⟨rfl, onward⟩ := List.cons.inj split
      cases inner with
      | nil =>
          obtain rfl : frame :: outer = around := onward
          obtain ⟨rung, rest, rfl⟩ : ∃ rung rest, rungs = rung :: rest := by cases live <;> exact ⟨_, _, rfl⟩
          rw [live_marks frame outer documents _ "" _ live]
          exact live_closes frame outer documents [] rung rest "" live (by simp)
      | cons second others =>
          obtain ⟨rfl, rfl⟩ := List.cons.inj onward
          have flows := (List.forall_mem_cons.mp bracketed).2
          rw [(flow_marks frame "" _ (flows frame List.mem_cons_self)).1]
          exact .flow _ (frame.next "") others around documents rungs rfl
            (List.forall_mem_cons.mpr (List.forall_mem_cons.mp flows)) live

theorem move_stands (source : Source) (frames after : List Frame) (event : LocatedEvent) (mark : Option Landmark) (documents : Nat)
    (rungs : List Rung) (move : Move source frames event after mark) (ruled : Ruled frames) (stands : Stands frames documents rungs) :
    Stands after (noted ⟨documents, rungs⟩ mark).documents (noted ⟨documents, rungs⟩ mark).rungs := by
  cases move with
  | start position _ begins =>
      cases stands with
      | outside => exact .fresh _ _ _ _ _ (.root _ 0) rfl rfl
      | fresh _ _ _ rung rest live => cases live
      | key _ inner column around _ passed host more split => cases inner <;> simp at split
      | flow _ top inner around _ _ split bracketed =>
          rw [← (List.cons.inj split).1] at bracketed
          simp at bracketed
  | finish position _ ends =>
      cases stands with
      | read => exact .outside _ _
      | fresh _ _ _ rung rest live => cases live
      | key _ inner column around _ passed host more split => rcases inner with _ | ⟨_, _ | _⟩ <;> simp at split
      | flow _ top inner around _ _ split bracketed =>
          rw [← (List.cons.inj split).1] at bracketed
          simp at bracketed
  | leaf frame outer _ name region open_ => exact leaf_stands frame outer documents rungs name region stands open_
  | opens frame opened outer _ open_ starts fits =>
      exact opens_stands frame opened outer documents rungs stands ruled open_ fits (starts.imp And.right And.right)
  | closes closed frame outer _ open_ ends =>
      exact closes_stands closed frame outer documents rungs stands (ends.imp And.right And.right)

end Frame
end YamlDialects.Yaml
