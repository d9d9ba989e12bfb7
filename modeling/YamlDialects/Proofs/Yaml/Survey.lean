import YamlDialects.Proofs.Yaml.Abreast
import YamlDialects.Proofs.Yaml.Event.Turn

set_option autoImplicit false

namespace YamlDialects.Yaml

def ReaderState.opensBlock : ReaderState → Bool
  | .blockMappingStart => true
  | .blockSequenceStart => true
  | _ => false

structure Passage where
  before : ReaderState
  event : LocatedEvent
  after : ReaderState

namespace Passage

def left (columns : List Nat) (passage : Passage) : List Nat :=
  if passage.before.closesBlock passage.event.event then columns.tail else columns

def entered (columns : List Nat) (passage : Passage) : List Nat :=
  if passage.after.opensBlock then passage.event.span.start.column :: passage.left columns else passage.left columns

def nodeMark? (column : Nat) (key? : Option Node) : ReaderState → Option Landmark
  | .blockMappingStart => key?.map fun key => .key column (key.scalar?.getD "") key.region
  | .blockMappingKey => key?.map fun key => .key column (key.scalar?.getD "") key.region
  | .blockSequenceStart => some (.item column)
  | .blockSequenceEntry => some (.item column)
  | .indentlessEntry => some (.item column)
  | _ => none

-- A key that is a collection is met where it ends, and has no name.
def endMark? (column : Nat) (after : ReaderState) : Option Landmark :=
  if after = .blockMappingValue then some (.key column "" (.empty 0)) else none

def landmark? (source : Source) (columns : List Nat) (passage : Passage) : Option Landmark :=
  let column := (passage.left columns).headD 0
  match passage.event.event with
  | .documentStart => some .document
  | .documentEnd => none
  | .mappingEnd => endMark? column passage.after
  | .sequenceEnd => endMark? column passage.after
  | _ => nodeMark? column (Composer.leaf? source 0 passage.event) passage.before

def landmarks (source : Source) : List Nat → List Passage → List Landmark
  | _, [] => []
  | columns, passage :: rest => (passage.landmark? source columns).toList ++ landmarks source (passage.entered columns) rest

end Passage

def Reader.passages : Nat → Reader → List Passage
  | 0, _ => []
  | fuel + 1, reader =>
      match reader.step with
      | .ok (some event, next) => ⟨reader.state, event, next.state⟩ :: passages fuel next
      | _ => []

def passages (chars : List Char) : List Passage :=
  Reader.passages (16 * chars.length + 64) { lexer := Lexer.start chars }

-- The landmarks of a text.
def landmarks (chars : List Char) : List Landmark :=
  Passage.landmarks ⟨chars, chars⟩ [] (passages chars)

namespace Frame

inductive Now : ReaderState → Frame → Prop where
  | blockKey (state : ReaderState) (column : Nat) (isKey : state = .blockMappingStart ∨ state = .blockMappingKey) :
      Now state ⟨.key, .block column⟩
  | blockValue (name : String) (column : Nat) : Now .blockMappingValue ⟨.value name, .block column⟩
  | blockItem (state : ReaderState) (position column : Nat) (isEntry : state = .blockSequenceStart ∨ state = .blockSequenceEntry) :
      Now state ⟨.item position, .block column⟩
  | dash (position column : Nat) : Now .indentlessEntry ⟨.item position, .dash column⟩
  | flowItem (state : ReaderState) (position : Nat) (isEntry : state = .flowSequenceStart ∨ state = .flowSequenceEntry) :
      Now state ⟨.item position, .flow⟩
  | flowKey (state : ReaderState) (isKey : state = .flowMappingStart ∨ state = .flowMappingKey ∨ state = .pairKey ∨
      ∃ mark, state = .pairEnd mark) : Now state ⟨.key, .flow⟩
  | flowValue (state : ReaderState) (name : String) (isValue : state = .flowMappingValue ∨ state = .flowMappingNoValue ∨
      state = .pairValue) : Now state ⟨.value name, .flow⟩

end Frame

def ReaderState.isPair : ReaderState → Bool
  | .pairKey => true
  | .pairValue => true
  | .pairEnd _ => true
  | _ => false

namespace Frame

inductive Aligned : List ReaderState → List Frame → Prop where
  | outside (state : ReaderState) (position : Nat) (isOutside : state = .implicitDocument ∨ state = .explicitDocument) :
      Aligned [state] [⟨.document position, .top⟩]
  | root (state : ReaderState) (position : Nat) (isRoot : state = .blockNode ∨ state = .documentContent) :
      Aligned [state, .documentEnd] [⟨.root, .top⟩, ⟨.document position, .top⟩]
  | read (position : Nat) : Aligned [.documentEnd] [⟨.read, .top⟩, ⟨.document position, .top⟩]
  | inside (state : ReaderState) (rest : List ReaderState) (frame host : Frame) (outer : List Frame) (now : Now state frame)
      (single : state.isPair = false) (open_ : host.slot.isOpen = true) (below : Aligned rest (host.next "" :: outer)) :
      Aligned (state :: rest) (frame :: host :: outer)
  | pair (state : ReaderState) (rest : List ReaderState) (frame host : Frame) (outer : List Frame) (now : Now state frame)
      (isPair : state.isPair = true) (open_ : host.slot.isOpen = true)
      (below : Aligned (.flowSequenceEntry :: rest) (host.next "" :: outer)) : Aligned (state :: rest) (frame :: host :: outer)

theorem now_onward (state next : ReaderState) (frame : Frame) (name : String) (now : Now state frame)
    (follows : state.onward next = true) :
    Now next (frame.next name) ∧ next.isPair = state.isPair ∧ frame.slot.isOpen = true := by
  cases now with
  | blockKey _ column isKey =>
      rcases isKey with rfl | rfl <;> cases next <;> first | exact ⟨.blockValue name column, rfl, rfl⟩ | cases follows
  | blockValue own column =>
      cases next <;> first | exact ⟨.blockKey _ column (.inr rfl), rfl, rfl⟩ | cases follows
  | blockItem _ position column isEntry =>
      rcases isEntry with rfl | rfl <;> cases next <;> first | exact ⟨.blockItem _ _ column (.inr rfl), rfl, rfl⟩ | cases follows
  | dash position column => cases next <;> first | exact ⟨.dash _ column, rfl, rfl⟩ | cases follows
  | flowItem _ position isEntry =>
      rcases isEntry with rfl | rfl <;> cases next <;> first | exact ⟨.flowItem _ _ (.inr rfl), rfl, rfl⟩ | cases follows
  | flowKey _ isKey =>
      rcases isKey with rfl | rfl | rfl | ⟨mark, rfl⟩ <;> cases next <;>
        first | (cases follows; done) | exact ⟨.flowValue _ name (by simp), rfl, rfl⟩
  | flowValue _ own isValue =>
      rcases isValue with rfl | rfl | rfl <;> cases next <;>
        first | (cases follows; done) | exact ⟨.flowKey _ (by simp), rfl, rfl⟩

theorem now_rename (state : ReaderState) (style : Style) (name other : String) (now : Now state ⟨.value name, style⟩) :
    Now state ⟨.value other, style⟩ := by
  cases now with
  | blockValue _ column => exact .blockValue other column
  | flowValue _ _ isValue => exact .flowValue _ other isValue

theorem aligned_rename (control : List ReaderState) (frame : Frame) (outer : List Frame) (name : String)
    (aligned : Aligned control (frame.next "" :: outer)) : Aligned control (frame.next name :: outer) := by
  obtain ⟨slot, style⟩ := frame
  cases slot with
  | key =>
      cases aligned with
      | inside state rest _ host outer now single open_ below =>
          exact .inside state rest _ host outer (now_rename state style "" name now) single open_ below
      | pair state rest _ host outer now isPair open_ below =>
          exact .pair state rest _ host outer (now_rename state style "" name now) isPair open_ below
  | _ => exact aligned

theorem aligned_waits (state : ReaderState) (stack waiting : List ReaderState) (frames : List Frame)
    (aligned : Aligned (state :: stack) frames) (waits : Reader.Waiting state stack waiting) :
    ∃ frame outer, frames = frame :: outer ∧ frame.slot.isOpen = true ∧ Aligned waiting (frame.next "" :: outer) := by
  cases waits with
  | root isRoot =>
      cases aligned with
      | outside _ position isOutside => rcases isRoot with rfl | rfl <;> simp at isOutside
      | root _ position => exact ⟨_, _, rfl, rfl, .read position⟩
      | read => simp at isRoot
      | inside _ _ frame host outer now => rcases isRoot with rfl | rfl <;> cases now <;> simp_all
      | pair _ _ frame host outer now isPair => rcases isRoot with rfl | rfl <;> cases isPair
  | inner next follows =>
      cases aligned with
      | outside _ position isOutside => rcases isOutside with rfl | rfl <;> cases follows
      | root _ position isRoot => rcases isRoot with rfl | rfl <;> cases follows
      | read => cases follows
      | inside _ _ frame host outer now single open_ below =>
          obtain ⟨onward, same, fits⟩ := now_onward state next frame "" now follows
          exact ⟨frame, _, rfl, fits, .inside next stack _ host outer onward (same.trans single) open_ below⟩
      | pair _ _ frame host outer now isPair open_ below =>
          obtain ⟨onward, same, fits⟩ := now_onward state next frame "" now follows
          exact ⟨frame, _, rfl, fits, .pair next stack _ host outer onward (same.trans isPair) open_ below⟩

theorem aligned_unwind (control : List ReaderState) (frames : List Frame) (aligned : Aligned control frames) :
    Reader.unwind control = control := by
  cases aligned <;> rfl

theorem aligned_now (state : ReaderState) (stack : List ReaderState) (frame : Frame) (outer : List Frame)
    (aligned : Aligned (state :: stack) (frame :: outer)) (open_ : frame.slot.isOpen = true) :
    Now state frame ∨ (frame = ⟨.root, .top⟩ ∧ (state = .blockNode ∨ state = .documentContent)) := by
  cases aligned with
  | outside => cases open_
  | root _ position isRoot => exact .inr ⟨rfl, isRoot⟩
  | read => cases open_
  | inside _ _ _ host outer now => exact .inl now
  | pair _ _ _ host outer now => exact .inl now

theorem now_inMapping (state : ReaderState) (frame : Frame) (now : Now state frame) (allowed : state.inMapping = true) :
    ∃ column, frame.style = .block column ∧ (frame.slot = .key ∨ ∃ name, frame.slot = .value name) := by
  cases now with
  | blockKey _ column => exact ⟨column, rfl, .inl rfl⟩
  | blockValue name column => exact ⟨column, rfl, .inr ⟨name, rfl⟩⟩
  | blockItem _ position column isEntry => rcases isEntry with rfl | rfl <;> cases allowed
  | dash => cases allowed
  | flowItem _ position isEntry => rcases isEntry with rfl | rfl <;> cases allowed
  | flowKey _ isKey => rcases isKey with rfl | rfl | rfl | ⟨mark, rfl⟩ <;> cases allowed
  | flowValue _ name isValue => rcases isValue with rfl | rfl | rfl <;> cases allowed

theorem now_inBlock (state : ReaderState) (frame : Frame) (now : Now state frame) (allowed : state.inBlock = true) :
    frame.style ≠ .flow := by
  cases now with
  | flowItem _ position isEntry => rcases isEntry with rfl | rfl <;> cases allowed
  | flowKey _ isKey => rcases isKey with rfl | rfl | rfl | ⟨mark, rfl⟩ <;> cases allowed
  | flowValue _ name isValue => rcases isValue with rfl | rfl | rfl <;> cases allowed
  | _ => simp

theorem now_marks (state : ReaderState) (frame : Frame) (key? : Option Node) (column : Nat) (now : Now state frame)
    (known : ∀ own, frame.style.column? = some own → column = own) :
    Passage.nodeMark? column key? state =
      (key?.bind fun key => frame.keyMark? (key.scalar?.getD "") key.region).or frame.itemMark? := by
  cases now with
  | blockKey _ own isKey =>
      obtain rfl := known own rfl
      rcases isKey with rfl | rfl <;> cases key? <;> rfl
  | blockValue name own => cases key? <;> rfl
  | blockItem _ position own isEntry =>
      obtain rfl := known own rfl
      rcases isEntry with rfl | rfl <;> cases key? <;> rfl
  | dash position own =>
      obtain rfl := known own rfl
      cases key? <;> rfl
  | flowItem _ position isEntry => rcases isEntry with rfl | rfl <;> cases key? <;> rfl
  | flowKey _ isKey => rcases isKey with rfl | rfl | rfl | ⟨mark, rfl⟩ <;> cases key? <;> rfl
  | flowValue _ name isValue => rcases isValue with rfl | rfl | rfl <;> cases key? <;> rfl

theorem node_landmark (source : Source) (state next : ReaderState) (stack : List ReaderState) (frame : Frame) (outer : List Frame)
    (event : LocatedEvent) (aligned : Aligned (state :: stack) (frame :: outer)) (open_ : frame.slot.isOpen = true)
    (ruled : Ruled (frame :: outer))
    (starts : event.event.isLeaf = true ∨ event.event.opensSequence = true ∨ event.event.opensMapping = true) :
    Passage.left (columns (frame :: outer)) ⟨state, event, next⟩ = columns (frame :: outer) ∧
      Passage.landmark? source (columns (frame :: outer)) ⟨state, event, next⟩ =
        ((Composer.leaf? source 0 event).bind fun key => frame.keyMark? (key.scalar?.getD "") key.region).or frame.itemMark? := by
  have stays : Passage.left (columns (frame :: outer)) ⟨state, event, next⟩ = columns (frame :: outer) := by
    obtain ⟨event, span⟩ := event
    cases event <;> first | (cases state <;> rfl) | simp [Event.isLeaf, Event.opensSequence, Event.opensMapping] at starts
  have reads : Passage.landmark? source (columns (frame :: outer)) ⟨state, event, next⟩ =
      Passage.nodeMark? ((columns (frame :: outer)).headD 0) (Composer.leaf? source 0 event) state := by
    unfold Passage.landmark?
    rw [stays]
    obtain ⟨event, span⟩ := event
    cases event <;> first | rfl | simp [Event.isLeaf, Event.opensSequence, Event.opensMapping] at starts
  refine ⟨stays, reads.trans ?_⟩
  rcases aligned_now state stack frame outer aligned open_ with now | ⟨rfl, rfl | rfl⟩
  · refine now_marks state frame _ _ now fun own known => ?_
    rw [List.headD_eq_head?_getD, head_column frame outer own ruled known]
    rfl
  · cases Composer.leaf? source 0 event <;> rfl
  · cases Composer.leaf? source 0 event <;> rfl

theorem end_landmark (next : ReaderState) (rest : List ReaderState) (host : Frame) (outer : List Frame)
    (open_ : host.slot.isOpen = true) (below : Aligned (next :: rest) (host.next "" :: outer)) :
    Passage.endMark? ((columns (host :: outer)).headD 0) next = host.keyMark? "" (.empty 0) := by
  obtain ⟨slot, style⟩ := host
  cases slot with
  | document => cases open_
  | read => cases open_
  | root =>
      cases below with
      | read => rfl
      | inside _ _ _ host outer now => cases now
      | pair _ _ _ host outer now => cases now
  | key =>
      rcases aligned_now next rest _ outer below rfl with now | ⟨same, -⟩
      · change Now next ⟨.value "", style⟩ at now
        cases now with
        | blockValue _ column => rfl
        | flowValue _ _ isValue => rcases isValue with rfl | rfl | rfl <;> rfl
      · cases same
  | value name =>
      rcases aligned_now next rest _ outer below rfl with now | ⟨same, -⟩
      · change Now next ⟨.key, style⟩ at now
        cases now with
        | blockKey _ column isKey => rcases isKey with rfl | rfl <;> rfl
        | flowKey _ isKey => rcases isKey with rfl | rfl | rfl | ⟨mark, rfl⟩ <;> rfl
      · cases same
  | item position =>
      rcases aligned_now next rest _ outer below rfl with now | ⟨same, -⟩
      · change Now next ⟨.item (position + 1), style⟩ at now
        cases now with
        | blockItem _ _ column isEntry => rcases isEntry with rfl | rfl <;> rfl
        | dash _ column => rfl
        | flowItem _ _ isEntry => rcases isEntry with rfl | rfl <;> rfl
      · cases same

structure Passes (source : Source) (frames : List Frame) (passage : Passage) (rest : List ReaderState) (inner : List Int)
    (after : List Frame) : Prop where
  moves : Move source frames passage.event after (passage.landmark? source (columns frames))
  aligned : Aligned (passage.after :: rest) after
  opened : inner = (columns after).map Int.ofNat
  entered : passage.entered (columns frames) = columns after

theorem opens_block_closed (state : ReaderState) (closed : state.opens = false) : state.opensBlock = false := by
  cases state <;> first | rfl | cases closed

theorem event_opens (event : Event) (starts : event.opensMapping = true) : ∃ properties, event = .mappingStart properties := by
  cases event <;> first | exact ⟨_, rfl⟩ | cases starts

theorem event_opens_sequence (event : Event) (starts : event.opensSequence = true) :
    ∃ properties, event = .sequenceStart properties := by
  cases event <;> first | exact ⟨_, rfl⟩ | cases starts

theorem leaf_passes (source : Source) (state next : ReaderState) (stack rest : List ReaderState) (frame : Frame)
    (outer : List Frame) (event : LocatedEvent) (aligned : Aligned (state :: stack) (frame :: outer))
    (open_ : frame.slot.isOpen = true) (ruled : Ruled (frame :: outer))
    (below : Aligned (next :: rest) (frame.next "" :: outer)) (closed : next.opens = false)
    (isLeaf : event.event.isLeaf = true) :
    ∃ after, Passes source (frame :: outer) ⟨state, event, next⟩ rest ((columns (frame :: outer)).map Int.ofNat) after := by
  obtain ⟨stays, marks⟩ := node_landmark source state next stack frame outer event aligned open_ ruled (.inl isLeaf)
  obtain ⟨node, leaf⟩ : ∃ node, Composer.leaf? source 0 event = some node := by
    obtain ⟨event, span⟩ := event
    cases event <;> first | exact ⟨_, rfl⟩ | cases isLeaf
  obtain ⟨name, region, rfl⟩ := Composer.leaf_isScalar source 0 event node leaf
  refine ⟨frame.next name :: outer, ?_, aligned_rename _ frame outer name below, rfl, ?_⟩
  · rw [marks, leaf]
    exact .leaf frame outer event name region open_ leaf
  · simp only [Passage.entered, opens_block_closed next closed, stays]
    rfl

theorem opens_passes (source : Source) (state next : ReaderState) (stack rest : List ReaderState) (frame opened : Frame)
    (outer : List Frame) (event : LocatedEvent) (aligned : Aligned (state :: stack) (frame :: outer))
    (open_ : frame.slot.isOpen = true) (ruled : Ruled (frame :: outer)) (inside : Aligned (next :: rest) (opened :: frame :: outer))
    (starts : (event.event.opensMapping = true ∧ opened.slot = .key) ∨ (event.event.opensSequence = true ∧ opened.slot = .item 0))
    (fits : Opens frame outer opened)
    (styled : opened.style.block? = if next.opensBlock then some event.span.start.column else none) :
    ∃ after, Passes source (frame :: outer) ⟨state, event, next⟩ rest
      ((columns (opened :: frame :: outer)).map Int.ofNat) after := by
  have begins : event.event.isLeaf = true ∨ event.event.opensSequence = true ∨ event.event.opensMapping = true :=
    .inr (starts.symm.imp And.left And.left)
  obtain ⟨stays, marks⟩ := node_landmark source state next stack frame outer event aligned open_ ruled begins
  have noLeaf : Composer.leaf? source 0 event = none := by
    obtain ⟨event, span⟩ := event
    cases event <;> first | rfl | simp [Event.opensMapping, Event.opensSequence] at starts
  refine ⟨opened :: frame :: outer, ?_, inside, rfl, ?_⟩
  · rw [marks, noLeaf]
    exact .opens frame opened outer event open_
      (starts.imp (And.imp_left (event_opens _)) (And.imp_left (event_opens_sequence _))) fits
  · simp only [Passage.entered, stays, columns_cons opened, styled]
    split <;> rfl

theorem deeper_column (frames : List Frame) (column : Nat)
    (deeper : ((columns frames).map Int.ofNat).headD (-1) < (column : Int)) :
    ∀ around ∈ (columns frames).head?, around < column := by
  intro around innermost
  cases known : columns frames with
  | nil => simp [known] at innermost
  | cons first others =>
      obtain rfl : first = around := by simpa [known] using innermost
      rw [known] at deeper
      exact Int.ofNat_lt.mp deeper

theorem node_passes (source : Source) (chars : List Char) (state next : ReaderState) (stack rest waiting : List ReaderState)
    (frames : List Frame) (event : LocatedEvent) (inner : List Int) (aligned : Aligned (state :: stack) frames) (ruled : Ruled frames)
    (stacked : ∀ other ∈ stack, other.opens = false) (waits : Reader.Waiting state stack waiting)
    (reads : Reader.NodeTurn chars state.inBlock state.inMapping waiting ((columns frames).map Int.ofNat) event (next :: rest) inner) :
    ∃ after, Passes source frames ⟨state, event, next⟩ rest inner after := by
  obtain ⟨frame, outer, rfl, open_, below⟩ := aligned_waits state stack waiting frames aligned waits
  have allowed (isBlock : state.inBlock = true) : frame.style ≠ .flow := by
    rcases aligned_now state stack frame outer aligned open_ with now | ⟨rfl, -⟩
    · exact now_inBlock state frame now isBlock
    · simp
  generalize control : next :: rest = all at reads
  cases reads with
  | leaf isLeaf _ =>
      rw [aligned_unwind waiting _ below] at control
      subst control
      have closed : next.opens = false := by
        cases waits with
        | root => exact stacked next List.mem_cons_self
        | inner _ follows => exact Reader.onward_closed state next follows
      exact leaf_passes source state next stack rest frame outer event aligned open_ ruled below closed isLeaf
  | flowSequence opens =>
      obtain ⟨rfl, rfl⟩ := List.cons.inj control
      exact opens_passes source state _ stack rest frame ⟨.item 0, .flow⟩ outer event aligned open_ ruled
        (.inside _ _ _ frame outer (.flowItem _ 0 (.inl rfl)) rfl open_ below) (.inr ⟨opens, rfl⟩) (.flow _) rfl
  | flowMapping opens =>
      obtain ⟨rfl, rfl⟩ := List.cons.inj control
      exact opens_passes source state _ stack rest frame ⟨.key, .flow⟩ outer event aligned open_ ruled
        (.inside _ _ _ frame outer (.flowKey _ (.inl rfl)) rfl open_ below) (.inl ⟨opens, rfl⟩) (.flow _) rfl
  | dash opens inMapping =>
      obtain ⟨rfl, rfl⟩ := List.cons.inj control
      rcases aligned_now state stack frame outer aligned open_ with now | ⟨rfl, rfl | rfl⟩
      · obtain ⟨column, style, slot⟩ := now_inMapping state frame now inMapping
        exact opens_passes source state _ stack rest frame ⟨.item 0, .dash column⟩ outer event aligned open_ ruled
          (.inside _ _ _ frame outer (.dash 0 column) rfl open_ below) (.inr ⟨opens, rfl⟩) (.dash column slot style) rfl
      · cases inMapping
      · cases inMapping
  | blockSequence opens isBlock deeper =>
      obtain ⟨rfl, rfl⟩ := List.cons.inj control
      exact opens_passes source state _ stack rest frame ⟨.item 0, .block event.span.start.column⟩ outer event aligned open_ ruled
        (.inside _ _ _ frame outer (.blockItem _ 0 _ (.inl rfl)) rfl open_ below) (.inr ⟨opens, rfl⟩)
        (.block _ _ (allowed isBlock) (deeper_column _ _ deeper)) rfl
  | blockMapping opens isBlock deeper =>
      obtain ⟨rfl, rfl⟩ := List.cons.inj control
      exact opens_passes source state _ stack rest frame ⟨.key, .block event.span.start.column⟩ outer event aligned open_ ruled
        (.inside _ _ _ frame outer (.blockKey _ _ (.inl rfl)) rfl open_ below) (.inl ⟨opens, rfl⟩)
        (.block _ _ (allowed isBlock) (deeper_column _ _ deeper)) rfl

theorem closes_passes (source : Source) (state next : ReaderState) (rest : List ReaderState) (frame host : Frame)
    (outer : List Frame) (event : LocatedEvent) (open_ : host.slot.isOpen = true)
    (below : Aligned (next :: rest) (host.next "" :: outer)) (closed : next.opens = false)
    (ends : (event.event = .mappingEnd ∧ frame.slot = .key) ∨
      (event.event = .sequenceEnd ∧ ∃ position, frame.slot = .item position))
    (left : Passage.left (columns (frame :: host :: outer)) ⟨state, event, next⟩ = columns (host :: outer)) :
    ∃ after, Passes source (frame :: host :: outer) ⟨state, event, next⟩ rest ((columns (host :: outer)).map Int.ofNat) after := by
  refine ⟨host.next "" :: outer, ?_, below, rfl, ?_⟩
  · have marks : Passage.landmark? source (columns (frame :: host :: outer)) ⟨state, event, next⟩ = host.keyMark? "" (.empty 0) := by
      unfold Passage.landmark?
      rw [left, ← end_landmark next rest host outer open_ below]
      rcases ends with ⟨isEnd, -⟩ | ⟨isEnd, -⟩ <;> simp only [isEnd]
    rw [marks]
    exact .closes frame host outer event open_ ends
  · simp only [Passage.entered, opens_block_closed next closed, left]
    rfl

theorem aligned_outside (state : ReaderState) (stack : List ReaderState) (frames : List Frame)
    (aligned : Aligned (state :: stack) frames) (outside : state = .implicitDocument ∨ state = .explicitDocument) :
    stack = [] ∧ ∃ position, frames = [⟨.document position, .top⟩] := by
  cases aligned with
  | outside _ position => exact ⟨rfl, position, rfl⟩
  | root _ position isRoot => rcases outside with rfl | rfl <;> simp at isRoot
  | read => simp at outside
  | inside _ _ frame host outer now => rcases outside with rfl | rfl <;> cases now <;> simp_all
  | pair _ _ frame host outer now isPair => rcases outside with rfl | rfl <;> cases isPair

theorem aligned_read (stack : List ReaderState) (frames : List Frame) (aligned : Aligned (.documentEnd :: stack) frames) :
    stack = [] ∧ ∃ position, frames = [⟨.read, .top⟩, ⟨.document position, .top⟩] := by
  cases aligned with
  | outside _ position isOutside => simp at isOutside
  | root _ position isRoot => simp at isRoot
  | read position => exact ⟨rfl, position, rfl⟩
  | inside _ _ frame host outer now => cases now <;> simp_all
  | pair _ _ frame host outer now isPair => cases isPair

theorem aligned_inside (state : ReaderState) (stack : List ReaderState) (frames : List Frame) (event : Event)
    (aligned : Aligned (state :: stack) frames)
    (closes : state.closesBlock event = true ∨ state.closesOther event = true) :
    ∃ frame host outer, frames = frame :: host :: outer ∧ Now state frame ∧ host.slot.isOpen = true ∧
      Aligned stack (host.next "" :: outer) := by
  cases aligned with
  | outside _ position isOutside => rcases isOutside with rfl | rfl <;> simp [ReaderState.closesBlock, ReaderState.closesOther] at closes
  | root _ position isRoot => rcases isRoot with rfl | rfl <;> simp [ReaderState.closesBlock, ReaderState.closesOther] at closes
  | read => simp [ReaderState.closesBlock, ReaderState.closesOther] at closes
  | inside _ _ frame host outer now single open_ below => exact ⟨frame, host, outer, rfl, now, open_, below⟩
  | pair _ _ frame host outer now isPair =>
      cases state <;> first | (cases isPair; done) | simp [ReaderState.closesBlock, ReaderState.closesOther] at closes

theorem now_closes (state next : ReaderState) (frame : Frame) (outer : List Frame) (event : LocatedEvent) (now : Now state frame)
    (closes : state.closesBlock event.event = true ∨ state.closesOther event.event = true) :
    ((event.event = .mappingEnd ∧ frame.slot = .key) ∨ (event.event = .sequenceEnd ∧ ∃ position, frame.slot = .item position)) ∧
      Passage.left (columns (frame :: outer)) ⟨state, event, next⟩ = columns outer := by
  obtain ⟨event, span⟩ := event
  cases now with
  | blockKey _ column isKey =>
      rcases isKey with rfl | rfl <;> cases event <;>
        first | exact ⟨.inl ⟨rfl, rfl⟩, rfl⟩ | simp [ReaderState.closesBlock, ReaderState.closesOther] at closes
  | blockValue name column => cases event <;> simp [ReaderState.closesBlock, ReaderState.closesOther] at closes
  | blockItem _ position column isEntry =>
      rcases isEntry with rfl | rfl <;> cases event <;>
        first | exact ⟨.inr ⟨rfl, position, rfl⟩, rfl⟩ | simp [ReaderState.closesBlock, ReaderState.closesOther] at closes
  | dash position column =>
      cases event <;>
        first | exact ⟨.inr ⟨rfl, position, rfl⟩, rfl⟩ | simp [ReaderState.closesBlock, ReaderState.closesOther] at closes
  | flowItem _ position isEntry =>
      rcases isEntry with rfl | rfl <;> cases event <;>
        first | exact ⟨.inr ⟨rfl, position, rfl⟩, rfl⟩ | simp [ReaderState.closesBlock, ReaderState.closesOther] at closes
  | flowKey _ isKey =>
      rcases isKey with rfl | rfl | rfl | ⟨mark, rfl⟩ <;> cases event <;>
        first | exact ⟨.inl ⟨rfl, rfl⟩, rfl⟩ | simp [ReaderState.closesBlock, ReaderState.closesOther] at closes
  | flowValue _ name isValue =>
      rcases isValue with rfl | rfl | rfl <;> cases event <;> simp [ReaderState.closesBlock, ReaderState.closesOther] at closes

theorem ends_passes (source : Source) (state next : ReaderState) (stack rest : List ReaderState) (frames : List Frame)
    (event : LocatedEvent) (aligned : Aligned (state :: stack) frames) (stacked : ∀ other ∈ stack, other.opens = false)
    (closes : state.closesBlock event.event = true ∨ state.closesOther event.event = true)
    (control : next :: rest = Reader.unwind stack) :
    ∃ after, Passes source frames ⟨state, event, next⟩ rest
      ((Passage.left (columns frames) ⟨state, event, next⟩).map Int.ofNat) after := by
  obtain ⟨frame, host, outer, rfl, now, open_, below⟩ := aligned_inside state stack frames event.event aligned closes
  rw [aligned_unwind stack _ below] at control
  subst control
  obtain ⟨ends, left⟩ := now_closes state next frame (host :: outer) event now closes
  rw [left]
  exact closes_passes source state next rest frame host outer event open_ below (stacked next List.mem_cons_self) ends left

theorem turn_passes (source : Source) (chars : List Char) (state next : ReaderState) (stack rest : List ReaderState)
    (frames : List Frame) (event : LocatedEvent) (inner : List Int) (aligned : Aligned (state :: stack) frames) (ruled : Ruled frames)
    (stacked : ∀ other ∈ stack, other.opens = false)
    (turn : Reader.Turn chars state stack ((columns frames).map Int.ofNat) event (next :: rest) inner) :
    ∃ after, Passes source frames ⟨state, event, next⟩ rest inner after := by
  generalize control : next :: rest = all at turn
  cases turn with
  | start root outside begins isRoot =>
      obtain ⟨rfl, rfl⟩ := List.cons.inj control
      obtain ⟨rfl, position, rfl⟩ := aligned_outside state stack frames aligned outside
      refine ⟨_, ?_, .root next position isRoot, rfl, ?_⟩
      · rw [show Passage.landmark? source _ ⟨state, event, next⟩ = some .document by simp [Passage.landmark?, begins]]
        exact .start position event begins
      · rcases isRoot with rfl | rfl <;> simp [Passage.entered, Passage.left, ReaderState.opensBlock, columns, Style.block?]
  | finish after read ends outside =>
      obtain ⟨rfl, rfl⟩ := List.cons.inj control
      subst read
      obtain ⟨rfl, position, rfl⟩ := aligned_read rest frames aligned
      refine ⟨_, ?_, .outside next (position + 1) outside, rfl, ?_⟩
      · rw [show Passage.landmark? source _ ⟨.documentEnd, event, next⟩ = none by simp [Passage.landmark?, ends]]
        exact .finish position event ends
      · rcases outside with rfl | rfl <;> simp [Passage.entered, Passage.left, ReaderState.opensBlock, columns, Style.block?]
  | node waiting _ _ waits reads =>
      subst control
      exact node_passes source chars state next stack rest waiting frames event inner aligned ruled stacked waits reads
  | pair inSequence opens =>
      obtain ⟨rfl, rfl⟩ := List.cons.inj control
      have follows : state.onward .flowSequenceEntry = true := by rcases inSequence with rfl | rfl <;> rfl
      obtain ⟨frame, outer, rfl, open_, below⟩ := aligned_waits state rest _ frames aligned (.inner _ follows)
      exact opens_passes source state _ rest rest frame ⟨.key, .flow⟩ outer event aligned open_ ruled
        (.pair _ _ _ frame outer (.flowKey _ (.inr (.inr (.inl rfl)))) rfl open_ below) (.inl ⟨opens, rfl⟩) (.flow _) rfl
  | closeBlock column outer innermost closes =>
      have passes := ends_passes source state next stack rest frames event aligned stacked (.inl closes) control
      simpa [Passage.left, closes, innermost, List.map_tail] using passes
  | close closes =>
      have passes := ends_passes source state next stack rest frames event aligned stacked (.inr closes) control
      have other : state.closesBlock event.event = false := by
        cases state <;> first | rfl | cases closes
      simpa [Passage.left, other] using passes
  | pairEnd mark atEnd ends =>
      obtain ⟨rfl, rfl⟩ := List.cons.inj control
      subst atEnd
      cases aligned with
      | outside _ position isOutside => simp at isOutside
      | root _ position isRoot => simp at isRoot
      | inside _ _ frame host outer now single => cases single
      | pair _ _ frame host outer now isPair open_ below =>
          cases now with
          | blockKey _ column isKey => simp at isKey
          | blockItem _ position column isEntry => simp at isEntry
          | flowItem _ position isEntry => simp at isEntry
          | flowValue _ name isValue => simp at isValue
          | flowKey =>
              refine closes_passes source _ _ rest ⟨.key, .flow⟩ host outer event open_ below rfl (.inl ⟨ends, rfl⟩) ?_
              simp [Passage.left, ReaderState.closesBlock, columns, Style.block?]

structure Surveyed (chars : List Char) (reader : Reader) (frames : List Frame) : Prop where
  sited : Reader.Sited chars reader ((columns frames).map Int.ofNat)
  aligned : Aligned reader.control frames
  ruled : Ruled frames

theorem start_surveyed (chars : List Char) : Surveyed chars { lexer := Lexer.start chars } [⟨.document 0, .top⟩] :=
  ⟨Reader.start_sited chars, .outside _ 0 (.inl rfl), by simp [Ruled]⟩

theorem step_surveyed (chars : List Char) (source : Source) (reader next : Reader) (event : LocatedEvent) (frames : List Frame)
    (surveyed : Surveyed chars reader frames) (steps : reader.step = .ok (some event, next)) :
    ∃ after, Passes source frames ⟨reader.state, event, next.state⟩ next.stack ((columns after).map Int.ofNat) after ∧
      Surveyed chars next after := by
  obtain ⟨inner, sited, turn⟩ := Reader.step_leads chars _ reader next event surveyed.sited steps
  obtain ⟨after, passes⟩ := turn_passes source chars reader.state next.state reader.stack next.stack frames event inner
    surveyed.aligned surveyed.ruled surveyed.sited.stacked turn
  obtain rfl := passes.opened
  exact ⟨after, passes, sited, passes.aligned, move_ruled source frames after event _ passes.moves surveyed.ruled⟩

theorem passages_laid (chars : List Char) (source : Source) (fuel : Nat) (reader : Reader) (frames : List Frame)
    (surveyed : Surveyed chars reader frames) :
    ∃ after, Laid source frames ((Reader.passages fuel reader).map Passage.event) after
      (Passage.landmarks source (columns frames) (Reader.passages fuel reader)) := by
  induction fuel generalizing reader frames with
  | zero => exact ⟨frames, .done frames⟩
  | succ fuel ih =>
      rw [Reader.passages]
      split
      next event next steps =>
        obtain ⟨between, passes, onward⟩ := step_surveyed chars source reader next event frames surveyed steps
        obtain ⟨after, rest⟩ := ih next between onward
        rw [List.map_cons, Passage.landmarks, passes.entered]
        exact ⟨after, .move frames between after event _ _ _ passes.moves rest⟩
      next => exact ⟨frames, .done frames⟩

end Frame

namespace Reader

theorem collect_passages (fuel : Nat) (earlier found : List LocatedEvent) (reader : Reader)
    (collects : collect fuel earlier reader = (found, none)) :
    found = ((passages fuel reader).map Passage.event).reverse ++ earlier := by
  induction fuel generalizing earlier reader with
  | zero =>
      rw [collect] at collects
      split at collects
      next => cases collects
      next => exact (Prod.mk.inj collects).1.symm
  | succ fuel ih =>
      rw [collect] at collects
      rw [passages]
      split at collects
      next => cases collects
      next next steps => simpa [steps] using (Prod.mk.inj collects).1.symm
      next located next steps => simpa [steps] using ih (located :: earlier) next collects

end Reader

theorem read_passages (chars : List Char) (events : List LocatedEvent) (reads : readText chars = .ok events) :
    events = (passages chars).map Passage.event := by
  unfold readText readEvents at reads
  cases collected : Reader.collect (16 * chars.length + 64) [] { lexer := Lexer.start chars } with
  | mk found fault =>
      rw [collected] at reads
      cases fault with
      | some fault => cases reads
      | none =>
          have all := Reader.collect_passages _ [] found _ collected
          rw [List.append_nil] at all
          rw [← Except.ok.inj reads, all, List.reverse_reverse, passages]

theorem read_text_laid_out : TextReader.LaidOut readText landmarks := by
  intro chars events reads
  rw [read_passages chars events reads]
  exact Frame.passages_laid chars ⟨chars, chars⟩ _ _ _ (Frame.start_surveyed chars)

end YamlDialects.Yaml
