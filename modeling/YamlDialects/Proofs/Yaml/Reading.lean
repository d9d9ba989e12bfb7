import YamlDialects.Proofs.Yaml.Composition
import YamlDialects.Proofs.Yaml.Recovery

set_option autoImplicit false

namespace YamlDialects.Yaml

def Event.isLeaf : Event → Bool
  | .scalar _ _ _ => true
  | .reference _ => true
  | _ => false

def TextReader.Ordered (read : TextReader) : Prop :=
  ∀ chars events, read chars = .ok events → (Source.mk chars chars).InOrder 0 events

namespace Source

theorem plain_offset (chars : List Char) (mark : Mark) : (Source.mk chars chars).offset mark = byteOf chars mark.index := by
  have floor := Text.floor_boundary_split (chars.take mark.index) (chars.drop mark.index)
  rwa [List.take_append_drop] at floor

theorem in_order_earlier (source : Source) (bound further : Nat) (events : List LocatedEvent) (le : bound ≤ further)
    (ordered : source.InOrder further events) : source.InOrder bound events := by
  induction events generalizing bound further with
  | nil => trivial
  | cons event rest ih =>
      obtain ⟨behind, onward⟩ := ordered
      refine ⟨fun present => Nat.le_trans le (behind present), ?_⟩
      exact ih _ _ (by omega) onward

def hidden (covered : Nat → Bool) (chars : List Char) : Source :=
  ⟨hideFrom covered 0 chars, chars⟩

def left (covered : Nat → Bool) (chars : List Char) : Source :=
  ⟨hideFrom covered 0 chars, hideFrom covered 0 chars⟩

section

variable (covered : Nat → Bool) (chars : List Char)

theorem hidden_offset (mark : Mark) :
    (hidden covered chars).offset mark = Text.floorBoundary chars ((left covered chars).offset mark) := by
  rw [left, plain_offset]
  rfl

-- A tilde can be seen at an event of the text that is left exactly if it stands there in the text itself.
theorem hidden_tilde (mark : Mark) : ((hidden covered chars).onward ((hidden covered chars).offset mark)).head? = some '~' ↔
    ((left covered chars).onward ((left covered chars).offset mark)).head? = some '~' := by
  rw [hidden_offset, left, plain_offset]
  simp only [hidden, onward]
  constructor
  · intro tilde
    rcases hide_floor covered 0 chars mark.index with kept | ⟨rest, blanked⟩
    · rwa [kept] at tilde
    · rw [blanked] at tilde
      cases tilde
  · intro tilde
    have split := Text.drop_bytes_append ((hideFrom covered 0 chars).take mark.index)
      ((hideFrom covered 0 chars).drop mark.index)
    rw [List.take_append_drop, ← byteOf] at split
    have seen := tilde
    rw [split, Option.getD_some] at seen
    obtain ⟨after, starts⟩ := List.head?_eq_some_iff.mp seen
    have whole := List.take_append_drop mark.index (hideFrom covered 0 chars)
    rw [starts] at whole
    obtain ⟨earlier, later, same, length⟩ := hide_visible covered 0 chars _ '~' after whole.symm (by decide)
    have floor : Text.floorBoundary chars (byteOf (hideFrom covered 0 chars) mark.index) =
        byteOf (hideFrom covered 0 chars) mark.index := by
      rw [byteOf, ← length, same]
      exact Text.floor_boundary_split earlier _
    rwa [floor]

theorem hidden_implicit (text : String) (style : ScalarStyle) (mark : Mark) :
    (hidden covered chars).isImplicit text style ((hidden covered chars).offset mark) =
      (left covered chars).isImplicit text style ((left covered chars).offset mark) := by
  have same := hidden_tilde covered chars mark
  simp only [isImplicit, bne]
  congr 3
  rw [Bool.eq_iff_iff]
  simpa using not_congr same

theorem hidden_absent (event : LocatedEvent) : (hidden covered chars).isAbsent event = (left covered chars).isAbsent event := by
  obtain ⟨event, span⟩ := event
  cases event with
  | scalar text style properties => exact hidden_implicit covered chars text style span.start
  | _ => rfl

theorem hidden_present (event : LocatedEvent) :
    (hidden covered chars).isPresent event = (left covered chars).isPresent event := by
  obtain ⟨event, span⟩ := event
  cases event with
  | scalar text style properties => exact congrArg not (hidden_absent covered chars _)
  | _ => rfl

theorem hidden_next_absent (events : List LocatedEvent) :
    (hidden covered chars).nextAbsent events = (left covered chars).nextAbsent events := by
  cases events with
  | nil => rfl
  | cons event rest => exact hidden_absent covered chars event

theorem hidden_floor (offset : Nat) :
    Text.floorBoundary chars offset ≤ Text.floorBoundary chars (Text.floorBoundary (hideFrom covered 0 chars) offset) := by
  have boundary := hide_boundary covered chars _ (Text.floor_boundary_boundary chars offset)
  obtain ⟨before, after, split, length⟩ := (Text.boundary_iff_split _ _).mp boundary
  have own : Text.floorBoundary (hideFrom covered 0 chars) (Text.floorBoundary chars offset) =
      Text.floorBoundary chars offset := by
    rw [split, ← length]
    exact Text.floor_boundary_split before after
  have up := Text.floor_boundary_mono (hideFrom covered 0 chars) _ _ (Text.floor_boundary_le chars offset)
  rw [own] at up
  have onward := Text.floor_boundary_mono chars _ _ up
  rwa [Text.floor_boundary_floor] at onward

theorem floor_max (first second : Nat) : Text.floorBoundary chars (max first second) =
    max (Text.floorBoundary chars first) (Text.floorBoundary chars second) := by
  rcases Nat.le_total first second with le | le
  · rw [Nat.max_eq_right le, Nat.max_eq_right (Text.floor_boundary_mono chars _ _ le)]
  · rw [Nat.max_eq_left le, Nat.max_eq_left (Text.floor_boundary_mono chars _ _ le)]

theorem hidden_reach (event : LocatedEvent) (rest : List LocatedEvent) :
    (hidden covered chars).reach event rest ≤ Text.floorBoundary chars ((left covered chars).reach event rest) := by
  have absent := hidden_absent covered chars event
  obtain ⟨event, span⟩ := event
  have start := hidden_offset covered chars span.start
  have stop := hidden_offset covered chars span.stop
  cases event with
  | scalar text style properties =>
      simp only [reach, absent]
      split
      · exact Nat.zero_le _
      · rw [floor_max, start, stop]
  | reference name =>
      simp only [reach]
      rw [floor_max, start, stop]
  | sequenceStart properties =>
      simp only [reach, hidden_next_absent]
      split
      · have inside_le : (hidden covered chars).inside ((hidden covered chars).offset span.start) ≤
            Text.floorBoundary chars ((left covered chars).inside ((left covered chars).offset span.start)) := by
          refine Nat.le_trans ?_ (hidden_floor covered chars _)
          refine Text.floor_boundary_mono chars _ _ (Nat.succ_le_succ ?_)
          rw [start]
          exact Text.floor_boundary_le chars _
        rw [floor_max, ← start]
        omega
      · exact Nat.le_of_eq start
  | mappingStart properties => exact Nat.le_of_eq start
  | sequenceEnd => exact Nat.le_of_eq stop
  | mappingEnd => exact Nat.le_of_eq stop
  | documentStart => exact Nat.zero_le _
  | documentEnd => exact Nat.zero_le _

theorem hidden_in_order (bound : Nat) (events : List LocatedEvent) (ordered : (left covered chars).InOrder bound events) :
    (hidden covered chars).InOrder (Text.floorBoundary chars bound) events := by
  induction events generalizing bound with
  | nil => trivial
  | cons event rest ih =>
      obtain ⟨behind, onward⟩ := ordered
      refine ⟨fun present => ?_, in_order_earlier _ _ _ rest ?_ (ih _ onward)⟩
      · rw [hidden_present] at present
        rw [hidden_offset]
        exact Text.floor_boundary_mono chars _ _ (behind present)
      · have reaches := hidden_reach covered chars event rest
        rw [floor_max]
        omega

end

end Source

section

variable (read : TextReader) (text : String) (relaxedNames : Bool)

def finalSource : Source :=
  ⟨(Recovery.run read (Outline.ofText text relaxedNames) text.toList).working, text.toList⟩

def finalEvents? : Option (List LocatedEvent) :=
  (Recovery.run read (Outline.ofText text relaxedNames) text.toList).events

theorem final_reads (events : List LocatedEvent) (found : finalEvents? read text relaxedNames = some events) :
    ∃ covered, finalSource read text relaxedNames = .hidden covered text.toList ∧
      read (hideFrom covered 0 text.toList) = .ok events := by
  have reads := Recovery.rounds_read read (Outline.ofText text relaxedNames) text.toList _ _ rfl events found
  have recorded := Recovery.after_recorded read (Outline.ofText text relaxedNames) text.toList
    ((Outline.ofText text relaxedNames).size + 2) (Outline.of_text_sound text relaxedNames)
  refine ⟨_, congrArg (Source.mk · text.toList) recorded.text, ?_⟩
  rw [← recorded.text]
  exact reads

theorem parse_by_documents (root : Node) (member : root ∈ (Tree.parseBy read text relaxedNames).documents) :
    ∃ events, finalEvents? read text relaxedNames = some events ∧
      root ∈ composeDocuments (finalSource read text relaxedNames) events := by
  change root ∈ ((finalEvents? read text relaxedNames).map
    (composeDocuments (finalSource read text relaxedNames))).getD [] at member
  cases found : finalEvents? read text relaxedNames with
  | none => simp [found] at member
  | some events =>
      rw [found] at member
      exact ⟨events, rfl, member⟩

theorem final_in_order (ordered : read.Ordered) (events : List LocatedEvent)
    (found : finalEvents? read text relaxedNames = some events) : (finalSource read text relaxedNames).InOrder 0 events := by
  obtain ⟨covered, source, reads⟩ := final_reads read text relaxedNames events found
  have onward := Source.hidden_in_order covered text.toList 0 events (ordered _ events reads)
  rw [source]
  exact Source.in_order_earlier _ 0 _ events (Nat.zero_le _) onward

end

end YamlDialects.Yaml
