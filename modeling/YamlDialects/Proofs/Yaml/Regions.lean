import YamlDialects.Proofs.Yaml.Event.Order
import YamlDialects.Proofs.Yaml.Walk

/-!
Where the nodes of a text stand. Every collection encloses its children, and these lie one after the other exactly if no
bracketed collection has been given an end behind the start of a later one. Whatever ends they have been given, each scalar
that takes up room stands in the span of an event of its own.
-/

set_option autoImplicit false

namespace YamlDialects.Yaml

theorem regions_nest_unless_overrun (read : TextReader) (ordered : read.Ordered) (text : String) (relaxedNames : Bool) :
    ∀ root ∈ (Tree.parseBy read text relaxedNames).documents, ∀ node, Node.Within node root →
      node.Encloses ∧ (node.Separate ↔ ¬ (finalSource read text relaxedNames).Overruns node) := by
  intro root member node inside
  obtain ⟨events, found, composed⟩ := parse_by_documents read text relaxedNames root member
  have laid := documents_laid _ events (final_in_order read text relaxedNames ordered events found) root composed
  have below : (finalSource read text relaxedNames).AllLaid node := fun inner deeper =>
    laid inner (Node.within_trans inner node root deeper inside)
  exact ⟨(below node (.here node)).encloses, Source.separate_iff_not_overrun _ node below⟩

-- The list of a has no bracket of its own, but its first character is the bracket of its item.
def overlapText : String :=
  "a:\n- [x]\nb: y]\n"

theorem overlap_regions_nest : ∃ root ∈ (Tree.parseBy readText overlapText false).documents,
    root.Encloses ∧ (root.Separate ↔ ¬ (finalSource readText overlapText false).Overruns root) := by
  have some_ : (Tree.parseBy readText overlapText false).documents ≠ [] := by decide +kernel
  obtain ⟨root, member⟩ := List.exists_mem_of_ne_nil _ some_
  exact ⟨root, member, regions_nest_unless_overrun readText read_text_ordered overlapText false root member root (.here root)⟩

theorem overlap_not_separate : ∃ root ∈ (Tree.parse overlapText).documents, ¬ root.Separate := by
  have regions : ((Tree.parse overlapText).documents.map fun root => root.children.map Node.region) =
      [[⟨0, 1⟩, ⟨5, 14⟩, ⟨9, 10⟩, ⟨12, 14⟩]] := by decide +kernel
  obtain ⟨root, single, children⟩ := List.map_eq_singleton_iff.mp regions
  refine ⟨root, by simp [single], fun separate => ?_⟩
  have chain : (root.children.map Node.region).IsChain fun first second => first.stop ≤ second.start :=
    (List.isChain_map _).mpr separate
  rw [children] at chain
  simp [List.isChain_cons_cons] at chain

namespace Node

mutual

-- The places of the scalars at and below a node that take up room, in the order of the text.
def rooms : Node → List Region
  | .scalar _ region => if region.start < region.stop then [region] else []
  | .mapping entries _ => entryRooms entries
  | .sequence items _ => itemRooms items

def entryRooms : List (Node × Node) → List Region
  | [] => []
  | (key, value) :: rest => rooms key ++ (rooms value ++ entryRooms rest)

def itemRooms : List Node → List Region
  | [] => []
  | item :: rest => rooms item ++ itemRooms rest

end

mutual

theorem mem_rooms (node : Node) (region : Region) (member : region ∈ node.rooms) :
    region.start < region.stop ∧ ∃ text, Within (.scalar text region) node := by
  match node with
  | .scalar text place =>
      by_cases room : place.start < place.stop
      · rw [rooms, if_pos room] at member
        obtain rfl := List.mem_singleton.mp member
        exact ⟨room, text, .here _⟩
      · rw [rooms, if_neg room] at member
        cases member
  | .mapping entries place =>
      obtain ⟨room, child, listed, text, inside⟩ := mem_entry_rooms entries region member
      exact ⟨room, text, .under _ child _ listed inside⟩
  | .sequence items place =>
      obtain ⟨room, child, listed, text, inside⟩ := mem_item_rooms items region member
      exact ⟨room, text, .under _ child _ listed inside⟩

theorem mem_entry_rooms (entries : List (Node × Node)) (region : Region) (member : region ∈ entryRooms entries) :
    region.start < region.stop ∧ ∃ child ∈ entries.flatMap fun entry => [entry.1, entry.2],
      ∃ text, Within (.scalar text region) child := by
  match entries with
  | [] => cases member
  | (key, value) :: rest =>
      rw [entryRooms, List.mem_append, List.mem_append] at member
      rcases member with inKey | inValue | later
      · obtain ⟨room, inside⟩ := mem_rooms key region inKey
        exact ⟨room, key, by simp, inside⟩
      · obtain ⟨room, inside⟩ := mem_rooms value region inValue
        exact ⟨room, value, by simp, inside⟩
      · obtain ⟨room, child, listed, inside⟩ := mem_entry_rooms rest region later
        exact ⟨room, child, List.mem_append_right [key, value] listed, inside⟩

theorem mem_item_rooms (items : List Node) (region : Region) (member : region ∈ itemRooms items) :
    region.start < region.stop ∧ ∃ child ∈ items, ∃ text, Within (.scalar text region) child := by
  match items with
  | [] => cases member
  | item :: rest =>
      rw [itemRooms, List.mem_append] at member
      rcases member with inItem | later
      · obtain ⟨room, inside⟩ := mem_rooms item region inItem
        exact ⟨room, item, List.mem_cons_self, inside⟩
      · obtain ⟨room, child, listed, inside⟩ := mem_item_rooms rest region later
        exact ⟨room, child, List.mem_cons_of_mem _ listed, inside⟩

end

end Node

namespace Source

def spanRegion (source : Source) (event : LocatedEvent) : Region :=
  ⟨source.offset event.span.start, source.offset event.span.stop⟩

def Occupies (source : Source) (event : LocatedEvent) : Prop :=
  event.event.isLeaf = true ∧ source.isPresent event = true ∧
    (source.spanRegion event).start < (source.spanRegion event).stop

def SpansApart (source : Source) (first second : LocatedEvent) : Prop :=
  source.Occupies first → source.Occupies second → (source.spanRegion first).overlaps (source.spanRegion second) = false

end Source

def TextReader.Apart (read : TextReader) : Prop :=
  ∀ chars events, read chars = .ok events → events.Pairwise (Source.mk chars chars).SpansApart

namespace Source

theorem hidden_spans_apart (covered : Nat → Bool) (chars : List Char) (first second : LocatedEvent)
    (apart : (left covered chars).SpansApart first second) : (hidden covered chars).SpansApart first second := by
  have floored (event : LocatedEvent) : (hidden covered chars).spanRegion event =
      ⟨Text.floorBoundary chars ((left covered chars).spanRegion event).start,
        Text.floorBoundary chars ((left covered chars).spanRegion event).stop⟩ := by
    simp only [spanRegion, hidden_offset]
  have occupied (event : LocatedEvent) (occupies : (hidden covered chars).Occupies event) :
      (left covered chars).Occupies event := by
    obtain ⟨leaf, present, room⟩ := occupies
    rw [hidden_present] at present
    rw [floored] at room
    refine ⟨leaf, present, ?_⟩
    by_contra empty
    exact absurd room (Nat.not_lt.mpr (Text.floor_boundary_mono chars _ _ (Nat.le_of_not_lt empty)))
  intro ofFirst ofSecond
  have clear := (Region.apart_iff _ _).mp (apart (occupied first ofFirst) (occupied second ofSecond))
  rw [floored, floored, Region.apart_iff]
  exact clear.imp (Text.floor_boundary_mono chars _ _) (Text.floor_boundary_mono chars _ _)

theorem in_order_apart (source : Source) (bound : Nat) (events : List LocatedEvent) (ordered : source.InOrder bound events) :
    events.Pairwise source.SpansApart := by
  have behind (events : List LocatedEvent) (bound : Nat) (ordered : source.InOrder bound events) :
      ∀ event ∈ events, source.isPresent event = true → bound ≤ source.offset event.span.start := by
    induction events generalizing bound with
    | nil => exact List.forall_mem_nil _
    | cons event rest ih =>
        refine List.forall_mem_cons.mpr ⟨ordered.1, ih bound (source.in_order_earlier _ _ rest ?_ ordered.2)⟩
        exact Nat.le_max_left _ _
  induction events generalizing bound with
  | nil => exact List.Pairwise.nil
  | cons event rest ih =>
      refine List.pairwise_cons.mpr ⟨fun other member => ?_, ih _ ordered.2⟩
      rintro ⟨leaf, present, room⟩ ⟨-, alsoPresent, -⟩
      have further := behind rest _ ordered.2 other member alsoPresent
      have reaches : source.offset event.span.stop ≤ source.reach event rest := by
        obtain ⟨event, span⟩ := event
        cases event with
        | scalar text style properties =>
            have absent : source.isAbsent ⟨.scalar text style properties, span⟩ = false := by simpa [isPresent] using present
            simp only [reach, absent, Bool.false_eq_true, if_false]
            exact Nat.le_max_right _ _
        | reference name => exact Nat.le_max_right _ _
        | _ => cases leaf
      refine (Region.apart_iff _ _).mpr (.inl ?_)
      simp only [spanRegion]
      omega

end Source

theorem TextReader.apart_of_ordered (read : TextReader) (ordered : read.Ordered) : read.Apart :=
  fun chars events reads => Source.in_order_apart _ 0 events (ordered chars events reads)

namespace Composer

def room? (source : Source) (event : LocatedEvent) : Option Region :=
  ((leaf? source 0 event).map Node.region).filter fun region => region.start < region.stop

theorem room_spec (source : Source) (event : LocatedEvent) (region : Region) (found : room? source event = some region) :
    source.Occupies event ∧ (source.spanRegion event).start ≤ region.start ∧ region.start < region.stop ∧
      region.stop ≤ (source.spanRegion event).stop := by
  obtain ⟨place, here⟩ := Option.filter_eq_some_iff.mp found
  have room : region.start < region.stop := of_decide_eq_true here
  have trimmed (same : source.trimmed (source.offset event.span.start) (source.offset event.span.stop) = region) :
      (source.spanRegion event).start ≤ region.start ∧ region.stop ≤ (source.spanRegion event).stop := by
    obtain ⟨start, -, short⟩ := source.trimmed_spec (source.offset event.span.start) (source.offset event.span.stop)
    rw [same] at start short
    simp only [Source.spanRegion]
    omega
  obtain ⟨event, span⟩ := event
  cases event with
  | scalar text style properties =>
      simp only [leaf?, Option.map_some, Option.some.injEq, scalar] at place
      cases absent : source.isImplicit text style (source.offset span.start) with
      | true =>
          simp only [absent, if_true, Node.region] at place
          rw [← place] at room
          exact absurd room (Nat.lt_irrefl _)
      | false =>
          simp only [absent, Bool.false_eq_true, if_false, Node.region] at place
          obtain ⟨start, stop⟩ := trimmed place
          exact ⟨⟨rfl, by simp [Source.isPresent, Source.isAbsent, absent], by omega⟩, start, room, stop⟩
  | reference name =>
      obtain ⟨start, stop⟩ := trimmed (Option.some.inj place)
      exact ⟨⟨rfl, rfl, by omega⟩, start, room, stop⟩
  | _ => cases place

theorem filter_map_room (source : Source) (event : LocatedEvent) (rest : List LocatedEvent) :
    (event :: rest).filterMap (room? source) = (room? source event).toList ++ rest.filterMap (room? source) := by
  cases found : room? source event <;> simp [found]

theorem rooms_toList (node : Node) (isScalar : node.isScalar = true) :
    node.rooms = ((some node.region).filter fun region => region.start < region.stop).toList := by
  cases node with
  | scalar text region => by_cases room : region.start < region.stop <;> simp [Node.rooms, Node.region, Option.filter, room]
  | _ => cases isScalar

theorem missing_rooms (place : Nat) : (Node.scalar "" (.empty place)).rooms = [] :=
  if_neg (Nat.lt_irrefl place)

theorem scalar_rooms (source : Source) (text : String) (style : ScalarStyle) (properties : NodeProperties) (span : Span)
    (rest : List LocatedEvent) (last : Nat) :
    (scalar source text style span rest last).1.rooms = (room? source ⟨.scalar text style properties, span⟩).toList := by
  simp only [room?, leaf?, scalar]
  split
  · rw [missing_rooms, ← missing_rooms 0]
    exact rooms_toList _ rfl
  · exact rooms_toList _ rfl

section

variable (source : Source)

theorem sublist_more (first second : List Region) (rest later : List LocatedEvent) (events : List LocatedEvent)
    (head : (first ++ rest.filterMap (room? source)).Sublist (events.filterMap (room? source)))
    (tail : (second ++ later.filterMap (room? source)).Sublist (rest.filterMap (room? source))) :
    ((first ++ second) ++ later.filterMap (room? source)).Sublist (events.filterMap (room? source)) := by
  rw [List.append_assoc]
  exact (tail.append_left first).trans head

theorem sublist_skip (first : List Region) (event : LocatedEvent) (rest later : List LocatedEvent)
    (below : (first ++ later.filterMap (room? source)).Sublist (rest.filterMap (room? source))) :
    (first ++ later.filterMap (room? source)).Sublist ((event :: rest).filterMap (room? source)) := by
  rw [filter_map_room]
  exact below.trans (List.sublist_append_right _ _)

mutual

theorem node_rooms (fuel : Nat) (before after : Composer) (found : Node)
    (composes : node source fuel before = some (found, after)) :
    (found.rooms ++ after.events.filterMap (room? source)).Sublist (before.events.filterMap (room? source)) := by
  match fuel, before with
  | 0, _ => simp [node] at composes
  | _ + 1, ⟨[], _⟩ => simp [node] at composes
  | fuel + 1, ⟨⟨event, span⟩ :: rest, last⟩ =>
      rw [node] at composes
      cases event with
      | scalar text style properties =>
          obtain ⟨onward, -⟩ := scalar_leaf source text style properties span rest last
          have read : scalar source text style span rest last = (found, after) := Option.some.inj composes
          have rooms := scalar_rooms source text style properties span rest last
          rw [read] at onward rooms
          rw [rooms, onward, filter_map_room]
      | reference name =>
          obtain ⟨rfl, rfl⟩ := Prod.mk.inj (Option.some.inj composes)
          rw [filter_map_room, rooms_toList _ rfl]
          exact List.Sublist.refl _
      | mappingStart properties =>
          obtain ⟨rfl, rfl⟩ := Prod.mk.inj (Option.some.inj composes)
          exact sublist_skip source _ _ rest _ (entries_rooms _ fuel _ ⟨rest, source.offset span.start⟩)
      | sequenceStart properties =>
          obtain ⟨rfl, rfl⟩ := Prod.mk.inj (Option.some.inj composes)
          exact sublist_skip source _ _ rest _
            (items_rooms _ fuel _ ⟨rest, Text.floorBoundary source.shown (source.offset span.start + 1)⟩)
      | _ => simp at composes
termination_by structural fuel

theorem entries_rooms (start fuel stop : Nat) (composer : Composer) :
    (Node.entryRooms (entries source start fuel stop composer).1 ++
      (entries source start fuel stop composer).2.2.filterMap (room? source)).Sublist
        (composer.events.filterMap (room? source)) := by
  match fuel with
  | 0 => exact List.Sublist.refl _
  | fuel + 1 =>
      rw [entries]
      split
      next none => exact List.nil_sublist _
      next span rest ends =>
        rw [ends]
        exact sublist_skip source [] _ rest rest (List.Sublist.refl _)
      next =>
        split
        next => exact List.Sublist.refl _
        next key after composesKey =>
          have ofKey := node_rooms fuel composer after key composesKey
          cases composesValue : node source fuel after with
          | none =>
              have others := entries_rooms start fuel
                (max (max stop key.region.stop) (Node.scalar "" (.empty key.region.stop)).region.stop) after
              simp only [Option.getD_none, Node.entryRooms, missing_rooms, List.nil_append]
              exact sublist_more source _ _ _ _ _ ofKey others
          | some found =>
              have ofValue := node_rooms fuel after found.2 found.1 composesValue
              have others := entries_rooms start fuel (max (max stop key.region.stop) found.1.region.stop) found.2
              simp only [Option.getD_some, Node.entryRooms]
              exact sublist_more source _ _ _ _ _ ofKey (sublist_more source _ _ _ _ _ ofValue others)
termination_by structural fuel

theorem items_rooms (start fuel stop : Nat) (composer : Composer) :
    (Node.itemRooms (items source start fuel stop composer).1 ++
      (items source start fuel stop composer).2.2.filterMap (room? source)).Sublist
        (composer.events.filterMap (room? source)) := by
  match fuel with
  | 0 => exact List.Sublist.refl _
  | fuel + 1 =>
      rw [items]
      split
      next none => exact List.nil_sublist _
      next span rest ends =>
        rw [ends]
        exact sublist_skip source [] _ rest rest (List.Sublist.refl _)
      next =>
        split
        next => exact List.Sublist.refl _
        next item after composesItem =>
          have ofItem := node_rooms fuel composer after item composesItem
          have others := items_rooms start fuel (max stop item.region.stop) after
          exact sublist_more source _ _ _ _ _ ofItem others
termination_by structural fuel

end

theorem after_document_sublist (events : List LocatedEvent) : (afterDocument events).Sublist events := by
  induction events with
  | nil => exact List.Sublist.refl _
  | cons event rest ih =>
      rw [afterDocument]
      split
      · exact List.sublist_cons_self _ _
      · exact ih.cons _

theorem roots_rooms (fuel : Nat) (events : List LocatedEvent) :
    (Node.itemRooms (roots source fuel events)).Sublist (events.filterMap (room? source)) := by
  induction fuel generalizing events with
  | zero => exact List.nil_sublist _
  | succ fuel ih =>
      cases events with
      | nil => exact List.nil_sublist _
      | cons event rest =>
          have onward (events : List LocatedEvent) :
              (Node.itemRooms (roots source fuel (afterDocument events))).Sublist (events.filterMap (room? source)) :=
            (ih _).trans ((after_document_sublist events).filterMap _)
          have skip : (rest.filterMap (room? source)).Sublist ((event :: rest).filterMap (room? source)) :=
            (List.sublist_cons_self event rest).filterMap _
          rw [roots]
          split
          next =>
            refine List.Sublist.trans ?_ skip
            cases composes : node source (2 * rest.length + 2) ⟨rest, source.offset event.span.start⟩ with
            | none =>
                simp only [composes, Option.getD_none, Node.itemRooms, missing_rooms, List.nil_append]
                exact onward rest
            | some found =>
                simp only [composes, Option.getD_some, Node.itemRooms]
                exact ((onward found.2.events).append_left _).trans (node_rooms source _ _ found.2 found.1 composes)
          next => exact (ih rest).trans skip

end

end Composer

theorem Tree.rooms_nodup (read : TextReader) (apart : read.Apart) (text : String) (relaxedNames : Bool) :
    (Node.itemRooms (parseBy read text relaxedNames).documents).Nodup := by
  change (Node.itemRooms (((finalEvents? read text relaxedNames).map
    (composeDocuments (finalSource read text relaxedNames))).getD [])).Nodup
  cases found : finalEvents? read text relaxedNames with
  | none => exact List.nodup_nil
  | some events =>
      obtain ⟨covered, source, reads⟩ := final_reads read text relaxedNames events found
      rw [source]
      refine (Composer.roots_rooms (.hidden covered text.toList) _ events).nodup (List.pairwise_filterMap.mpr ?_)
      refine (apart _ events reads).imp ?_
      intro first second lie region here other there same
      obtain ⟨ofFirst, start, room, stop⟩ := Composer.room_spec _ first region here
      obtain ⟨ofSecond, otherStart, -, otherStop⟩ := Composer.room_spec _ second other there
      have clear := (Region.apart_iff _ _).mp (Source.hidden_spans_apart covered text.toList first second lie ofFirst ofSecond)
      subst same
      omega

end YamlDialects.Yaml
