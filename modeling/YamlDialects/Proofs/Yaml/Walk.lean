import YamlDialects.Yaml.Compose

/-!
Where a node belongs follows from the events before it. Each open collection waits for a key, for the value of a key or for
an item. A key that is found in a composed node is one of the events, and the path to it is given by what the collections
around it were waiting for.
-/

set_option autoImplicit false

namespace YamlDialects.Yaml

namespace Node

inductive KeyAt : Node → Path → String → Region → Prop where
  | here (entries : List (Node × Node)) (region : Region) (name : String) (place : Region) (value : Node)
      (member : (.scalar name place, value) ∈ entries) : KeyAt (.mapping entries region) [] name place
  | value (entries : List (Node × Node)) (region : Region) (key value : Node) (path : Path) (name : String) (place : Region)
      (member : (key, value) ∈ entries) (below : KeyAt value path name place) :
      KeyAt (.mapping entries region) (.value (key.scalar?.getD "") :: path) name place
  | item (items : List Node) (region : Region) (position : Nat) (item : Node) (path : Path) (name : String) (place : Region)
      (member : items[position]? = some item) (below : KeyAt item path name place) :
      KeyAt (.sequence items region) (.index position :: path) name place

theorem key_at_more (first : Node × Node) (entries : List (Node × Node)) (region : Region) (path : Path) (name : String)
    (place : Region) (found : KeyAt (.mapping entries region) path name place) :
    KeyAt (.mapping (first :: entries) region) path name place := by
  cases found with
  | here _ _ _ _ value member => exact .here _ _ _ _ value (List.mem_cons_of_mem _ member)
  | value _ _ key value path _ _ member below => exact .value _ _ key value path _ _ (List.mem_cons_of_mem _ member) below

theorem key_at_none (region : Region) (path : Path) (name : String) (place : Region) :
    ¬ KeyAt (.mapping [] region) path name place := by
  intro found
  cases found with
  | here _ _ _ _ value member => cases member
  | value _ _ key value path _ _ member => cases member

theorem split_path (path tail : Path) (first last : Segment) (same : path ++ [last] = first :: tail) (other : first ≠ last) :
    ∃ rest, path = first :: rest ∧ tail = rest ++ [last] := by
  cases path with
  | nil => exact absurd (List.cons.inj same).1.symm other
  | cons head rest =>
      obtain ⟨rfl, rfl⟩ := List.cons.inj same
      exact ⟨rest, rfl, rfl⟩

mutual

theorem locate_key (offset : Nat) (node : Node) (path : Path) (name text : String) (place : Region)
    (found : node.locate offset = (path ++ [.key name], .scalar text place)) :
    KeyAt node path text place ∧ place.contains offset = true := by
  match node with
  | .scalar _ _ => simp [locate] at found
  | .mapping entries region =>
      rw [locate] at found
      cases inside : locateEntry offset entries with
      | none => simp [inside] at found
      | some result =>
          rw [inside, Option.getD_some] at found
          exact locate_entry_key offset entries region path name text place (by rw [inside, found])
  | .sequence items region =>
      rw [locate] at found
      cases inside : locateItem offset 0 items with
      | none => simp [inside] at found
      | some result =>
          rw [inside, Option.getD_some] at found
          obtain ⟨position, item, rest, rfl, member, below, contains⟩ :=
            locate_item_key offset 0 items path name text place (by rw [inside, found])
          rw [Nat.zero_add]
          exact ⟨.item items region position item rest text place member below, contains⟩

theorem locate_entry_key (offset : Nat) (entries : List (Node × Node)) (region : Region) (path : Path) (name text : String)
    (place : Region) (found : locateEntry offset entries = some (path ++ [.key name], .scalar text place)) :
    KeyAt (.mapping entries region) path text place ∧ place.contains offset = true := by
  match entries with
  | [] => simp [locateEntry] at found
  | (key, value) :: rest =>
      simp only [locateEntry] at found
      split at found
      next onKey =>
        obtain ⟨same, rfl⟩ := Prod.mk.inj (Option.some.inj found)
        obtain rfl : path = [] := by
          cases path with
          | nil => rfl
          | cons head tail => simp at same
        exact ⟨.here _ _ text place value List.mem_cons_self, onKey⟩
      next =>
        split at found
        next =>
          obtain ⟨same, below⟩ := Prod.mk.inj (Option.some.inj found)
          obtain ⟨tail, rfl, onward⟩ := split_path path _ _ _ same.symm (by simp)
          obtain ⟨lower, contains⟩ := locate_key offset value tail name text place (Prod.ext onward below)
          exact ⟨.value _ _ key value tail text place List.mem_cons_self lower, contains⟩
        next =>
          obtain ⟨lower, contains⟩ := locate_entry_key offset rest region path name text place found
          exact ⟨key_at_more _ rest region path text place lower, contains⟩

theorem locate_item_key (offset position : Nat) (items : List Node) (path : Path) (name text : String) (place : Region)
    (found : locateItem offset position items = some (path ++ [.key name], .scalar text place)) :
    ∃ count item rest, path = .index (position + count) :: rest ∧ items[count]? = some item ∧ KeyAt item rest text place ∧
      place.contains offset = true := by
  match items with
  | [] => simp [locateItem] at found
  | item :: rest =>
      simp only [locateItem] at found
      split at found
      next =>
        obtain ⟨same, below⟩ := Prod.mk.inj (Option.some.inj found)
        obtain ⟨tail, rfl, onward⟩ := split_path path _ _ _ same.symm (by simp)
        obtain ⟨lower, contains⟩ := locate_key offset item tail name text place (Prod.ext onward below)
        exact ⟨0, item, tail, rfl, rfl, lower, contains⟩
      next =>
        obtain ⟨count, inner, tail, rfl, member, lower, contains⟩ :=
          locate_item_key offset (position + 1) rest path name text place found
        exact ⟨count + 1, inner, tail, by rw [Nat.add_assoc, Nat.add_comm 1 count], member, lower, contains⟩

end

end Node

-- What an open collection waits for, or a document, or the list of documents.
inductive Slot where
  | document (position : Nat)
  | root
  | read
  | key
  | value (name : String)
  | item (position : Nat)
deriving DecidableEq

namespace Slot

def segment? : Slot → Option Segment
  | .document position => some (.index position)
  | .value name => some (.value name)
  | .item position => some (.index position)
  | _ => none

def path (slots : List Slot) : Path :=
  (slots.filterMap segment?).reverse

def done? (name : String) : List Slot → Option (List Slot)
  | .root :: outer => some (.read :: outer)
  | .key :: outer => some (.value name :: outer)
  | .value _ :: outer => some (.key :: outer)
  | .item position :: outer => some (.item (position + 1) :: outer)
  | _ => none

theorem path_append (inner outer : List Slot) : path (inner ++ outer) = path outer ++ path inner := by
  simp [path]

end Slot

namespace Composer

def leaf? (source : Source) (last : Nat) (event : LocatedEvent) : Option Node :=
  match event.event with
  | .scalar text style _ => some (scalar source text style event.span [] last).1
  | .reference _ => some (reference source event.span []).1
  | _ => none

def leafName (source : Source) (event : LocatedEvent) : String :=
  (((leaf? source 0 event).bind Node.scalar?).getD "")

def walk (source : Source) (slots : List Slot) (event : LocatedEvent) : Option (List Slot) :=
  match event.event with
  | .documentStart =>
      match slots with
      | [.document position] => some [.root, .document position]
      | _ => none
  | .documentEnd =>
      match slots with
      | [.read, .document position] => some [.document (position + 1)]
      | _ => none
  | .mappingStart _ => (Slot.done? "" slots).map fun _ => .key :: slots
  | .sequenceStart _ => (Slot.done? "" slots).map fun _ => .item 0 :: slots
  | .mappingEnd =>
      match slots with
      | .key :: outer => Slot.done? "" outer
      | _ => none
  | .sequenceEnd =>
      match slots with
      | .item _ :: outer => Slot.done? "" outer
      | _ => none
  | _ => Slot.done? (leafName source event) slots

def Meets (source : Source) (start base : List Slot) (events : List LocatedEvent) (path : Path) (name : String)
    (place : Region) : Prop :=
  ∃ before event after inner last, events = before ++ event :: after ∧
    before.foldlM (walk source) start = some (.key :: (inner ++ base)) ∧ .key ∉ inner ∧ Slot.path inner = path ∧
    leaf? source last event = some (.scalar name place)

theorem meets_more (source : Source) (start base : List Slot) (events more : List LocatedEvent) (path : Path) (name : String)
    (place : Region) (meets : Meets source start base events path name place) :
    Meets source start base (events ++ more) path name place := by
  obtain ⟨before, event, after, inner, last, rfl, rest⟩ := meets
  exact ⟨before, event, after ++ more, inner, last, by simp, rest⟩

theorem meets_later (source : Source) (start middle base : List Slot) (first events : List LocatedEvent) (path : Path)
    (name : String) (place : Region) (leads : first.foldlM (walk source) start = some middle)
    (meets : Meets source middle base events path name place) : Meets source start base (first ++ events) path name place := by
  obtain ⟨before, event, after, inner, last, rfl, onward, rest⟩ := meets
  exact ⟨first ++ before, event, after, inner, last, by simp, by rw [List.foldlM_append, leads]; exact onward, rest⟩

theorem meets_inside (source : Source) (start base : List Slot) (slot : Slot) (segment : Segment) (events : List LocatedEvent)
    (path : Path) (name : String) (place : Region) (isSegment : slot.segment? = some segment)
    (meets : Meets source start (slot :: base) events path name place) :
    Meets source start base events (segment :: path) name place := by
  obtain ⟨before, event, after, inner, last, split, onward, open_, rfl, leaf⟩ := meets
  refine ⟨before, event, after, inner ++ [slot], last, split, by rw [onward, List.append_assoc]; rfl, ?_, ?_, leaf⟩
  · intro among
    rcases List.mem_append.mp among with inside | same
    · exact open_ inside
    · rw [← List.mem_singleton.mp same] at isSegment
      cases isSegment
  · rw [Slot.path_append]
    simp [Slot.path, isSegment]

theorem scalar_leaf (source : Source) (text : String) (style : ScalarStyle) (properties : NodeProperties) (span : Span)
    (rest : List LocatedEvent) (last : Nat) : (scalar source text style span rest last).2.events = rest ∧
      leaf? source last ⟨.scalar text style properties, span⟩ = some (scalar source text style span rest last).1 := by
  simp only [leaf?, scalar]
  split <;> exact ⟨rfl, rfl⟩

theorem leaf_name (source : Source) (last : Nat) (event : LocatedEvent) (node : Node)
    (leaf : leaf? source last event = some node) : leafName source event = node.scalar?.getD "" := by
  obtain ⟨event, span⟩ := event
  cases event with
  | scalar text style properties =>
      obtain rfl := Option.some.inj leaf
      simp only [leafName, leaf?, scalar, Option.bind_some]
      split <;> rfl
  | reference name =>
      obtain rfl := Option.some.inj leaf
      rfl
  | _ => cases leaf

theorem leaf_isScalar (source : Source) (last : Nat) (event : LocatedEvent) (node : Node)
    (leaf : leaf? source last event = some node) : ∃ name place, node = .scalar name place := by
  obtain ⟨event, span⟩ := event
  cases event with
  | scalar text style properties =>
      obtain rfl := Option.some.inj leaf
      simp only [scalar]
      split <;> exact ⟨_, _, rfl⟩
  | reference name =>
      obtain rfl := Option.some.inj leaf
      exact ⟨_, _, rfl⟩
  | _ => cases leaf

structure Uses (source : Source) (start : List Slot) (target : Option (List Slot)) (events used rest : List LocatedEvent) : Prop where
  split : events = used ++ rest
  leads : rest = [] ∨ used.foldlM (walk source) start = target

structure NodeUses (source : Source) (slots : List Slot) (events : List LocatedEvent) (last : Nat) (node : Node)
    (used rest : List LocatedEvent) : Prop where
  uses : Uses source slots (Slot.done? (node.scalar?.getD "") slots) events used rest
  some_ : used ≠ []
  leaf : ∀ name place, node = .scalar name place → ∃ event, used = [event] ∧ leaf? source last event = some node
  keys : ∀ path name place, node.KeyAt path name place → Meets source slots slots used path name place

theorem leaf_uses (source : Source) (slots : List Slot) (event : LocatedEvent) (rest : List LocatedEvent) (last : Nat) (node : Node)
    (leaf : leaf? source last event = some node)
    (walks : walk source slots event = Slot.done? (leafName source event) slots) :
    NodeUses source slots (event :: rest) last node [event] rest := by
  obtain ⟨name, place, rfl⟩ := leaf_isScalar source last event node leaf
  refine ⟨⟨rfl, .inr ?_⟩, by simp, fun _ _ _ => ⟨event, rfl, leaf⟩, fun _ _ _ found => by cases found⟩
  rw [List.foldlM_cons, walks, leaf_name source last event _ leaf]
  simp

theorem NodeUses.shorter {source : Source} {slots : List Slot} {events used rest : List LocatedEvent} {last : Nat} {node : Node}
    (uses : NodeUses source slots events last node used rest) : rest.length < events.length := by
  have positive := List.length_pos_iff.mpr uses.some_
  rw [uses.uses.split, List.length_append]
  omega

theorem head_walks (source : Source) (slots final : List Slot) (event : LocatedEvent) (rest : List LocatedEvent)
    (walks : (event :: rest).foldlM (walk source) slots = some final) :
    ∃ next, walk source slots event = some next ∧ rest.foldlM (walk source) next = some final :=
  Option.bind_eq_some_iff.mp walks

theorem node_none (source : Source) (fuel : Nat) (slots final : List Slot) (events : List LocatedEvent) (last : Nat)
    (positive : 0 < fuel) (walks : events.foldlM (walk source) slots = some final) (waits : (Slot.done? "" slots).isSome = true)
    (composes : node source fuel ⟨events, last⟩ = none) :
    events = [] ∨ (∃ outer span rest, slots = .key :: outer ∧ events = ⟨.mappingEnd, span⟩ :: rest) ∨
      ∃ position outer span rest, slots = .item position :: outer ∧ events = ⟨.sequenceEnd, span⟩ :: rest := by
  obtain ⟨fuel, rfl⟩ : ∃ less, fuel = less + 1 := ⟨fuel - 1, by omega⟩
  match events with
  | [] => exact .inl rfl
  | ⟨event, span⟩ :: rest =>
      obtain ⟨next, begins, -⟩ := head_walks source slots final _ rest walks
      cases event with
      | documentStart =>
          simp only [walk] at begins
          split at begins
          next => cases waits
          next => cases begins
      | documentEnd =>
          simp only [walk] at begins
          split at begins
          next => cases waits
          next => cases begins
      | mappingEnd =>
          simp only [walk] at begins
          split at begins
          next outer => exact .inr (.inl ⟨outer, span, rest, rfl, rfl⟩)
          next => cases begins
      | sequenceEnd =>
          simp only [walk] at begins
          split at begins
          next position outer => exact .inr (.inr ⟨position, outer, span, rest, rfl, rfl⟩)
          next => cases begins
      | _ => simp [node] at composes

theorem uses_walks (source : Source) (start middle final : List Slot) (target : Option (List Slot))
    (events used rest : List LocatedEvent) (uses : Uses source start target events used rest)
    (walks : events.foldlM (walk source) start = some final) (same : target = some middle) :
    rest = [] ∨ (used.foldlM (walk source) start = some middle ∧ rest.foldlM (walk source) middle = some final) := by
  refine uses.leads.imp_right fun leads => ⟨leads.trans same, ?_⟩
  rw [uses.split, List.foldlM_append, leads, same] at walks
  exact walks

theorem entries_nil (source : Source) (start fuel stop last : Nat) : entries source start fuel stop ⟨[], last⟩ = ([], stop, []) := by
  cases fuel <;> rfl

theorem items_nil (source : Source) (start fuel stop last : Nat) : items source start fuel stop ⟨[], last⟩ = ([], stop, []) := by
  cases fuel <;> rfl

theorem node_nil (source : Source) (fuel last : Nat) : node source fuel ⟨[], last⟩ = none := by
  cases fuel <;> rfl

structure EntriesUse (source : Source) (outer : List Slot) (events : List LocatedEvent) (entries : List (Node × Node))
    (used rest : List LocatedEvent) : Prop where
  uses : Uses source (.key :: outer) (Slot.done? "" outer) events used rest
  keys : ∀ region path name place, Node.KeyAt (.mapping entries region) path name place →
    Meets source (.key :: outer) outer used path name place

structure ItemsUse (source : Source) (outer : List Slot) (position : Nat) (events : List LocatedEvent) (items : List Node)
    (used rest : List LocatedEvent) : Prop where
  uses : Uses source (.item position :: outer) (Slot.done? "" outer) events used rest
  keys : ∀ count item path name place, items[count]? = some item → item.KeyAt path name place →
    Meets source (.item position :: outer) outer used (.index (position + count) :: path) name place

theorem entries_use_none (source : Source) (outer : List Slot) (events used rest : List LocatedEvent)
    (uses : Uses source (.key :: outer) (Slot.done? "" outer) events used rest) :
    EntriesUse source outer events [] used rest := by
  exact ⟨uses, fun region path name place found => absurd found (Node.key_at_none region path name place)⟩

theorem entries_use_cons (source : Source) (outer : List Slot) (events : List LocatedEvent) (last : Nat) (key value : Node)
    (others : List (Node × Node)) (usedKey usedValue used rest : List LocatedEvent)
    (uses : Uses source (.key :: outer) (Slot.done? "" outer) events (usedKey ++ (usedValue ++ used)) rest)
    (leaf : ∀ name place, key = .scalar name place → ∃ event, usedKey = [event] ∧ leaf? source last event = some key)
    (below : ∀ path name place, value.KeyAt path name place →
      Meets source (.key :: outer) outer (usedKey ++ usedValue) (.value (key.scalar?.getD "") :: path) name place)
    (further : ∀ region path name place, Node.KeyAt (.mapping others region) path name place →
      Meets source (.key :: outer) outer (usedKey ++ (usedValue ++ used)) path name place) :
    EntriesUse source outer events ((key, value) :: others) (usedKey ++ (usedValue ++ used)) rest := by
  refine ⟨uses, fun region path name place found => ?_⟩
  cases found with
  | here _ _ _ _ other member =>
      rcases List.mem_cons.mp member with same | among
      · obtain ⟨rfl, -⟩ := Prod.mk.inj same
        obtain ⟨event, rfl, isLeaf⟩ := leaf name place rfl
        exact ⟨[], event, usedValue ++ used, [], last, rfl, rfl, by simp, rfl, isLeaf⟩
      · exact further region [] name place (.here _ _ _ _ other among)
  | value _ _ otherKey otherValue path _ _ member lower =>
      rcases List.mem_cons.mp member with same | among
      · obtain ⟨rfl, rfl⟩ := Prod.mk.inj same
        rw [← List.append_assoc]
        exact meets_more source _ _ _ _ _ _ _ (below path name place lower)
      · exact further region _ name place (.value _ _ otherKey otherValue path _ _ among lower)

theorem entries_use_more (source : Source) (outer : List Slot) (events after afterValue : List LocatedEvent) (last : Nat)
    (key value : Node) (others : List (Node × Node)) (usedKey usedValue used rest : List LocatedEvent)
    (split : events = usedKey ++ after) (splitValue : after = usedValue ++ afterValue)
    (leaf : ∀ name place, key = .scalar name place → ∃ event, usedKey = [event] ∧ leaf? source last event = some key)
    (below : ∀ path name place, value.KeyAt path name place →
      Meets source (.key :: outer) outer (usedKey ++ usedValue) (.value (key.scalar?.getD "") :: path) name place)
    (leadsKey : usedKey.foldlM (walk source) (.key :: outer) = some (.value (key.scalar?.getD "") :: outer))
    (leadsValue : usedValue.foldlM (walk source) (.value (key.scalar?.getD "") :: outer) = some (.key :: outer))
    (filled : EntriesUse source outer afterValue others used rest) :
    EntriesUse source outer events ((key, value) :: others) (usedKey ++ (usedValue ++ used)) rest := by
  have leads : (usedKey ++ usedValue).foldlM (walk source) (.key :: outer) = some (.key :: outer) := by
    rw [List.foldlM_append, leadsKey]
    exact leadsValue
  refine entries_use_cons source outer _ _ key value _ usedKey usedValue used _ ⟨?_, ?_⟩ leaf below ?_
  · rw [split, splitValue, filled.uses.split]
    simp
  · refine filled.uses.leads.imp_right fun last => ?_
    rw [← List.append_assoc, List.foldlM_append, leads]
    exact last
  · intro region path name place found
    rw [← List.append_assoc]
    exact meets_later source _ _ _ _ _ _ _ _ leads (filled.keys region path name place found)

theorem item_meets (source : Source) (outer : List Slot) (position : Nat) (events : List LocatedEvent) (last : Nat) (item : Node)
    (used rest : List LocatedEvent) (uses : NodeUses source (.item position :: outer) events last item used rest) (path : Path)
    (name : String) (place : Region) (found : item.KeyAt path name place) :
    Meets source (.item position :: outer) outer used (.index position :: path) name place :=
  meets_inside source _ _ _ _ _ _ _ _ rfl (uses.keys path name place found)

theorem items_use_last (source : Source) (outer : List Slot) (position : Nat) (events : List LocatedEvent) (last : Nat) (item : Node)
    (used : List LocatedEvent) (uses : NodeUses source (.item position :: outer) events last item used []) :
    ItemsUse source outer position events [item] used [] := by
  refine ⟨⟨uses.uses.split, .inl rfl⟩, fun count other path name place member found => ?_⟩
  cases count with
  | zero =>
      obtain rfl := Option.some.inj member
      exact item_meets source outer position events last item used [] uses path name place found
  | succ count => cases member

theorem items_use_more (source : Source) (outer : List Slot) (position : Nat) (events after : List LocatedEvent) (last : Nat)
    (item : Node) (others : List Node) (usedItem used rest : List LocatedEvent)
    (uses : NodeUses source (.item position :: outer) events last item usedItem after)
    (leads : usedItem.foldlM (walk source) (.item position :: outer) = some (.item (position + 1) :: outer))
    (filled : ItemsUse source outer (position + 1) after others used rest) :
    ItemsUse source outer position events (item :: others) (usedItem ++ used) rest := by
  refine ⟨⟨?_, ?_⟩, fun count other path name place member found => ?_⟩
  · rw [uses.uses.split, filled.uses.split, List.append_assoc]
  · refine filled.uses.leads.imp_right fun last => ?_
    rw [List.foldlM_append, leads]
    exact last
  · cases count with
    | zero =>
        obtain rfl := Option.some.inj member
        exact meets_more source _ _ _ _ _ _ _ (item_meets source outer position events last item usedItem after uses path name place found)
    | succ count =>
        have meets := filled.keys count other path name place member found
        rw [Nat.add_assoc, Nat.add_comm 1 count] at meets
        exact meets_later source _ _ _ _ _ _ _ _ leads meets

mutual

theorem node_uses (source : Source) (fuel : Nat) (before after : Composer) (found : Node) (slots final : List Slot)
    (enough : 2 * before.events.length ≤ fuel) (walks : before.events.foldlM (walk source) slots = some final)
    (waits : (Slot.done? "" slots).isSome = true) (composes : node source fuel before = some (found, after)) :
    ∃ used, NodeUses source slots before.events before.last found used after.events := by
  match fuel, before with
  | 0, _ => simp [node] at composes
  | _ + 1, ⟨[], _⟩ => simp [node] at composes
  | fuel + 1, ⟨⟨event, span⟩ :: rest, last⟩ =>
      obtain ⟨next, first, onward⟩ := head_walks source slots final _ rest walks
      obtain ⟨complete, completes⟩ := Option.isSome_iff_exists.mp waits
      rw [node] at composes
      cases event with
      | scalar text style properties =>
          have same := scalar_leaf source text style properties span rest last
          have read : scalar source text style span rest last = (found, after) := Option.some.inj composes
          rw [read] at same
          rw [same.1]
          exact ⟨_, leaf_uses source slots _ rest last found same.2 rfl⟩
      | reference name =>
          obtain ⟨rfl, rfl⟩ := Prod.mk.inj (Option.some.inj composes)
          exact ⟨_, leaf_uses source slots _ rest last _ rfl rfl⟩
      | mappingStart properties =>
          have opens : walk source slots ⟨.mappingStart properties, span⟩ = some (.key :: slots) := by
            simp only [walk, completes, Option.map_some]
          obtain rfl := Option.some.inj (opens.symm.trans first)
          obtain ⟨used, filled⟩ := entries_use source (source.offset span.start) fuel (source.offset span.start)
            ⟨rest, source.offset span.start⟩ slots final (by simp only [List.length_cons] at enough ⊢; omega) onward waits _ rfl
          obtain ⟨rfl, rfl⟩ := Prod.mk.inj (Option.some.inj composes)
          refine ⟨⟨.mappingStart properties, span⟩ :: used, ⟨?_, ?_⟩, by simp, fun _ _ other => (by cases other), ?_⟩
          · exact congrArg _ filled.uses.split
          · refine filled.uses.leads.imp_right fun leads => ?_
            rw [List.foldlM_cons, opens]
            exact leads
          · intro path name place keyAt
            exact meets_later source slots _ slots [_] used path name place (by simp [opens]) (filled.keys _ path name place keyAt)
      | sequenceStart properties =>
          have opens : walk source slots ⟨.sequenceStart properties, span⟩ = some (.item 0 :: slots) := by
            simp only [walk, completes, Option.map_some]
          obtain rfl := Option.some.inj (opens.symm.trans first)
          obtain ⟨used, filled⟩ := items_use source (source.offset span.start) fuel (source.offset span.start)
            ⟨rest, Text.floorBoundary source.shown (source.offset span.start + 1)⟩ slots final 0
            (by simp only [List.length_cons] at enough ⊢; omega) onward waits _ rfl
          obtain ⟨rfl, rfl⟩ := Prod.mk.inj (Option.some.inj composes)
          refine ⟨⟨.sequenceStart properties, span⟩ :: used, ⟨?_, ?_⟩, by simp, fun _ _ other => (by cases other), ?_⟩
          · exact congrArg _ filled.uses.split
          · refine filled.uses.leads.imp_right fun leads => ?_
            rw [List.foldlM_cons, opens]
            exact leads
          · intro path name place keyAt
            cases keyAt with
            | item _ _ position item path _ _ member below =>
                have meets := filled.keys position item path name place member below
                rw [Nat.zero_add] at meets
                exact meets_later source slots _ slots [_] used _ name place (by simp [opens]) meets
      | _ => simp at composes
termination_by structural fuel

theorem entries_use (source : Source) (start fuel stop : Nat) (composer : Composer) (outer final : List Slot)
    (enough : 2 * composer.events.length + 1 ≤ fuel) (walks : composer.events.foldlM (walk source) (.key :: outer) = some final)
    (waits : (Slot.done? "" outer).isSome = true) (result : List (Node × Node) × Nat × List LocatedEvent)
    (fills : entries source start fuel stop composer = result) :
    ∃ used, EntriesUse source outer composer.events result.1 used result.2.2 := by
  match fuel with
  | 0 => omega
  | fuel + 1 =>
      rw [entries] at fills
      split at fills
      next empty =>
        subst fills
        rw [empty]
        exact ⟨[], entries_use_none source outer _ [] [] ⟨rfl, .inl rfl⟩⟩
      next span rest events =>
        subst fills
        rw [events]
        exact ⟨[⟨.mappingEnd, span⟩], entries_use_none source outer _ _ _ ⟨rfl, .inr (by simp [walk])⟩⟩
      next notEmpty notEnd =>
        obtain ⟨events, last⟩ := composer
        simp only at notEmpty notEnd enough walks fills ⊢
        have some_ := List.length_pos_iff.mpr notEmpty
        split at fills
        next nothing =>
          rcases node_none source fuel _ final events last (by omega) walks rfl nothing with
            empty | ⟨_, span, rest, -, ends⟩ | ⟨_, _, _, _, other, -⟩
          · exact absurd empty notEmpty
          · exact absurd ends (notEnd span rest)
          · cases other
        next key after composesKey =>
          obtain ⟨usedKey, keyUses⟩ := node_uses source fuel _ after key _ final (by simp only; omega) walks rfl composesKey
          have split : events = usedKey ++ after.events := keyUses.uses.split
          have shorter : after.events.length < events.length := keyUses.shorter
          by_cases empty : after.events = []
          · -- the events have run out behind the key
            obtain ⟨_, last⟩ := after
            subst empty
            rw [node_nil, Option.getD_none, entries_nil] at fills
            subst fills
            refine ⟨_, entries_use_cons source outer _ _ key _ [] usedKey [] [] [] ⟨by simpa using split, .inl rfl⟩ keyUses.leaf ?_ ?_⟩
            · intro path name place found
              cases found
            · exact fun region path name place found => absurd found (Node.key_at_none region path name place)
          · obtain ⟨leadsKey, onward⟩ := (uses_walks source _ (.value (key.scalar?.getD "") :: outer) final _ _ _ _ keyUses.uses
              walks rfl).resolve_left empty
            cases composesValue : node source fuel after with
            | none =>
                rcases node_none source fuel _ final after.events after.last (by omega) onward rfl composesValue with
                  none | ⟨_, _, _, other, -⟩ | ⟨_, _, _, _, other, -⟩
                · exact absurd none empty
                · cases other
                · cases other
            | some result =>
                obtain ⟨value, afterValue⟩ := result
                obtain ⟨usedValue, valueUses⟩ := node_uses source fuel after afterValue value _ final (by omega) onward rfl
                  composesValue
                have splitValue : after.events = usedValue ++ afterValue.events := valueUses.uses.split
                have below (path : Path) (name : String) (place : Region) (found : value.KeyAt path name place) :
                    Meets source (.key :: outer) outer (usedKey ++ usedValue) (.value (key.scalar?.getD "") :: path) name place :=
                  meets_later source _ _ _ _ _ _ _ _ leadsKey
                    (meets_inside source _ _ _ _ _ _ _ _ rfl (valueUses.keys path name place found))
                simp only [composesValue, Option.getD_some] at fills
                rcases uses_walks source _ (.key :: outer) final _ _ _ _ valueUses.uses onward rfl with emptyValue | ⟨leadsValue, onwards⟩
                · obtain ⟨_, last⟩ := afterValue
                  subst emptyValue
                  rw [entries_nil] at fills
                  subst fills
                  refine ⟨_, entries_use_cons source outer _ _ key value [] usedKey usedValue [] []
                    ⟨by rw [split, splitValue]; simp, .inl rfl⟩ keyUses.leaf below ?_⟩
                  exact fun region path name place found => absurd found (Node.key_at_none region path name place)
                · have further : afterValue.events.length < after.events.length := valueUses.shorter
                  obtain ⟨used, filled⟩ := entries_use source start fuel (max (max stop key.region.stop) value.region.stop) afterValue
                    outer final (by omega) onwards waits _ rfl
                  subst fills
                  exact ⟨_, entries_use_more source outer _ _ _ last key value _ usedKey usedValue used _ split splitValue keyUses.leaf
                    below leadsKey leadsValue filled⟩
termination_by structural fuel

theorem items_use (source : Source) (start fuel stop : Nat) (composer : Composer) (outer final : List Slot) (position : Nat)
    (enough : 2 * composer.events.length + 1 ≤ fuel)
    (walks : composer.events.foldlM (walk source) (.item position :: outer) = some final)
    (waits : (Slot.done? "" outer).isSome = true) (result : List Node × Nat × List LocatedEvent)
    (fills : items source start fuel stop composer = result) :
    ∃ used, ItemsUse source outer position composer.events result.1 used result.2.2 := by
  match fuel with
  | 0 => omega
  | fuel + 1 =>
      rw [items] at fills
      split at fills
      next empty =>
        subst fills
        rw [empty]
        exact ⟨[], ⟨rfl, .inl rfl⟩, by simp⟩
      next span rest events =>
        subst fills
        rw [events]
        exact ⟨[⟨.sequenceEnd, span⟩], ⟨rfl, .inr (by simp [walk])⟩, by simp⟩
      next notEmpty notEnd =>
        obtain ⟨events, last⟩ := composer
        simp only at notEmpty notEnd enough walks fills ⊢
        have some_ := List.length_pos_iff.mpr notEmpty
        split at fills
        next nothing =>
          rcases node_none source fuel _ final events last (by omega) walks rfl nothing with
            empty | ⟨_, _, _, other, -⟩ | ⟨_, _, span, rest, -, ends⟩
          · exact absurd empty notEmpty
          · cases other
          · exact absurd ends (notEnd span rest)
        next item after composesItem =>
          obtain ⟨usedItem, itemUses⟩ := node_uses source fuel _ after item _ final (by simp only; omega) walks rfl composesItem
          rcases uses_walks source _ (.item (position + 1) :: outer) final _ _ _ _ itemUses.uses walks rfl with empty | ⟨leads, onward⟩
          · obtain ⟨_, last⟩ := after
            subst empty
            rw [items_nil] at fills
            subst fills
            exact ⟨usedItem, items_use_last source outer position _ _ item usedItem itemUses⟩
          · have shorter : after.events.length < events.length := itemUses.shorter
            obtain ⟨used, filled⟩ := items_use source start fuel (max stop item.region.stop) after outer final (position + 1) (by omega)
              onward waits _ rfl
            subst fills
            exact ⟨_, items_use_more source outer position _ _ _ item _ usedItem used _ itemUses leads filled⟩
termination_by structural fuel

end

theorem roots_nil (source : Source) (fuel : Nat) : roots source fuel [] = [] := by
  cases fuel <;> rfl

theorem meets_document (source : Source) (start : List Slot) (position : Nat) (events : List LocatedEvent) (path : Path)
    (name : String) (place : Region) (meets : Meets source start [.root, .document position] events path name place) :
    Meets source start [] events (.index position :: path) name place := by
  obtain ⟨before, event, after, inner, last, split, onward, open_, rfl, leaf⟩ := meets
  refine ⟨before, event, after, inner ++ [.root, .document position], last, split, by rw [onward, List.append_nil], ?_, ?_, leaf⟩
  · simpa using open_
  · rw [Slot.path_append]
    rfl

theorem walk_document (source : Source) (position : Nat) (event : LocatedEvent) (next : List Slot)
    (walks : walk source [.document position] event = some next) :
    event.event = .documentStart ∧ next = [.root, .document position] := by
  obtain ⟨event, span⟩ := event
  cases event <;> simp [walk, Slot.done?] at walks ⊢
  exact walks.symm

theorem walk_read (source : Source) (position : Nat) (event : LocatedEvent) (next : List Slot)
    (walks : walk source [.read, .document position] event = some next) :
    event.event = .documentEnd ∧ next = [.document (position + 1)] := by
  obtain ⟨event, span⟩ := event
  cases event <;> simp [walk, Slot.done?] at walks ⊢
  exact walks.symm

theorem roots_use (source : Source) (fuel position : Nat) (events : List LocatedEvent) (final : List Slot)
    (enough : events.length < fuel) (walks : events.foldlM (walk source) [.document position] = some final) (count : Nat) (root : Node)
    (path : Path) (name : String) (place : Region) (member : (roots source fuel events)[count]? = some root)
    (found : root.KeyAt path name place) :
    Meets source [.document position] [] events (.index (position + count) :: path) name place := by
  induction fuel generalizing events position count with
  | zero => omega
  | succ fuel ih =>
      cases events with
      | nil => simp [roots] at member
      | cons event rest =>
          obtain ⟨next, begins, onward⟩ := head_walks source _ final event rest walks
          obtain ⟨starts, rfl⟩ := walk_document source position event next begins
          rw [roots, if_pos starts] at member
          cases composes : node source (2 * rest.length + 2) ⟨rest, source.offset event.span.start⟩ with
          | none =>
              obtain rfl : rest = [] := by
                rcases node_none source _ _ final rest _ (by omega) onward rfl composes with
                  empty | ⟨_, _, _, other, -⟩ | ⟨_, _, _, _, other, -⟩
                · exact empty
                · cases other
                · cases other
              simp only [composes, Option.getD_none, afterDocument, roots_nil] at member
              cases count with
              | zero =>
                  obtain rfl := Option.some.inj member
                  cases found
              | succ count => cases member
          | some result =>
              obtain ⟨composed, after⟩ := result
              obtain ⟨used, uses⟩ := node_uses source _ _ after composed _ final (by simp only; omega) onward rfl composes
              have split : rest = used ++ after.events := uses.uses.split
              simp only [composes, Option.getD_some] at member
              cases count with
              | zero =>
                  obtain rfl := Option.some.inj member
                  have meets := meets_document source _ position used path name place (uses.keys path name place found)
                  rw [Nat.add_zero, split]
                  exact meets_later source _ _ _ [event] _ _ _ _ (by simp [begins]) (meets_more source _ _ used _ _ _ _ meets)
              | succ count =>
                  rcases uses_walks source _ [.read, .document position] final _ _ _ _ uses.uses onward rfl with
                    empty | ⟨leads, onwards⟩
                  · simp [empty, afterDocument, roots_nil] at member
                  · cases known : after.events with
                    | nil => simp [known, afterDocument, roots_nil] at member
                    | cons second others =>
                        rw [known] at onwards member split
                        obtain ⟨next, ends, last⟩ := head_walks source _ final second others onwards
                        obtain ⟨isEnd, rfl⟩ := walk_read source position second next ends
                        have between : afterDocument (second :: others) = others := if_pos isEnd
                        rw [between] at member
                        have length : others.length < fuel := by
                          have lengths := congrArg List.length split
                          simp only [List.length_append, List.length_cons] at lengths enough
                          omega
                        have meets := ih (position + 1) others length last count member
                        have leading : (event :: (used ++ [second])).foldlM (walk source) [.document position] =
                            some [.document (position + 1)] := by
                          simp [begins, List.foldlM_append, leads, ends]
                        have all := meets_later source _ _ _ _ _ _ _ _ leading meets
                        rw [split, show position + (count + 1) = position + 1 + count by omega]
                        simpa using all

end Composer
end YamlDialects.Yaml
