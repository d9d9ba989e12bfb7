import YamlDialects.Proofs.Outline.Landmarks
import YamlDialects.Proofs.Outline.Navigation
import YamlDialects.Proofs.Yaml.Regions
import YamlDialects.Proofs.Yaml.Survey

set_option autoImplicit false

namespace YamlDialects.Yaml

namespace Source

theorem leaf_place (source : Source) (last offset : Nat) (event : LocatedEvent) (rest : List LocatedEvent) (name : String)
    (place : Region) (leaf : Composer.leaf? source last event = some (.scalar name place)) (inside : place.contains offset = true) :
    source.isPresent event = true ∧ source.offset event.span.start ≤ offset ∧ offset < source.reach event rest := by
  obtain ⟨above, below⟩ := (Region.contains_iff _ _).mp inside
  obtain ⟨event, span⟩ := event
  obtain ⟨start, -, short⟩ := trimmed_spec source (source.offset span.start) (source.offset span.stop)
  cases event with
  | scalar text style properties =>
      simp only [Composer.leaf?, Composer.scalar] at leaf
      split at leaf
      next =>
        obtain ⟨-, rfl⟩ := Node.scalar.inj (Option.some.inj leaf)
        simp only [Region.empty] at above below
        omega
      next shown =>
        obtain ⟨-, rfl⟩ := Node.scalar.inj (Option.some.inj leaf)
        rw [start] at above
        refine ⟨by simp [isPresent, isAbsent, shown], above, ?_⟩
        simp only [reach, isAbsent, shown]
        exact Nat.lt_of_lt_of_le below short
  | reference alias_ =>
      simp only [Composer.leaf?, Composer.reference] at leaf
      obtain ⟨-, rfl⟩ := Node.scalar.inj (Option.some.inj leaf)
      rw [start] at above
      exact ⟨rfl, above, Nat.lt_of_lt_of_le below short⟩
  | _ => cases leaf

theorem leaf_behind (source : Source) (bound last offset : Nat) (before : List LocatedEvent) (event : LocatedEvent)
    (after : List LocatedEvent) (name : String) (place : Region) (ordered : source.InOrder bound (before ++ event :: after))
    (passed : offset < bound) (leaf : Composer.leaf? source last event = some (.scalar name place)) :
    place.contains offset = false := by
  induction before generalizing bound with
  | nil =>
      apply Bool.eq_false_iff.mpr
      intro inside
      obtain ⟨present, above, -⟩ := source.leaf_place last offset event after name place leaf inside
      have behind := ordered.1 present
      omega
  | cons first before ih => exact ih _ ordered.2 (Nat.lt_of_lt_of_le passed (Nat.le_max_left _ _))

theorem leaf_unique (source : Source) (bound offset : Nat) (before others : List LocatedEvent) (event other : LocatedEvent)
    (after rest : List LocatedEvent) (last final : Nat) (name text : String) (place region : Region)
    (ordered : source.InOrder bound (before ++ event :: after))
    (same : before ++ event :: after = others ++ other :: rest)
    (leaf : Composer.leaf? source last event = some (.scalar name place)) (inside : place.contains offset = true)
    (leafOther : Composer.leaf? source final other = some (.scalar text region)) (insideOther : region.contains offset = true) :
    before = others ∧ event = other := by
  induction before generalizing bound others with
  | nil =>
      cases others with
      | nil => exact ⟨rfl, (List.cons.inj same).1⟩
      | cons first others =>
          obtain ⟨rfl, rfl⟩ := List.cons.inj same
          obtain ⟨-, -, below⟩ := source.leaf_place last offset event (others ++ other :: rest) name place leaf inside
          have away := source.leaf_behind _ final offset others other rest text region ordered.2
            (Nat.lt_of_lt_of_le below (Nat.le_max_right _ _)) leafOther
          simp [away] at insideOther
  | cons first before ih =>
      cases others with
      | nil =>
          obtain ⟨rfl, rfl⟩ := List.cons.inj same
          obtain ⟨-, -, below⟩ := source.leaf_place final offset first (before ++ event :: after) text region leafOther insideOther
          have away := source.leaf_behind _ last offset before event after name place ordered.2
            (Nat.lt_of_lt_of_le below (Nat.le_max_right _ _)) leaf
          simp [away] at inside
      | cons second others =>
          obtain ⟨rfl, onward⟩ := List.cons.inj same
          obtain ⟨rfl, rfl⟩ := ih _ others ordered.2 onward
          exact ⟨rfl, rfl⟩

end Source

namespace Frame

theorem move_key (source : Source) (frames after : List Frame) (event : LocatedEvent) (column offset : Nat) (name : String)
    (region : Region) (move : Move source frames event after (some (.key column name region)))
    (inside : region.contains offset = true) :
    ∃ outer, frames = ⟨.key, .block column⟩ :: outer ∧ Composer.leaf? source 0 event = some (.scalar name region) := by
  generalize marked : some (Landmark.key column name region) = mark at move
  cases move with
  | start => cases marked
  | finish => cases marked
  | leaf frame outer _ own place open_ leaf =>
      rcases Option.or_eq_some_iff.mp marked.symm with isKey | ⟨-, isItem⟩
      · obtain ⟨_, rfl, same⟩ := key_mark_column frame own place _ isKey
        obtain ⟨rfl, rfl, rfl⟩ := Landmark.key.inj same
        exact ⟨outer, rfl, leaf⟩
      · obtain ⟨_, -, same⟩ := item_mark_column frame _ isItem
        cases same
  | opens frame opened outer =>
      obtain ⟨_, -, same⟩ := item_mark_column frame _ marked.symm
      cases same
  | closes closed frame outer =>
      obtain ⟨_, -, same⟩ := key_mark_column frame _ _ _ marked.symm
      obtain ⟨-, -, rfl⟩ := Landmark.key.inj same
      simp [Region.contains, Region.empty] at inside

theorem stands_key (column : Nat) (outer : List Frame) (documents : Nat) (rungs : List Rung) (name : String) (region : Region)
    (stands : Stands (⟨.key, .block column⟩ :: outer) documents rungs) (alone : Slot.key ∉ slots outer) :
    (Trail.note ⟨documents, rungs⟩ (.key column name region)).path = Slot.path (slots outer) ++ [.value name] := by
  generalize all : (⟨.key, .block column⟩ :: outer : List Frame) = frames at stands
  cases stands with
  | outside => cases all
  | read => cases all
  | fresh frame around _ rung rest live =>
      obtain ⟨rfl, rfl⟩ := List.cons.inj all
      cases live
  | item => cases all
  | key _ inner own around _ passed host more split live holds closed =>
      cases inner with
      | nil =>
          rw [split] at all
          obtain ⟨same, rfl⟩ := List.cons.inj all
          obtain rfl : column = own := by simpa using same
          have notes := Trail.note_key documents column name region passed host more closed holds
          have path := live_path _ documents _ (.value name column outer documents host more 0 live holds)
          rw [Trail.path, notes, path]
          simp [Slot.path, slots, Slot.segment?]
      | cons first others =>
          rw [split] at all
          obtain ⟨-, rfl⟩ := List.cons.inj all
          simp [slots] at alone
  | flow _ frame inner around _ _ split bracketed =>
      rw [split] at all
      have flows := bracketed frame List.mem_cons_self
      rw [← (List.cons.inj all).1] at flows
      cases flows

end Frame

theorem Node.step_key_at (segment : Segment) (node next : Node) (tail : Path) (name : String) (region : Region)
    (member : next ∈ node.step segment) (isValue : ∀ key, segment ≠ .key key) (found : next.KeyAt tail name region) :
    ∃ own, segment.Admits own ∧ node.KeyAt (own :: tail) name region := by
  have value (entry : Node × Node) (among : entry ∈ node.entries) (same : entry.2 = next) :
      node.KeyAt (.value (entry.1.scalar?.getD "") :: tail) name region := by
    obtain ⟨key, value⟩ := entry
    cases node with
    | mapping all place =>
        obtain rfl : value = next := same
        exact .value all place key value tail name region among found
    | _ => cases among
  have item (position : Nat) (among : node.items[position]? = some next) : node.KeyAt (.index position :: tail) name region := by
    cases node with
    | sequence all place => exact .item all place position next tail name region among found
    | _ => simp [Node.items] at among
  cases segment with
  | key key => exact absurd rfl (isValue key)
  | value key =>
      obtain ⟨entry, among, same⟩ := List.mem_map.mp member
      obtain ⟨listed, named⟩ := List.mem_filter.mp among
      have reached := value entry listed same
      rw [beq_iff_eq.mp named] at reached
      exact ⟨.value key, .inl rfl, reached⟩
  | index position => exact ⟨.index position, .inl rfl, item position (Option.mem_toList.mp member)⟩
  | anyChild =>
      rcases List.mem_append.mp member with isEntry | isItem
      · obtain ⟨entry, listed, same⟩ := List.mem_map.mp isEntry
        exact ⟨_, .inr rfl, value entry listed same⟩
      · obtain ⟨position, listed⟩ := List.mem_iff_getElem?.mp isItem
        exact ⟨_, .inr rfl, item position listed⟩

theorem Place.file_reached (tree other : Tree) (path : Path) (reached : Place.file other ∈ path.results (Place.file tree)) :
    path = [] ∧ other = tree := by
  rcases List.eq_nil_or_concat path with rfl | ⟨before, segment, rfl⟩
  · exact ⟨rfl, Place.file.inj (List.mem_singleton.mp reached)⟩
  · rw [List.concat_eq_append, Path.results_append] at reached
    obtain ⟨place, -, leads⟩ := List.mem_flatMap.mp reached
    cases place with
    | node parent =>
        obtain ⟨_, _, same⟩ := List.mem_map.mp leads
        cases same
    | file file =>
        cases segment with
        | index position =>
            obtain ⟨_, _, same⟩ := Option.map_eq_some_iff.mp (Option.mem_toList.mp leads)
            cases same
        | _ => cases leads

theorem Place.key_at (tree : Tree) (path : Path) (found : Node) (tail : Path) (name : String) (region : Region)
    (reached : Place.node found ∈ path.results (Place.file tree)) (isValue : ∀ segment ∈ path, ∀ key, segment ≠ .key key)
    (keyAt : found.KeyAt tail name region) :
    ∃ position root asked own, path = .index position :: asked ∧ tree.documents[position]? = some root ∧
      List.Forall₂ Segment.Admits asked own ∧ root.KeyAt (own ++ tail) name region := by
  induction path using List.reverseRecOn generalizing found tail with
  | nil => cases List.mem_singleton.mp reached
  | append_singleton path segment ih =>
      obtain ⟨before, last⟩ := List.forall_mem_append.mp isValue
      rw [Path.results_append] at reached
      obtain ⟨place, there, leads⟩ := List.mem_flatMap.mp reached
      cases place with
      | node parent =>
          obtain ⟨child, steps, same⟩ := List.mem_map.mp leads
          obtain rfl := Place.node.inj same
          obtain ⟨own, admits, above⟩ := Node.step_key_at segment parent child tail name region steps
            (last segment (List.mem_singleton_self _)) keyAt
          obtain ⟨position, root, asked, owns, rfl, listed, all, below⟩ := ih parent (own :: tail) there before above
          refine ⟨position, root, asked ++ [segment], owns ++ [own], rfl, listed, List.rel_append all (.cons admits .nil), ?_⟩
          rwa [← List.append_cons]
      | file other =>
          obtain ⟨rfl, rfl⟩ := Place.file_reached tree other path there
          cases segment with
          | index position =>
              obtain ⟨root, listed, same⟩ := Option.map_eq_some_iff.mp (Option.mem_toList.mp leads)
              obtain rfl := Place.node.inj same
              exact ⟨position, root, [], [], rfl, listed, .nil, keyAt⟩
          | _ => cases leads

theorem abreast_key_path (source : Source) (events : List LocatedEvent) (final : List Frame)
    (marks landmarks seen : List Landmark) (column offset : Nat) (name : String) (region : Region) (path : Path)
    (laid : Frame.Laid source [⟨.document 0, .top⟩] events final marks) (ordered : source.InOrder 0 events)
    (met : seen ++ [.key column name region] <+: marks) (inside : region.contains offset = true)
    (meets : Composer.Meets source [.document 0] [] events path name region)
    (abreast : Abreast landmarks (seen ++ [.key column name region])) :
    (Trail.along landmarks).path = path ++ [.value name] := by
  obtain ⟨later, rfl⟩ := met
  obtain ⟨earlier, rest, between, rfl, upTo, -⟩ := Frame.laid_split source _ final events _ later laid
  generalize whole : seen ++ [.key column name region] = second at abreast
  cases abreast with
  | start => simp at whole
  | meet first second own others mark before ownPassed othersPassed counted =>
      rw [← List.append_assoc] at whole
      obtain ⟨rfl, same⟩ := List.append_inj' whole rfl
      obtain rfl := (List.singleton_inj.mp same).symm
      rw [List.append_assoc] at upTo
      obtain ⟨past, event, after, frames, next, rfl, passes, moves, -, stands⟩ :=
        Frame.abreast_meets source earlier between first second own others _ upTo
          (fun events frames laid => Frame.abreast_stands source first second before events frames laid)
          ownPassed othersPassed counted
      obtain ⟨outer, rfl, leaf⟩ := Frame.move_key source frames _ event column offset name region moves inside
      -- the key of the documents is the same event
      obtain ⟨others, other, remaining, inner, last, whole, leads, alone, rfl, leafOther⟩ := meets
      rw [List.append_assoc, List.cons_append] at whole
      rw [List.append_assoc, List.cons_append, whole] at ordered
      obtain ⟨rfl, -⟩ := Source.leaf_unique source 0 offset others past other event remaining _ last 0 name name region region
        ordered whole.symm leafOther inside leaf inside
      obtain rfl : inner = Frame.slots outer := by
        have reached := Option.some.inj (leads.symm.trans (Frame.laid_walks source _ _ others _ passes))
        simpa [Frame.slots] using reached
      rw [← List.append_assoc, Trail.along_append]
      exact Frame.stands_key column outer _ _ name region stands alone

namespace Tree

theorem path_at_key (tree : Tree) (offset : Nat) (path : Path) (name text : String) (region : Region)
    (located : tree.pathAt? offset = some (path ++ [.key name], .scalar text region)) :
    ∃ position root rest, tree.documents[position]? = some root ∧ path = .index position :: rest ∧
      root.KeyAt rest text region ∧ region.contains offset = true := by
  unfold pathAt? at located
  split at located
  next => cases located
  next position _ =>
    obtain ⟨root, member, same⟩ := Option.map_eq_some_iff.mp located
    obtain ⟨paths, node⟩ := Prod.mk.inj same
    obtain ⟨rest, rfl, onward⟩ := Node.split_path path _ _ _ paths.symm (by simp)
    obtain ⟨found, inside⟩ := Node.locate_key offset root rest name text region (Prod.ext onward node)
    exact ⟨position, root, rest, member, rfl, found, inside⟩

section

variable (read : TextReader) (marks : List Char → List Landmark) (ordered : read.Ordered) (laid : read.LaidOut marks)
include ordered laid

theorem block_path (text : String) (relaxedNames treeRelaxed : Bool) (position column offset : Nat) (name : String) (region : Region)
    (root : Node) (rest : Path) (block : Block) (seen : List Landmark)
    (faultless : (parseBy read text treeRelaxed).errors = [])
    (member : (parseBy read text treeRelaxed).documents[position]? = some root) (keyAt : root.KeyAt rest name region)
    (inside : region.contains offset = true) (belongs : block.outline = Outline.ofText text relaxedNames) (isKey : block.kind = .key)
    (met : seen ++ [.key column name region] <+: marks text.toList)
    (abreast : Abreast block.landmarks (seen ++ [.key column name region])) :
    block.path = .index position :: rest ++ [.value name] := by
  obtain ⟨events, reads, ends⟩ := Recovery.run_faultless read (Outline.ofText text treeRelaxed) text.toList faultless
  have documents : (parseBy read text treeRelaxed).documents = composeDocuments ⟨text.toList, text.toList⟩ events := by
    simp only [parseBy, parseWith, ends, Option.map_some, Option.getD_some]
  obtain ⟨final, laidOut⟩ := laid text.toList events reads
  rw [documents] at member
  have walks := Frame.laid_walks _ _ _ _ _ laidOut
  have meets := Composer.roots_use _ _ 0 events _ (Nat.lt_succ_self _) walks position root rest name region member keyAt
  rw [Nat.zero_add] at meets
  rw [block.path_eq_along text relaxedNames belongs isKey]
  exact abreast_key_path ⟨text.toList, text.toList⟩ events final _ _ seen column offset name region _ laidOut
    (ordered text.toList events reads) met inside meets abreast

end

def besideText : String :=
  "\"a\":\n  - b: 1\nc:\n  d: 2\n"

def quotedText : String :=
  "\"a\":\n  b: 1\n"

end Tree
end YamlDialects.Yaml
