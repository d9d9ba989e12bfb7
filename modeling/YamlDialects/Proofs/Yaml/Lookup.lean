import Mathlib.Data.List.Chain
import YamlDialects.Proofs.Path.Descent
import YamlDialects.Yaml.Tree

/-!
What the lookups at an offset say of each other. The nodes at an offset and the path to the deepest of them are found by
one descent, which the path leaves at the first mapping key. Applied to the file, the path leads back to its node, unless
a key on the way is no scalar and so has no name.
-/

set_option autoImplicit false

namespace YamlDialects.Yaml

namespace Node

def entryAt? (node : Node) (offset : Nat) : Option (Node × Node) :=
  node.entries.find? fun entry => entry.1.contains offset || entry.2.contains offset

def keyName (key : Node) : String :=
  key.scalar?.getD ""

-- A descent from a node: the nodes it passes, the path it takes, and the node at the end of the path.
inductive Descent (offset : Nat) : Node → List Node → Path → Node → Prop
  | here (node : Node) (lowest : node.child? offset = none) : Descent offset node [node] [] node
  | key (node key value found : Node) (below : List Node) (path : Path) (entry : node.entryAt? offset = some (key, value))
      (inside : key.contains offset = true) (onward : Descent offset key below path found) :
      Descent offset node (node :: below) [.key key.keyName] key
  | value (node key value found : Node) (below : List Node) (path : Path) (entry : node.entryAt? offset = some (key, value))
      (outside : key.contains offset = false) (inside : value.contains offset = true)
      (onward : Descent offset value below path found) : Descent offset node (node :: below) (.value key.keyName :: path) found
  | item (node item found : Node) (position : Nat) (below : List Node) (path : Path)
      (place : node.items[position]? = some item) (inside : item.contains offset = true)
      (onward : Descent offset item below path found) : Descent offset node (node :: below) (.index position :: path) found

section

variable (offset : Nat)

theorem descend_entries_eq (entries : List (Node × Node)) : descendEntries offset entries =
    ((entries.find? fun entry => entry.1.contains offset || entry.2.contains offset).map fun entry =>
      if entry.1.contains offset then descend offset entry.1 else descend offset entry.2).getD [] := by
  induction entries with
  | nil => rfl
  | cons entry rest ih =>
      obtain ⟨key, value⟩ := entry
      rw [descendEntries]
      by_cases inKey : key.contains offset = true
      · simp [inKey]
      · by_cases inValue : value.contains offset = true
        · simp [inKey, inValue]
        · simp [inKey, inValue, ih]

theorem locate_entry_eq (entries : List (Node × Node)) : locateEntry offset entries =
    (entries.find? fun entry => entry.1.contains offset || entry.2.contains offset).map fun entry =>
      if entry.1.contains offset then ([.key entry.1.keyName], entry.1)
      else (.value entry.1.keyName :: (locate offset entry.2).1, (locate offset entry.2).2) := by
  induction entries with
  | nil => rfl
  | cons entry rest ih =>
      obtain ⟨key, value⟩ := entry
      rw [locateEntry]
      by_cases inKey : key.contains offset = true
      · simp [inKey, keyName]
      · by_cases inValue : value.contains offset = true
        · simp [inKey, inValue, keyName]
        · simp [inKey, inValue, ih]

theorem descend_items_eq (items : List Node) :
    descendItems offset items = ((items.find? (·.contains offset)).map (descend offset)).getD [] := by
  induction items with
  | nil => rfl
  | cons item rest ih =>
      rw [descendItems]
      by_cases inside : item.contains offset = true
      · simp [inside]
      · simp [inside, ih]

theorem locate_item_none (items : List Node) (position : Nat) (outside : ∀ item ∈ items, ¬ item.contains offset = true) :
    locateItem offset position items = none := by
  induction items generalizing position with
  | nil => rfl
  | cons item rest ih =>
      obtain ⟨first, later⟩ := List.forall_mem_cons.mp outside
      rw [locateItem, if_neg first]
      exact ih (position + 1) later

theorem locate_item_some (items : List Node) (position : Nat) (item : Node)
    (found : items.find? (·.contains offset) = some item) : ∃ index, items[index]? = some item ∧
      locateItem offset position items = some (.index (position + index) :: (locate offset item).1, (locate offset item).2) := by
  induction items generalizing position with
  | nil => cases found
  | cons first rest ih =>
      rw [locateItem]
      by_cases inside : first.contains offset = true
      · obtain rfl : first = item := by simpa [inside] using found
        exact ⟨0, rfl, if_pos inside⟩
      · rw [List.find?_cons_of_neg (by simpa using inside)] at found
        obtain ⟨index, place, onward⟩ := ih (position + 1) found
        refine ⟨index + 1, place, ?_⟩
        rw [if_neg inside, onward, Nat.add_assoc, Nat.add_comm 1 index]

theorem child_of_entries (entries : List (Node × Node)) (region : Region) :
    (mapping entries region).child? offset = ((mapping entries region).entryAt? offset).map fun entry =>
      if entry.1.contains offset then entry.1 else entry.2 := by
  unfold child? entryAt? children Node.entries
  induction entries with
  | nil => rfl
  | cons entry rest ih =>
      obtain ⟨key, value⟩ := entry
      by_cases inKey : key.contains offset = true
      · simp [inKey]
      · by_cases inValue : value.contains offset = true
        · simp [inKey, inValue]
        · simp only [List.flatMap_cons, List.cons_append, List.nil_append, List.find?_cons, inKey, inValue, Bool.or_self]
          exact ih

end

theorem descend_descent (offset : Nat) (node : Node) :
    Descent offset node (node.descend offset) (node.locate offset).1 (node.locate offset).2 := by
  cases node with
  | scalar text region =>
      rw [descend, locate]
      exact .here _ rfl
  | mapping entries region =>
      have child := child_of_entries offset entries region
      rw [descend, locate, descend_entries_eq, locate_entry_eq]
      cases entry : entries.find? fun entry => entry.1.contains offset || entry.2.contains offset with
      | none =>
          rw [show (mapping entries region).entryAt? offset = none from entry] at child
          exact .here _ child
      | some found =>
          obtain ⟨key, value⟩ := found
          have member : (key, value) ∈ (mapping entries region).entries := List.mem_of_find?_eq_some entry
          obtain ⟨lowerKey, lowerValue⟩ := height_entry_lt member
          have covered := List.find?_some entry
          by_cases inKey : key.contains offset = true
          · simp only [Option.map_some, Option.getD_some, if_pos inKey]
            exact .key _ key value _ _ _ entry inKey (descend_descent offset key)
          · simp only [Option.map_some, Option.getD_some, if_neg inKey]
            have inValue : value.contains offset = true := by simpa [inKey] using covered
            exact .value _ key value _ _ _ entry (by simpa using inKey) inValue (descend_descent offset value)
  | sequence items region =>
      rw [descend, locate, descend_items_eq]
      cases found : items.find? (·.contains offset) with
      | none =>
          rw [locate_item_none offset items 0 (List.find?_eq_none.mp found)]
          exact .here _ found
      | some item =>
          obtain ⟨position, place, onward⟩ := locate_item_some offset items 0 item found
          have inside : item.contains offset = true := (List.find?_eq_some_iff_append.mp found).1
          have member : item ∈ (sequence items region).items := List.mem_of_find?_eq_some found
          have lowerItem := height_item_lt member
          rw [onward, Nat.zero_add]
          exact .item _ item _ position _ _ place inside (descend_descent offset item)
termination_by node.height
decreasing_by
  all_goals assumption

theorem points_at_key_cons (segment : Segment) (route : Path) (atKey : route.pointsAtKey = true) :
    Path.pointsAtKey (segment :: route) = true := by
  cases route with
  | nil => cases atKey
  | cons next others => simpa [Path.pointsAtKey, List.getLast?_cons_cons] using atKey

theorem entry_children (node key value : Node) (offset : Nat) (entry : node.entryAt? offset = some (key, value)) :
    key ∈ node.children ∧ value ∈ node.children := by
  have member : (key, value) ∈ node.entries := List.mem_of_find?_eq_some entry
  cases node with
  | mapping entries region => exact ⟨List.mem_flatMap.mpr ⟨_, member, by simp⟩, List.mem_flatMap.mpr ⟨_, member, by simp⟩⟩
  | scalar text region => cases member
  | sequence items region => cases member

theorem item_child (node item : Node) (position : Nat) (place : node.items[position]? = some item) : item ∈ node.children := by
  have member := List.mem_of_getElem? place
  cases node with
  | sequence items region => exact member
  | scalar text region => cases member
  | mapping entries region => cases member

section

variable (offset : Nat) (node found : Node) (nodes : List Node) (path : Path) (descent : Descent offset node nodes path found)

include descent

theorem descent_starts : ∃ below, nodes = node :: below := by
  cases descent with
  | here => exact ⟨_, rfl⟩
  | key => exact ⟨_, rfl⟩
  | value => exact ⟨_, rfl⟩
  | item => exact ⟨_, rfl⟩

theorem descent_contains (inside : node.contains offset = true) : ∀ passed ∈ nodes, passed.contains offset = true := by
  induction descent with
  | here => exact List.forall_mem_singleton.mpr inside
  | key _ _ _ _ _ _ _ inKey _ ih => exact List.forall_mem_cons.mpr ⟨inside, ih inKey⟩
  | value _ _ _ _ _ _ _ _ inValue _ ih => exact List.forall_mem_cons.mpr ⟨inside, ih inValue⟩
  | item _ _ _ _ _ _ _ inItem _ ih => exact List.forall_mem_cons.mpr ⟨inside, ih inItem⟩

theorem descent_nested : nodes.IsChain fun outer inner => inner ∈ outer.children := by
  have onto (outer child last : Node) (below : List Node) (route : Path) (onward : Descent offset child below route last)
      (member : child ∈ outer.children) (chain : below.IsChain fun outer inner => inner ∈ outer.children) :
      (outer :: below).IsChain fun outer inner => inner ∈ outer.children := by
    obtain ⟨rest, rfl⟩ := descent_starts offset child last below route onward
    exact List.isChain_cons_cons.mpr ⟨member, chain⟩
  induction descent with
  | here => exact List.isChain_singleton _
  | key _ _ _ _ _ _ entry _ onward ih => exact onto _ _ _ _ _ onward (entry_children _ _ _ offset entry).1 ih
  | value _ _ _ _ _ _ entry _ _ onward ih => exact onto _ _ _ _ _ onward (entry_children _ _ _ offset entry).2 ih
  | item _ _ _ _ _ _ place _ onward ih => exact onto _ _ _ _ _ onward (item_child _ _ _ place) ih

theorem descent_lowest (last : Node) (ends : nodes.getLast? = some last) : last.child? offset = none := by
  have behind (first : Node) (below : List Node) (child deepest : Node) (route : Path)
      (onward : Descent offset child below route deepest) (here : (first :: below).getLast? = some last) :
      below.getLast? = some last := by
    obtain ⟨rest, rfl⟩ := descent_starts offset child deepest below route onward
    rwa [List.getLast?_cons_cons] at here
  induction descent with
  | here node lowest =>
      obtain rfl : node = last := by simpa using ends
      exact lowest
  | key _ _ _ _ _ _ _ _ onward ih => exact ih (behind _ _ _ _ _ onward ends)
  | value _ _ _ _ _ _ _ _ _ onward ih => exact ih (behind _ _ _ _ _ onward ends)
  | item _ _ _ _ _ _ _ _ onward ih => exact ih (behind _ _ _ _ _ onward ends)

theorem descent_place : nodes[path.length]? = some found := by
  induction descent with
  | here => rfl
  | key _ key _ _ _ _ _ _ onward _ =>
      obtain ⟨rest, rfl⟩ := descent_starts offset key _ _ _ onward
      rfl
  | value _ _ _ _ _ _ _ _ _ _ ih => exact ih
  | item _ _ _ _ _ _ _ _ _ ih => exact ih

theorem descent_found : nodes.getLast? = some found ∨ (path.pointsAtKey = true ∧ found.isScalar = false) := by
  have deeper (first child deepest : Node) (segment : Segment) (below : List Node) (route : Path)
      (onward : Descent offset child below route deepest)
      (reached : below.getLast? = some deepest ∨ (Path.pointsAtKey route = true ∧ deepest.isScalar = false)) :
      (first :: below).getLast? = some deepest ∨ (Path.pointsAtKey (segment :: route) = true ∧ deepest.isScalar = false) := by
    obtain ⟨rest, rfl⟩ := descent_starts offset child deepest below route onward
    rw [List.getLast?_cons_cons]
    exact reached.imp_right fun ⟨atKey, collects⟩ => ⟨points_at_key_cons segment route atKey, collects⟩
  induction descent with
  | here => exact .inl rfl
  | key node key _ _ below _ _ _ onward _ =>
      cases key with
      | scalar text region =>
          cases onward with
          | here => exact .inl rfl
          | key _ _ _ _ _ _ entry => cases entry
          | value _ _ _ _ _ _ entry => cases entry
          | item _ _ _ _ _ _ place => cases place
      | mapping entries region => exact .inr ⟨rfl, rfl⟩
      | sequence items region => exact .inr ⟨rfl, rfl⟩
  | value _ _ _ _ _ _ _ _ _ onward ih => exact deeper _ _ _ _ _ _ onward ih
  | item _ _ _ _ _ _ _ _ onward ih => exact deeper _ _ _ _ _ _ onward ih

end

def keysOf (offset : Nat) (nodes : List Node) : List Node :=
  nodes.filterMap fun node => (node.entryAt? offset).map Prod.fst

theorem step_value (node key value : Node) (offset : Nat) (entry : node.entryAt? offset = some (key, value))
    (isScalar : key.isScalar = true) : value ∈ step (.value key.keyName) node ∧ key ∈ step (.key key.keyName) node := by
  have member : (key, value) ∈ node.entries := List.mem_of_find?_eq_some entry
  obtain ⟨name, named⟩ := Option.isSome_iff_exists.mp isScalar
  have kept : (key, value) ∈ node.entriesWithKey key.keyName := by
    apply List.mem_filter.mpr
    exact ⟨member, by simp [keyName, named]⟩
  exact ⟨List.mem_map_of_mem kept, List.mem_map_of_mem kept⟩

-- The induction is on the descent: wherever a path leads to its first node, it goes on to the node it finds.
theorem descent_leads (start : Place) (offset : Nat) (node found : Node) (nodes : List Node) (path before : Path)
    (descent : Descent offset node nodes path found) (named : ∀ key ∈ keysOf offset nodes, key.isScalar = true)
    (leads : Place.node node ∈ before.results start) : Place.node found ∈ Path.results (before ++ path) start := by
  have further (node next : Node) (before : Path) (segment : Segment) (leads : Place.node node ∈ before.results start)
      (member : next ∈ step segment node) : Place.node next ∈ Path.results (before ++ [segment]) start := by
    rw [Path.results_append]
    exact List.mem_flatMap.mpr ⟨_, leads, List.mem_map_of_mem member⟩
  have own (node key value : Node) (below : List Node) (entry : node.entryAt? offset = some (key, value))
      (named : ∀ key ∈ keysOf offset (node :: below), key.isScalar = true) :
      key.isScalar = true ∧ ∀ key ∈ keysOf offset below, key.isScalar = true := by
    rw [keysOf, List.filterMap_cons, entry] at named
    exact List.forall_mem_cons.mp named
  induction descent generalizing before with
  | here => rwa [List.append_nil]
  | key node key value _ below _ entry _ _ _ =>
      have isScalar := (own _ _ _ _ entry named).1
      exact further node key before _ leads (step_value node key value offset entry isScalar).2
  | value node key value _ below rest entry _ _ _ ih =>
      obtain ⟨isScalar, others⟩ := own _ _ _ _ entry named
      have next := further node value before _ leads (step_value node key value offset entry isScalar).1
      have reached := ih (before ++ [.value key.keyName]) others next
      rwa [List.append_assoc] at reached
  | item node item _ position below rest place _ _ ih =>
      have others : ∀ key ∈ keysOf offset below, key.isScalar = true := by
        intro key member
        obtain ⟨passed, among, entry⟩ := List.mem_filterMap.mp member
        exact named key (List.mem_filterMap.mpr ⟨passed, List.mem_cons_of_mem _ among, entry⟩)
      have next := further node item before (.index position) leads (by simp [step, place])
      have reached := ih (before ++ [.index position]) others next
      rwa [List.append_assoc] at reached

end Node

namespace Tree

def keysPassed (tree : Tree) (offset : Nat) : List Node :=
  Node.keysOf offset (tree.findPath offset)

-- All lookups follow one descent from the first document that contains the offset.
theorem lookup_cases (tree : Tree) (offset : Nat) :
    (tree.findPath offset = [] ∧ tree.pathAt? offset = none) ∨
    ∃ position root nodes path found, tree.documents[position]? = some root ∧ root.contains offset = true ∧
      Node.Descent offset root nodes path found ∧ tree.findPath offset = nodes ∧
      tree.pathAt? offset = some (.index position :: path, found) := by
  cases place : tree.documents.findIdx? (·.contains offset) with
  | none =>
      have none_ : tree.documents.find? (·.contains offset) = none := by
        rw [List.find?_eq_none]
        intro root member
        simpa using List.findIdx?_eq_none_iff.mp place root member
      left
      rw [findPath, pathAt?, none_, place]
      exact ⟨rfl, rfl⟩
  | some position =>
      obtain ⟨bound, inside, earlier⟩ := List.findIdx?_eq_some_iff_getElem.mp place
      have first : tree.documents.find? (·.contains offset) = some tree.documents[position] :=
        List.find?_eq_some_iff_getElem.mpr ⟨inside, position, bound, rfl, fun other before => by simpa using earlier other before⟩
      have root : tree.documents[position]? = some tree.documents[position] := List.getElem?_eq_getElem bound
      refine .inr ⟨position, _, _, _, _, root, inside, Node.descend_descent offset _, ?_, ?_⟩
      · rw [findPath, first]
      · rw [pathAt?, place]
        simp only [root, Option.map_some]

theorem lookups_agree (tree : Tree) (offset : Nat) :
    ((tree.pathAt? offset).isSome = true ↔ tree.findPath offset ≠ []) ∧
    (∀ node ∈ tree.findPath offset, node.contains offset = true) ∧
    ((tree.findPath offset).IsChain fun outer inner => inner ∈ outer.children) ∧
    (∀ last, tree.find? offset = some last → ∀ child ∈ last.children, child.contains offset = false) ∧
    ∀ path node, tree.pathAt? offset = some (path, node) →
      (∃ place, path.length = place + 1 ∧ (tree.findPath offset)[place]? = some node) ∧
      (tree.find? offset = some node ∨ (Path.pointsAtKey path = true ∧ node.isScalar = false)) ∧
      ((∀ key ∈ tree.keysPassed offset, key.isScalar = true) → Place.node node ∈ path.results (Place.file tree)) := by
  rcases lookup_cases tree offset with ⟨nothing, nowhere⟩ | ⟨position, root, nodes, route, found, here, inside, descent, passed, located⟩
  · refine ⟨by simp [nothing, nowhere], by simp [nothing], by simp [nothing], fun last ends => ?_, fun path node located => ?_⟩
    · rw [find?, nothing] at ends
      cases ends
    · rw [nowhere] at located
      cases located
  · obtain ⟨below, starts⟩ := Node.descent_starts offset root found nodes route descent
    refine ⟨by simp [passed, starts, located], ?_, ?_, fun last ends => ?_, fun path node at_ => ?_⟩
    · rw [passed]
      exact Node.descent_contains offset root found nodes route descent inside
    · rw [passed]
      exact Node.descent_nested offset root found nodes route descent
    · rw [find?, passed] at ends
      have lowest := Node.descent_lowest offset root found nodes route descent last ends
      intro child member
      simpa using List.find?_eq_none.mp lowest child member
    · obtain ⟨rfl, rfl⟩ := Prod.mk.inj (Option.some.inj (located.symm.trans at_))
      refine ⟨⟨route.length, rfl, ?_⟩, ?_, fun named => ?_⟩
      · rw [passed]
        exact Node.descent_place offset root found nodes route descent
      · rw [find?, passed]
        exact (Node.descent_found offset root found nodes route descent).imp_right fun ⟨atKey, collects⟩ =>
          ⟨Node.points_at_key_cons _ route atKey, collects⟩
      · rw [keysPassed, passed] at named
        have start : Place.node root ∈ Path.results [.index position] (Place.file tree) := by
          change Place.node root ∈ (Place.step (.index position) (Place.file tree)) ++ []
          simp [Place.step, here]
        exact Node.descent_leads (Place.file tree) offset root found nodes route [.index position] descent named start

-- The second document has two entries of one name, of which the first leads nowhere on the way to the last value.
def repeatedText : String :=
  "k: 1\n---\na: [x]\na:\n- y\n- z: w\n"

theorem lookups_agree_repeated : ∃ node, (parse repeatedText).pathAt? 28 = some ([.index 1, .value "a", .index 1, .value "z"], node) ∧
    (parse repeatedText).find? 28 = some node ∧ node.isScalar = true ∧
      Place.node node ∈ Path.results [.index 1, .value "a", .index 1, .value "z"] (Place.file (parse repeatedText)) := by
  have paths : ((parse repeatedText).pathAt? 28).map (fun located => (located.1, located.2.isScalar)) =
      some ([.index 1, .value "a", .index 1, .value "z"], true) := by decide +kernel
  have named : ∀ key ∈ (parse repeatedText).keysPassed 28, key.isScalar = true := by
    rw [← List.all_eq_true]
    decide +kernel
  obtain ⟨⟨path, node⟩, located, same⟩ := Option.map_eq_some_iff.mp paths
  obtain ⟨rfl, isScalar⟩ := Prod.mk.inj same
  obtain ⟨-, deepest, leads⟩ := (lookups_agree (parse repeatedText) 28).2.2.2.2 _ node located
  have found := deepest.resolve_right fun ⟨_, collects⟩ => by rw [isScalar] at collects; cases collects
  exact ⟨node, located, found, isScalar, leads named⟩

-- On a key that is a mapping the path stops, and the nodes at the offset go on.
example : ((parse "? \x7bb: c\x7d\n: d\n").pathAt? 3).map (fun located => (located.1, located.2.kindName)) =
    some ([.index 0, .key ""], "mapping") ∧ ((parse "? \x7bb: c\x7d\n: d\n").find? 3).map Node.kindName = some "scalar" := by
  decide +kernel

end Tree

namespace Node

inductive KeysDistinct : Node → Prop
  | scalar (text : String) (region : Region) : KeysDistinct (.scalar text region)
  | mapping (entries : List (Node × Node)) (region : Region)
      (distinct : (Node.mapping entries region).keyNames.Nodup)
      (keys : ∀ entry ∈ entries, KeysDistinct entry.1) (values : ∀ entry ∈ entries, KeysDistinct entry.2) :
      KeysDistinct (.mapping entries region)
  | sequence (items : List Node) (region : Region) (inside : ∀ item ∈ items, KeysDistinct item) :
      KeysDistinct (.sequence items region)

mutual

def keysDistinct : Node → Bool
  | .scalar _ _ => true
  | .mapping entries region => decide (Node.mapping entries region).keyNames.Nodup && entryKeysDistinct entries
  | .sequence items _ => itemKeysDistinct items

def entryKeysDistinct : List (Node × Node) → Bool
  | [] => true
  | (key, value) :: rest => key.keysDistinct && (value.keysDistinct && entryKeysDistinct rest)

def itemKeysDistinct : List Node → Bool
  | [] => true
  | item :: rest => item.keysDistinct && itemKeysDistinct rest

end

mutual

theorem keys_distinct_of_check (node : Node) (checked : node.keysDistinct = true) : node.KeysDistinct := by
  match node with
  | .scalar text region => exact .scalar text region
  | .mapping entries region =>
      obtain ⟨distinct, inside⟩ := Bool.and_eq_true_iff.mp checked
      have each := entry_keys_distinct entries inside
      exact .mapping entries region (of_decide_eq_true distinct) (fun entry member => (each entry member).1)
        (fun entry member => (each entry member).2)
  | .sequence items region => exact .sequence items region (item_keys_distinct items checked)

theorem entry_keys_distinct (entries : List (Node × Node)) (checked : entryKeysDistinct entries = true) :
    ∀ entry ∈ entries, entry.1.KeysDistinct ∧ entry.2.KeysDistinct := by
  match entries with
  | [] => exact List.forall_mem_nil _
  | (key, value) :: rest =>
      obtain ⟨ofKey, others⟩ := Bool.and_eq_true_iff.mp checked
      obtain ⟨ofValue, later⟩ := Bool.and_eq_true_iff.mp others
      exact List.forall_mem_cons.mpr ⟨⟨keys_distinct_of_check key ofKey, keys_distinct_of_check value ofValue⟩,
        entry_keys_distinct rest later⟩

theorem item_keys_distinct (items : List Node) (checked : itemKeysDistinct items = true) :
    ∀ item ∈ items, item.KeysDistinct := by
  match items with
  | [] => exact List.forall_mem_nil _
  | item :: rest =>
      obtain ⟨ofItem, later⟩ := Bool.and_eq_true_iff.mp checked
      exact List.forall_mem_cons.mpr ⟨keys_distinct_of_check item ofItem, item_keys_distinct rest later⟩

end

end Node
end YamlDialects.Yaml
