import YamlDialects.Proofs.Assist.Agreement
import YamlDialects.Proofs.KeyPaths
import YamlDialects.Proofs.Outline.SameTree
import YamlDialects.Proofs.Yaml.Leaves

/-!
The values of the keys around a place, as an outline and as the documents of the same text give them. The outline gives
what follows the colon on the line of the key, the documents the scalar that was read. Where a value stands alone behind its
colon, and neither in quotes nor in a block, the two are the same up to white space.
-/

set_option autoImplicit false

namespace YamlDialects

namespace Yaml

namespace LoneValue

theorem simple_value (text : String) (line : LoneValue text.toList) (key : Block) (belongs : key.outline.text = text)
    (colon : key.colon? = some line.colon) (stop : key.entry.contentStop = line.stop) :
    key.simpleValue? = some (String.ofList (Text.trim (line.gaps ++ (line.body ++ line.after)))) := by
  have width : line.start = line.colon + 1 + Text.byteLength line.gaps := by
    rw [start, Text.byte_length_append, Text.byte_length_cons, show Char.utf8Size ':' = 1 from rfl, LoneValue.colon, Nat.add_assoc]
  have split : text.toList = (line.before ++ [ ':']) ++ ((line.gaps ++ (line.body ++ line.after)) ++ line.rest) := by
    simpa using line.whole
  have slice := Text.slice_of_split text _ _ _ (line.colon + 1) line.stop split
    (by rw [Text.byte_length_append]; rfl) (by simp only [Text.byte_length_append, LoneValue.stop]; omega)
  have longer : max line.stop (line.colon + 1) = line.stop := by
    unfold LoneValue.stop
    omega
  rw [Block.simpleValue?, colon, Option.map_some, stop, belongs, longer, slice, Text.trimmed, String.toList_ofList]

end LoneValue

theorem Node.step_children (segment : Segment) (node next : Node) (member : next ∈ node.step segment) :
    next ∈ node.children := by
  have entries (entry : Node × Node) (among : entry ∈ node.entries) : entry.1 ∈ node.children ∧ entry.2 ∈ node.children := by
    cases node with
    | mapping all region =>
        exact ⟨List.mem_flatMap.mpr ⟨entry, among, List.mem_cons_self⟩,
          List.mem_flatMap.mpr ⟨entry, among, List.mem_cons_of_mem _ List.mem_cons_self⟩⟩
    | _ => cases among
  have items (item : Node) (among : item ∈ node.items) : item ∈ node.children := by
    cases node with
    | sequence all region => exact among
    | _ => cases among
  cases segment with
  | value name =>
      obtain ⟨entry, found, rfl⟩ := List.mem_map.mp member
      exact (entries entry (List.mem_filter.mp found).1).2
  | key name =>
      obtain ⟨entry, found, rfl⟩ := List.mem_map.mp member
      exact (entries entry (List.mem_filter.mp found).1).1
  | index position => exact items next (List.mem_of_getElem? (Option.mem_toList.mp member))
  | anyChild =>
      rcases List.mem_append.mp member with value | item
      · obtain ⟨entry, found, rfl⟩ := List.mem_map.mp value
        exact (entries entry found).2
      · exact items next item

-- The place is the file itself or at or below the root of one of its documents.
def Place.Belongs (tree : Tree) : Place → Prop
  | .file other => other = tree
  | .node found => ∃ root ∈ tree.documents, Node.Within found root

theorem Place.step_belongs (tree : Tree) (segment : Segment) (place next : Place) (belongs : place.Belongs tree)
    (member : next ∈ place.step segment) : next.Belongs tree := by
  cases place with
  | file other =>
      obtain rfl : other = tree := belongs
      cases segment with
      | index position =>
          obtain ⟨root, found, rfl⟩ := Option.map_eq_some_iff.mp (Option.mem_toList.mp member)
          exact ⟨root, List.mem_of_getElem? found, .here root⟩
      | _ => simp [step] at member
  | node found =>
      obtain ⟨root, listed, inside⟩ := belongs
      obtain ⟨child, leads, rfl⟩ := List.mem_map.mp member
      have below := Node.step_children segment found child leads
      exact ⟨root, listed, Node.within_trans child found root (.under child child found below (.here child)) inside⟩

end Yaml

open Yaml (Node Place TextReader Tree LoneValue)

namespace ContextSource

def entry? : ContextSource → String → Option (Node × Node)
  | .node found, name => (found.entriesWithKey name).head?
  | _, _ => none

theorem value_of_entry (source : ContextSource) (name : String) (key value : Node) (entry : source.entry? name = some (key, value)) :
    source.value? name = value.scalar? := by
  cases source with
  | node found =>
      change (found.value? name).bind Node.scalar? = _
      rw [Node.value?, show (found.entriesWithKey name).head? = _ from entry]
      rfl
  | _ => cases entry

end ContextSource

theorem eq_of_single {α : Type} (all : List α) (first second : α) (single : all.length ≤ 1) (one : first ∈ all) (other : second ∈ all) :
    first = second := by
  match all with
  | [only] => rw [List.mem_singleton.mp one, List.mem_singleton.mp other]
  | _ :: _ :: _ => simp at single

namespace AssistSource

theorem tree_entry (tree : Tree) (path : Path) (name : String) (key value : Node)
    (found : ((AssistSource.tree tree).context path).source.entry? name = some (key, value)) :
    ∃ node, Place.node node ∈ path.results (Place.file tree) ∧ (key, value) ∈ node.entries := by
  have source : ((AssistSource.tree tree).context path).source =
      (((path.first? (Place.file tree)).bind Place.node?).map ContextSource.node).getD .nowhere := rfl
  rw [source] at found
  cases first : (path.first? (Place.file tree)).bind Place.node? with
  | none =>
      rw [first] at found
      cases found
  | some node =>
      rw [first] at found
      obtain ⟨place, reached, isNode⟩ := Option.bind_eq_some_iff.mp first
      cases place with
      | file other => cases isNode
      | node here =>
          obtain rfl := Option.some.inj isNode
          exact ⟨here, List.mem_of_head? reached, (List.mem_filter.mp (List.mem_of_head? found)).1⟩

theorem tree_entry_within (tree : Tree) (path : Path) (name : String) (key value : Node)
    (found : ((AssistSource.tree tree).context path).source.entry? name = some (key, value)) :
    ∃ root ∈ tree.documents, Node.Within value root := by
  obtain ⟨node, reached, listed⟩ := tree_entry tree path name key value found
  have all := Traversal.path_results_all (Place.Belongs tree) (Place.step_belongs tree) path [.file tree]
    (fun place member => List.mem_singleton.mp member ▸ rfl) (.node node) reached
  obtain ⟨root, document, inside⟩ := all
  have below : value ∈ node.children := by
    cases node with
    | mapping entries region =>
        exact List.mem_flatMap.mpr ⟨(key, value), listed, List.mem_cons_of_mem _ List.mem_cons_self⟩
    | _ => cases listed
  exact ⟨root, document, Node.within_trans value node root (.under value value node below (.here value)) inside⟩

theorem outline_value (outline : Outline) (path : Path) (name first : String)
    (found : ((AssistSource.outline outline).context path).value? name = some first) :
    ∃ around ∈ path.results outline.root, ∃ key ∈ around.childrenWithKey name, key.simpleValue? = some first := by
  have source : ((AssistSource.outline outline).context path).source =
      ((path.first? outline.root).map ContextSource.block).getD .nowhere := rfl
  rw [SchemaContext.value?, source] at found
  cases reached : path.first? outline.root with
  | none =>
      rw [reached] at found
      cases found
  | some around =>
      rw [reached] at found
      obtain ⟨key, head, value⟩ := Option.bind_eq_some_iff.mp found
      exact ⟨around, List.mem_of_head? reached, key, List.mem_of_head? head, value⟩

section

variable (read : TextReader) (marks : List Char → List Landmark) (ordered : read.Ordered) (laid : read.LaidOut marks)
include ordered laid

theorem key_found (text : String) (relaxedNames treeRelaxed : Bool) (path : Path) (name first : String) (key : Block) (column : Nat)
    (region : Region) (value : Node) (seen : List Landmark) (faultless : (Tree.parseBy read text treeRelaxed).errors = [])
    (fromOutline : ((outline (Outline.ofText text relaxedNames)).context path).value? name = some first)
    (entry : ((tree (Tree.parseBy read text treeRelaxed)).context path).source.entry? name = some (.scalar name region, value))
    (single : (path.results (Outline.ofText text relaxedNames).root).length ≤ 1)
    (alone : ∀ around ∈ path.results (Outline.ofText text relaxedNames).root, (around.childrenWithKey name).length ≤ 1)
    (belongs : key.outline = Outline.ofText text relaxedNames) (isKey : key.kind = .key)
    (met : seen ++ [.key column name region] <+: marks text.toList)
    (abreast : Abreast key.landmarks (seen ++ [.key column name region])) :
    key.simpleValue? = some first ∧ key.colon? = some region.stop := by
  have shown := key.key_landmark text relaxedNames belongs isKey column name region (abreast_last _ _ _ abreast)
  obtain ⟨-, room, -⟩ := key.key_region_spec text relaxedNames belongs isKey region shown
  have inside : region.contains region.start = true := (Region.contains_iff _ _).mpr ⟨Nat.le_refl _, room⟩
  obtain ⟨around, reached, other, found, said⟩ := outline_value _ path name first fromOutline
  obtain ⟨node, leads, listed⟩ := tree_entry _ path name _ value entry
  have keyAt : node.KeyAt [] name region := by
    cases node with
    | mapping entries place => exact .here entries place name region value listed
    | _ => cases listed
  have isValue : ∀ segment ∈ path, ∀ key, segment ≠ .key key := by
    rintro segment member key rfl
    rw [Outline.results_value _ path key member] at reached
    cases reached
  obtain ⟨position, root, asked, own, rfl, document, admits, below⟩ := Place.key_at _ path node [] name region leads isValue keyAt
  rw [List.append_nil] at below
  have own? := Tree.block_path read marks ordered laid text relaxedNames treeRelaxed position column region.start name region root own
    key seen faultless document below inside belongs isKey met abreast
  -- the block above the key is where the path leads
  have keyListed : key ∈ (Outline.ofText text relaxedNames).blocks :=
    (Outline.mem_blocks _ key).mpr ⟨belongs, belongs ▸ key.bound_of_kind (by simp [isKey])⟩
  have notRoot : key ≠ (Outline.ofText text relaxedNames).root := by
    rintro rfl
    rw [Block.root_path] at own?
    cases own?
  obtain ⟨parent, parentListed, segment, parentNotRaw, member, step, longer⟩ :=
    Block.path_last text relaxedNames key keyListed (by simp [isKey]) notRoot
  obtain ⟨above, ends⟩ := List.append_inj' (longer.symm.trans own?) rfl
  obtain rfl : segment = .value name := List.head_eq_of_cons_eq ends
  have there := Outline.admitted_results text relaxedNames position asked own admits parent parentListed parentNotRaw above
  obtain rfl := eq_of_single _ _ _ single reached there
  have named := (Block.alike_value_iff text relaxedNames key keyListed name).mp ⟨_, step, Segment.is_alike_self _ _ rfl⟩
  obtain rfl := eq_of_single _ _ _ (alone around reached) found (List.mem_filter.mpr ⟨member, named⟩)
  obtain ⟨colon, placed, rfl⟩ := Option.map_eq_some_iff.mp shown
  exact ⟨said, placed⟩

end

end AssistSource

theorem Yaml.Tree.lone_value (read : TextReader) (told : read.Told) (text : String) (relaxedNames : Bool)
    (faultless : (parseBy read text relaxedNames).errors = []) (line : LoneValue text.toList) (root : Node)
    (listed : root ∈ (parseBy read text relaxedNames).documents) (value : String)
    (inside : Node.Within (.scalar value line.region) root) (tilde : value = "~" → line.body = [ '~']) :
    ∃ blanks, value.toList = line.body ++ blanks ∧ ∀ c ∈ blanks, Text.isBlank c = true := by
  obtain ⟨events, reads, ends⟩ := Recovery.run_faultless read (Outline.ofText text relaxedNames) text.toList faultless
  have documents : (parseBy read text relaxedNames).documents = composeDocuments ⟨text.toList, text.toList⟩ events := by
    simp only [parseBy, parseWith, ends, Option.map_some, Option.getD_some]
  rw [documents] at listed
  exact line.said events (told text.toList events reads) value
    (documents_come _ events root listed value line.region inside) tilde

namespace AssistSource

def spacedText : String :=
  "\"q\":\n  type: x\na:\n  type: http \n  port: 80\n"

def spacedLine : LoneValue spacedText.toList where
  before := "\"q\":\n  type: x\na:\n  type".toList
  gaps := [' ']
  body := "http".toList
  after := [' ']
  rest := "\n  port: 80\n".toList
  whole := by decide +kernel
  spaced := List.forall_mem_singleton.mpr rfl
  hidden := List.forall_mem_singleton.mpr rfl
  unbroken := by simp [Yaml.isBreak]
  unmarked := by simp

def quotedKeysText : String :=
  "\"q\":\n  type: x\n\"type\": y\n"

end AssistSource
end YamlDialects
