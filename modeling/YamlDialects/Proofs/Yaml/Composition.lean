import Mathlib.Data.List.Chain
import YamlDialects.Proofs.Text.Offset
import YamlDialects.Yaml.Compose

/-!
How the regions of composed nodes lie to each other. A collection encloses what it consists of, and its children lie
one after the other unless one of them, or a collection in it, has been given an end at a bracket that stands behind
the start of a later child. Nodes that are composed from events in order are laid out like this. An event is in order if
it starts a node no earlier than where the events before it have got to.
-/

set_option autoImplicit false

namespace YamlDialects.Yaml

namespace Node

inductive Within : Node → Node → Prop
  | here (node : Node) : Within node node
  | under (inner child outer : Node) (member : child ∈ outer.children) (inside : Within inner child) : Within inner outer

def Encloses (node : Node) : Prop :=
  ∀ child ∈ node.children, node.region.encloses child.region = true

def Separate (node : Node) : Prop :=
  node.children.IsChain fun first second => first.region.stop ≤ second.region.start

theorem within_iff (inner outer : Node) :
    Within inner outer ↔ inner = outer ∨ ∃ child ∈ outer.children, Within inner child := by
  constructor
  · intro inside
    cases inside with
    | here => exact .inl rfl
    | under child outer member lower => exact .inr ⟨child, member, lower⟩
  · rintro (rfl | ⟨child, member, lower⟩)
    · exact .here inner
    · exact .under inner child outer member lower

theorem all_within (holds : Node → Prop) (node : Node) (own : holds node)
    (children : ∀ child ∈ node.children, ∀ inner, Within inner child → holds inner) :
    ∀ inner, Within inner node → holds inner := by
  intro inner inside
  rcases (within_iff inner node).mp inside with rfl | ⟨child, member, lower⟩
  · exact own
  · exact children child member inner lower

theorem within_trans (inner middle outer : Node) (lower : Within inner middle) (upper : Within middle outer) :
    Within inner outer := by
  induction upper with
  | here => exact lower
  | under child outer member _ ih => exact .under inner child outer member ih

theorem within_stop (inner outer : Node) (inside : Within inner outer)
    (encloses : ∀ node, Within node outer → node.Encloses) : inner.region.stop ≤ outer.region.stop := by
  induction inside with
  | here => exact Nat.le_refl _
  | under child outer member inside ih =>
      have ends := ((Region.encloses_iff _ _).mp (encloses outer (.here outer) child member)).2
      have deeper := ih fun node lower => encloses node (.under node child outer member lower)
      omega

theorem chain_stop_le (first later : Node) (between after : List Node)
    (chain : (first :: (between ++ later :: after)).IsChain fun one next => one.region.stop ≤ next.region.start)
    (forward : ∀ node ∈ between, node.region.start ≤ node.region.stop) : first.region.stop ≤ later.region.start := by
  induction between generalizing first with
  | nil => exact (List.isChain_cons_cons.mp chain).1
  | cons middle rest ih =>
      obtain ⟨next, others⟩ := List.isChain_cons_cons.mp chain
      have onward := ih middle others fun node member => forward node (List.mem_cons_of_mem _ member)
      have straight := forward middle List.mem_cons_self
      omega

end Node

namespace Source

def charAt? (source : Source) (offset : Nat) : Option Char :=
  (source.onward offset).head?

def Bracketed (source : Source) : Node → Prop
  | .scalar _ _ => False
  | .mapping _ region => source.charAt? region.start = some '\x7b' ∧ source.charAt? (region.stop - 1) = some '\x7d'
  | .sequence _ region => source.charAt? region.start = some '[' ∧ source.charAt? (region.stop - 1) = some ']'

-- A bracketed collection of these nodes reaches over an offset.
def Covers (source : Source) (nodes : List Node) (offset : Nat) : Prop :=
  ∃ node ∈ nodes, ∃ found, Node.Within found node ∧ source.Bracketed found ∧ found.region.contains offset = true

-- A child starts inside a bracketed collection of the children before it.
def Overruns (source : Source) (node : Node) : Prop :=
  ∃ before child after, node.children = before ++ child :: after ∧ source.Covers before child.region.start

def InRow (source : Source) : List Node → Nat → List Node → Prop
  | _, _, [] => True
  | earlier, previous, node :: rest =>
      (previous ≤ node.region.start ∨ source.Covers earlier node.region.start) ∧
        InRow source (earlier ++ [node]) node.region.stop rest

structure Laid (source : Source) (node : Node) : Prop where
  forward : node.region.start ≤ node.region.stop
  encloses : node.Encloses
  inRow : source.InRow [] node.region.start node.children

theorem in_row_chain (source : Source) (earlier rest : List Node) (first : Node)
    (row : source.InRow earlier first.region.stop rest)
    (clear : ∀ before child after, earlier ++ rest = before ++ child :: after → ¬ source.Covers before child.region.start) :
    (first :: rest).IsChain fun one next => one.region.stop ≤ next.region.start := by
  induction rest generalizing earlier first with
  | nil => exact List.isChain_singleton first
  | cons next others ih =>
      obtain ⟨follows, onward⟩ := row
      have behind := follows.resolve_right (clear earlier next others rfl)
      exact List.isChain_cons_cons.mpr ⟨behind, ih (earlier ++ [next]) next onward (by simpa using clear)⟩

theorem separate_of_not_overrun (source : Source) (node : Node) (laid : source.Laid node)
    (clear : ¬ source.Overruns node) : node.Separate := by
  have row := laid.inRow
  unfold Node.Separate
  cases children : node.children with
  | nil => exact List.isChain_nil
  | cons first rest =>
      rw [children] at row
      refine in_row_chain source [first] rest first row.2 fun before child after split covers => clear ?_
      exact ⟨before, child, after, by rw [children]; exact split, covers⟩

theorem not_overrun_of_separate (source : Source) (node : Node) (laid : ∀ inner, Node.Within inner node → source.Laid inner)
    (separate : node.Separate) : ¬ source.Overruns node := by
  rintro ⟨before, child, after, split, earlier, member, found, inside, -, covered⟩
  obtain ⟨first, between, rfl⟩ := List.append_of_mem member
  have isChild (other : Node) (among : other ∈ first ++ earlier :: between) : other ∈ node.children := by
    rw [split]
    exact List.mem_append_left _ among
  have chain : (earlier :: (between ++ child :: after)).IsChain fun one next => one.region.stop ≤ next.region.start := by
    unfold Node.Separate at separate
    rw [split, List.append_assoc] at separate
    exact separate.right_of_append
  have apart := Node.chain_stop_le earlier child between after chain fun middle among =>
    (laid middle (.under _ middle node (isChild middle (by simp [among])) (.here middle))).forward
  have inner := Node.within_stop found earlier inside fun deeper lower =>
    (laid deeper (.under _ earlier node (isChild earlier (by simp)) lower)).encloses
  have reaches := ((Region.contains_iff _ _).mp covered).2
  omega

theorem separate_iff_not_overrun (source : Source) (node : Node)
    (laid : ∀ inner, Node.Within inner node → source.Laid inner) : node.Separate ↔ ¬ source.Overruns node :=
  ⟨not_overrun_of_separate source node laid, separate_of_not_overrun source node (laid node (.here node))⟩

def isAbsent (source : Source) (event : LocatedEvent) : Bool :=
  match event.event with
  | .scalar text style _ => source.isImplicit text style (source.offset event.span.start)
  | _ => false

def isPresent (source : Source) (event : LocatedEvent) : Bool :=
  match event.event with
  | .scalar _ _ _ => !source.isAbsent event
  | .reference _ => true
  | .sequenceStart _ => true
  | .mappingStart _ => true
  | _ => false

def nextAbsent (source : Source) (events : List LocatedEvent) : Bool :=
  events.head?.any source.isAbsent

def inside (source : Source) (start : Nat) : Nat :=
  Text.floorBoundary source.shown (start + 1)

def reach (source : Source) (event : LocatedEvent) (rest : List LocatedEvent) : Nat :=
  let start := source.offset event.span.start
  let stop := source.offset event.span.stop
  match event.event with
  | .scalar _ _ _ => if source.isAbsent event then 0 else max start stop
  | .reference _ => max start stop
  | .mappingStart _ => start
  | .sequenceStart _ => if source.nextAbsent rest then max start (source.inside start) else start
  | .sequenceEnd => stop
  | .mappingEnd => stop
  | _ => 0

def InOrder (source : Source) : Nat → List LocatedEvent → Prop
  | _, [] => True
  | bound, event :: rest =>
      (source.isPresent event = true → bound ≤ source.offset event.span.start) ∧
        InOrder source (max bound (source.reach event rest)) rest

theorem start_le_inside (source : Source) (mark : Mark) : source.offset mark ≤ source.inside (source.offset mark) := by
  have floor : Text.floorBoundary source.shown (source.offset mark) = source.offset mark :=
    Text.floor_boundary_floor source.shown (byteOf source.read mark.index)
  have onward := Text.floor_boundary_mono source.shown (source.offset mark) (source.offset mark + 1) (Nat.le_succ _)
  rwa [floor] at onward

theorem trimmed_spec (source : Source) (start stop : Nat) :
    (source.trimmed start stop).start = start ∧ start ≤ (source.trimmed start stop).stop ∧
      (source.trimmed start stop).stop ≤ max start stop := by
  refine ⟨rfl, Nat.le_add_right _ _, ?_⟩
  simp only [trimmed, between]
  generalize bounded : max start (min stop (Text.byteLength source.read)) = limit
  have trim := Text.byte_length_trim_right ((Text.slice? source.read start limit).getD [])
  have cut : Text.byteLength ((Text.slice? source.read start limit).getD []) ≤ limit - start := by
    cases found : Text.slice? source.read start limit with
    | none => exact Nat.zero_le _
    | some middle =>
        unfold Text.slice? at found
        split at found
        next =>
          obtain ⟨rest, -, taken⟩ := Option.bind_eq_some_iff.mp found
          exact Nat.le_of_eq (Text.byte_length_take_bytes rest middle _ taken)
        next => cases found
  omega

theorem onward_append (source : Source) (offset : Nat) (before after : List Char) (some_ : after ≠ [])
    (split : source.onward offset = before ++ after) : source.onward (offset + Text.byteLength before) = after := by
  unfold onward at split ⊢
  cases found : Text.dropBytes? source.read offset with
  | none => simp_all
  | some rest =>
      obtain rfl : rest = before ++ after := by simpa [found] using split
      obtain ⟨first, whole, length⟩ := (Text.drop_bytes_iff_split _ _ _).mp found
      have dropped : Text.dropBytes? source.read (offset + Text.byteLength before) = some after :=
        (Text.drop_bytes_iff_split _ _ _).mpr
          ⟨first ++ before, by rw [whole, List.append_assoc], by rw [Text.byte_length_append, length]⟩
      rw [dropped, Option.getD_some]

theorem closing_spec (source : Source) (start last : Nat) (opening bracket : Char) (span : Span) :
    last ≤ source.closing start last opening bracket span ∧
      (source.closing start last opening bracket span ≤ max last (source.offset span.stop) ∨
        (source.charAt? start = some opening ∧
          source.charAt? (source.closing start last opening bracket span - 1) = some bracket)) := by
  unfold closing
  by_cases opens : ((source.onward start).head? == some opening) = true
  · simp only [if_pos opens]
    cases found : Text.findOffset? (· == bracket) (source.onward (max last (start + 1))) with
    | none => exact ⟨Nat.le_max_left _ _, .inl (Nat.le_refl _)⟩
    | some distance =>
        obtain ⟨before, c, after, split, length, isBracket⟩ := Text.find_offset_spec _ _ _ found
        have later := onward_append source _ before (c :: after) (by simp) split
        rw [length] at later
        refine ⟨by simp only; omega, .inr ⟨beq_iff_eq.mp opens, ?_⟩⟩
        simp only [Nat.add_sub_cancel, charAt?, later, List.head?_cons, beq_iff_eq.mp isBracket]
  · simp only [if_neg opens]
    exact ⟨Nat.le_refl _, .inl (Nat.le_max_left _ _)⟩

def Reached (source : Source) (nodes : List Node) (offset bound : Nat) : Prop :=
  offset ≤ bound ∨ ∃ node ∈ nodes, ∃ found, Node.Within found node ∧ source.Bracketed found ∧
    found.region.start ≤ bound ∧ found.region.stop = offset

theorem reached_mono (source : Source) (nodes more : List Node) (offset bound further : Nat)
    (reached : source.Reached nodes offset bound) (among : nodes ⊆ more) (le : bound ≤ further) :
    source.Reached more offset further := by
  rcases reached with within_ | ⟨node, member, found, inside, bracketed, started, ends⟩
  · exact .inl (Nat.le_trans within_ le)
  · exact .inr ⟨node, among member, found, inside, bracketed, Nat.le_trans started le, ends⟩

theorem follows_of_reached (source : Source) (nodes : List Node) (previous bound start : Nat)
    (reached : source.Reached nodes previous bound) (behind : bound ≤ start) :
    previous ≤ start ∨ source.Covers nodes start := by
  rcases reached with within_ | ⟨node, member, found, inside, bracketed, started, ends⟩
  · exact .inl (Nat.le_trans within_ behind)
  · by_cases clear : previous ≤ start
    · exact .inl clear
    · exact .inr ⟨node, member, found, inside, bracketed, (Region.contains_iff _ _).mpr (by omega)⟩

def AllLaid (source : Source) (node : Node) : Prop :=
  ∀ inner, Node.Within inner node → source.Laid inner

theorem all_laid_scalar (source : Source) (text : String) (region : Region) (forward : region.start ≤ region.stop) :
    source.AllLaid (.scalar text region) :=
  Node.all_within source.Laid _ ⟨forward, by simp [Node.Encloses, Node.children], trivial⟩ nofun

end Source

namespace Composer

open Source

-- What is known when the next child of a collection is to be composed: `previous` and `stop` are the ends of the
-- child before and of all so far.
structure Row (source : Source) (start : Nat) (earlier : List Node) (previous stop : Nat) (composer : Composer)
    (bound : Nat) : Prop where
  ordered : source.InOrder bound composer.events
  start_le_bound : start ≤ bound
  start_le_previous : start ≤ previous
  previous_le_last : previous ≤ composer.last
  previous_le_stop : previous ≤ stop
  previous_reached : source.Reached earlier previous bound
  last_reached : source.nextAbsent composer.events = true → source.Reached earlier composer.last bound
  stop_reached : source.Reached earlier stop bound

structure Composed (source : Source) (bound : Nat) (before : Composer) (node : Node) (after : Composer)
    (further : Nat) : Prop where
  le : bound ≤ further
  ordered : source.InOrder further after.events
  last : after.last = node.region.stop
  laid : source.AllLaid node
  place : (source.nextAbsent before.events = true ∧ node.region = .empty before.last) ∨
    (bound ≤ node.region.start ∧ source.Reached [node] node.region.stop further)

structure Advanced (source : Source) (start : Nat) (earlier : List Node) (previous stop bound : Nat) (node : Node)
    (after : Composer) (further : Nat) : Prop where
  le : bound ≤ further
  laid : source.AllLaid node
  start_le : start ≤ node.region.start
  follows : previous ≤ node.region.start ∨ source.Covers earlier node.region.start
  row : Row source start (earlier ++ [node]) node.region.stop (max stop node.region.stop) after further

theorem row_next (source : Source) (start : Nat) (earlier : List Node) (previous stop : Nat) (before after : Composer)
    (node : Node) (bound further : Nat) (row : Row source start earlier previous stop before bound)
    (composed : Composed source bound before node after further) :
    Advanced source start earlier previous stop bound node after further := by
  have forward := (composed.laid node (.here node)).forward
  -- the end of the node is where the next one is put if it is left out
  have reached : source.Reached (earlier ++ [node]) node.region.stop further := by
    rcases composed.place with ⟨absent, place⟩ | ⟨-, reached⟩
    · rw [place]
      exact reached_mono source _ _ _ _ _ (row.last_reached absent) (List.subset_append_left _ _) composed.le
    · exact reached_mono source _ _ _ _ _ reached (List.subset_append_right _ _) (Nat.le_refl _)
  obtain ⟨start_le, follows⟩ : start ≤ node.region.start ∧
      (previous ≤ node.region.start ∨ source.Covers earlier node.region.start) := by
    rcases composed.place with ⟨absent, place⟩ | ⟨behind, -⟩
    · rw [place]
      exact ⟨Nat.le_trans row.start_le_previous row.previous_le_last, .inl row.previous_le_last⟩
    · exact ⟨Nat.le_trans row.start_le_bound behind, follows_of_reached source _ _ _ _ row.previous_reached behind⟩
  refine ⟨composed.le, composed.laid, start_le, follows, composed.ordered, Nat.le_trans row.start_le_bound composed.le,
    Nat.le_trans start_le forward, Nat.le_of_eq composed.last.symm, Nat.le_max_right _ _, reached,
    fun _ => composed.last ▸ reached, ?_⟩
  rcases Nat.le_total stop node.region.stop with le | ge
  · rw [Nat.max_eq_right le]
    exact reached
  · rw [Nat.max_eq_left ge]
    exact reached_mono source _ _ _ _ _ row.stop_reached (List.subset_append_left _ _) composed.le

theorem row_missing (source : Source) (start : Nat) (earlier : List Node) (previous stop : Nat) (composer : Composer)
    (bound : Nat) (row : Row source start earlier previous stop composer bound) (last : composer.last = previous) :
    Advanced source start earlier previous stop bound (.scalar "" (.empty previous)) composer bound := by
  have more : earlier ⊆ earlier ++ [.scalar "" (.empty previous)] := List.subset_append_left _ _
  have reached := reached_mono source _ _ _ _ _ row.previous_reached more (Nat.le_refl _)
  refine ⟨Nat.le_refl _, all_laid_scalar source _ _ (Nat.le_refl _), row.start_le_previous, .inl (Nat.le_refl _),
    row.ordered, row.start_le_bound, row.start_le_previous, row.previous_le_last, Nat.le_max_right _ _, reached,
    fun _ => last ▸ reached, ?_⟩
  rw [show max stop (Node.scalar "" (.empty previous)).region.stop = stop from Nat.max_eq_left row.previous_le_stop]
  exact reached_mono source _ _ _ _ _ row.stop_reached more (Nat.le_refl _)

structure Filled (source : Source) (start : Nat) (earlier : List Node) (previous stop : Nat) (opening bracket : Char)
    (bound : Nat) (children : List Node) (finish : Nat) (rest : List LocatedEvent) (further : Nat) : Prop where
  le : bound ≤ further
  ordered : source.InOrder further rest
  stop_le : stop ≤ finish
  inRow : source.InRow earlier previous children
  laid : ∀ child ∈ children, source.AllLaid child
  enclosed : ∀ child ∈ children, start ≤ child.region.start ∧ child.region.stop ≤ finish
  ends : source.Reached (earlier ++ children) finish further ∨
    (source.charAt? start = some opening ∧ source.charAt? (finish - 1) = some bracket)

theorem filled_stopped (source : Source) (start : Nat) (earlier : List Node) (previous stop : Nat) (composer : Composer)
    (opening bracket : Char) (bound : Nat) (row : Row source start earlier previous stop composer bound) :
    Filled source start earlier previous stop opening bracket bound [] stop composer.events bound :=
  ⟨Nat.le_refl _, row.ordered, Nat.le_refl _, trivial, by simp, by simp, .inl (by simpa using row.stop_reached)⟩

theorem filled_closed (source : Source) (start : Nat) (earlier : List Node) (previous stop : Nat)
    (opening bracket : Char) (bound : Nat) (event : LocatedEvent) (rest : List LocatedEvent) (last : Nat)
    (row : Row source start earlier previous stop ⟨event :: rest, last⟩ bound)
    (reach : source.reach event rest = source.offset event.span.stop) :
    Filled source start earlier previous stop opening bracket bound []
      (source.closing start stop opening bracket event.span) rest (max bound (source.offset event.span.stop)) := by
  obtain ⟨stop_le, ends⟩ := closing_spec source start stop opening bracket event.span
  refine ⟨Nat.le_max_left _ _, reach ▸ row.ordered.2, stop_le, trivial, by simp, by simp, ?_⟩
  rcases ends with short | bracketed
  · refine .inl ?_
    rw [List.append_nil]
    by_cases own : source.closing start stop opening bracket event.span ≤ max bound (source.offset event.span.stop)
    · exact .inl own
    · have same : source.closing start stop opening bracket event.span = stop := by omega
      rw [same]
      exact reached_mono source _ _ _ _ _ row.stop_reached (List.Subset.refl _) (Nat.le_max_left _ _)
  · exact .inr bracketed

theorem filled_cons (source : Source) (start : Nat) (earlier : List Node) (previous stop : Nat) (after : Composer)
    (opening bracket : Char) (node : Node) (bound between : Nat) (children : List Node) (finish : Nat)
    (rest : List LocatedEvent) (further : Nat)
    (advanced : Advanced source start earlier previous stop bound node after between)
    (filled : Filled source start (earlier ++ [node]) node.region.stop (max stop node.region.stop) opening bracket between
      children finish rest further) :
    Filled source start earlier previous stop opening bracket bound (node :: children) finish rest further := by
  have stop_le := filled.stop_le
  refine ⟨Nat.le_trans advanced.le filled.le, filled.ordered, by omega, ⟨advanced.follows, filled.inRow⟩, ?_, ?_, ?_⟩
  · exact List.forall_mem_cons.mpr ⟨advanced.laid, filled.laid⟩
  · exact List.forall_mem_cons.mpr ⟨⟨advanced.start_le, by omega⟩, filled.enclosed⟩
  · simpa using filled.ends

theorem collection_composed (source : Source) (start bound begun finish further : Nat) (before : Composer) (opening bracket : Char)
    (node : Node) (rest : List LocatedEvent) (region : node.region = ⟨start, finish⟩)
    (isBracketed : source.charAt? start = some opening → source.charAt? (finish - 1) = some bracket → source.Bracketed node)
    (behind : bound ≤ start) (opened : start ≤ begun)
    (filled : Filled source start [] start start opening bracket begun node.children finish rest further) :
    Composed source bound before node ⟨rest, finish⟩ further := by
  have start_le : start ≤ further := Nat.le_trans opened filled.le
  refine ⟨Nat.le_trans behind start_le, filled.ordered, by rw [region], ?_, .inr ⟨by rw [region]; exact behind, ?_⟩⟩
  · refine Node.all_within source.Laid node ⟨?_, ?_, ?_⟩ filled.laid
    · rw [region]
      exact filled.stop_le
    · intro child member
      rw [region]
      exact (Region.encloses_iff _ _).mpr (filled.enclosed child member)
    · rw [region]
      exact filled.inRow
  · rw [region]
    rcases filled.ends with (short | ⟨child, member, found, inside, bracketed, started, ends⟩) | ⟨opens, closes⟩
    · exact .inl short
    · exact .inr ⟨node, by simp, found, .under found child node member inside, bracketed, started, ends⟩
    · refine .inr ⟨node, by simp, node, .here node, isBracketed opens closes, ?_, by rw [region]⟩
      rw [region]
      exact start_le

theorem row_opened (source : Source) (start begun last : Nat) (rest : List LocatedEvent)
    (ordered : source.InOrder begun rest) (opened : start ≤ begun) (start_le_last : start ≤ last)
    (last_le : source.nextAbsent rest = true → last ≤ begun) :
    Row source start [] start start ⟨rest, last⟩ begun :=
  ⟨ordered, opened, Nat.le_refl _, start_le_last, Nat.le_refl _, .inl opened, fun absent => .inl (last_le absent), .inl opened⟩

theorem scalar_composed (source : Source) (text : String) (style : ScalarStyle) (properties : NodeProperties) (span : Span)
    (rest : List LocatedEvent) (last bound : Nat)
    (ordered : source.InOrder bound (⟨.scalar text style properties, span⟩ :: rest)) :
    ∃ further, Composed source bound ⟨⟨.scalar text style properties, span⟩ :: rest, last⟩
      (scalar source text style span rest last).1 (scalar source text style span rest last).2 further := by
  obtain ⟨behind, onward⟩ := ordered
  cases absent : source.isImplicit text style (source.offset span.start) with
  | true =>
      have result : scalar source text style span rest last = (.scalar "" (.empty last), ⟨rest, last⟩) := by
        simp [scalar, absent]
      simp only [isAbsent, absent, reach, if_true, Nat.max_zero] at onward
      rw [result]
      exact ⟨bound, Nat.le_refl _, onward, rfl, all_laid_scalar source _ _ (Nat.le_refl _), .inl ⟨absent, rfl⟩⟩
  | false =>
      have result : scalar source text style span rest last =
          (.scalar text (source.trimmed (source.offset span.start) (source.offset span.stop)),
            ⟨rest, (source.trimmed (source.offset span.start) (source.offset span.stop)).stop⟩) := by
        simp [scalar, absent]
      obtain ⟨start, forward, short⟩ := trimmed_spec source (source.offset span.start) (source.offset span.stop)
      simp only [isAbsent, absent, reach, Bool.false_eq_true, if_false] at onward
      rw [result]
      refine ⟨_, Nat.le_max_left _ _, onward, rfl, all_laid_scalar source _ _ (by rw [start]; exact forward), .inr ⟨?_, ?_⟩⟩
      · exact behind (by simp [isPresent, isAbsent, absent])
      · exact .inl (Nat.le_trans short (Nat.le_max_right _ _))

theorem reference_composed (source : Source) (name : String) (span : Span) (rest : List LocatedEvent) (last bound : Nat)
    (ordered : source.InOrder bound (⟨.reference name, span⟩ :: rest)) :
    ∃ further, Composed source bound ⟨⟨.reference name, span⟩ :: rest, last⟩
      (reference source span rest).1 (reference source span rest).2 further := by
  obtain ⟨behind, onward⟩ := ordered
  obtain ⟨start, forward, short⟩ := trimmed_spec source (source.offset span.start) (source.offset span.stop)
  refine ⟨_, Nat.le_max_left _ _, onward, rfl, all_laid_scalar source _ _ (by rw [start]; exact forward), .inr ⟨?_, ?_⟩⟩
  · exact behind rfl
  · exact .inl (Nat.le_trans short (Nat.le_max_right _ _))

mutual

theorem node_composed (source : Source) (fuel : Nat) (before after : Composer) (found : Node) (bound : Nat)
    (ordered : source.InOrder bound before.events) (composes : node source fuel before = some (found, after)) :
    ∃ further, Composed source bound before found after further := by
  match fuel, before with
  | 0, _ => simp [node] at composes
  | _ + 1, ⟨[], _⟩ => simp [node] at composes
  | fuel + 1, ⟨⟨event, span⟩ :: rest, last⟩ =>
      rw [node] at composes
      cases event with
      | scalar text style properties =>
          obtain ⟨rfl, rfl⟩ := Prod.mk.inj (Option.some.inj composes)
          exact scalar_composed source text style properties span rest last bound ordered
      | reference name =>
          obtain ⟨rfl, rfl⟩ := Prod.mk.inj (Option.some.inj composes)
          exact reference_composed source name span rest last bound ordered
      | mappingStart properties =>
          obtain ⟨behind, onward⟩ := ordered
          have row := row_opened source (source.offset span.start) _ (source.offset span.start) rest onward
            (Nat.le_max_right _ _) (Nat.le_refl _) (fun _ => Nat.le_max_right _ _)
          obtain ⟨further, filled⟩ := entries_filled source _ fuel [] _ _ _ _ row _ rfl
          obtain ⟨rfl, rfl⟩ := Prod.mk.inj (Option.some.inj composes)
          exact ⟨further, collection_composed source _ bound _ _ further _ '\x7b' '\x7d' _ _ rfl
            (fun opens closes => ⟨opens, closes⟩) (behind rfl) (Nat.le_max_right _ _) filled⟩
      | sequenceStart properties =>
          obtain ⟨behind, onward⟩ := ordered
          have opened : source.offset span.start ≤
              max bound (source.reach ⟨.sequenceStart properties, span⟩ rest) := by
            simp only [reach]
            split <;> omega
          have row := row_opened source (source.offset span.start) _ (source.inside (source.offset span.start)) rest onward
            opened (start_le_inside source span.start) (fun absent => by simp only [reach, absent, if_true]; omega)
          obtain ⟨further, filled⟩ := items_filled source _ fuel [] _ _ _ _ row _ rfl
          obtain ⟨rfl, rfl⟩ := Prod.mk.inj (Option.some.inj composes)
          exact ⟨further, collection_composed source _ bound _ _ further _ '[' ']' _ _ rfl
            (fun opens closes => ⟨opens, closes⟩) (behind rfl) opened filled⟩
      | _ => simp at composes
termination_by structural fuel

theorem entries_filled (source : Source) (start fuel : Nat) (earlier : List Node) (previous stop : Nat) (composer : Composer)
    (bound : Nat) (row : Row source start earlier previous stop composer bound)
    (result : List (Node × Node) × Nat × List LocatedEvent) (fills : entries source start fuel stop composer = result) :
    ∃ further, Filled source start earlier previous stop '\x7b' '\x7d' bound
      (result.1.flatMap fun entry => [entry.1, entry.2]) result.2.1 result.2.2 further := by
  match fuel with
  | 0 =>
      rw [entries] at fills
      subst fills
      exact ⟨bound, filled_stopped source start earlier previous stop composer _ _ bound row⟩
  | fuel + 1 =>
      rw [entries] at fills
      split at fills
      next empty =>
        subst fills
        have stopped := filled_stopped source start earlier previous stop composer '\x7b' '\x7d' bound row
        rw [empty] at stopped
        exact ⟨bound, stopped⟩
      next span rest events =>
        obtain ⟨_, last⟩ := composer
        subst events fills
        exact ⟨_, filled_closed source start earlier previous stop _ _ bound _ rest last row rfl⟩
      next =>
        split at fills
        next =>
          subst fills
          exact ⟨bound, filled_stopped source start earlier previous stop composer _ _ bound row⟩
        next key after composesKey =>
          obtain ⟨between, composedKey⟩ := node_composed source fuel composer after key bound row.ordered composesKey
          have advancedKey := row_next source start earlier previous stop composer after key bound between row composedKey
          obtain ⟨value, afterValue, given, reached, advancedValue⟩ : ∃ value afterValue,
              (node source fuel after).getD (.scalar "" (.empty key.region.stop), after) = (value, afterValue) ∧
                ∃ reached, Advanced source start (earlier ++ [key]) key.region.stop (max stop key.region.stop) between value
                  afterValue reached := by
            cases composesValue : node source fuel after with
            | none => exact ⟨_, _, rfl, between, row_missing source start _ _ _ after between advancedKey.row composedKey.last⟩
            | some found =>
                obtain ⟨reached, composed⟩ := node_composed source fuel after found.2 found.1 between
                  advancedKey.row.ordered composesValue
                exact ⟨found.1, found.2, rfl, reached, row_next source start _ _ _ after found.2 found.1 between reached
                  advancedKey.row composed⟩
          obtain ⟨further, filled⟩ := entries_filled source start fuel _ _ _ afterValue reached advancedValue.row _ rfl
          rw [given] at fills
          subst fills
          exact ⟨further, filled_cons source start earlier previous stop after _ _ key bound between _ _ _ further advancedKey
            (filled_cons source start _ _ _ afterValue _ _ value between reached _ _ _ further advancedValue filled)⟩
termination_by structural fuel

theorem items_filled (source : Source) (start fuel : Nat) (earlier : List Node) (previous stop : Nat) (composer : Composer)
    (bound : Nat) (row : Row source start earlier previous stop composer bound)
    (result : List Node × Nat × List LocatedEvent) (fills : items source start fuel stop composer = result) :
    ∃ further, Filled source start earlier previous stop '[' ']' bound result.1 result.2.1 result.2.2 further := by
  match fuel with
  | 0 =>
      rw [items] at fills
      subst fills
      exact ⟨bound, filled_stopped source start earlier previous stop composer _ _ bound row⟩
  | fuel + 1 =>
      rw [items] at fills
      split at fills
      next empty =>
        subst fills
        have stopped := filled_stopped source start earlier previous stop composer '[' ']' bound row
        rw [empty] at stopped
        exact ⟨bound, stopped⟩
      next span rest events =>
        obtain ⟨_, last⟩ := composer
        subst events fills
        exact ⟨_, filled_closed source start earlier previous stop _ _ bound _ rest last row rfl⟩
      next =>
        split at fills
        next =>
          subst fills
          exact ⟨bound, filled_stopped source start earlier previous stop composer _ _ bound row⟩
        next item after composesItem =>
          obtain ⟨between, composed⟩ := node_composed source fuel composer after item bound row.ordered composesItem
          have advanced := row_next source start earlier previous stop composer after item bound between row composed
          obtain ⟨further, filled⟩ := items_filled source start fuel _ _ _ after between advanced.row _ rfl
          subst fills
          exact ⟨further, filled_cons source start earlier previous stop after _ _ item bound between _ _ _ further
            advanced filled⟩
termination_by structural fuel

end

theorem after_document_ordered (source : Source) (bound : Nat) (events : List LocatedEvent)
    (ordered : source.InOrder bound events) : ∃ further, source.InOrder further (afterDocument events) := by
  induction events generalizing bound with
  | nil => exact ⟨bound, trivial⟩
  | cons event rest ih =>
      rw [afterDocument]
      split
      next => exact ⟨_, ordered.2⟩
      next => exact ih _ ordered.2

theorem roots_laid (source : Source) (fuel bound : Nat) (events : List LocatedEvent)
    (ordered : source.InOrder bound events) : ∀ root ∈ roots source fuel events, source.AllLaid root := by
  induction fuel generalizing bound events with
  | zero => simp [roots]
  | succ fuel ih =>
      cases events with
      | nil => simp [roots]
      | cons event rest =>
          rw [roots]
          split
          next =>
            cases composes : node source (2 * rest.length + 2) ⟨rest, source.offset event.span.start⟩ with
            | none =>
                obtain ⟨further, onward⟩ := after_document_ordered source _ rest ordered.2
                simp only [composes, Option.getD_none]
                exact List.forall_mem_cons.mpr
                  ⟨all_laid_scalar source _ _ (Nat.le_refl _), ih further (afterDocument rest) onward⟩
            | some found =>
                obtain ⟨reached, composed⟩ := node_composed source _ _ found.2 found.1 _ ordered.2 composes
                obtain ⟨further, onward⟩ := after_document_ordered source reached found.2.events composed.ordered
                simp only [composes, Option.getD_some]
                exact List.forall_mem_cons.mpr ⟨composed.laid, ih further (afterDocument found.2.events) onward⟩
          next => exact ih _ rest ordered.2

end Composer

theorem documents_laid (source : Source) (events : List LocatedEvent) (ordered : source.InOrder 0 events) :
    ∀ root ∈ composeDocuments source events, source.AllLaid root :=
  Composer.roots_laid source _ 0 events ordered

end YamlDialects.Yaml
