import YamlDialects.Outline.Block
import YamlDialects.Path.Search
import YamlDialects.Proofs.Path.Descent
import YamlDialects.Yaml.Tree
import YamlDialects.Yaml.Value

/-!
A search sees the results of a traversal in their order. It stops early, so that it gives a first part of them.

Results come on demand. A traversal gives a stream, from which one result after the other is taken. The stream of a
repetition keeps a queue of streams: each node that is taken adds the stream of what the step reaches from it.
However streams are nested, they end, and what they give are the results in breadth-first order.
-/

set_option autoImplicit false

namespace YamlDialects

namespace Visit

variable {α σ : Type}

def andThen (visit : Visit σ) (next : σ → Visit σ) : Visit σ :=
  match visit with
  | .ended state => .ended state
  | .going state => next state

theorem through_cons (visit : α → σ → Visit σ) (node : α) (rest : List α) (state : σ) :
    through visit (node :: rest) state = (visit node state).andThen (through visit rest) := by
  rw [through]
  cases visit node state <;> rfl

theorem through_singleton (visit : α → σ → Visit σ) (node : α) (state : σ) :
    through visit [node] state = visit node state := by
  rw [through_cons]
  cases visit node state <;> rfl

theorem and_then_assoc (visit : Visit σ) (first second : σ → Visit σ) :
    (visit.andThen first).andThen second = visit.andThen fun state => (first state).andThen second := by
  cases visit <;> rfl

theorem through_append (visit : α → σ → Visit σ) (first second : List α) (state : σ) :
    through visit (first ++ second) state = (through visit first state).andThen (through visit second) := by
  induction first generalizing state with
  | nil => rfl
  | cons node rest ih =>
      rw [List.cons_append, through_cons, through_cons, and_then_assoc]
      exact congrArg (visit node state).andThen (funext ih)

theorem through_flat_map {β : Type} (visit : α → σ → Visit σ) (expand : β → List α) (nodes : List β) (state : σ) :
    through visit (nodes.flatMap expand) state = through (fun node => through visit (expand node)) nodes state := by
  induction nodes generalizing state with
  | nil => rfl
  | cons node rest ih =>
      rw [List.flatMap_cons, through_append, through_cons]
      exact congrArg (through visit (expand node) state).andThen (funext ih)

def keeping (visit : α → σ → Visit σ) (node : α) (found : List α × σ) : Visit (List α × σ) :=
  match visit node found.2 with
  | .ended state => .ended (node :: found.1, state)
  | .going state => .going (node :: found.1, state)

theorem through_keeping_going (visit : α → σ → Visit σ) (nodes seen : List α) (state last : σ)
    (goes : through visit nodes state = .going last) :
    through (keeping visit) nodes (seen, state) = .going (nodes.reverse ++ seen, last) := by
  induction nodes generalizing seen state with
  | nil =>
      cases goes
      rfl
  | cons node rest ih =>
      rw [through_cons] at goes ⊢
      cases here : visit node state with
      | ended state => simp [here, andThen] at goes
      | going next =>
          rw [here] at goes
          simp only [keeping, here, andThen]
          rw [ih (node :: seen) next goes]
          simp

theorem through_keeping_ended (visit : α → σ → Visit σ) (nodes seen : List α) (state last : σ)
    (ends : through visit nodes state = .ended last) :
    ∃ kept, through (keeping visit) nodes (seen, state) = .ended (kept, last) := by
  induction nodes generalizing seen state with
  | nil => cases ends
  | cons node rest ih =>
      rw [through_cons] at ends ⊢
      cases here : visit node state with
      | ended state =>
          simp only [here, andThen, ended.injEq] at ends
          exact ⟨node :: seen, by simp [keeping, here, andThen, ends]⟩
      | going next =>
          rw [here] at ends
          simp only [keeping, here, andThen]
          exact ih (node :: seen) next ends

def descend (next : List α → σ → Visit σ) (found : Visit (List α × σ)) : Visit σ :=
  match found with
  | .ended found => .ended found.2
  | .going found => next found.1.reverse found.2

theorem levels_cons (expand : {τ : Type} → (α → τ → Visit τ) → α → τ → Visit τ) (visit : α → σ → Visit σ) (depth : Nat)
    (node : α) (rest : List α) (state : σ) :
    levels expand visit (depth + 1) (node :: rest) state =
      descend (levels expand visit depth) (through (expand (keeping visit)) (node :: rest) ([], state)) :=
  rfl

theorem levels_eq_through (expand : {τ : Type} → (α → τ → Visit τ) → α → τ → Visit τ) (reached : α → List α)
    (leads : ∀ {τ : Type} (visit : α → τ → Visit τ) (node : α) (state : τ),
      expand visit node state = through visit (reached node) state)
    (visit : α → σ → Visit σ) (depth : Nat) (level : List α) (state : σ) :
    levels expand visit depth level state =
      through visit (Traversal.breadthFirst reached depth (level.flatMap reached)) state := by
  induction depth generalizing level state with
  | zero => rfl
  | succ depth ih =>
      cases level with
      | nil => rfl
      | cons node rest =>
          have expanded : through (expand (keeping visit)) (node :: rest) ([], state) =
              through (keeping visit) ((node :: rest).flatMap reached) ([], state) := by
            rw [through_flat_map]
            exact congrArg (through · (node :: rest) ([], state)) (funext fun each => funext (leads (keeping visit) each))
          rw [Traversal.breadth_first_succ, through_append, levels_cons, expanded]
          cases here : through visit ((node :: rest).flatMap reached) state with
          | ended last =>
              obtain ⟨kept, ends⟩ := through_keeping_ended visit _ [] state last here
              rw [ends]
              rfl
          | going last =>
              rw [through_keeping_going visit _ [] state last here]
              dsimp only [andThen, descend]
              rw [List.append_nil, List.reverse_reverse]
              exact ih _ last

theorem collect_take (limit count : Nat) (nodes found : List α) (open_ : count < limit) :
    (through (fun node (found : List α × Nat) =>
      if found.2 + 1 < limit then going (node :: found.1, found.2 + 1)
      else ended (node :: found.1, found.2 + 1)) nodes (found, count)).state.1 =
      (nodes.take (limit - count)).reverse ++ found := by
  induction nodes generalizing found count with
  | nil => simp [through, state]
  | cons node rest ih =>
      obtain ⟨left, place⟩ : ∃ left, limit - count = left + 1 := ⟨limit - count - 1, by omega⟩
      rw [through_cons, place, List.take_succ_cons]
      by_cases more : count + 1 < limit
      · have remains : limit - (count + 1) = left := by omega
        have next := ih (count + 1) (node :: found) more
        rw [remains] at next
        simpa only [if_pos more, andThen, List.reverse_cons, List.append_assoc, List.singleton_append] using next
      · have last : left = 0 := by omega
        simp [more, last, andThen, state]

end Visit

namespace Traversal

variable {α : Type} [Navigable α]

theorem visit_path {σ : Type} (act : α → σ → Visit σ) (moves : Path) (nodes : List α) (state : σ) :
    Visit.through (moves.foldr (fun move next node state => Visit.through next (Navigable.step move node) state) act)
        nodes state =
      Visit.through act (moves.foldl (fun nodes move => nodes.flatMap (Navigable.step move)) nodes) state := by
  induction moves generalizing nodes with
  | nil => rfl
  | cons move rest ih =>
      rw [List.foldl_cons, ← ih, Visit.through_flat_map]
      rfl

theorem visit_eq_through (depth : Nat) (traversal : Traversal) {σ : Type} (act : α → σ → Visit σ) (start : α)
    (state : σ) :
    traversal.visit depth act start state = Visit.through act (traversal.resultsWithin (depth + 1) start) state := by
  induction traversal generalizing σ start with
  | empty => exact (Visit.through_singleton act start state).symm
  | segment move => rfl
  | path moves =>
      rw [visit, resultsWithin, ← visit_path]
      exact (Visit.through_singleton _ start state).symm
  | sequence first second before after =>
      rw [visit, resultsWithin, before, Visit.through_flat_map]
      exact congrArg (Visit.through · _ state) (funext fun node => funext fun state => after act node state)
  | alternative left right one other =>
      rw [visit, resultsWithin, Visit.through_append, ← one]
      cases left.visit depth act start state with
      | ended last => rfl
      | going last => exact other act start last
  | repetition step once =>
      rw [visit, resultsWithin, breadth_first_succ, List.singleton_append, Visit.through_cons]
      cases act start state with
      | ended last => rfl
      | going last => exact Visit.levels_eq_through _ _ (fun visit node state => once visit node state) act depth [start] last

theorem first_results_eq_take (depth limit : Nat) (traversal : Traversal) (start : α) :
    traversal.firstResults depth limit start = (traversal.resultsWithin (depth + 1) start).take limit := by
  unfold firstResults
  split
  · next none_ => simp [none_]
  · next some_ =>
      dsimp only
      rw [visit_eq_through, Visit.collect_take limit 0 _ _ (Nat.pos_of_ne_zero some_)]
      simp

end Traversal

inductive ResultStream (α : Type) where
  | listed (nodes : List α)
  | chained (first second : ResultStream α)
  | flattened (expand : α → ResultStream α) (front source : ResultStream α)
  | repeating (expand : α → ResultStream α) (queue : List (ResultStream α))

namespace ResultStream

variable {α : Type}

-- Taking one result: none at the end, otherwise a node and the stream that is left. A front that has ended is
-- followed by the next stream of its source, or of the queue.
inductive Takes : ResultStream α → Option (α × ResultStream α) → Prop where
  | listed_end : Takes (.listed []) none
  | listed_next (node : α) (rest : List α) : Takes (.listed (node :: rest)) (some (node, .listed rest))
  | chained_first (first second rest : ResultStream α) (node : α) (taken : Takes first (some (node, rest))) :
      Takes (.chained first second) (some (node, .chained rest second))
  | chained_second (first second : ResultStream α) (outcome : Option (α × ResultStream α)) (ended : Takes first none)
      (taken : Takes second outcome) : Takes (.chained first second) outcome
  | flattened_front (expand : α → ResultStream α) (front source rest : ResultStream α) (node : α)
      (taken : Takes front (some (node, rest))) :
      Takes (.flattened expand front source) (some (node, .flattened expand rest source))
  | flattened_source (expand : α → ResultStream α) (front source rest : ResultStream α) (node : α)
      (outcome : Option (α × ResultStream α)) (ended : Takes front none) (moved : Takes source (some (node, rest)))
      (taken : Takes (.flattened expand (expand node) rest) outcome) : Takes (.flattened expand front source) outcome
  | flattened_end (expand : α → ResultStream α) (front source : ResultStream α) (ended : Takes front none)
      (exhausted : Takes source none) : Takes (.flattened expand front source) none
  | repeating_next (expand : α → ResultStream α) (front rest : ResultStream α) (queue : List (ResultStream α)) (node : α)
      (taken : Takes front (some (node, rest))) :
      Takes (.repeating expand (front :: queue)) (some (node, .repeating expand (rest :: (queue ++ [expand node]))))
  | repeating_drop (expand : α → ResultStream α) (front : ResultStream α) (queue : List (ResultStream α))
      (outcome : Option (α × ResultStream α)) (ended : Takes front none)
      (taken : Takes (.repeating expand queue) outcome) : Takes (.repeating expand (front :: queue)) outcome
  | repeating_end (expand : α → ResultStream α) : Takes (.repeating expand []) none

inductive Yields : ResultStream α → List α → Prop where
  | ended (stream : ResultStream α) (taken : Takes stream none) : Yields stream []
  | next (stream rest : ResultStream α) (node : α) (nodes : List α) (taken : Takes stream (some (node, rest)))
      (more : Yields rest nodes) : Yields stream (node :: nodes)

theorem takes_unique (stream : ResultStream α) (one other : Option (α × ResultStream α)) (first : Takes stream one)
    (second : Takes stream other) : one = other := by
  induction first generalizing other with
  | listed_end => cases second; rfl
  | listed_next node rest => cases second; rfl
  | chained_first first rest second node _ ih =>
      cases second with
      | chained_first _ _ _ _ taken => cases ih _ taken; rfl
      | chained_second _ _ _ ended _ => cases ih _ ended
  | chained_second first second outcome _ _ endedBefore takenBefore =>
      cases second with
      | chained_first _ _ _ _ taken => cases endedBefore _ taken
      | chained_second _ _ _ _ taken => exact takenBefore _ taken
  | flattened_front expand front source rest node _ ih =>
      cases second with
      | flattened_front _ _ _ _ _ taken => cases ih _ taken; rfl
      | flattened_source _ _ _ _ _ _ ended _ _ => cases ih _ ended
      | flattened_end _ _ _ ended _ => cases ih _ ended
  | flattened_source expand front source rest node outcome _ _ _ frontBefore sourceBefore takenBefore =>
      cases second with
      | flattened_front _ _ _ _ _ taken => cases frontBefore _ taken
      | flattened_source _ _ _ _ _ _ _ moved taken =>
          cases sourceBefore _ moved
          exact takenBefore _ taken
      | flattened_end _ _ _ _ exhausted => cases sourceBefore _ exhausted
  | flattened_end expand front source _ _ frontBefore sourceBefore =>
      cases second with
      | flattened_front _ _ _ _ _ taken => cases frontBefore _ taken
      | flattened_source _ _ _ _ _ _ _ moved _ => cases sourceBefore _ moved
      | flattened_end _ _ _ _ _ => rfl
  | repeating_next expand front rest queue node _ ih =>
      cases second with
      | repeating_next _ _ _ _ _ taken => cases ih _ taken; rfl
      | repeating_drop _ _ _ _ ended _ => cases ih _ ended
  | repeating_drop expand front queue outcome _ _ frontBefore takenBefore =>
      cases second with
      | repeating_next _ _ _ _ _ taken => cases frontBefore _ taken
      | repeating_drop _ _ _ _ _ taken => exact takenBefore _ taken
  | repeating_end expand => cases second; rfl

theorem yields_unique (stream : ResultStream α) (one other : List α) (first : Yields stream one)
    (second : Yields stream other) : one = other := by
  induction first generalizing other with
  | ended stream taken =>
      cases second with
      | ended _ _ => rfl
      | next _ _ _ _ also _ => cases takes_unique stream _ _ taken also
  | next stream rest node nodes taken _ ih =>
      cases second with
      | ended _ also => cases takes_unique stream _ _ taken also
      | next _ _ _ _ also more =>
          cases takes_unique stream _ _ taken also
          rw [ih _ more]

theorem yields_passed_on (stream other : ResultStream α) (nodes : List α)
    (passes : ∀ outcome, Takes stream outcome → Takes other outcome) (yields : Yields stream nodes) :
    Yields other nodes := by
  cases yields with
  | ended _ taken => exact .ended other (passes none taken)
  | next _ rest node nodes taken more => exact .next other rest node nodes (passes _ taken) more

theorem yields_listed (nodes : List α) : Yields (.listed nodes) nodes := by
  induction nodes with
  | nil => exact .ended _ .listed_end
  | cons node rest ih => exact .next _ _ node rest (.listed_next node rest) ih

theorem yields_chained (first second : ResultStream α) (early late : List α) (before : Yields first early)
    (after : Yields second late) : Yields (.chained first second) (early ++ late) := by
  induction before with
  | ended first ended =>
      exact yields_passed_on second _ late (fun outcome taken => .chained_second first second outcome ended taken) after
  | next first rest node nodes taken _ ih => exact .next _ _ node _ (.chained_first first second rest node taken) ih

section Flattened

variable (expand : α → ResultStream α) (reached : α → List α)

theorem yields_front (front source : ResultStream α) (nodes later : List α) (here : Yields front nodes)
    (afterwards : ∀ last, Takes last none → Yields (.flattened expand last source) later) :
    Yields (.flattened expand front source) (nodes ++ later) := by
  induction here with
  | ended front ended => exact afterwards front ended
  | next front rest node nodes taken _ ih => exact .next _ _ node _ (.flattened_front expand front source rest node taken) ih

theorem yields_flattened (front source : ResultStream α) (nodes origins : List α) (here : Yields front nodes)
    (from_ : Yields source origins) (leads : ∀ node ∈ origins, Yields (expand node) (reached node)) :
    Yields (.flattened expand front source) (nodes ++ origins.flatMap reached) := by
  induction from_ generalizing front nodes with
  | ended source exhausted =>
      refine yields_front expand front source nodes _ here ?_
      intro last ended
      exact .ended _ (.flattened_end expand last source ended exhausted)
  | next source rest node origins moved _ ih =>
      refine yields_front expand front source nodes _ here ?_
      intro last ended
      refine yields_passed_on (.flattened expand (expand node) rest) _ _
        (fun outcome taken => .flattened_source expand last source rest node outcome ended moved taken) ?_
      exact ih (expand node) (reached node) (leads node List.mem_cons_self)
        (fun each member => leads each (List.mem_cons_of_mem node member))

end Flattened

section Repeating

variable (expand : α → ResultStream α) (reached : α → List α)

theorem yields_queue_front (front : ResultStream α) (queue : List (ResultStream α)) (nodes later : List α)
    (here : Yields front nodes) (afterwards : Yields (.repeating expand (queue ++ nodes.map expand)) later) :
    Yields (.repeating expand (front :: queue)) (nodes ++ later) := by
  induction here generalizing queue with
  | ended front ended =>
      rw [List.map_nil, List.append_nil] at afterwards
      exact yields_passed_on _ _ later (fun outcome taken => .repeating_drop expand front queue outcome ended taken) afterwards
  | next front rest node nodes taken _ ih =>
      refine .next _ _ node _ (.repeating_next expand front rest queue node taken) (ih (queue ++ [expand node]) ?_)
      rwa [List.append_assoc, List.singleton_append, ← List.map_cons]

theorem yields_level (level : List α) (behind : List (ResultStream α)) (later : List α)
    (leads : ∀ node ∈ level, Yields (expand node) (reached node))
    (afterwards : Yields (.repeating expand (behind ++ (level.flatMap reached).map expand)) later) :
    Yields (.repeating expand (level.map expand ++ behind)) (level.flatMap reached ++ later) := by
  induction level generalizing behind with
  | nil => simpa using afterwards
  | cons node rest ih =>
      rw [List.flatMap_cons, List.append_assoc, List.map_cons, List.cons_append]
      refine yields_queue_front expand (expand node) _ (reached node) _ (leads node List.mem_cons_self) ?_
      rw [List.append_assoc]
      refine ih (behind ++ (reached node).map expand) (fun each member => leads each (List.mem_cons_of_mem node member)) ?_
      rwa [List.append_assoc, ← List.map_append, ← List.flatMap_cons]

theorem yields_levels [Grounded α] (height levels : Nat) (level : List α)
    (leads : ∀ node, Grounded.height node < height → Yields (expand node) (reached node))
    (lower : ∀ node, ∀ next ∈ reached node, Grounded.height next < Grounded.height node)
    (below : ∀ node ∈ level, Grounded.height node < height) (enough : ∀ node ∈ level, Grounded.height node ≤ levels) :
    Yields (.repeating expand (level.map expand)) (Traversal.breadthFirst reached levels (level.flatMap reached)) := by
  have next := Traversal.flat_map_lower reached levels level lower enough
  have here := fun node member => leads node (below node member)
  induction levels generalizing level with
  | zero =>
      have empty : level.flatMap reached = [] :=
        List.eq_nil_iff_forall_not_mem.mpr fun node member => Nat.not_lt_zero _ (next node member)
      have last := yields_level expand reached level [] [] here (by rw [empty]; exact .ended _ (.repeating_end expand))
      rw [List.append_nil, empty] at last
      rw [empty]
      exact last
  | succ levels ih =>
      have deeper := Traversal.flat_map_lower reached height level lower fun node member => Nat.le_of_lt (below node member)
      have bound : ∀ node ∈ level.flatMap reached, Grounded.height node ≤ levels :=
        fun node member => Nat.lt_succ_iff.mp (next node member)
      have rest := ih (level.flatMap reached) deeper bound
        (Traversal.flat_map_lower reached levels _ lower bound) (fun node member => leads node (deeper node member))
      have all := yields_level expand reached level [] _ here rest
      rwa [List.append_nil, ← Traversal.breadth_first_succ] at all

end Repeating
end ResultStream

namespace Traversal

open ResultStream

def stream {α : Type} [Navigable α] : Traversal → α → ResultStream α
  | .empty, start => .listed [start]
  | .segment move, start => .listed (Navigable.step move start)
  | .path moves, start =>
      moves.foldl (fun source move => .flattened (fun node => .listed (Navigable.step move node)) (.listed []) source)
        (.listed [start])
  | .sequence first second, start => .flattened (stream second) (.listed []) (stream first start)
  | .alternative left right, start => .chained (stream left start) (stream right start)
  | .repetition step, start => .repeating (stream step) [.listed [start]]

theorem path_yields {α : Type} [Navigable α] (moves : Path) (source : ResultStream α) (nodes : List α)
    (yields : Yields source nodes) :
    Yields (moves.foldl (fun source move => .flattened (fun node => .listed (Navigable.step move node)) (.listed []) source)
      source) (moves.foldl (fun nodes move => nodes.flatMap (Navigable.step move)) nodes) := by
  induction moves generalizing source nodes with
  | nil => exact yields
  | cons move rest ih =>
      refine ih _ _ ?_
      exact yields_flattened _ (Navigable.step move) (.listed []) source [] nodes (yields_listed []) yields
        (fun node _ => yields_listed (Navigable.step move node))

theorem stream_yields {α : Type} [Grounded α] (traversal : Traversal) (repeats : RepeatsMoves traversal) (levels : Nat)
    (start : α) (enough : Grounded.height start < levels) :
    Yields (traversal.stream start) (traversal.resultsWithin levels start) := by
  induction traversal generalizing start with
  | empty => exact yields_listed [start]
  | segment move => exact yields_listed _
  | path moves => exact path_yields moves _ [start] (yields_listed [start])
  | sequence first second before after =>
      refine yields_flattened _ (second.resultsWithin levels) (.listed []) _ [] _ (yields_listed [])
        (before repeats.1 start enough) ?_
      intro node reached
      have below := results_le levels first start node reached
      exact after repeats.2 node (by omega)
  | alternative left right one other =>
      exact yields_chained _ _ _ _ (one repeats.1 start enough) (other repeats.2 start enough)
  | repetition step once =>
      obtain ⟨more, rfl⟩ : ∃ more, levels = more + 1 := ⟨levels - 1, by omega⟩
      rw [resultsWithin, breadth_first_succ]
      refine yields_queue_front _ _ [] [start] _ (yields_listed [start]) ?_
      refine yields_levels _ (step.resultsWithin (more + 1)) (Grounded.height start + 1) more [start] ?_
        (results_lt (more + 1) step repeats.1) (by simp) (by simpa using Nat.lt_succ_iff.mp enough)
      intro node below
      exact once repeats.2 node (by omega)

-- What a traversal gives from a start: the stream ends, a repetition gives its waves up to the first that is empty,
-- and a search gives a first part.
structure Closes {α : Type} [Grounded α] (traversal : Traversal) (start : α) : Prop where
  yields : ∀ nodes, Yields (traversal.stream start) nodes ↔ nodes = traversal.results start
  waves : ∀ step, traversal = .repetition step → ∃ depth, wave step.results [start] depth = [] ∧
    (∀ count < depth, wave step.results [start] count ≠ []) ∧
    traversal.results start = (List.range depth).flatMap (wave step.results [start])
  search : ∀ limit,
    traversal.firstResults (Grounded.height start + 1) limit start = (traversal.results start).take limit

theorem repetition_waves {α : Type} [Grounded α] (step : Traversal) (moves : step.canEmpty = false)
    (repeats : RepeatsMoves step) (start : α) :
    ∃ depth, wave step.results [start] depth = [] ∧ (∀ count < depth, wave step.results [start] count ≠ []) ∧
      results (.repetition step) start = (List.range depth).flatMap (wave step.results [start]) := by
  have lower : ∀ node : α, ∀ next ∈ step.results node, Grounded.height next < Grounded.height node :=
    fun node => results_lt _ step moves node
  obtain ⟨depth, ended, going, sum⟩ := breadth_first_waves step.results lower (Grounded.height start + 1) [start] (by simp)
  refine ⟨depth, ended, going, ?_⟩
  rw [← sum]
  refine breadth_first_agree _ _ (Grounded.height start + 1) ?_ (results_lt _ step moves) _ _ [start]
    (by simp) (by simp) (by simp)
  intro node below
  exact results_eq_within step repeats _ node below

theorem closes {α : Type} [Grounded α] (traversal : Traversal) (repeats : RepeatsMoves traversal) (start : α) :
    Closes traversal start := by
  refine ⟨?_, ?_, ?_⟩
  · intro nodes
    have all := stream_yields traversal repeats (Grounded.height start + 1) start (Nat.lt_succ_self _)
    constructor
    · intro yields
      exact yields_unique _ nodes _ yields all
    · rintro rfl
      exact all
  · rintro step rfl
    exact repetition_waves step repeats.1 repeats.2 start
  · intro limit
    rw [first_results_eq_take, results_eq_within traversal repeats _ start (by omega)]

theorem traversals_close (traversal : Traversal) (buildable : Buildable traversal) :
    (∀ block : Block, Closes traversal block) ∧ (∀ place : Yaml.Place, Closes traversal place) ∧
      ∀ value : Yaml.Value, Closes traversal value := by
  have repeats := buildable_repeats_moves traversal buildable
  exact ⟨closes traversal repeats, closes traversal repeats, closes traversal repeats⟩

-- Any number of times to a child and from there to first items: a repetition in the step of another.
theorem traversals_close_nested : ∃ traversal, Buildable traversal ∧
    traversal = .repetition (.sequence (.segment .anyChild) (.repetition (.segment (.index 0)))) ∧
    Yields (traversal.stream (Yaml.Value.sequence [.sequence [.null]]))
      [.sequence [.sequence [.null]], .sequence [.null], .null, .null] := by
  have firsts : Buildable (.repetition (.segment (.index 0))) := .repeated _ _ (.segment (.index 0)) rfl
  have step := Buildable.andThen _ _ (.segment .anyChild) firsts
  have buildable : Buildable (.repetition (.sequence (.segment .anyChild) (.repetition (.segment (.index 0))))) :=
    .repeated _ _ step rfl
  exact ⟨_, buildable, rfl, (((traversals_close _ buildable).2.2 _).yields _).mpr rfl⟩

end Traversal
end YamlDialects
