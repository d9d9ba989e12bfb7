import Mathlib.Data.List.Forall2
import YamlDialects.Proofs.Path.Composition

/-!
The moves that lead to a result. A route is a node with the moves that have led to it, and it is navigated as the node is.
A traversal that is run on routes gives what it gives on nodes, one for one, in the same order and without end where that
has none, and with each result the moves that it took. If the traversal can be empty, the first result is the start and
took no move. If it cannot, every result took one. So what a choice and a repetition refuse is exactly what would give
back its start.
-/

set_option autoImplicit false

namespace YamlDialects

namespace ResultStream

variable {α β : Type}

inductive Shows : ResultStream α → α → Prop where
  | now (stream rest : ResultStream α) (node : α) (taken : Takes stream (some (node, rest))) : Shows stream node
  | later (stream rest : ResultStream α) (other node : α) (taken : Takes stream (some (other, rest)))
      (behind : Shows rest node) : Shows stream node

-- Two streams of one form, with related nodes in the same places. What the nodes of a source expand to may be related in
-- another way than those nodes.
inductive Alike : (α → β → Prop) → ResultStream α → ResultStream β → Prop where
  | listed (related : α → β → Prop) (nodes : List α) (twins : List β) (pairs : List.Forall₂ related nodes twins) :
      Alike related (.listed nodes) (.listed twins)
  | chained (related : α → β → Prop) (first second : ResultStream α) (one two : ResultStream β)
      (before : Alike related first one) (after : Alike related second two) :
      Alike related (.chained first second) (.chained one two)
  | flattened (related among : α → β → Prop) (expand : α → ResultStream α) (spread : β → ResultStream β)
      (front source : ResultStream α) (head origin : ResultStream β)
      (leads : ∀ node twin, among node twin → Alike related (expand node) (spread twin))
      (here : Alike related front head) (behind : Alike among source origin) :
      Alike related (.flattened expand front source) (.flattened spread head origin)
  | repeating_end (related : α → β → Prop) (expand : α → ResultStream α) (spread : β → ResultStream β)
      (leads : ∀ node twin, related node twin → Alike related (expand node) (spread twin)) :
      Alike related (.repeating expand []) (.repeating spread [])
  | repeating_next (related : α → β → Prop) (expand : α → ResultStream α) (spread : β → ResultStream β)
      (front : ResultStream α) (queue : List (ResultStream α)) (head : ResultStream β) (line : List (ResultStream β))
      (here : Alike related front head) (behind : Alike related (.repeating expand queue) (.repeating spread line)) :
      Alike related (.repeating expand (front :: queue)) (.repeating spread (head :: line))

namespace Alike

theorem single (related : α → β → Prop) (node : α) (twin : β) (pair : related node twin) :
    Alike related (.listed [node]) (.listed [twin]) :=
  .listed related [node] [twin] (.cons pair .nil)

theorem symm (related : α → β → Prop) (stream : ResultStream α) (twin : ResultStream β)
    (alike : Alike related stream twin) : Alike (fun one other => related other one) twin stream := by
  induction alike with
  | listed related nodes twins pairs => exact .listed _ twins nodes pairs.flip
  | chained related first second one two _ _ before after => exact .chained _ one two first second before after
  | flattened related among expand spread front source head origin _ _ _ leads here behind =>
      exact .flattened _ (fun one other => among other one) spread expand head origin front source
        (fun one other pair => leads other one pair) here behind
  | repeating_end related expand spread _ leads =>
      exact .repeating_end _ spread expand fun one other pair => leads other one pair
  | repeating_next related expand spread front queue head line _ _ here behind =>
      exact .repeating_next _ spread expand head line front queue here behind

theorem queued (related : α → β → Prop) (expand : α → ResultStream α) (spread : β → ResultStream β)
    (queue : List (ResultStream α)) (line : List (ResultStream β)) (last : ResultStream α) (final : ResultStream β)
    (alike : Alike related (.repeating expand queue) (.repeating spread line)) (more : Alike related last final) :
    Alike related (.repeating expand (queue ++ [last])) (.repeating spread (line ++ [final])) := by
  induction queue generalizing line with
  | nil =>
      cases alike with
      | repeating_end _ _ _ leads =>
          exact .repeating_next related expand spread last [] final [] more (.repeating_end related expand spread leads)
  | cons front queue ih =>
      cases alike with
      | repeating_next _ _ _ _ _ head line here behind =>
          exact .repeating_next related expand spread front _ head _ here (ih line behind)

theorem leads (related : α → β → Prop) (expand : α → ResultStream α) (spread : β → ResultStream β)
    (queue : List (ResultStream α)) (line : List (ResultStream β))
    (alike : Alike related (.repeating expand queue) (.repeating spread line)) (node : α) (twin : β)
    (pair : related node twin) : Alike related (expand node) (spread twin) := by
  induction queue generalizing line with
  | nil =>
      cases alike with
      | repeating_end _ _ _ leads => exact leads node twin pair
  | cons front queue ih =>
      cases alike with
      | repeating_next _ _ _ _ _ _ line _ behind => exact ih line behind

def Outcomes (related : α → β → Prop) : Option (α × ResultStream α) → Option (β × ResultStream β) → Prop :=
  Option.Rel fun taken other => related taken.1 other.1 ∧ Alike related taken.2 other.2

theorem takes (related : α → β → Prop) (stream : ResultStream α) (twin : ResultStream β)
    (outcome : Option (α × ResultStream α)) (alike : Alike related stream twin) (taken : Takes stream outcome) :
    ∃ result, Takes twin result ∧ Outcomes related outcome result := by
  induction taken generalizing related twin with
  | listed_end =>
      cases alike with
      | listed _ _ _ pairs =>
          cases pairs
          exact ⟨none, .listed_end, .none⟩
  | listed_next node rest =>
      cases alike with
      | listed _ _ _ pairs =>
          cases pairs with
          | cons pair others => exact ⟨_, .listed_next _ _, .some ⟨pair, .listed related _ _ others⟩⟩
  | chained_first first second rest node _ ih =>
      cases alike with
      | chained _ _ _ one two before after =>
          obtain ⟨result, also, same⟩ := ih related one before
          cases same with
          | some both => exact ⟨_, .chained_first one two _ _ also, .some ⟨both.1, .chained related _ _ _ _ both.2 after⟩⟩
  | chained_second first second outcome _ _ ended ih =>
      cases alike with
      | chained _ _ _ one two before after =>
          obtain ⟨_, spent, same⟩ := ended related one before
          cases same with
          | none =>
              obtain ⟨result, also, outcomes⟩ := ih related two after
              exact ⟨result, .chained_second one two result spent also, outcomes⟩
  | flattened_front expand front source rest node _ ih =>
      cases alike with
      | flattened _ among _ spread _ _ head origin leads here behind =>
          obtain ⟨_, also, same⟩ := ih related head here
          cases same with
          | some both =>
              exact ⟨_, .flattened_front spread head origin _ _ also,
                .some ⟨both.1, .flattened related among expand spread _ _ _ _ leads both.2 behind⟩⟩
  | flattened_source expand front source rest node outcome _ _ _ ended moved ih =>
      cases alike with
      | flattened _ among _ spread _ _ head origin leads here behind =>
          obtain ⟨_, spent, same⟩ := ended related head here
          cases same with
          | none =>
              obtain ⟨_, also, same⟩ := moved among origin behind
              cases same with
              | some both =>
                  obtain ⟨result, further, outcomes⟩ := ih related _
                    (.flattened related among expand spread _ _ _ _ leads (leads _ _ both.1) both.2)
                  exact ⟨result, .flattened_source spread head origin _ _ result spent also further, outcomes⟩
  | flattened_end expand front source _ _ ended exhausted =>
      cases alike with
      | flattened _ among _ spread _ _ head origin leads here behind =>
          obtain ⟨_, spent, same⟩ := ended related head here
          obtain ⟨_, empty, none_⟩ := exhausted among origin behind
          cases same
          cases none_
          exact ⟨none, .flattened_end spread head origin spent empty, .none⟩
  | repeating_next expand front rest queue node _ ih =>
      cases alike with
      | repeating_next _ _ spread _ _ head line here behind =>
          obtain ⟨_, also, same⟩ := ih related head here
          cases same with
          | some both =>
              have next := leads related expand spread queue line behind node _ both.1
              exact ⟨_, .repeating_next spread head _ line _ also, .some ⟨both.1, .repeating_next related expand spread _ _ _ _
                both.2 (queued related expand spread queue line _ _ behind next)⟩⟩
  | repeating_drop expand front queue outcome _ _ ended ih =>
      cases alike with
      | repeating_next _ _ spread _ _ head line here behind =>
          obtain ⟨_, spent, same⟩ := ended related head here
          cases same with
          | none =>
              obtain ⟨result, further, outcomes⟩ := ih related _ behind
              exact ⟨result, .repeating_drop spread head line result spent further, outcomes⟩
  | repeating_end expand =>
      cases alike with
      | repeating_end _ _ spread _ => exact ⟨none, .repeating_end spread, .none⟩

theorem shows (related : α → β → Prop) (stream : ResultStream α) (twin : ResultStream β) (node : α)
    (alike : Alike related stream twin) (given : Shows stream node) : ∃ other, Shows twin other ∧ related node other := by
  induction given generalizing twin with
  | now stream rest node taken =>
      obtain ⟨_, also, same⟩ := takes related stream twin _ alike taken
      cases same with
      | some both => exact ⟨_, .now twin _ _ also, both.1⟩
  | later stream rest other node taken _ ih =>
      obtain ⟨_, also, same⟩ := takes related stream twin _ alike taken
      cases same with
      | some both =>
          obtain ⟨found, comes, pair⟩ := ih _ both.2
          exact ⟨found, .later twin _ _ found also comes, pair⟩

end Alike
end ResultStream

namespace Traversal

open ResultStream

section Related

variable {α β : Type} [Navigable α] [Navigable β]

def Together (related moved : α → β → Prop) : Prop :=
  ∀ move node twin, related node twin → List.Forall₂ moved (Navigable.step move node) (Navigable.step move twin)

-- What a traversal gives from related nodes is related as they are if it can be empty, and otherwise as it is behind a
-- move. `gives` tells when the results from two nodes are related in some way.
def Carries (canEmpty : Bool) (gives : (α → β → Prop) → α → β → Prop) : Prop :=
  ∀ related moved, Together related moved → (∀ node twin, moved node twin → related node twin) →
    ∀ node twin, related node twin → gives (if canEmpty then related else moved) node twin

theorem together_settled (related moved : α → β → Prop) (together : Together related moved)
    (still : ∀ node twin, moved node twin → related node twin) : Together related related :=
  fun move node twin pair => (together move node twin pair).imp still

theorem together_further (related moved : α → β → Prop) (together : Together related moved)
    (still : ∀ node twin, moved node twin → related node twin) : Together moved moved :=
  fun move node twin pair => together move node twin (still node twin pair)

section Carries

variable (one two both : Bool) (first second gives : (α → β → Prop) → α → β → Prop)

theorem carried (carries : Carries one first) (related : α → β → Prop) (together : Together related related) (node : α)
    (twin : β) (pair : related node twin) : first related node twin := by
  have same := carries related related together (fun _ _ same => same) node twin pair
  rwa [ite_self] at same

theorem carries_still (stays : ∀ related node twin, Together related related → related node twin → gives related node twin) :
    Carries true gives :=
  fun related moved together still node twin pair =>
    stays related node twin (together_settled related moved together still) pair

theorem carries_moved (moves : ∀ related moved node twin, Together related moved → Together moved moved →
    related node twin → gives moved node twin) : Carries false gives :=
  fun related moved together still node twin pair =>
    moves related moved node twin together (together_further related moved together still) pair

theorem carries_sequence (before : Carries one first) (after : Carries two second)
    (combine : ∀ among related node twin, first among node twin →
      (∀ middle other, among middle other → second related middle other) → gives related node twin) :
    Carries (one && two) gives := by
  intro related moved together still node twin pair
  have early := before related moved together still node twin pair
  cases one with
  | true => exact combine related _ node twin early (after related moved together still)
  | false =>
      have further := together_further related moved together still
      exact combine moved moved node twin early (carried two second after moved further)

theorem carries_alternative (left : Carries one first) (right : Carries two second)
    (combine : ∀ related node twin, first related node twin → second related node twin → gives related node twin) :
    Carries (one || two) gives := by
  intro related moved together still node twin pair
  have settled := together_settled related moved together still
  cases either : one || two with
  | true =>
      exact combine related node twin (carried one first left related settled node twin pair)
        (carried two second right related settled node twin pair)
  | false =>
      obtain ⟨rfl, rfl⟩ := Bool.or_eq_false_iff.mp either
      exact combine moved node twin (left related moved together still node twin pair)
        (right related moved together still node twin pair)

end Carries

theorem path_alike (related : α → β → Prop) (together : Together related related) (moves : Path)
    (source : ResultStream α) (origin : ResultStream β) (alike : Alike related source origin) :
    Alike related
      (moves.foldl (fun source move => .flattened (fun node => .listed (Navigable.step move node)) (.listed []) source) source)
      (moves.foldl (fun source move => .flattened (fun node => .listed (Navigable.step move node)) (.listed []) source)
        origin) := by
  induction moves generalizing source origin with
  | nil => exact alike
  | cons move rest ih =>
      refine ih _ _ (.flattened related related _ _ _ _ _ _ ?_ (.listed related [] [] .nil) alike)
      exact fun node twin pair => .listed related _ _ (together move node twin pair)

theorem stream_carries (traversal : Traversal) :
    Carries traversal.canEmpty fun (related : α → β → Prop) node twin =>
      Alike related (traversal.stream node) (traversal.stream twin) := by
  induction traversal with
  | empty => exact carries_still _ fun related node twin _ pair => Alike.single related node twin pair
  | segment move =>
      exact carries_moved _ fun related moved node twin together _ pair => .listed moved _ _ (together move node twin pair)
  | path moves =>
      cases moves with
      | nil => exact carries_still _ fun related node twin _ pair => Alike.single related node twin pair
      | cons move rest =>
          refine carries_moved _ fun related moved node twin together further pair => path_alike moved further rest _ _ ?_
          refine .flattened moved related _ _ _ _ _ _ ?_ (.listed moved [] [] .nil) (Alike.single related node twin pair)
          exact fun each other pair => .listed moved _ _ (together move each other pair)
  | sequence first second before after =>
      refine carries_sequence _ _ _ _ _ before after fun among related node twin early late => ?_
      exact .flattened related among _ _ _ _ _ _ late (.listed related [] [] .nil) early
  | alternative left right one other =>
      exact carries_alternative _ _ _ _ _ one other fun related node twin first second =>
        .chained related _ _ _ _ first second
  | repetition step once =>
      refine carries_still _ fun related node twin together pair => ?_
      have leads := carried _ _ once related together
      exact .repeating_next related _ _ _ [] _ [] (Alike.single related node twin pair) (.repeating_end related _ _ leads)

theorem fold_alike (related : α → β → Prop) (together : Together related related) (moves : Path) (nodes : List α)
    (twins : List β) (pairs : List.Forall₂ related nodes twins) :
    List.Forall₂ related (moves.foldl (fun nodes move => nodes.flatMap (Navigable.step move)) nodes)
      (moves.foldl (fun nodes move => nodes.flatMap (Navigable.step move)) twins) := by
  induction moves generalizing nodes twins with
  | nil => exact pairs
  | cons move rest ih => exact ih _ _ (List.rel_flatMap pairs fun node twin pair => together move node twin pair)

omit [Navigable α] [Navigable β] in
theorem breadth_first_alike (related : α → β → Prop) (expand : α → List α) (spread : β → List β)
    (leads : ∀ node twin, related node twin → List.Forall₂ related (expand node) (spread twin)) (levels : Nat)
    (nodes : List α) (twins : List β) (pairs : List.Forall₂ related nodes twins) :
    List.Forall₂ related (breadthFirst expand levels nodes) (breadthFirst spread levels twins) := by
  induction levels generalizing nodes twins with
  | zero => exact .nil
  | succ levels ih =>
      rw [breadth_first_succ, breadth_first_succ]
      exact List.rel_append pairs (ih _ _ (List.rel_flatMap pairs fun node twin pair => leads node twin pair))

theorem search_carries (levels : Nat) (traversal : Traversal) :
    Carries traversal.canEmpty fun (related : α → β → Prop) node twin =>
      List.Forall₂ related (traversal.resultsWithin levels node) (traversal.resultsWithin levels twin) := by
  induction traversal with
  | empty => exact carries_still _ fun related node twin _ pair => .cons pair .nil
  | segment move => exact carries_moved _ fun related moved node twin together _ pair => together move node twin pair
  | path moves =>
      cases moves with
      | nil => exact carries_still _ fun related node twin _ pair => .cons pair .nil
      | cons move rest =>
          refine carries_moved _ fun related moved node twin together further pair => fold_alike moved further rest _ _ ?_
          exact List.rel_flatMap (.cons pair .nil) fun each other pair => together move each other pair
  | sequence first second before after =>
      refine carries_sequence _ _ _ _ _ before after fun among related node twin early late => ?_
      exact List.rel_flatMap early fun middle other pair => late middle other pair
  | alternative left right one other =>
      exact carries_alternative _ _ _ _ _ one other fun related node twin first second => List.rel_append first second
  | repetition step once =>
      refine carries_still _ fun related node twin together pair => ?_
      exact breadth_first_alike related _ _ (carried _ _ once related together) levels [node] [twin] (.cons pair .nil)

end Related

end Traversal

structure Route (α : Type) where
  moves : Path
  node : α

namespace Route

variable {α : Type} [Navigable α]

instance : Navigable (Route α) where
  step segment route := (Navigable.step segment route.node).map fun next => ⟨route.moves ++ [segment], next⟩

def start (node : α) : Route α :=
  ⟨[], node⟩

def LeadsTo (origin : α) (route : Route α) (node : α) : Prop :=
  route.node = node ∧ node ∈ route.moves.results origin

def MovesTo (origin : α) (route : Route α) (node : α) : Prop :=
  LeadsTo origin route node ∧ route.moves ≠ []

theorem start_leads (origin : α) : LeadsTo origin (start origin) origin :=
  ⟨rfl, by simp [start, Path.results, Traversal.resultsWithin]⟩

theorem leads_together (origin : α) : Traversal.Together (LeadsTo origin) (MovesTo origin) := by
  rintro move route _ ⟨rfl, led⟩
  refine List.forall₂_map_left_iff.mpr (List.forall₂_same.mpr fun next reached => ?_)
  refine ⟨⟨rfl, ?_⟩, by simp⟩
  rw [Path.results_append]
  exact List.mem_flatMap.mpr ⟨route.node, led, reached⟩

end Route

namespace Traversal

open ResultStream

variable {α : Type} [Navigable α]

theorem routes_alike (traversal : Traversal) (origin : α) :
    Alike (if traversal.canEmpty then Route.LeadsTo origin else Route.MovesTo origin)
      (traversal.stream (Route.start origin)) (traversal.stream origin) :=
  stream_carries traversal _ _ (Route.leads_together origin) (fun _ _ moved => moved.1) _ _ (Route.start_leads origin)

theorem routes_within (levels : Nat) (traversal : Traversal) (origin : α) :
    List.Forall₂ (if traversal.canEmpty then Route.LeadsTo origin else Route.MovesTo origin)
      (traversal.resultsWithin levels (Route.start origin)) (traversal.resultsWithin levels origin) :=
  search_carries levels traversal _ _ (Route.leads_together origin) (fun _ _ moved => moved.1) _ _ (Route.start_leads origin)

theorem either_accepts_iff (left right : Traversal) :
    (∃ both, left.either right = .ok both) ↔ left.canEmpty = false ∧ right.canEmpty = false := by
  unfold either
  cases left.canEmpty <;> cases right.canEmpty <;> simp

theorem either_refuses_iff (left right operand : Traversal) :
    left.either right = .error (.emptyOperand operand) ↔
      operand.canEmpty = true ∧ (operand = left ∨ left.canEmpty = false ∧ operand = right) := by
  unfold either
  grind

theorem repeated_accepts_iff (step : Traversal) : (∃ many, step.repeated = .ok many) ↔ step.canEmpty = false := by
  unfold repeated
  cases step.canEmpty <;> simp

theorem and_then_can_empty (first second : Traversal) :
    (first.andThen second).canEmpty = (first.canEmpty && second.canEmpty) := by
  have stays (identity : Traversal) (here : identity.isIdentity = true) : identity.canEmpty = true := by
    rcases identity_cases identity here with rfl | rfl <;> rfl
  unfold andThen
  split
  next here => rw [stays first here, Bool.true_and]
  next =>
    split
    next here => rw [stays second here, Bool.and_true]
    next => rfl

theorem start_first (traversal : Traversal) (buildable : Buildable traversal) (stays : traversal.canEmpty = true)
    (origin : α) : ∃ rest, Takes (traversal.stream origin) (some (origin, rest)) := by
  induction buildable with
  | empty => exact ⟨_, .listed_next origin []⟩
  | segment move => cases stays
  | path moves =>
      cases moves with
      | nil => exact ⟨_, .listed_next origin []⟩
      | cons move rest => cases stays
  | andThen first second _ _ before after =>
      rw [and_then_can_empty, Bool.and_eq_true] at stays
      obtain ⟨early, taken⟩ := before stays.1
      obtain ⟨late, further⟩ := after stays.2
      unfold andThen
      split
      next => exact ⟨late, further⟩
      next =>
        split
        next => exact ⟨early, taken⟩
        next =>
          exact ⟨_, .flattened_source _ _ _ early origin _ .listed_end taken (.flattened_front _ _ early late origin further)⟩
  | either left right both _ _ accepted _ _ =>
      obtain ⟨leftMoves, rightMoves⟩ := (either_accepts_iff left right).mp ⟨both, accepted⟩
      rw [either_eq_ok left right both accepted, canEmpty, leftMoves, rightMoves] at stays
      cases stays
  | repeated step many _ accepted _ =>
      obtain ⟨-, rfl⟩ := repeated_eq_ok step many accepted
      exact ⟨_, .repeating_next _ _ _ [] origin (.listed_next origin [])⟩

theorem start_heads (levels : Nat) (traversal : Traversal) (buildable : Buildable traversal)
    (stays : traversal.canEmpty = true) (origin : α) :
    (traversal.resultsWithin (levels + 1) origin).head? = some origin := by
  induction buildable with
  | empty => rfl
  | segment move => cases stays
  | path moves =>
      cases moves with
      | nil => rfl
      | cons move rest => cases stays
  | andThen first second _ _ before after =>
      rw [and_then_can_empty, Bool.and_eq_true] at stays
      obtain ⟨early, starts⟩ := List.head?_eq_some_iff.mp (before stays.1)
      obtain ⟨late, goes⟩ := List.head?_eq_some_iff.mp (after stays.2)
      rw [results_within_and_then, starts, List.flatMap_cons, goes]
      rfl
  | either left right both _ _ accepted _ _ =>
      obtain ⟨leftMoves, rightMoves⟩ := (either_accepts_iff left right).mp ⟨both, accepted⟩
      rw [either_eq_ok left right both accepted, canEmpty, leftMoves, rightMoves] at stays
      cases stays
  | repeated step many _ accepted _ =>
      obtain ⟨-, rfl⟩ := repeated_eq_ok step many accepted
      rfl

def Reaches (traversal : Traversal) (origin : α) (moves : Path) (node : α) : Prop :=
  Shows (traversal.stream (Route.start origin)) ⟨moves, node⟩

theorem pair_moves (traversal : Traversal) (origin : α) (route : Route α) (node : α)
    (pair : (if traversal.canEmpty then Route.LeadsTo origin else Route.MovesTo origin) route node) :
    Route.LeadsTo origin route node ∧ (traversal.canEmpty = false → route.moves ≠ []) := by
  split at pair
  next stays => exact ⟨pair, fun moves => by simp [stays] at moves⟩
  next => exact ⟨pair.1, fun _ => pair.2⟩

theorem shows_iff_reaches (traversal : Traversal) (origin node : α) :
    Shows (traversal.stream origin) node ↔ ∃ moves, traversal.Reaches origin moves node := by
  have alike := routes_alike traversal origin
  constructor
  · intro given
    obtain ⟨route, comes, pair⟩ := alike.symm.shows _ _ _ _ given
    obtain rfl := (pair_moves traversal origin route node pair).1.1
    exact ⟨route.moves, comes⟩
  · rintro ⟨moves, comes⟩
    obtain ⟨other, given, pair⟩ := alike.shows _ _ _ _ comes
    obtain rfl := (pair_moves traversal origin _ other pair).1.1
    exact given

theorem reaches_moves (traversal : Traversal) (origin node : α) (moves : Path)
    (reaches : traversal.Reaches origin moves node) :
    node ∈ moves.results origin ∧ (traversal.canEmpty = false → moves ≠ []) := by
  obtain ⟨other, -, pair⟩ := (routes_alike traversal origin).shows _ _ _ _ reaches
  obtain ⟨⟨rfl, led⟩, moved⟩ := pair_moves traversal origin _ other pair
  exact ⟨led, moved⟩

theorem within_moves (levels : Nat) (traversal : Traversal) (origin : α) :
    (traversal.resultsWithin levels (Route.start origin)).map Route.node = traversal.resultsWithin levels origin ∧
      ∀ route ∈ traversal.resultsWithin levels (Route.start origin),
        route.node ∈ route.moves.results origin ∧ (traversal.canEmpty = false → route.moves ≠ []) := by
  have pairs : List.Forall₂ (fun (route : Route α) node =>
      (route.node ∈ route.moves.results origin ∧ (traversal.canEmpty = false → route.moves ≠ [])) ∧ route.node = node)
      (traversal.resultsWithin levels (Route.start origin)) (traversal.resultsWithin levels origin) := by
    refine (routes_within levels traversal origin).imp fun route node pair => ?_
    obtain ⟨⟨rfl, led⟩, moved⟩ := pair_moves traversal origin route node pair
    exact ⟨⟨led, moved⟩, rfl⟩
  obtain ⟨each, same⟩ := (List.forall₂_and_left _ _).mp pairs
  refine ⟨?_, each⟩
  rw [← List.forall₂_eq_eq_eq]
  exact List.forall₂_map_left_iff.mpr same

theorem reaches_start_iff (traversal : Traversal) (buildable : Buildable traversal) (origin : α) :
    traversal.Reaches origin [] origin ↔ traversal.canEmpty = true := by
  constructor
  · intro reaches
    by_contra moves
    exact (reaches_moves traversal origin origin [] reaches).2 (Bool.eq_false_iff.mpr moves) rfl
  · intro stays
    obtain ⟨rest, taken⟩ := start_first traversal buildable stays (Route.start origin)
    exact .now _ rest _ taken

-- What is told about a start by whether the traversal can be empty: its results are what routes come to, each by the
-- moves of its route, and so are those that a search sees. The start is the first of them, without a move, or there is
-- none without a move.
structure TellsMoves (traversal : Traversal) (origin : α) : Prop where
  results : ∀ node, Shows (traversal.stream origin) node ↔ ∃ moves, traversal.Reaches origin moves node
  led : ∀ moves node, traversal.Reaches origin moves node → node ∈ moves.results origin
  stays : traversal.canEmpty = true →
    ∃ rest, Takes (traversal.stream (Route.start origin)) (some (Route.start origin, rest))
  moves : traversal.canEmpty = false → ∀ moves node, traversal.Reaches origin moves node → moves ≠ []
  found : ∀ levels,
    (traversal.resultsWithin levels (Route.start origin)).map Route.node = traversal.resultsWithin levels origin
  staysFound : traversal.canEmpty = true →
    ∀ levels, (traversal.resultsWithin (levels + 1) (Route.start origin)).head? = some (Route.start origin)
  movesFound : traversal.canEmpty = false →
    ∀ levels, ∀ route ∈ traversal.resultsWithin levels (Route.start origin), route.moves ≠ []

theorem can_empty_exact (traversal other : Traversal) (buildable : Buildable traversal) (otherBuildable : Buildable other)
    (origin : α) :
    TellsMoves traversal origin ∧
      ((∃ both, traversal.either other = .ok both) ↔
        ¬traversal.Reaches origin [] origin ∧ ¬other.Reaches origin [] origin) ∧
      (∀ operand, traversal.either other = .error (.emptyOperand operand) ↔
        operand.Reaches origin [] origin ∧ (operand = traversal ∨ ¬traversal.Reaches origin [] origin ∧ operand = other)) ∧
      ((∃ many, traversal.repeated = .ok many) ↔ ¬traversal.Reaches origin [] origin) := by
  have one := reaches_start_iff traversal buildable origin
  have two := reaches_start_iff other otherBuildable origin
  refine ⟨?_, ?_, fun operand => ?_, ?_⟩
  · exact {
      results := shows_iff_reaches traversal origin
      led := fun moves node reaches => (reaches_moves traversal origin node moves reaches).1
      stays := fun stays => start_first traversal buildable stays (Route.start origin)
      moves := fun moves path node reaches => (reaches_moves traversal origin node path reaches).2 moves
      found := fun levels => (within_moves levels traversal origin).1
      staysFound := fun stays levels => start_heads levels traversal buildable stays (Route.start origin)
      movesFound := fun moves levels route found => ((within_moves levels traversal origin).2 route found).2 moves }
  · rw [either_accepts_iff, one, two, Bool.not_eq_true, Bool.not_eq_true]
  · rw [either_refuses_iff, one, Bool.not_eq_true]
    constructor
    · rintro ⟨empty, rfl | ⟨moves, rfl⟩⟩
      · exact ⟨one.mpr empty, .inl rfl⟩
      · exact ⟨two.mpr empty, .inr ⟨moves, rfl⟩⟩
    · rintro ⟨reaches, rfl | ⟨moves, rfl⟩⟩
      · exact ⟨one.mp reaches, .inl rfl⟩
      · exact ⟨two.mp reaches, .inr ⟨moves, rfl⟩⟩
  · rw [repeated_accepts_iff, one, Bool.not_eq_true]

-- Any number of children and then any number of first items stays where it is; one first item more does not.
theorem can_empty_exact_nested : ∃ many more, Buildable many ∧ Buildable more ∧
    many = .sequence (.repetition (.segment .anyChild)) (.repetition (.segment (.index 0))) ∧
    more = .sequence many (.segment (.index 0)) ∧
    many.Reaches (Yaml.Value.sequence [.null]) [] (.sequence [.null]) ∧
    (∀ moves node, more.Reaches (Yaml.Value.sequence [.null]) moves node → moves ≠ []) ∧
    ¬(∃ both, more.either many = .ok both) ∧ ∃ again, more.repeated = .ok again := by
  have children : Buildable (.repetition (.segment .anyChild)) := .repeated _ _ (.segment .anyChild) rfl
  have firsts : Buildable (.repetition (.segment (.index 0))) := .repeated _ _ (.segment (.index 0)) rfl
  have many := Buildable.andThen _ _ children firsts
  have more := Buildable.andThen _ _ many (.segment (.index 0))
  let start := Yaml.Value.sequence [.null]
  have both := can_empty_exact _ _ more many start
  obtain ⟨rest, taken⟩ := (can_empty_exact _ _ many more start).1.stays rfl
  have stays := Shows.now _ rest _ taken
  refine ⟨_, _, many, more, rfl, rfl, stays, both.1.moves rfl, fun accepted => ?_, both.2.2.2.mpr ?_⟩
  · exact (both.2.1.mp accepted).2 stays
  · exact fun reaches => both.1.moves rfl [] start reaches rfl

end Traversal
end YamlDialects
