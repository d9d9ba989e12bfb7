import Mathlib.Data.List.Basic
import YamlDialects.Path.Traversal

set_option autoImplicit false

namespace YamlDialects

theorem Path.results_append {α : Type} [Navigable α] (path : Path) (segment : Segment) (start : α) :
    (path ++ [segment]).results start = (path.results start).flatMap (Navigable.step segment) := by
  simp [Path.results, Traversal.resultsWithin]

namespace Traversal

inductive Buildable : Traversal → Prop where
  | empty : Buildable .empty
  | segment (move : Segment) : Buildable (.segment move)
  | path (moves : Path) : Buildable (.path moves)
  | andThen (first second : Traversal) (before : Buildable first) (after : Buildable second) :
      Buildable (first.andThen second)
  | either (left right both : Traversal) (one : Buildable left) (other : Buildable right)
      (accepted : left.either right = .ok both) : Buildable both
  | repeated (step many : Traversal) (once : Buildable step) (accepted : step.repeated = .ok many) : Buildable many

def RepeatsMoves : Traversal → Prop
  | .sequence first second => RepeatsMoves first ∧ RepeatsMoves second
  | .alternative left right => RepeatsMoves left ∧ RepeatsMoves right
  | .repetition step => step.canEmpty = false ∧ RepeatsMoves step
  | _ => True

theorem and_then_repeats_moves (first second : Traversal) (before : RepeatsMoves first) (after : RepeatsMoves second) :
    RepeatsMoves (first.andThen second) := by
  unfold andThen
  split
  · exact after
  · split
    · exact before
    · exact ⟨before, after⟩

theorem either_eq_ok (left right both : Traversal) (accepted : left.either right = .ok both) :
    both = .alternative left right := by
  unfold either at accepted
  split at accepted
  · cases accepted
  · split at accepted
    · cases accepted
    · exact (Except.ok.inj accepted).symm

theorem repeated_eq_ok (step many : Traversal) (accepted : step.repeated = .ok many) :
    step.canEmpty = false ∧ many = .repetition step := by
  unfold repeated at accepted
  split at accepted
  · cases accepted
  · next moves => exact ⟨by simpa using moves, (Except.ok.inj accepted).symm⟩

theorem buildable_repeats_moves (traversal : Traversal) (buildable : Buildable traversal) : RepeatsMoves traversal := by
  induction buildable with
  | empty => trivial
  | segment move => trivial
  | path moves => trivial
  | andThen first second _ _ before after => exact and_then_repeats_moves first second before after
  | either left right both _ _ accepted one other =>
      rw [either_eq_ok left right both accepted]
      exact ⟨one, other⟩
  | repeated step many _ accepted once =>
      obtain ⟨moves, rfl⟩ := repeated_eq_ok step many accepted
      exact ⟨moves, once⟩

section Levels

variable {α : Type} (expand : α → List α)

theorem breadth_first_nil (levels : Nat) : breadthFirst expand levels [] = [] := by
  cases levels <;> rfl

theorem breadth_first_succ (levels : Nat) (level : List α) :
    breadthFirst expand (levels + 1) level = level ++ breadthFirst expand levels (level.flatMap expand) := by
  cases level with
  | nil => exact (breadth_first_nil expand levels).symm
  | cons node rest => rfl

theorem breadth_first_all (holds : α → Prop) (closed : ∀ node, holds node → ∀ next ∈ expand node, holds next)
    (levels : Nat) (level : List α) (here : ∀ node ∈ level, holds node) :
    ∀ node ∈ breadthFirst expand levels level, holds node := by
  induction levels generalizing level with
  | zero =>
      intro node member
      cases member
  | succ levels ih =>
      intro node member
      rw [breadth_first_succ] at member
      rcases List.mem_append.mp member with first | later
      · exact here node first
      · refine ih (level.flatMap expand) ?_ node later
        intro next reached
        obtain ⟨origin, inside, leads⟩ := List.mem_flatMap.mp reached
        exact closed origin (here origin inside) next leads

def wave (level : List α) : Nat → List α
  | 0 => level
  | count + 1 => (wave level count).flatMap expand

theorem wave_flat_map (level : List α) (count : Nat) :
    wave expand (level.flatMap expand) count = wave expand level (count + 1) := by
  induction count with
  | zero => rfl
  | succ count ih => rw [wave, ih, ← wave]

end Levels

section Grounded

variable {α : Type} [Grounded α]

theorem path_results_all (holds : α → Prop)
    (closed : ∀ move node next, holds node → next ∈ Navigable.step move node → holds next) (moves : Path)
    (nodes : List α) (here : ∀ node ∈ nodes, holds node) :
    ∀ node ∈ moves.foldl (fun nodes move => nodes.flatMap (Navigable.step move)) nodes, holds node := by
  induction moves generalizing nodes with
  | nil => exact here
  | cons move rest ih =>
      apply ih
      intro next reached
      obtain ⟨node, inside, leads⟩ := List.mem_flatMap.mp reached
      exact closed move node next (here node inside) leads

theorem results_le (levels : Nat) (traversal : Traversal) (start : α) :
    ∀ node ∈ traversal.resultsWithin levels start, Grounded.height node ≤ Grounded.height start := by
  induction traversal generalizing start with
  | empty => simp [resultsWithin]
  | segment move =>
      intro node leads
      exact Nat.le_of_lt (Grounded.height_step move start node leads)
  | path moves =>
      refine path_results_all (fun node => Grounded.height node ≤ Grounded.height start) ?_ moves [start] (by simp)
      intro move node next below leads
      have lower := Grounded.height_step move node next leads
      omega
  | sequence first second before after =>
      intro node member
      obtain ⟨middle, reached, leads⟩ := List.mem_flatMap.mp member
      exact Nat.le_trans (after middle node leads) (before start middle reached)
  | alternative left right one other =>
      intro node member
      rcases List.mem_append.mp member with inside | inside
      · exact one start node inside
      · exact other start node inside
  | repetition step once =>
      refine breadth_first_all _ (fun node => Grounded.height node ≤ Grounded.height start) ?_ levels [start] (by simp)
      intro node below next leads
      exact Nat.le_trans (once node next leads) below

theorem results_lt (levels : Nat) (traversal : Traversal) (moves : traversal.canEmpty = false) (start : α) :
    ∀ node ∈ traversal.resultsWithin levels start, Grounded.height node < Grounded.height start := by
  induction traversal generalizing start with
  | empty => cases moves
  | segment move => exact Grounded.height_step move start
  | path steps =>
      cases steps with
      | nil => cases moves
      | cons move rest =>
          refine path_results_all (fun node => Grounded.height node < Grounded.height start) ?_ rest _ ?_
          · intro further node next below leads
            have lower := Grounded.height_step further node next leads
            omega
          · dsimp only
            rw [List.flatMap_singleton]
            exact Grounded.height_step move start
  | sequence first second before after =>
      intro node member
      obtain ⟨middle, reached, leads⟩ := List.mem_flatMap.mp member
      have early := results_le levels first start middle reached
      have late := results_le levels second middle node leads
      rcases Bool.and_eq_false_iff.mp moves with moved | moved
      · exact Nat.lt_of_le_of_lt late (before moved start middle reached)
      · exact Nat.lt_of_lt_of_le (after moved middle node leads) early
  | alternative left right one other =>
      intro node member
      obtain ⟨leftMoves, rightMoves⟩ := Bool.or_eq_false_iff.mp moves
      rcases List.mem_append.mp member with inside | inside
      · exact one leftMoves start node inside
      · exact other rightMoves start node inside
  | repetition step _ => cases moves

theorem flat_map_lower (expand : α → List α) (count : Nat) (level : List α)
    (lower : ∀ node, ∀ next ∈ expand node, Grounded.height next < Grounded.height node)
    (bound : ∀ node ∈ level, Grounded.height node ≤ count) :
    ∀ next ∈ level.flatMap expand, Grounded.height next < count := by
  intro next reached
  obtain ⟨node, inside, leads⟩ := List.mem_flatMap.mp reached
  exact Nat.lt_of_lt_of_le (lower node next leads) (bound node inside)

theorem breadth_first_agree (expand other : α → List α) (height : Nat)
    (same : ∀ node, Grounded.height node < height → expand node = other node)
    (lower : ∀ node, ∀ next ∈ expand node, Grounded.height next < Grounded.height node) (first second : Nat)
    (level : List α) (below : ∀ node ∈ level, Grounded.height node < height)
    (enough : ∀ node ∈ level, Grounded.height node < first) (alsoEnough : ∀ node ∈ level, Grounded.height node < second) :
    breadthFirst expand first level = breadthFirst other second level := by
  induction first generalizing second level with
  | zero =>
      have empty : level = [] := List.eq_nil_iff_forall_not_mem.mpr fun node member => Nat.not_lt_zero _ (enough node member)
      rw [empty, breadth_first_nil, breadth_first_nil]
  | succ first ih =>
      cases second with
      | zero =>
          have empty : level = [] :=
            List.eq_nil_iff_forall_not_mem.mpr fun node member => Nat.not_lt_zero _ (alsoEnough node member)
          rw [empty, breadth_first_nil, breadth_first_nil]
      | succ second =>
          have agree : level.flatMap expand = level.flatMap other :=
            List.flatMap_congr fun node member => same node (below node member)
          have deeper := fun count bound => flat_map_lower expand count level lower bound
          rw [breadth_first_succ, breadth_first_succ, ← agree]
          congr 1
          refine ih second _ ?_ (deeper first ?_) (deeper second ?_)
          · exact deeper height fun node member => Nat.le_of_lt (below node member)
          · exact fun node member => Nat.lt_succ_iff.mp (enough node member)
          · exact fun node member => Nat.lt_succ_iff.mp (alsoEnough node member)

theorem results_agree (traversal : Traversal) (repeats : RepeatsMoves traversal) (first second : Nat) (start : α)
    (enough : Grounded.height start < first) (alsoEnough : Grounded.height start < second) :
    traversal.resultsWithin first start = traversal.resultsWithin second start := by
  induction traversal generalizing start with
  | empty => rfl
  | segment move => rfl
  | path moves => rfl
  | sequence before after one other =>
      rw [resultsWithin, resultsWithin, one repeats.1 start enough alsoEnough]
      refine List.flatMap_congr fun node reached => ?_
      have below := results_le second before start node reached
      exact other repeats.2 node (by omega) (by omega)
  | alternative left right one other =>
      rw [resultsWithin, resultsWithin, one repeats.1 start enough alsoEnough, other repeats.2 start enough alsoEnough]
  | repetition step once =>
      refine breadth_first_agree _ _ (Grounded.height start + 1) ?_ (results_lt first step repeats.1) first second [start]
        (by simp) (by simpa using enough) (by simpa using alsoEnough)
      intro node below
      exact once repeats.2 node (by omega) (by omega)

theorem results_eq_within (traversal : Traversal) (repeats : RepeatsMoves traversal) (levels : Nat) (start : α)
    (enough : Grounded.height start < levels) : traversal.resultsWithin levels start = traversal.results start :=
  results_agree traversal repeats levels _ start enough (Nat.lt_succ_self _)

theorem breadth_first_waves (expand : α → List α)
    (lower : ∀ node, ∀ next ∈ expand node, Grounded.height next < Grounded.height node) (levels : Nat) (level : List α)
    (enough : ∀ node ∈ level, Grounded.height node < levels) :
    ∃ depth, wave expand level depth = [] ∧ (∀ count < depth, wave expand level count ≠ []) ∧
      breadthFirst expand levels level = (List.range depth).flatMap (wave expand level) := by
  induction levels generalizing level with
  | zero =>
      have empty : level = [] := List.eq_nil_iff_forall_not_mem.mpr fun node member => Nat.not_lt_zero _ (enough node member)
      exact ⟨0, empty, by simp, rfl⟩
  | succ levels ih =>
      by_cases empty : level = []
      · exact ⟨0, empty, by simp, by rw [empty, breadth_first_nil]; rfl⟩
      · obtain ⟨depth, ended, going, sum⟩ := ih (level.flatMap expand)
          (flat_map_lower expand levels level lower fun node member => Nat.lt_succ_iff.mp (enough node member))
        refine ⟨depth + 1, by rw [← wave_flat_map, ended], ?_, ?_⟩
        · intro count early
          cases count with
          | zero => exact empty
          | succ count =>
              rw [← wave_flat_map]
              exact going count (Nat.lt_of_succ_lt_succ early)
        · rw [breadth_first_succ, sum, List.range_succ_eq_map, List.flatMap_cons, List.flatMap_map]
          refine congrArg (level ++ ·) (List.flatMap_congr fun count _ => ?_)
          exact wave_flat_map expand level count

end Grounded
end Traversal
end YamlDialects
