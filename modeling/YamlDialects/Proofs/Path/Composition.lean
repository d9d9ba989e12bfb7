import YamlDialects.Proofs.Path.Stream

/-!
Composing traversals of anything that can be navigated, also of what is endless. One traversal after the other gives
the results of the second from each result of the first, in order and each as often as it is reached. So composition is
associative, a traversal that stays where it is changes nothing, paths join to one path, and a choice in front of a
traversal is a choice of two routes. Wherever one side of a law comes to an end, the other does as well.
-/

set_option autoImplicit false

namespace YamlDialects

namespace ResultStream

variable {α : Type}

-- The results of one stream for each of the nodes, one stream after the other.
inductive YieldsFrom (expand : α → ResultStream α) : List α → List α → Prop where
  | nil : YieldsFrom expand [] []
  | cons (origin : α) (origins part nodes : List α) (here : Yields (expand origin) part)
      (behind : YieldsFrom expand origins nodes) : YieldsFrom expand (origin :: origins) (part ++ nodes)

section

variable (expand : α → ResultStream α)

theorem yields_from_nil_iff (nodes : List α) : YieldsFrom expand [] nodes ↔ nodes = [] := by
  constructor
  · intro from_
    cases from_
    rfl
  · rintro rfl
    exact .nil

theorem yields_from_cons_iff (origin : α) (origins nodes : List α) : YieldsFrom expand (origin :: origins) nodes ↔
    ∃ part later, Yields (expand origin) part ∧ YieldsFrom expand origins later ∧ nodes = part ++ later := by
  constructor
  · intro from_
    cases from_ with
    | cons _ _ part later here behind => exact ⟨part, later, here, behind, rfl⟩
  · rintro ⟨part, later, here, behind, rfl⟩
    exact .cons origin origins part later here behind

theorem yields_from_singleton_iff (origin : α) (nodes : List α) :
    YieldsFrom expand [origin] nodes ↔ Yields (expand origin) nodes := by
  simp [yields_from_cons_iff, yields_from_nil_iff]

theorem yields_from_append_iff (first second nodes : List α) : YieldsFrom expand (first ++ second) nodes ↔
    ∃ early late, YieldsFrom expand first early ∧ YieldsFrom expand second late ∧ nodes = early ++ late := by
  induction first generalizing nodes with
  | nil => simp [yields_from_nil_iff]
  | cons origin origins ih =>
      simp only [List.cons_append, yields_from_cons_iff, ih]
      constructor
      · rintro ⟨part, _, here, ⟨early, late, before, after, rfl⟩, rfl⟩
        exact ⟨part ++ early, late, ⟨part, early, here, before, rfl⟩, after, (List.append_assoc ..).symm⟩
      · rintro ⟨_, late, ⟨part, early, here, before, rfl⟩, after, rfl⟩
        exact ⟨part, early ++ late, here, ⟨early, late, before, after, rfl⟩, List.append_assoc ..⟩

theorem yields_from_iff (reached : α → List α)
    (leads : ∀ node nodes, Yields (expand node) nodes ↔ nodes = reached node) (origins nodes : List α) :
    YieldsFrom expand origins nodes ↔ nodes = origins.flatMap reached := by
  induction origins generalizing nodes with
  | nil => exact yields_from_nil_iff expand nodes
  | cons origin origins ih => simp [yields_from_cons_iff, leads, ih]

def Splits (front source : ResultStream α) (nodes : List α) : Prop :=
  ∃ first origins later, Yields front first ∧ Yields source origins ∧ YieldsFrom expand origins later ∧
    nodes = first ++ later

theorem splits_next (front source rest : ResultStream α) (node : α) (nodes : List α)
    (taken : Takes front (some (node, rest))) (splits : Splits expand rest source nodes) :
    Splits expand front source (node :: nodes) := by
  obtain ⟨first, origins, later, here, behind, from_, rfl⟩ := splits
  exact ⟨node :: first, origins, later, .next front rest node first taken here, behind, from_, rfl⟩

theorem splits_source (front source rest : ResultStream α) (node : α) (nodes : List α) (ended : Takes front none)
    (moved : Takes source (some (node, rest))) (splits : Splits expand (expand node) rest nodes) :
    Splits expand front source nodes := by
  obtain ⟨first, origins, later, here, behind, from_, rfl⟩ := splits
  exact ⟨[], node :: origins, first ++ later, .ended front ended, .next source rest node origins moved behind,
    .cons node origins first later here from_, rfl⟩

-- Taking a result from a flattened stream: the end, if nothing has to be given, or a flattened stream that has to give
-- what lies behind the result.
def SplitsOutcome (front source : ResultStream α) : Option (α × ResultStream α) → Prop
  | none => Splits expand front source []
  | some (node, left) => ∃ rest remaining, left = .flattened expand rest remaining ∧
      ∀ nodes, Splits expand rest remaining nodes → Splits expand front source (node :: nodes)

theorem takes_flattened (front source : ResultStream α) (outcome : Option (α × ResultStream α))
    (taken : Takes (.flattened expand front source) outcome) : SplitsOutcome expand front source outcome := by
  generalize same : ResultStream.flattened expand front source = stream at taken
  induction taken generalizing front source with
  | flattened_front _ front source rest node taken =>
      cases same
      exact ⟨rest, source, rfl, fun nodes splits => splits_next expand front source rest node nodes taken splits⟩
  | flattened_source _ front source rest node outcome ended moved _ _ _ ih =>
      cases same
      have further := ih (expand node) rest rfl
      cases outcome with
      | none => exact splits_source expand front source rest node [] ended moved further
      | some result =>
          obtain ⟨next, remaining, left, behind⟩ := further
          exact ⟨next, remaining, left, fun nodes splits =>
            splits_source expand front source rest node _ ended moved (behind nodes splits)⟩
  | flattened_end _ front source ended exhausted =>
      cases same
      exact ⟨[], [], [], .ended front ended, .ended source exhausted, .nil, rfl⟩
  | _ => cases same

theorem flattened_splits (front source : ResultStream α) (nodes : List α)
    (yields : Yields (.flattened expand front source) nodes) : Splits expand front source nodes := by
  generalize same : ResultStream.flattened expand front source = stream at yields
  induction yields generalizing front source with
  | ended stream taken =>
      subst same
      exact takes_flattened expand front source none taken
  | next stream left node nodes taken _ ih =>
      subst same
      obtain ⟨rest, remaining, rfl, behind⟩ := takes_flattened expand front source _ taken
      exact behind nodes (ih rest remaining rfl)

theorem yields_through (front source : ResultStream α) (first origins later : List α) (here : Yields front first)
    (behind : Yields source origins) (from_ : YieldsFrom expand origins later) :
    Yields (.flattened expand front source) (first ++ later) := by
  induction behind generalizing front first later with
  | ended source exhausted =>
      obtain rfl := (yields_from_nil_iff expand later).mp from_
      exact yields_front expand front source first [] here
        fun last ended => .ended _ (.flattened_end expand last source ended exhausted)
  | next source rest node origins moved _ ih =>
      obtain ⟨part, others, leads, further, rfl⟩ := (yields_from_cons_iff expand node origins later).mp from_
      refine yields_front expand front source first _ here fun last ended => ?_
      exact yields_passed_on (.flattened expand (expand node) rest) _ _
        (fun outcome taken => .flattened_source expand last source rest node outcome ended moved taken)
        (ih (expand node) part others leads further)

theorem yields_flattened_iff (source : ResultStream α) (nodes : List α) :
    Yields (.flattened expand (.listed []) source) nodes ↔
      ∃ origins, Yields source origins ∧ YieldsFrom expand origins nodes := by
  constructor
  · intro yields
    obtain ⟨first, origins, later, here, behind, from_, rfl⟩ := flattened_splits expand _ source nodes yields
    obtain rfl := yields_unique _ first [] here (yields_listed [])
    exact ⟨origins, behind, from_⟩
  · rintro ⟨origins, behind, from_⟩
    exact yields_through expand (.listed []) source [] origins nodes (yields_listed []) behind from_

end

theorem yields_chained_iff (first second : ResultStream α) (nodes : List α) : Yields (.chained first second) nodes ↔
    ∃ early late, Yields first early ∧ Yields second late ∧ nodes = early ++ late := by
  constructor
  · intro yields
    generalize same : ResultStream.chained first second = stream at yields
    induction yields generalizing first with
    | ended stream taken =>
        subst same
        cases taken with
        | chained_second _ _ _ ended taken => exact ⟨[], [], .ended first ended, .ended second taken, rfl⟩
    | next stream left node nodes taken more ih =>
        subst same
        cases taken with
        | chained_first _ _ rest _ taken =>
            obtain ⟨early, late, before, after, rfl⟩ := ih rest rfl
            exact ⟨node :: early, late, .next first rest node early taken before, after, rfl⟩
        | chained_second _ _ _ ended taken =>
            exact ⟨[], node :: nodes, .ended first ended, .next second left node nodes taken more, rfl⟩
  · rintro ⟨early, late, before, after, rfl⟩
    exact yields_chained first second early late before after

end ResultStream

theorem Path.fold_from {α : Type} [Navigable α] (path : Path) (nodes : List α) :
    path.foldl (fun nodes move => nodes.flatMap (Navigable.step move)) nodes = nodes.flatMap path.results := by
  induction path generalizing nodes with
  | nil => exact (List.flatMap_singleton' nodes).symm
  | cons move rest ih =>
      rw [List.foldl_cons, ih, List.flatMap_assoc]
      refine List.flatMap_congr fun node _ => ?_
      rw [← ih]
      simp [Path.results, Traversal.resultsWithin]

theorem Path.results_join {α : Type} [Navigable α] (first second : Path) (start : α) :
    Path.results (first ++ second) start = (first.results start).flatMap second.results := by
  rw [← Path.fold_from]
  simp [Path.results, Traversal.resultsWithin]

namespace Traversal

open ResultStream

variable {α : Type} [Navigable α]

def Gives (traversal : Traversal) (start : α) (nodes : List α) : Prop :=
  Yields (traversal.stream start) nodes

def GivesFrom (traversal : Traversal) : List α → List α → Prop :=
  YieldsFrom traversal.stream

theorem gives_path_iff (path : Path) (start : α) (nodes : List α) :
    Gives (.path path) start nodes ↔ nodes = path.results start := by
  have yields : Gives (.path path) start (path.results start) := path_yields path _ [start] (yields_listed [start])
  constructor
  · intro gives
    exact yields_unique _ nodes _ gives yields
  · rintro rfl
    exact yields

theorem identity_cases (identity : Traversal) (stays : identity.isIdentity = true) :
    identity = .empty ∨ identity = .path [] := by
  cases identity with
  | empty => exact .inl rfl
  | path moves => exact .inr (by simpa [isIdentity] using stays)
  | _ => cases stays

theorem gives_identity_iff (identity : Traversal) (stays : identity.isIdentity = true) (start : α) (nodes : List α) :
    identity.Gives start nodes ↔ nodes = [start] := by
  have listed : identity.stream start = .listed [start] := by
    rcases identity_cases identity stays with rfl | rfl <;> rfl
  rw [Gives, listed]
  constructor
  · intro yields
    exact yields_unique _ nodes [start] yields (yields_listed [start])
  · rintro rfl
    exact yields_listed [start]

theorem gives_from_identity_iff (identity : Traversal) (stays : identity.isIdentity = true) (origins nodes : List α) :
    identity.GivesFrom origins nodes ↔ nodes = origins := by
  rw [GivesFrom, yields_from_iff identity.stream (fun node => [node]) (gives_identity_iff identity stays),
    List.flatMap_singleton']

theorem gives_and_then_iff (first second : Traversal) (start : α) (nodes : List α) :
    (first.andThen second).Gives start nodes ↔ ∃ origins, first.Gives start origins ∧ second.GivesFrom origins nodes := by
  unfold andThen
  split
  next stays =>
    simp only [gives_identity_iff first stays, exists_eq_left]
    exact (yields_from_singleton_iff second.stream start nodes).symm
  next =>
    split
    next stays => simp [gives_from_identity_iff second stays]
    next => exact yields_flattened_iff second.stream (first.stream start) nodes

theorem gives_from_and_then_iff (first second : Traversal) (origins nodes : List α) :
    (first.andThen second).GivesFrom origins nodes ↔
      ∃ middles, first.GivesFrom origins middles ∧ second.GivesFrom middles nodes := by
  unfold GivesFrom
  induction origins generalizing nodes with
  | nil => simp [yields_from_nil_iff]
  | cons origin origins ih =>
      have here (part : List α) : Yields ((first.andThen second).stream origin) part ↔
          ∃ reached, Yields (first.stream origin) reached ∧ YieldsFrom second.stream reached part :=
        gives_and_then_iff first second origin part
      simp only [yields_from_cons_iff, here, ih]
      constructor
      · rintro ⟨part, later, ⟨reached, leads, goes⟩, ⟨middles, behind, further⟩, rfl⟩
        exact ⟨reached ++ middles, ⟨reached, middles, leads, behind, rfl⟩,
          (yields_from_append_iff second.stream reached middles _).mpr ⟨part, later, goes, further, rfl⟩⟩
      · rintro ⟨_, ⟨reached, middles, leads, behind, rfl⟩, both⟩
        obtain ⟨part, later, goes, further, rfl⟩ := (yields_from_append_iff second.stream reached middles nodes).mp both
        exact ⟨part, later, ⟨reached, leads, goes⟩, ⟨middles, behind, further⟩, rfl⟩

theorem gives_assoc (first second third : Traversal) (start : α) (nodes : List α) :
    ((first.andThen second).andThen third).Gives start nodes ↔
      (first.andThen (second.andThen third)).Gives start nodes := by
  simp only [gives_and_then_iff, gives_from_and_then_iff]
  constructor
  · rintro ⟨middles, ⟨origins, starts, goes⟩, further⟩
    exact ⟨origins, starts, middles, goes, further⟩
  · rintro ⟨origins, starts, middles, goes, further⟩
    exact ⟨middles, ⟨origins, starts, goes⟩, further⟩

theorem gives_paths_iff (first second : Path) (start : α) (nodes : List α) :
    ((path first).andThen (path second)).Gives start nodes ↔ Gives (path (first ++ second)) start nodes := by
  have from_ (origins : List α) : (path second).GivesFrom origins nodes ↔ nodes = origins.flatMap second.results :=
    yields_from_iff _ second.results (gives_path_iff second) origins nodes
  simp only [gives_and_then_iff, gives_path_iff, from_, exists_eq_left, Path.results_join]

theorem gives_either_iff (left right both : Traversal) (accepted : left.either right = .ok both) (start : α)
    (nodes : List α) : both.Gives start nodes ↔
      ∃ early late, left.Gives start early ∧ right.Gives start late ∧ nodes = early ++ late := by
  rw [either_eq_ok left right both accepted]
  exact yields_chained_iff (left.stream start) (right.stream start) nodes

theorem either_distributes (left right both next : Traversal) (accepted : left.either right = .ok both) (start : α)
    (nodes : List α) : (both.andThen next).Gives start nodes ↔
      ∃ early late, (left.andThen next).Gives start early ∧ (right.andThen next).Gives start late ∧
        nodes = early ++ late := by
  simp only [gives_and_then_iff, gives_either_iff left right both accepted]
  constructor
  · rintro ⟨_, ⟨first, second, one, other, rfl⟩, from_⟩
    obtain ⟨early, late, before, after, rfl⟩ := (yields_from_append_iff next.stream first second nodes).mp from_
    exact ⟨early, late, ⟨first, one, before⟩, ⟨second, other, after⟩, rfl⟩
  · rintro ⟨early, late, ⟨first, one, before⟩, ⟨second, other, after⟩, rfl⟩
    exact ⟨first ++ second, ⟨first, second, one, other, rfl⟩,
      (yields_from_append_iff next.stream first second _).mpr ⟨early, late, before, after, rfl⟩⟩

theorem results_within_and_then (levels : Nat) (first second : Traversal) (start : α) :
    (first.andThen second).resultsWithin levels start =
      (first.resultsWithin levels start).flatMap (second.resultsWithin levels) := by
  have stays (identity : Traversal) (here : identity.isIdentity = true) (node : α) :
      identity.resultsWithin levels node = [node] := by
    rcases identity_cases identity here with rfl | rfl <;> rfl
  unfold andThen
  split
  next here => rw [stays first here, List.flatMap_singleton]
  next =>
    split
    next here => rw [List.flatMap_congr fun node _ => stays second here node, List.flatMap_singleton']
    next => rfl

theorem traversals_compose (first second third : Traversal) (start : α) (nodes : List α) :
    ((first.andThen second).Gives start nodes ↔
        ∃ origins, first.Gives start origins ∧ second.GivesFrom origins nodes) ∧
      (((first.andThen second).andThen third).Gives start nodes ↔
        (first.andThen (second.andThen third)).Gives start nodes) ∧
      (∀ identity ∈ [Traversal.empty, .path []],
        ((identity.andThen first).Gives start nodes ↔ first.Gives start nodes) ∧
          ((first.andThen identity).Gives start nodes ↔ first.Gives start nodes)) ∧
      (∀ moves further : Path,
        ((path moves).andThen (path further)).Gives start nodes ↔ Gives (path (moves ++ further)) start nodes) ∧
      (∀ both, first.either second = .ok both →
        ((both.andThen third).Gives start nodes ↔ ∃ early late, (first.andThen third).Gives start early ∧
          (second.andThen third).Gives start late ∧ nodes = early ++ late)) ∧
      ∀ levels, (first.andThen second).resultsWithin levels start =
        (first.resultsWithin levels start).flatMap (second.resultsWithin levels) := by
  refine ⟨gives_and_then_iff first second start nodes, gives_assoc first second third start nodes, ?_,
    fun moves further => gives_paths_iff moves further start nodes,
    fun both accepted => either_distributes first second both third accepted start nodes,
    fun levels => results_within_and_then levels first second start⟩
  intro identity listed
  have stays : identity.isIdentity = true := by
    rcases List.mem_pair.mp listed with rfl | rfl <;> rfl
  constructor
  · rw [gives_and_then_iff]
    simp only [gives_identity_iff identity stays, exists_eq_left]
    exact yields_from_singleton_iff first.stream start nodes
  · rw [gives_and_then_iff]
    simp [gives_from_identity_iff identity stays]

-- The children of the first item, then those of the second: what they share is given twice.
theorem traversals_compose_children : ∃ both, either (segment (.index 0)) (segment (.index 1)) = .ok both ∧
    (both.andThen (segment .anyChild)).Gives (Yaml.Value.sequence [.sequence [.null, .bool true], .sequence [.null]])
      [.null, .bool true, .null] := by
  let start := Yaml.Value.sequence [.sequence [.null, .bool true], .sequence [.null]]
  have children (position : Nat) (item : Yaml.Value) (nodes : List Yaml.Value)
      (here : Navigable.step (.index position) start = [item]) (below : Navigable.step .anyChild item = nodes) :
      ((segment (.index position)).andThen (segment .anyChild)).Gives start nodes := by
    refine (traversals_compose (segment (.index position)) (segment .anyChild) empty start nodes).1.mpr ⟨[item], ?_, ?_⟩
    · exact here ▸ yields_listed (Navigable.step (.index position) start)
    · exact (yields_from_singleton_iff _ item nodes).mpr (below ▸ yields_listed (Navigable.step .anyChild item))
  refine ⟨_, rfl, ?_⟩
  refine ((traversals_compose (segment (.index 0)) (segment (.index 1)) (segment .anyChild) start _).2.2.2.2.1 _ rfl).mpr ?_
  exact ⟨[.null, .bool true], [.null], children 0 (.sequence [.null, .bool true]) _ rfl rfl,
    children 1 (.sequence [.null]) _ rfl rfl, rfl⟩

end Traversal
end YamlDialects
