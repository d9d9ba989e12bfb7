import Mathlib.Tactic.Tauto
import YamlDialects.IndexCache.Schedule
import YamlDialects.Proofs.IndexCache.Entries

/-!
Builds that take turns on one cache. Any caller may go on at any time, by one step: ask for a snapshot, take the
lock, look for a newer snapshot, take in what the builder gave, or go away. However they interleave, the lock of an entry
belongs to builds of its key alone, and at most one build holds it.
-/

set_option autoImplicit false

namespace YamlDialects

inductive CacheEvent where
  | asked (anew : Bool)
  | started
  | installed (index : PropertyIndex)
  | returned (result : BuildResult)
  | abandoned
  | put (index : PropertyIndex)
  | invalidated
  | evicted

abbrev CacheLog := List (String × CacheEvent)

def CacheLog.of (log : CacheLog) (key : String) : List CacheEvent :=
  log.filterMap fun each => if each.1 = key then some each.2 else none

namespace IndexBuild

def atReturn (build : IndexBuild) : List CacheEvent :=
  match build.phase with
  | .finished result => [.returned result]
  | _ => []

def atLook (build : IndexBuild) : List CacheEvent :=
  match build.phase with
  | .running => [.started]
  | .finished result => [.returned result]
  | _ => []

def atConclusion (build : IndexBuild) : List CacheEvent :=
  match build.phase with
  | .finished (.ok index) => [.installed index, .returned (.ok index)]
  | .finished result => [.returned result]
  | _ => []

-- A caller that goes away leaves a builder at work, or nothing that others can tell.
def atDrop (build : IndexBuild) : List CacheEvent :=
  match build.phase with
  | .running => [.abandoned]
  | _ => []

end IndexBuild

structure Traffic where
  cache : IndexCache
  builds : List IndexBuild := []

namespace Traffic

def lost (cache : IndexCache) (now : Nat) : CacheLog :=
  (cache.entries.filter fun each => !(cache.evict now).contains each.1).map fun each => (each.1, .evicted)

-- The build that goes on stands between the others. Its token may be cancelled at any time, and whoever waits for it may
-- go away at any time.
inductive Step : Traffic → CacheLog → Traffic → Prop where
  | get (traffic : Traffic) (now : Nat) (key : String) :
      Step traffic [] { traffic with cache := (traffic.cache.get now key).2 }
  | put (traffic : Traffic) (now : Nat) (key : String) (index : PropertyIndex) :
      Step traffic [(key, .put index)] { traffic with cache := traffic.cache.put now key index }
  | invalidate (traffic : Traffic) (key : String) :
      Step traffic [(key, .invalidated)] { traffic with cache := traffic.cache.invalidate key }
  | evict (traffic : Traffic) (now : Nat) :
      Step traffic (lost traffic.cache now) { traffic with cache := traffic.cache.evict now }
  | ask (traffic : Traffic) (now : Nat) (request : IndexBuild.Request) :
      Step traffic ((request.key, .asked request.anew) ::
          (IndexBuild.start now request traffic.cache).1.atReturn.map (request.key, ·))
        ⟨(IndexBuild.start now request traffic.cache).2,
          traffic.builds ++ [(IndexBuild.start now request traffic.cache).1]⟩
  | cancel (traffic : Traffic) (before after : List IndexBuild) (build : IndexBuild)
      (chosen : traffic.builds = before ++ build :: after) :
      Step traffic [] { traffic with builds := before ++ { build with cancelled := true } :: after }
  | acquire (traffic : Traffic) (before after : List IndexBuild) (build : IndexBuild)
      (chosen : traffic.builds = before ++ build :: after) (waiting : build.phase = .waiting) :
      Step traffic [] ⟨(build.acquire traffic.cache).2, before ++ (build.acquire traffic.cache).1 :: after⟩
  | look (traffic : Traffic) (before after : List IndexBuild) (build : IndexBuild)
      (chosen : traffic.builds = before ++ build :: after) (locked : build.phase = .locked) :
      Step traffic ((build.look traffic.cache).1.atLook.map (build.key, ·))
        ⟨(build.look traffic.cache).2, before ++ (build.look traffic.cache).1 :: after⟩
  | conclude (traffic : Traffic) (now : Nat) (outcome : BuildOutcome) (before after : List IndexBuild)
      (build : IndexBuild) (chosen : traffic.builds = before ++ build :: after) (running : build.phase = .running) :
      Step traffic ((build.conclude now outcome traffic.cache).1.atConclusion.map (build.key, ·))
        ⟨(build.conclude now outcome traffic.cache).2, before ++ (build.conclude now outcome traffic.cache).1 :: after⟩
  | drop (traffic : Traffic) (before after : List IndexBuild) (build : IndexBuild)
      (chosen : traffic.builds = before ++ build :: after) (waited : build.isOpen = true) :
      Step traffic (build.atDrop.map (build.key, ·))
        ⟨(build.drop traffic.cache).2, before ++ (build.drop traffic.cache).1 :: after⟩
  | discard (traffic : Traffic) (before after : List IndexBuild) (build : IndexBuild)
      (chosen : traffic.builds = before ++ build :: after) (alone : build.phase = .dropped true) :
      Step traffic [] { traffic with builds := before ++ build.discard :: after }

inductive Run (first : Traffic) : CacheLog → Traffic → Prop where
  | here : Run first [] first
  | step (second third : Traffic) (log events : CacheLog) (run : Run first log second)
      (step : Step second events third) : Run first (log ++ events) third

def Reachable (idleTime : Nat) (traffic : Traffic) : Prop :=
  ∃ log, Run ⟨{ idleTime }, []⟩ log traffic

def Apart (first second : IndexBuild) : Prop :=
  first.isHolding = true → second.isHolding = true → first.lock ≠ second.lock

theorem apart_symmetric {first second : IndexBuild} (apart : Apart first second) : Apart second first := by
  intro holds alsoHolds same
  exact apart alsoHolds holds same.symm

structure Orderly (traffic : Traffic) : Prop where
  made : ∀ key entry, traffic.cache.entry? key = some entry → entry.lock < traffic.cache.lockCount
  distinct : ∀ first second one other, traffic.cache.entry? first = some one → traffic.cache.entry? second = some other →
    one.lock = other.lock → first = second
  known : ∀ build ∈ traffic.builds, build.lock < traffic.cache.lockCount
  own : ∀ build ∈ traffic.builds, ∀ key entry, traffic.cache.entry? key = some entry → entry.lock = build.lock →
    key = build.key
  held : ∀ build ∈ traffic.builds, build.isHolding = true → build.lock ∈ traffic.cache.held
  apart : traffic.builds.Pairwise Apart

end Traffic

namespace IndexCache

structure Follows (key : String) (cache next : IndexCache) : Prop where
  grows : cache.lockCount ≤ next.lockCount
  held : next.held = cache.held
  entries : ∀ other entry, next.entry? other = some entry →
    (∃ old, cache.entry? other = some old ∧ old.lock = entry.lock) ∨
      (other = key ∧ entry.lock = cache.lockCount ∧ cache.lockCount < next.lockCount)

theorem follows_thinned (key : String) (cache next : IndexCache) (thinned : Thinned cache next) :
    Follows key cache next := by
  refine ⟨Nat.le_of_eq thinned.lockCount.symm, thinned.held, ?_⟩
  intro other entry found
  rcases thinned.entries other with same | gone
  · exact .inl ⟨entry, same ▸ found, rfl⟩
  · rw [gone] at found
    cases found

theorem follows_ensure (cache : IndexCache) (now : Nat) (key : String) : Follows key cache (cache.ensure now key).2 := by
  cases found : cache.entry? key with
  | some entry =>
      rw [ensure_of_entry cache now key entry found]
      exact follows_thinned key cache cache (thinned_refl cache)
  | none =>
      obtain ⟨_, lockCount, held, entries⟩ := ensure_of_none cache now key found
      refine ⟨by omega, held, ?_⟩
      intro other entry present
      rw [entries other] at present
      by_cases same : other = key
      · rw [if_pos same] at present
        exact .inr ⟨same, by rw [← Option.some.inj present]; rfl, by omega⟩
      · rw [if_neg same] at present
        exact .inl ⟨entry, present, rfl⟩

theorem follows_update (cache next : IndexCache) (key : String) (old entry : CacheEntry) (follows : Follows key cache next)
    (found : next.entry? key = some old) (lock : entry.lock = old.lock) :
    Follows key cache (next.update key entry) := by
  refine ⟨follows.grows, follows.held, ?_⟩
  intro other present
  rw [entry_update next key other old entry found]
  by_cases same : other = key
  · rw [if_pos same, same]
    intro replaced
    rw [← Option.some.inj replaced, lock]
    exact follows.entries key old found
  · rw [if_neg same]
    exact follows.entries other present

theorem follows_get (cache : IndexCache) (now : Nat) (key : String) : Follows key cache (cache.get now key).2 := by
  unfold get
  cases found : cache.entry? key with
  | none => exact follows_thinned key cache cache (thinned_refl cache)
  | some entry => exact follows_update cache cache key entry _ (follows_thinned key _ _ (thinned_refl cache)) found rfl

theorem follows_put (cache : IndexCache) (now : Nat) (key : String) (index : PropertyIndex) :
    Follows key cache (cache.put now key index) :=
  follows_update cache _ key _ _ (follows_ensure cache now key) (entry_ensure cache now key) rfl

end IndexCache

namespace Traffic

open IndexCache

theorem orderly_follows (traffic : Traffic) (key : String) (next : IndexCache) (follows : Follows key traffic.cache next)
    (orderly : Orderly traffic) : Orderly { traffic with cache := next } := by
  refine ⟨?_, ?_, ?_, ?_, ?_, orderly.apart⟩
  · intro other entry found
    rcases follows.entries other entry found with ⟨old, present, lock⟩ | ⟨_, lock, fresh⟩
    · rw [← lock]
      exact Nat.lt_of_lt_of_le (orderly.made other old present) follows.grows
    · rw [lock]
      exact fresh
  · intro first second one other foundFirst foundSecond same
    rcases follows.entries first one foundFirst with ⟨oldOne, presentOne, lockOne⟩ | ⟨isFirst, lockOne, _⟩
    · have below := orderly.made first oldOne presentOne
      rcases follows.entries second other foundSecond with ⟨oldOther, presentOther, lockOther⟩ | ⟨_, lockOther, _⟩
      · exact orderly.distinct first second oldOne oldOther presentOne presentOther (by rw [lockOne, lockOther, same])
      · omega
    · rcases follows.entries second other foundSecond with ⟨oldOther, presentOther, lockOther⟩ | ⟨isSecond, _, _⟩
      · have below := orderly.made second oldOther presentOther
        omega
      · rw [isFirst, isSecond]
  · intro build member
    exact Nat.lt_of_lt_of_le (orderly.known build member) follows.grows
  · intro build member other entry found lock
    rcases follows.entries other entry found with ⟨old, present, same⟩ | ⟨_, fresh, _⟩
    · exact orderly.own build member other old present (same.trans lock)
    · have below := orderly.known build member
      omega
  · intro build member holding
    rw [follows.held]
    exact orderly.held build member holding

theorem orderly_ask (traffic : Traffic) (build : IndexBuild) (entry : CacheEntry)
    (found : traffic.cache.entry? build.key = some entry) (lock : build.lock = entry.lock)
    (empty : build.isHolding = false) (orderly : Orderly traffic) :
    Orderly { traffic with builds := traffic.builds ++ [build] } := by
  refine ⟨orderly.made, orderly.distinct, ?_, ?_, ?_, ?_⟩
  · intro each member
    rcases List.mem_append.mp member with old | last
    · exact orderly.known each old
    · rw [List.mem_singleton.mp last, lock]
      exact orderly.made build.key entry found
  · intro each member key other present same
    rcases List.mem_append.mp member with old | last
    · exact orderly.own each old key other present same
    · rw [List.mem_singleton.mp last] at same ⊢
      exact orderly.distinct key build.key other entry present found (same.trans lock)
  · intro each member holding
    rcases List.mem_append.mp member with old | last
    · exact orderly.held each old holding
    · rw [List.mem_singleton.mp last, empty] at holding
      cases holding
  · refine List.pairwise_append.mpr ⟨orderly.apart, List.pairwise_singleton _ _, ?_⟩
    intro each _ last member _ holding
    rw [List.mem_singleton.mp member, empty] at holding
    cases holding

theorem start_cases (now : Nat) (request : IndexBuild.Request) (cache : IndexCache) :
    ((request.anew = true ∨ (cache.ensure now request.key).1.snapshot = none) ∧
      IndexBuild.start now request cache =
        (⟨request.key, (cache.ensure now request.key).1.generation, (cache.ensure now request.key).1.lock,
          request.cancelled, .waiting⟩, (cache.ensure now request.key).2)) ∨
    ∃ index entry, (cache.ensure now request.key).1.snapshot = some index ∧ request.anew = false ∧
      entry.lock = (cache.ensure now request.key).1.lock ∧ entry.snapshot = some index ∧
      entry.generation = (cache.ensure now request.key).1.generation ∧
      IndexBuild.start now request cache =
        (⟨request.key, (cache.ensure now request.key).1.generation, (cache.ensure now request.key).1.lock,
          request.cancelled, .finished (.ok index)⟩, (cache.ensure now request.key).2.update request.key entry) := by
  unfold IndexBuild.start
  cases anew : request.anew with
  | true => exact .inl ⟨.inl rfl, rfl⟩
  | false =>
      cases snapshot : (cache.ensure now request.key).1.snapshot with
      | none =>
          refine .inl ⟨.inr rfl, ?_⟩
          simp [IndexBuild.getOrBuild, snapshot]
      | some index =>
          refine .inr ⟨index, { (cache.ensure now request.key).1 with
            deadline := now + (cache.ensure now request.key).2.idleTime }, rfl, rfl, rfl, snapshot, rfl, ?_⟩
          simp [IndexBuild.getOrBuild, snapshot]

theorem orderly_start (traffic : Traffic) (now : Nat) (request : IndexBuild.Request) (orderly : Orderly traffic) :
    Orderly ⟨(IndexBuild.start now request traffic.cache).2,
      traffic.builds ++ [(IndexBuild.start now request traffic.cache).1]⟩ := by
  have found := entry_ensure traffic.cache now request.key
  have follows := follows_ensure traffic.cache now request.key
  rcases start_cases now request traffic.cache with ⟨_, result⟩ | ⟨index, entry, _, _, lock, _, _, result⟩
  · rw [result]
    exact orderly_ask { traffic with cache := _ } _ _ found rfl rfl (orderly_follows traffic request.key _ follows orderly)
  · rw [result]
    have updated := follows_update traffic.cache _ request.key _ entry follows found lock
    refine orderly_ask { traffic with cache := _ } _ entry ?_ lock.symm rfl
      (orderly_follows traffic request.key _ updated orderly)
    rw [entry_update _ request.key request.key _ entry found, if_pos rfl]

theorem orderly_replace (traffic : Traffic) (before after : List IndexBuild) (build next : IndexBuild) (held : List Nat)
    (chosen : traffic.builds = before ++ build :: after) (key : next.key = build.key) (lock : next.lock = build.lock)
    (keeps : ∀ each ∈ before ++ after, each.isHolding = true → each.lock ∈ held)
    (holds : next.isHolding = true → build.lock ∈ held ∧
      ∀ each ∈ before ++ after, each.isHolding = true → each.lock ≠ build.lock)
    (orderly : Orderly traffic) :
    Orderly ⟨{ traffic.cache with held }, before ++ next :: after⟩ := by
  have inside : ∀ each, each ∈ before ++ next :: after → each = next ∨ each ∈ before ++ after := by
    intro each member
    simp only [List.mem_append, List.mem_cons] at member ⊢
    tauto
  have others : ∀ each ∈ before ++ after, each ∈ traffic.builds := by
    intro each member
    rw [chosen]
    simp only [List.mem_append, List.mem_cons] at member ⊢
    tauto
  have present : build ∈ traffic.builds := by
    rw [chosen]
    simp
  refine ⟨orderly.made, orderly.distinct, ?_, ?_, ?_, ?_⟩
  · intro each member
    rcases inside each member with rfl | other
    · rw [lock]
      exact orderly.known build present
    · exact orderly.known each (others each other)
  · intro each member
    rcases inside each member with rfl | other
    · rw [lock, key]
      exact orderly.own build present
    · exact orderly.own each (others each other)
  · intro each member holding
    rcases inside each member with rfl | other
    · rw [lock]
      exact (holds holding).1
    · exact keeps each other holding
  · have apart := orderly.apart
    rw [chosen] at apart
    obtain ⟨_, rest⟩ := List.pairwise_cons.mp ((List.pairwise_middle apart_symmetric).mp apart)
    refine (List.pairwise_middle apart_symmetric).mpr (List.pairwise_cons.mpr ⟨?_, rest⟩)
    intro each member holding alsoHolding same
    exact (holds holding).2 each member alsoHolding (same.symm.trans lock)

theorem holder_alone (traffic : Traffic) (before after : List IndexBuild) (build : IndexBuild)
    (chosen : traffic.builds = before ++ build :: after) (holding : build.isHolding = true) (orderly : Orderly traffic) :
    ∀ each ∈ before ++ after, each.isHolding = true → each.lock ≠ build.lock := by
  have apart := orderly.apart
  rw [chosen] at apart
  obtain ⟨alone, _⟩ := List.pairwise_cons.mp ((List.pairwise_middle apart_symmetric).mp apart)
  intro each member alsoHolding same
  exact alone each member holding alsoHolding same.symm

theorem others_held (traffic : Traffic) (before after : List IndexBuild) (build : IndexBuild)
    (chosen : traffic.builds = before ++ build :: after) (orderly : Orderly traffic) :
    ∀ each ∈ before ++ after, each.isHolding = true → each.lock ∈ traffic.cache.held := by
  intro each member
  refine orderly.held each ?_
  rw [chosen]
  simp only [List.mem_append, List.mem_cons] at member ⊢
  tauto

theorem orderly_release (traffic : Traffic) (before after : List IndexBuild) (build next : IndexBuild)
    (chosen : traffic.builds = before ++ build :: after) (key : next.key = build.key) (lock : next.lock = build.lock)
    (ended : next.isHolding = false) (holding : build.isHolding = true) (orderly : Orderly traffic) :
    Orderly ⟨traffic.cache.release build.lock, before ++ next :: after⟩ := by
  refine orderly_replace traffic before after build next _ chosen key lock ?_ (by simp [ended]) orderly
  intro each member alsoHolding
  have different := holder_alone traffic before after build chosen holding orderly each member alsoHolding
  exact (List.mem_erase_of_ne different).mpr (others_held traffic before after build chosen orderly each member alsoHolding)

theorem orderly_finish (traffic : Traffic) (before after : List IndexBuild) (build : IndexBuild) (result : BuildResult)
    (chosen : traffic.builds = before ++ build :: after) (holding : build.isHolding = true) (orderly : Orderly traffic) :
    Orderly ⟨(build.finish result traffic.cache).2, before ++ (build.finish result traffic.cache).1 :: after⟩ :=
  orderly_release traffic before after build _ chosen rfl rfl rfl holding orderly

theorem orderly_idle (traffic : Traffic) (before after : List IndexBuild) (build next : IndexBuild)
    (chosen : traffic.builds = before ++ build :: after) (key : next.key = build.key) (lock : next.lock = build.lock)
    (idle : next.isHolding = false) (orderly : Orderly traffic) :
    Orderly { traffic with builds := before ++ next :: after } :=
  orderly_replace traffic before after build next traffic.cache.held chosen key lock
    (others_held traffic before after build chosen orderly) (by simp [idle]) orderly

theorem step_orderly (traffic next : Traffic) (events : CacheLog) (step : Step traffic events next)
    (orderly : Orderly traffic) : Orderly next := by
  cases step with
  | get now key => exact orderly_follows traffic key _ (follows_get traffic.cache now key) orderly
  | put now key index => exact orderly_follows traffic key _ (follows_put traffic.cache now key index) orderly
  | invalidate key =>
      exact orderly_follows traffic key _ (follows_thinned key _ _ (thinned_invalidate traffic.cache key)) orderly
  | evict now => exact orderly_follows traffic "" _ (follows_thinned "" _ _ (thinned_evict traffic.cache now)) orderly
  | ask now request => exact orderly_start traffic now request orderly
  | cancel before after build chosen =>
      refine orderly_replace traffic before after build _ traffic.cache.held chosen rfl rfl
        (others_held traffic before after build chosen orderly) ?_ orderly
      intro holding
      exact ⟨orderly.held build (by rw [chosen]; simp) holding,
        holder_alone traffic before after build chosen holding orderly⟩
  | acquire before after build chosen waiting =>
      unfold IndexBuild.acquire
      split
      · rw [← chosen]
        exact orderly
      · next free =>
          have unheld : build.lock ∉ traffic.cache.held := by simpa [isHeld] using free
          refine orderly_replace traffic before after build _ (build.lock :: traffic.cache.held) chosen rfl rfl ?_ ?_ orderly
          · intro each member holding
            exact List.mem_cons_of_mem _ (others_held traffic before after build chosen orderly each member holding)
          · intro _
            refine ⟨List.mem_cons_self, ?_⟩
            intro each member holding same
            exact unheld (same ▸ others_held traffic before after build chosen orderly each member holding)
  | look before after build chosen locked =>
      have holding : build.isHolding = true := by rw [IndexBuild.isHolding, locked]
      unfold IndexBuild.look
      split
      · exact orderly_finish traffic before after build _ chosen holding orderly
      · split
        · exact orderly_finish traffic before after build _ chosen holding orderly
        · refine orderly_replace traffic before after build _ traffic.cache.held chosen rfl rfl
            (others_held traffic before after build chosen orderly) ?_ orderly
          intro _
          exact ⟨orderly.held build (by rw [chosen]; simp) holding,
            holder_alone traffic before after build chosen holding orderly⟩
  | conclude now outcome before after build chosen running =>
      have holding : build.isHolding = true := by rw [IndexBuild.isHolding, running]
      unfold IndexBuild.conclude
      split
      · exact orderly_finish traffic before after build _ chosen holding orderly
      · next index _ =>
          split
          · exact orderly_finish traffic before after build _ chosen holding orderly
          · exact orderly_finish { traffic with cache := traffic.cache.put now build.key index } before after build _ chosen
              holding (orderly_follows traffic build.key _ (follows_put traffic.cache now build.key index) orderly)
  | drop before after build chosen waited =>
      unfold IndexBuild.drop
      split
      · next holding => exact orderly_release traffic before after build _ chosen rfl rfl rfl holding orderly
      · exact orderly_idle traffic before after build _ chosen rfl rfl rfl orderly
  | discard before after build chosen alone => exact orderly_idle traffic before after build _ chosen rfl rfl rfl orderly

theorem run_orderly (first last : Traffic) (log : CacheLog) (run : Run first log last) (orderly : Orderly first) :
    Orderly last := by
  induction run with
  | here => exact orderly
  | step second third log events _ step ih => exact step_orderly second third events step ih

theorem reachable_orderly (idleTime : Nat) (traffic : Traffic) (reached : Reachable idleTime traffic) :
    Orderly traffic := by
  obtain ⟨log, run⟩ := reached
  refine run_orderly _ traffic log run ⟨?_, ?_, ?_, ?_, ?_, List.Pairwise.nil⟩
  · simp [ entry?]
  · simp [ entry?]
  · simp
  · simp
  · simp

end Traffic
end YamlDialects
