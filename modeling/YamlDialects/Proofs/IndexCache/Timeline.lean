import YamlDialects.Proofs.IndexCache.Eviction
import YamlDialects.Proofs.IndexCache.Locks

/-!
Calls on a cache in the course of time. Every access puts the deadline of an entry off to the same distance from now, so
deadlines only move forward while the clock does, and the records in the queue never fall behind. That makes eviction
exact after any calls.
-/

set_option autoImplicit false

namespace YamlDialects

namespace IndexCache

structure Scheduled (clock : Nat) (cache : IndexCache) : Prop where
  recorded : Recorded cache
  soon : ∀ key entry, cache.entry? key = some entry → entry.deadline ≤ clock + cache.idleTime

theorem scheduled_later (clock later : Nat) (cache : IndexCache) (forward : clock ≤ later)
    (scheduled : Scheduled clock cache) : Scheduled later cache := by
  refine ⟨scheduled.recorded, ?_⟩
  intro key entry found
  have soon := scheduled.soon key entry found
  omega

theorem scheduled_next (clock : Nat) (cache next : IndexCache) (idle : next.idleTime = cache.idleTime)
    (queue : cache.queue ⊆ next.queue)
    (entries : ∀ key entry, next.entry? key = some entry → cache.entry? key = some entry ∨
      (entry.deadline = clock + cache.idleTime ∧
        ((∃ old, cache.entry? key = some old) ∨ (entry.deadline, key) ∈ next.queue)))
    (scheduled : Scheduled clock cache) : Scheduled clock next := by
  refine ⟨?_, ?_⟩
  · intro key entry found
    rcases entries key entry found with same | ⟨accessed, ⟨old, present⟩ | queued⟩
    · obtain ⟨record, member, own, early⟩ := scheduled.recorded key entry same
      exact ⟨record, queue member, own, early⟩
    · obtain ⟨record, member, own, early⟩ := scheduled.recorded key old present
      have soon := scheduled.soon key old present
      exact ⟨record, queue member, own, by omega⟩
    · exact ⟨_, queued, rfl, Nat.le_refl _⟩
  · intro key entry found
    rw [idle]
    rcases entries key entry found with same | ⟨accessed, _⟩
    · exact scheduled.soon key entry same
    · exact Nat.le_of_eq accessed

theorem scheduled_held (clock : Nat) (cache : IndexCache) (held : List Nat) (scheduled : Scheduled clock cache) :
    Scheduled clock { cache with held } :=
  scheduled_next clock cache _ rfl (List.Subset.refl _) (fun _ _ found => .inl found) scheduled

theorem scheduled_invalidate (clock : Nat) (cache : IndexCache) (key : String) (scheduled : Scheduled clock cache) :
    Scheduled clock (cache.invalidate key) := by
  refine scheduled_next clock cache _ rfl (List.Subset.refl _) ?_ scheduled
  intro other entry found
  rw [entry_invalidate] at found
  by_cases same : other = key
  · rw [if_pos same] at found
    cases found
  · rw [if_neg same] at found
    exact .inl found

theorem scheduled_ensure (clock : Nat) (cache : IndexCache) (key : String) (scheduled : Scheduled clock cache) :
    Scheduled clock (cache.ensure clock key).2 := by
  cases found : cache.entry? key with
  | some entry =>
      rw [ensure_of_entry cache clock key entry found]
      exact scheduled
  | none =>
      have queue : (cache.ensure clock key).2.queue = (clock + cache.idleTime, key) :: cache.queue := by
        rw [ensure, found]
      refine scheduled_next clock cache _ (idle_time_ensure cache clock key) ?_ ?_ scheduled
      · rw [queue]
        exact List.subset_cons_self _ _
      · intro other entry present
        rw [(ensure_of_none cache clock key found).2.2.2 other] at present
        by_cases same : other = key
        · rw [if_pos same] at present
          rw [← Option.some.inj present, queue, same]
          exact .inr ⟨rfl, .inr List.mem_cons_self⟩
        · rw [if_neg same] at present
          exact .inl present

theorem scheduled_update (clock : Nat) (cache : IndexCache) (key : String) (old entry : CacheEntry)
    (found : cache.entry? key = some old) (accessed : entry.deadline = clock + cache.idleTime)
    (scheduled : Scheduled clock cache) : Scheduled clock (cache.update key entry) := by
  refine scheduled_next clock cache _ rfl (List.Subset.refl _) ?_ scheduled
  intro other present
  rw [entry_update cache key other old entry found]
  by_cases same : other = key
  · rw [if_pos same, same]
    intro replaced
    rw [← Option.some.inj replaced]
    exact .inr ⟨accessed, .inl ⟨old, found⟩⟩
  · rw [if_neg same]
    exact .inl

theorem scheduled_get (clock : Nat) (cache : IndexCache) (key : String) (scheduled : Scheduled clock cache) :
    Scheduled clock (cache.get clock key).2 := by
  unfold get
  cases found : cache.entry? key with
  | none => exact scheduled
  | some entry => exact scheduled_update clock cache key entry _ found rfl scheduled

theorem scheduled_put (clock : Nat) (cache : IndexCache) (key : String) (index : PropertyIndex)
    (scheduled : Scheduled clock cache) : Scheduled clock (cache.put clock key index) :=
  scheduled_update clock _ key _ _ (entry_ensure cache clock key) rfl (scheduled_ensure clock cache key scheduled)

theorem scheduled_start (clock : Nat) (cache : IndexCache) (request : IndexBuild.Request)
    (scheduled : Scheduled clock cache) : Scheduled clock (IndexBuild.start clock request cache).2 := by
  have ensured := scheduled_ensure clock cache request.key scheduled
  unfold IndexBuild.start
  split
  · exact ensured
  · unfold IndexBuild.getOrBuild
    dsimp only
    split
    · exact scheduled_update clock _ request.key _ _ (entry_ensure cache clock request.key) rfl ensured
    · exact ensured

theorem scheduled_evict (clock : Nat) (cache : IndexCache) (now : Nat) (free : Free cache)
    (scheduled : Scheduled clock cache) : Scheduled clock (cache.evict now) := by
  have sweep := sweep_evict cache now
  refine ⟨(sweep_recorded now cache _ sweep free scheduled.recorded).2, ?_⟩
  intro key entry found
  rw [sweep_idle_time now cache _ sweep]
  rcases (thinned_evict cache now).entries key with same | gone
  · exact scheduled.soon key entry (same ▸ found)
  · rw [gone] at found
    cases found

end IndexCache

namespace Traffic

open IndexCache

def IsIdle (traffic : Traffic) : Prop :=
  ∀ build ∈ traffic.builds, build.isHolding = false

-- What may happen at one moment. Evictions come while no build is in progress; theirs may be another moment, since it is
-- read before they begin.
inductive Moment (clock : Nat) (traffic : Traffic) : Traffic → Prop where
  | get (key : String) : Moment clock traffic { traffic with cache := (traffic.cache.get clock key).2 }
  | put (key : String) (index : PropertyIndex) :
      Moment clock traffic { traffic with cache := traffic.cache.put clock key index }
  | invalidate (key : String) : Moment clock traffic { traffic with cache := traffic.cache.invalidate key }
  | evict (now : Nat) (idle : IsIdle traffic) : Moment clock traffic { traffic with cache := traffic.cache.evict now }
  | ask (request : IndexBuild.Request) :
      Moment clock traffic ⟨(IndexBuild.start clock request traffic.cache).2,
        traffic.builds ++ [(IndexBuild.start clock request traffic.cache).1]⟩
  | cancel (before after : List IndexBuild) (build : IndexBuild) (chosen : traffic.builds = before ++ build :: after) :
      Moment clock traffic { traffic with builds := before ++ { build with cancelled := true } :: after }
  | acquire (before after : List IndexBuild) (build : IndexBuild) (chosen : traffic.builds = before ++ build :: after)
      (waiting : build.phase = .waiting) :
      Moment clock traffic ⟨(build.acquire traffic.cache).2, before ++ (build.acquire traffic.cache).1 :: after⟩
  | look (before after : List IndexBuild) (build : IndexBuild) (chosen : traffic.builds = before ++ build :: after)
      (locked : build.phase = .locked) :
      Moment clock traffic ⟨(build.look traffic.cache).2, before ++ (build.look traffic.cache).1 :: after⟩
  | conclude (outcome : BuildOutcome) (before after : List IndexBuild) (build : IndexBuild)
      (chosen : traffic.builds = before ++ build :: after) (running : build.phase = .running) :
      Moment clock traffic ⟨(build.conclude clock outcome traffic.cache).2,
        before ++ (build.conclude clock outcome traffic.cache).1 :: after⟩
  | drop (before after : List IndexBuild) (build : IndexBuild) (chosen : traffic.builds = before ++ build :: after)
      (waited : build.isOpen = true) :
      Moment clock traffic ⟨(build.drop traffic.cache).2, before ++ (build.drop traffic.cache).1 :: after⟩
  | discard (before after : List IndexBuild) (build : IndexBuild) (chosen : traffic.builds = before ++ build :: after)
      (alone : build.phase = .dropped true) :
      Moment clock traffic { traffic with builds := before ++ build.discard :: after }

inductive Timeline (idleTime : Nat) : Nat → Traffic → Prop where
  | start : Timeline idleTime 0 ⟨{ idleTime }, []⟩
  | wait (clock later : Nat) (traffic : Traffic) (past : Timeline idleTime clock traffic) (forward : clock ≤ later) :
      Timeline idleTime later traffic
  | call (clock : Nat) (traffic next : Traffic) (past : Timeline idleTime clock traffic)
      (moment : Moment clock traffic next) : Timeline idleTime clock next

theorem moment_step (clock : Nat) (traffic next : Traffic) (moment : Moment clock traffic next) :
    ∃ events, Step traffic events next := by
  cases moment with
  | get key => exact ⟨_, .get traffic clock key⟩
  | put key index => exact ⟨_, .put traffic clock key index⟩
  | invalidate key => exact ⟨_, .invalidate traffic key⟩
  | evict now _ => exact ⟨_, .evict traffic now⟩
  | ask request => exact ⟨_, .ask traffic clock request⟩
  | cancel before after build chosen => exact ⟨_, .cancel traffic before after build chosen⟩
  | acquire before after build chosen waiting => exact ⟨_, .acquire traffic before after build chosen waiting⟩
  | look before after build chosen locked => exact ⟨_, .look traffic before after build chosen locked⟩
  | conclude outcome before after build chosen running =>
      exact ⟨_, .conclude traffic clock outcome before after build chosen running⟩
  | drop before after build chosen waited => exact ⟨_, .drop traffic before after build chosen waited⟩
  | discard before after build chosen alone => exact ⟨_, .discard traffic before after build chosen alone⟩

theorem timeline_reachable (idleTime clock : Nat) (traffic : Traffic) (past : Timeline idleTime clock traffic) :
    Reachable idleTime traffic := by
  induction past with
  | start => exact ⟨_, .here⟩
  | wait _ _ _ _ _ ih => exact ih
  | call clock traffic next _ moment ih =>
      obtain ⟨log, run⟩ := ih
      obtain ⟨events, step⟩ := moment_step clock traffic next moment
      exact ⟨_, .step _ _ _ _ run step⟩

theorem idle_free (traffic : Traffic) (guarded : Guarded traffic) (idle : IsIdle traffic) : Free traffic.cache := by
  intro key entry _
  rw [isHeld, List.contains_eq_mem, decide_eq_false_iff_not]
  intro member
  obtain ⟨build, present, holding, _⟩ := guarded.holders entry.lock member
  rw [idle build present] at holding
  cases holding

theorem moment_scheduled (clock : Nat) (traffic next : Traffic) (moment : Moment clock traffic next)
    (guarded : Guarded traffic) (scheduled : Scheduled clock traffic.cache) : Scheduled clock next.cache := by
  cases moment with
  | get key => exact scheduled_get clock traffic.cache key scheduled
  | put key index => exact scheduled_put clock traffic.cache key index scheduled
  | invalidate key => exact scheduled_invalidate clock traffic.cache key scheduled
  | evict now idle => exact scheduled_evict clock traffic.cache now (idle_free traffic guarded idle) scheduled
  | ask request => exact scheduled_start clock traffic.cache request scheduled
  | cancel before after build chosen => exact scheduled
  | acquire before after build chosen waiting =>
      unfold IndexBuild.acquire
      split
      · exact scheduled
      · exact scheduled_held clock traffic.cache _ scheduled
  | look before after build chosen locked =>
      unfold IndexBuild.look
      split
      · exact scheduled_held clock traffic.cache _ scheduled
      · split
        · exact scheduled_held clock traffic.cache _ scheduled
        · exact scheduled
  | conclude outcome before after build chosen running =>
      rcases conclude_cases clock build outcome traffic.cache with ⟨error, result⟩ | ⟨index, result⟩
      · rw [result]
        exact scheduled_held clock traffic.cache _ scheduled
      · rw [result]
        exact scheduled_held clock _ _ (scheduled_put clock traffic.cache build.key index scheduled)
  | drop before after build chosen waited =>
      unfold IndexBuild.drop
      split
      · exact scheduled_held clock traffic.cache _ scheduled
      · exact scheduled
  | discard before after build chosen alone => exact scheduled

theorem timeline_scheduled (idleTime clock : Nat) (traffic : Traffic) (past : Timeline idleTime clock traffic) :
    Scheduled clock traffic.cache := by
  induction past with
  | start => exact ⟨by simp [Recorded, entry?], by simp [ entry?]⟩
  | wait clock later traffic _ forward ih => exact scheduled_later clock later traffic.cache forward ih
  | call clock traffic next past moment ih =>
      have guarded := reachable_guarded idleTime traffic (timeline_reachable idleTime clock traffic past)
      exact moment_scheduled clock traffic next moment guarded ih

theorem eviction_exact (idleTime clock : Nat) (traffic : Traffic) (past : Timeline idleTime clock traffic) :
    (∀ key entry, traffic.cache.entry? key = some entry →
      ∃ record ∈ traffic.cache.queue, record.2 = key ∧ record.1 ≤ entry.deadline) ∧
    (IsIdle traffic → ∀ now, Acc (fun next earlier => Turn now earlier next) traffic.cache ∧
      (Sweep now traffic.cache (traffic.cache.evict now) ∧ AtRest now (traffic.cache.evict now)) ∧
      ∀ last, Sweep now traffic.cache last → AtRest now last → Evicted now traffic.cache last) := by
  have recorded := (timeline_scheduled idleTime clock traffic past).recorded
  refine ⟨recorded, ?_⟩
  intro idle now
  have free := idle_free traffic (reachable_guarded idleTime traffic (timeline_reachable idleTime clock traffic past)) idle
  refine ⟨turns_end now traffic.cache free, ⟨sweep_evict traffic.cache now, evict_at_rest traffic.cache now free⟩, ?_⟩
  intro last sweep rest
  exact sweep_evicted now traffic.cache last sweep rest free recorded

-- One entry is read again and outlives its first record, one is taken away and made anew, and one has a build that fails.
theorem accessed_timeline : ∃ traffic, Timeline 10 4 traffic ∧ IsIdle traffic ∧
    traffic.cache.queue = [(14, "c"), (14, "b"), (10, "d"), (10, "b"), (10, "a")] ∧
    (traffic.cache.evict 12).entries.map (·.1) = ["a", "b", "c"] ∧ (traffic.cache.evict 12).nextDeadline? = some 14 := by
  have first := Timeline.call 0 ⟨{ idleTime := 10 }, []⟩ _ .start (.put "a" {})
  have second := Timeline.call 0 _ _ first (.put "b" {})
  have third := Timeline.call 0 _ _ second (.put "d" {})
  have later := Timeline.wait 0 4 _ third (by decide)
  have read := Timeline.call 4 _ _ later (.get "a")
  have gone := Timeline.call 4 _ _ read (.invalidate "b")
  have anew := Timeline.call 4 _ _ gone (.put "b" {})
  have asked := Timeline.call 4 _ _ anew (.ask ⟨"c", false, false⟩)
  have locked := Timeline.call 4 _ _ asked (.acquire [] [] _ rfl rfl)
  have started := Timeline.call 4 _ _ locked (.look [] [] _ rfl rfl)
  have failed := Timeline.call 4 _ _ started (.conclude ⟨.error .cancelled, false⟩ [] [] _ rfl rfl)
  refine ⟨_, failed, ?_, rfl, rfl, rfl⟩
  intro build member
  rw [List.mem_singleton.mp member]
  rfl

theorem eviction_exact_accessed : ∃ traffic, Timeline 10 4 traffic ∧
    (traffic.cache.evict 12).entries.map (·.1) = ["a", "b", "c"] ∧ (traffic.cache.evict 12).nextDeadline? = some 14 ∧
    Evicted 12 traffic.cache (traffic.cache.evict 12) := by
  obtain ⟨traffic, past, idle, _, left, next⟩ := accessed_timeline
  obtain ⟨_, ⟨sweep, rest⟩, all⟩ := (eviction_exact 10 4 traffic past).2 idle 12
  exact ⟨traffic, past, left, next, all _ sweep rest⟩

end Traffic
end YamlDialects
