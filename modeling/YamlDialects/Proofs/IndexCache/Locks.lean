import Mathlib.Data.List.Perm.Subperm
import YamlDialects.Proofs.IndexCache.Change

/-!
How many builders of a key are at work at once. They exclude each other through the lock of its entry, but an entry that
is made anew has a lock of its own, and a caller that goes away frees the lock while its builder goes on. So there is at
most one more than the entry has been taken away and callers have gone away.
-/

set_option autoImplicit false

namespace YamlDialects

def CacheEvent.isRemoval : CacheEvent → Bool
  | .invalidated => true
  | .evicted => true
  | _ => false

def CacheEvent.isAbandonment : CacheEvent → Bool
  | .abandoned => true
  | _ => false

namespace CacheEvent

theorem is_removal_iff (event : CacheEvent) : event.isRemoval = true ↔ event.left? = some none := by
  cases event <;> simp [isRemoval, left?]

theorem count_removals_eq_zero (events : List CacheEvent) (others : ∀ event ∈ events, event.left? ≠ some none) :
    events.countP isRemoval = 0 := by
  rw [List.countP_eq_zero]
  intro event member removal
  exact others event member ((is_removal_iff event).mp removal)

end CacheEvent

def IndexBuild.isOrphan (build : IndexBuild) : Bool :=
  match build.phase with
  | .dropped building => building
  | _ => false

namespace Traffic

open IndexCache

def running (traffic : Traffic) (key : String) : List IndexBuild :=
  traffic.builds.filter fun build => build.key == key && build.isRunning

-- Builders that go on though nobody waits for them.
def orphans (traffic : Traffic) (key : String) : List IndexBuild :=
  traffic.builds.filter fun build => build.key == key && build.isOrphan

def building (traffic : Traffic) (key : String) : List IndexBuild :=
  traffic.builds.filter fun build => build.key == key && (build.isRunning || build.isOrphan)

structure Guarded (traffic : Traffic) : Prop where
  once : traffic.cache.held.Nodup
  holders : ∀ lock ∈ traffic.cache.held, ∃ build ∈ traffic.builds, build.isHolding = true ∧ build.lock = lock

theorem guarded_cache (traffic : Traffic) (cache : IndexCache) (held : cache.held = traffic.cache.held)
    (guarded : Guarded traffic) : Guarded { traffic with cache } := by
  refine ⟨?_, ?_⟩
  · rw [held]
    exact guarded.once
  · intro lock member
    exact guarded.holders lock (held ▸ member)

theorem guarded_place (traffic : Traffic) (before after : List IndexBuild) (build next : IndexBuild) (cache : IndexCache)
    (chosen : traffic.builds = before ++ build :: after) (lock : next.lock = build.lock) (once : cache.held.Nodup)
    (kept : ∀ each ∈ cache.held, (next.isHolding = true ∧ each = build.lock) ∨
      (each ∈ traffic.cache.held ∧ (build.isHolding = true → each = build.lock → next.isHolding = true)))
    (guarded : Guarded traffic) : Guarded ⟨cache, before ++ next :: after⟩ := by
  refine ⟨once, ?_⟩
  intro each member
  rcases kept each member with ⟨holding, rfl⟩ | ⟨old, passes⟩
  · exact ⟨next, by simp, holding, lock⟩
  · obtain ⟨holder, present, holding, own⟩ := guarded.holders each old
    rw [chosen] at present
    simp only [List.mem_append, List.mem_cons] at present
    rcases present with early | rfl | late
    · exact ⟨holder, List.mem_append_left _ early, holding, own⟩
    · exact ⟨next, by simp, passes holding own.symm, lock.trans own⟩
    · exact ⟨holder, List.mem_append_right _ (List.mem_cons_of_mem _ late), holding, own⟩

theorem guarded_release (traffic : Traffic) (before after : List IndexBuild) (build next : IndexBuild)
    (chosen : traffic.builds = before ++ build :: after) (lock : next.lock = build.lock) (guarded : Guarded traffic) :
    Guarded ⟨traffic.cache.release build.lock, before ++ next :: after⟩ := by
  refine guarded_place traffic before after build next _ chosen lock (guarded.once.erase build.lock) ?_ guarded
  intro each member
  obtain ⟨different, old⟩ := guarded.once.mem_erase_iff.mp member
  exact .inr ⟨old, fun _ same => absurd same different⟩

theorem guarded_finish (traffic : Traffic) (before after : List IndexBuild) (build : IndexBuild) (result : BuildResult)
    (chosen : traffic.builds = before ++ build :: after) (guarded : Guarded traffic) :
    Guarded ⟨(build.finish result traffic.cache).2, before ++ (build.finish result traffic.cache).1 :: after⟩ :=
  guarded_release traffic before after build _ chosen rfl guarded

theorem step_guarded (traffic next : Traffic) (events : CacheLog) (step : Step traffic events next)
    (guarded : Guarded traffic) : Guarded next := by
  cases step with
  | get now key => exact guarded_cache traffic _ (follows_get traffic.cache now key).held guarded
  | put now key index => exact guarded_cache traffic _ (follows_put traffic.cache now key index).held guarded
  | invalidate key => exact guarded_cache traffic _ rfl guarded
  | evict now => exact guarded_cache traffic _ (thinned_evict traffic.cache now).held guarded
  | ask now request =>
      have held : (IndexBuild.start now request traffic.cache).2.held = traffic.cache.held := by
        have ensured := held_ensure traffic.cache now request.key
        rcases start_cases now request traffic.cache with ⟨_, result⟩ | ⟨_, _, _, _, _, _, _, result⟩
        · rw [result]
          exact ensured
        · rw [result]
          exact ensured
      refine ⟨held ▸ guarded.once, ?_⟩
      intro lock member
      obtain ⟨holder, present, holding, own⟩ := guarded.holders lock (held ▸ member)
      exact ⟨holder, List.mem_append_left _ present, holding, own⟩
  | cancel before after build chosen =>
      exact guarded_place traffic before after build _ traffic.cache chosen rfl guarded.once
        (fun each member => .inr ⟨member, fun holding _ => holding⟩) guarded
  | acquire before after build chosen waiting =>
      unfold IndexBuild.acquire
      split
      · rw [← chosen]
        exact guarded
      · next free =>
          have unheld : build.lock ∉ traffic.cache.held := by simpa [isHeld] using free
          refine guarded_place traffic before after build _ _ chosen rfl (List.nodup_cons.mpr ⟨unheld, guarded.once⟩) ?_ guarded
          intro each member
          rcases List.mem_cons.mp member with same | old
          · exact .inl ⟨rfl, same⟩
          · exact .inr ⟨old, fun _ _ => rfl⟩
  | look before after build chosen locked =>
      unfold IndexBuild.look
      split
      · exact guarded_finish traffic before after build _ chosen guarded
      · split
        · exact guarded_finish traffic before after build _ chosen guarded
        · exact guarded_place traffic before after build _ traffic.cache chosen rfl guarded.once
            (fun each member => .inr ⟨member, fun _ _ => rfl⟩) guarded
  | conclude now outcome before after build chosen running =>
      rcases conclude_cases now build outcome traffic.cache with ⟨error, result⟩ | ⟨index, result⟩
      · rw [result]
        exact guarded_finish traffic before after build _ chosen guarded
      · rw [result]
        exact guarded_finish { traffic with cache := traffic.cache.put now build.key index } before after build _ chosen
          (guarded_cache traffic _ (follows_put traffic.cache now build.key index).held guarded)
  | drop before after build chosen waited =>
      unfold IndexBuild.drop
      split
      · exact guarded_release traffic before after build _ chosen rfl guarded
      · next idle =>
          exact guarded_place traffic before after build _ traffic.cache chosen rfl guarded.once
            (fun each member => .inr ⟨member, fun holding => absurd holding idle⟩) guarded
  | discard before after build chosen alone =>
      refine guarded_place traffic before after build _ traffic.cache chosen rfl guarded.once ?_ guarded
      intro each member
      refine .inr ⟨member, fun holding => ?_⟩
      rw [IndexBuild.isHolding, alone] at holding
      cases holding

theorem run_guarded (first last : Traffic) (log : CacheLog) (run : Run first log last) (guarded : Guarded first) :
    Guarded last := by
  induction run with
  | here => exact guarded
  | step second third log events _ step ih => exact step_guarded second third events step ih

theorem reachable_guarded (idleTime : Nat) (traffic : Traffic) (reached : Reachable idleTime traffic) :
    Guarded traffic := by
  obtain ⟨log, run⟩ := reached
  exact run_guarded _ traffic log run ⟨List.nodup_nil, by simp⟩

theorem step_callers (traffic next : Traffic) (events : CacheLog) (step : Step traffic events next) (key : String) :
    ∀ build ∈ next.builds, build.key = key → build.isOpen = true →
      (∃ old ∈ traffic.builds, old.key = key ∧ old.isOpen = true ∧ build.lock = old.lock) ∨
        ∃ entry, next.cache.entry? key = some entry ∧ build.lock = entry.lock := by
  intro build member named unfinished
  have still : build ∈ traffic.builds →
      ∃ old ∈ traffic.builds, old.key = key ∧ old.isOpen = true ∧ build.lock = old.lock :=
    fun present => ⟨build, present, named, unfinished, rfl⟩
  have placed : ∀ before old after later, traffic.builds = before ++ old :: after → Continues old later →
      build ∈ before ++ later :: after →
      ∃ old ∈ traffic.builds, old.key = key ∧ old.isOpen = true ∧ build.lock = old.lock := by
    intro before old after later chosen continues inside
    obtain ⟨each, present, own, open_, lock, _⟩ :=
      callers_place key traffic before after old later chosen continues build inside named unfinished
    exact ⟨each, present, own, open_, lock⟩
  cases step with
  | get now other => exact .inl (still member)
  | put now other index => exact .inl (still member)
  | invalidate other => exact .inl (still member)
  | evict now => exact .inl (still member)
  | ask now request =>
      rcases List.mem_append.mp member with old | last
      · exact .inl (still old)
      · rw [List.mem_singleton] at last
        rcases start_cases now request traffic.cache with ⟨_, result⟩ | ⟨_, _, _, _, _, _, _, result⟩
        · rw [result] at last
          subst last
          refine .inr ⟨_, ?_, rfl⟩
          rw [result, ← named]
          exact entry_ensure traffic.cache now request.key
        · rw [result] at last
          subst last
          cases unfinished
  | cancel before after old chosen =>
      exact .inl (placed before old after { old with cancelled := true } chosen ⟨rfl, rfl, rfl, id⟩ member)
  | acquire before after old chosen waiting =>
      exact .inl (placed before old after _ chosen (acquire_continues old traffic.cache waiting).1 member)
  | look before after old chosen locked =>
      exact .inl (placed before old after _ chosen (look_continues old traffic.cache locked).1 member)
  | conclude now outcome before after old chosen running =>
      exact .inl (placed before old after _ chosen (conclude_continues now old outcome traffic.cache running) member)
  | drop before after old chosen waited =>
      exact .inl (placed before old after (old.drop traffic.cache).1 chosen ⟨rfl, rfl, rfl, fun _ => waited⟩ member)
  | discard before after old chosen alone =>
      exact .inl (placed before old after old.discard chosen ⟨rfl, rfl, rfl, fun open_ => by cases open_⟩ member)

-- The locks that the entries of a key have had, one for each time the entry was taken away and the one it has now.
structure Lineage (key : String) (locks : List Nat) (removals : Nat) (traffic : Traffic) : Prop where
  bound : locks.length ≤ removals + (traffic.cache.entry? key).toList.length
  entry : ∀ entry, traffic.cache.entry? key = some entry → entry.lock ∈ locks
  callers : ∀ build ∈ traffic.builds, build.key = key → build.isOpen = true → build.lock ∈ locks

theorem change_lock (before after : Option CacheEntry) (events : List CacheEvent) (change : Change before after events) :
    after.map (·.lock) = before.map (·.lock) ∨ (before = none ∧ ∃ entry, after = some entry) ∨
      (after = none ∧ 0 < events.countP CacheEvent.isRemoval) := by
  cases change with
  | kept quiet same =>
      have locks := congrArg (Option.map (·.2.2)) same
      rw [Option.map_map, Option.map_map] at locks
      exact .inl locks
  | made quiet missing entry present empty => exact .inr (.inl ⟨missing, entry, present⟩)
  | stored event rest index entry split stores quiet present snapshot lock =>
      cases found : before with
      | none => exact .inr (.inl ⟨rfl, entry, present⟩)
      | some old =>
          refine .inl ?_
          rw [present, Option.map_some, Option.map_some, lock old found]
  | removed event member removals gone =>
      have removal := (CacheEvent.is_removal_iff event).mpr (removals event member)
      exact .inr (.inr ⟨gone, List.countP_pos_iff.mpr ⟨event, member, removal⟩⟩)

theorem lineage_step (key : String) (locks : List Nat) (removals : Nat) (traffic next : Traffic) (events : CacheLog)
    (step : Step traffic events next) (lineage : Lineage key locks removals traffic) :
    ∃ more, Lineage key more (removals + (events.of key).countP CacheEvent.isRemoval) next := by
  have bound := lineage.bound
  have extend : ∀ more, locks ⊆ more → (∀ entry, next.cache.entry? key = some entry → entry.lock ∈ more) →
      more.length ≤ removals + (events.of key).countP CacheEvent.isRemoval + (next.cache.entry? key).toList.length →
      Lineage key more (removals + (events.of key).countP CacheEvent.isRemoval) next := by
    intro more grown present enough
    refine ⟨enough, present, ?_⟩
    intro build member named unfinished
    rcases step_callers traffic next events step key build member named unfinished with
      ⟨old, before, own, open_, lock⟩ | ⟨entry, found, lock⟩
    · rw [lock]
      exact grown (lineage.callers old before own open_)
    · rw [lock]
      exact present entry found
  rcases change_lock _ _ _ (step_change traffic next events step key) with same | ⟨missing, entry, present⟩ | ⟨gone, counted⟩
  · refine ⟨locks, extend locks (fun _ => id) ?_ ?_⟩
    · intro entry found
      rw [found, Option.map_some, eq_comm, Option.map_eq_some_iff] at same
      obtain ⟨old, present, lock⟩ := same
      rw [← lock]
      exact lineage.entry old present
    · have sizes := congrArg (·.toList.length) same
      simp only [Option.length_toList, Option.isSome_map] at sizes bound ⊢
      omega
  · refine ⟨entry.lock :: locks, extend _ (List.subset_cons_self _ _) ?_ ?_⟩
    · intro other found
      rw [Option.some.inj (present.symm.trans found)]
      exact List.mem_cons_self
    · rw [missing, Option.toList_none, List.length_nil] at bound
      rw [present, Option.toList_some, List.length_singleton, List.length_cons]
      omega
  · refine ⟨locks, extend locks (fun _ => id) (by simp [gone]) ?_⟩
    have single : (traffic.cache.entry? key).toList.length ≤ 1 := by
      cases traffic.cache.entry? key <;> simp
    omega

theorem lineage_run (key : String) (first last : Traffic) (log : CacheLog) (run : Run first log last)
    (idle : ∀ build ∈ first.builds, build.key = key → build.isOpen = false) :
    ∃ locks, Lineage key locks ((log.of key).countP CacheEvent.isRemoval) last := by
  induction run with
  | here =>
      refine ⟨((first.cache.entry? key).map (·.lock)).toList, ?_, ?_, ?_⟩
      · cases first.cache.entry? key <;> simp [CacheLog.of]
      · intro entry found
        simp [found]
      · intro build member named unfinished
        have finished := idle build member named
        rw [unfinished] at finished
        cases finished
  | step second third log events _ step ih =>
      obtain ⟨locks, lineage⟩ := ih
      rw [CacheLog.of_append, List.countP_append]
      exact lineage_step key locks _ second third events step lineage

theorem running_locks_nodup (traffic : Traffic) (key : String) (orderly : Orderly traffic) :
    ((traffic.running key).map (·.lock)).Nodup := by
  refine List.pairwise_map.mpr (List.Pairwise.imp_of_mem ?_ (orderly.apart.filter _))
  intro one other first second apart
  have holding : ∀ build ∈ traffic.running key, build.isHolding = true := by
    intro build member
    have runs := (List.mem_filter.mp member).2
    unfold IndexBuild.isHolding
    unfold IndexBuild.isRunning at runs
    split <;> simp_all
  exact apart (holding one first) (holding other second)

theorem running_le (key : String) (locks : List Nat) (removals : Nat) (traffic : Traffic) (orderly : Orderly traffic)
    (lineage : Lineage key locks removals traffic) : (traffic.running key).length ≤ removals + 1 := by
  have inside : (traffic.running key).map (·.lock) ⊆ locks := by
    intro lock member
    obtain ⟨build, chosen, rfl⟩ := List.mem_map.mp member
    obtain ⟨present, runs⟩ := List.mem_filter.mp chosen
    rw [Bool.and_eq_true, beq_iff_eq] at runs
    refine lineage.callers build present runs.1 ?_
    have phase := runs.2
    unfold IndexBuild.isRunning at phase
    unfold IndexBuild.isOpen
    split <;> simp_all
  have fits := (List.subperm_of_subset (running_locks_nodup traffic key orderly) inside).length_le
  have bound := lineage.bound
  have single : (traffic.cache.entry? key).toList.length ≤ 1 := by
    cases traffic.cache.entry? key <;> simp
  rw [List.length_map] at fits
  omega

theorem building_length (traffic : Traffic) (key : String) :
    (traffic.building key).length = (traffic.running key).length + (traffic.orphans key).length := by
  unfold building running orphans
  induction traffic.builds with
  | nil => rfl
  | cons build rest ih =>
      have apart : build.isRunning = true → build.isOrphan = false := by
        unfold IndexBuild.isRunning IndexBuild.isOrphan
        split <;> simp_all
      simp only [List.filter_cons]
      cases named : build.key == key <;> cases runs : build.isRunning <;> cases alone : build.isOrphan <;> simp_all <;> omega

theorem orphans_place (traffic : Traffic) (before after : List IndexBuild) (build next : IndexBuild) (cache : IndexCache)
    (key : String) (chosen : traffic.builds = before ++ build :: after) (kept : next.key = build.key)
    (parted : next.isOrphan = true → build.isOrphan = true) :
    ( orphans ⟨cache, before ++ next :: after⟩ key).length ≤ (traffic.orphans key).length := by
  unfold orphans
  rw [chosen]
  simp only [List.filter_append, List.filter_cons, List.length_append, kept]
  cases named : build.key == key <;> cases orphan : next.isOrphan <;> simp_all
  split <;> simp

theorem orphans_drop (traffic : Traffic) (before after : List IndexBuild) (build : IndexBuild) (key : String)
    (chosen : traffic.builds = before ++ build :: after) :
    ( orphans ⟨(build.drop traffic.cache).2, before ++ (build.drop traffic.cache).1 :: after⟩ key).length ≤
      (traffic.orphans key).length +
        (CacheLog.of (build.atDrop.map (build.key, ·)) key).countP CacheEvent.isAbandonment := by
  cases runs : build.isRunning with
  | false =>
      refine Nat.le_add_right_of_le (orphans_place traffic before after build _ _ key chosen rfl fun orphan => ?_)
      rw [IndexBuild.drop, IndexBuild.isOrphan, runs] at orphan
      cases orphan
  | true =>
      have left : build.atDrop = [.abandoned] := by
        unfold IndexBuild.isRunning at runs
        unfold IndexBuild.atDrop
        split at runs <;> simp_all
      unfold orphans
      rw [chosen, left]
      simp only [List.filter_append, List.filter_cons, List.length_append, IndexBuild.drop]
      by_cases named : build.key = key
      · simp only [named, CacheLog.of, CacheEvent.isAbandonment, List.map_cons, List.map_nil, List.filterMap_cons,
          List.filterMap_nil, if_true, List.countP_singleton]
        split <;> split <;> simp_all <;> omega
      · simp [named, CacheLog.of]

theorem step_orphans (traffic next : Traffic) (events : CacheLog) (step : Step traffic events next) (key : String) :
    (next.orphans key).length ≤ (traffic.orphans key).length + (events.of key).countP CacheEvent.isAbandonment := by
  have placed : ∀ before after build later cache, traffic.builds = before ++ build :: after → later.key = build.key →
      (later.isOrphan = true → build.isOrphan = true) → ( orphans ⟨cache, before ++ later :: after⟩ key).length ≤
        (traffic.orphans key).length + (events.of key).countP CacheEvent.isAbandonment :=
    fun before after build later cache chosen kept parted =>
      Nat.le_add_right_of_le (orphans_place traffic before after build later cache key chosen kept parted)
  cases step with
  | get now other => exact Nat.le_add_right _ _
  | put now other index => exact Nat.le_add_right _ _
  | invalidate other => exact Nat.le_add_right _ _
  | evict now => exact Nat.le_add_right _ _
  | ask now request =>
      refine Nat.le_add_right_of_le (Nat.le_of_eq ?_)
      have fresh : (IndexBuild.start now request traffic.cache).1.isOrphan = false := by
        rcases start_cases now request traffic.cache with ⟨_, result⟩ | ⟨_, _, _, _, _, _, _, result⟩ <;> rw [result] <;> rfl
      simp [orphans, fresh]
  | cancel before after build chosen => exact placed before after build _ _ chosen rfl id
  | acquire before after build chosen waiting =>
      refine placed before after build _ _ chosen (acquire_continues build traffic.cache waiting).1.key ?_
      unfold IndexBuild.acquire
      split
      · exact id
      · intro orphan
        cases orphan
  | look before after build chosen locked =>
      refine placed before after build _ _ chosen (look_continues build traffic.cache locked).1.key ?_
      unfold IndexBuild.look
      split
      · intro orphan
        cases orphan
      · split <;> exact fun orphan => by cases orphan
  | conclude now outcome before after build chosen running =>
      refine placed before after build _ _ chosen (conclude_continues now build outcome traffic.cache running).key ?_
      rcases conclude_cases now build outcome traffic.cache with ⟨error, result⟩ | ⟨index, result⟩
      · rw [result]
        exact fun orphan => by cases orphan
      · rw [result]
        exact fun orphan => by cases orphan
  | drop before after build chosen waited => exact orphans_drop traffic before after build key chosen
  | discard before after build chosen alone =>
      exact placed before after build _ _ chosen rfl fun orphan => by cases orphan

theorem run_orphans (first last : Traffic) (log : CacheLog) (run : Run first log last) (key : String) :
    (last.orphans key).length ≤ (first.orphans key).length + (log.of key).countP CacheEvent.isAbandonment := by
  induction run with
  | here => exact Nat.le_add_right _ _
  | step second third log events _ step ih =>
      have more := step_orphans second third events step key
      rw [CacheLog.of_append, List.countP_append]
      omega

theorem run_trans (first second third : Traffic) (early late : CacheLog) (before : Run first early second)
    (after : Run second late third) : Run first (early ++ late) third := by
  induction after with
  | here => simpa using before
  | step last next log events _ step ih =>
      rw [← List.append_assoc]
      exact .step last next _ events ih step

theorem fresh_caller_locks (traffic : Traffic) (key : String) (anew : Bool) (orderly : Orderly traffic)
    (guarded : Guarded traffic) (missing : traffic.cache.entry? key = none) :
    Run traffic [(key, .asked anew)] ⟨(traffic.cache.ensure 0 key).2.hold traffic.cache.lockCount,
      traffic.builds ++ [⟨key, 0, traffic.cache.lockCount, false, .locked⟩]⟩ := by
  obtain ⟨fresh, _, held, _⟩ := ensure_of_none traffic.cache 0 key missing
  let waiting : IndexBuild := ⟨key, 0, traffic.cache.lockCount, false, .waiting⟩
  have asked : IndexBuild.start 0 ⟨key, anew, false⟩ traffic.cache = (waiting, (traffic.cache.ensure 0 key).2) := by
    cases anew <;> simp [IndexBuild.start, IndexBuild.getOrBuild, IndexBuild.rebuild, fresh, freshEntry, waiting]
  have free : isHeld (traffic.cache.ensure 0 key).2 waiting.lock = false := by
    simp only [isHeld, List.contains_eq_mem, decide_eq_false_iff_not, held]
    intro member
    obtain ⟨holder, present, _, lock⟩ := guarded.holders _ member
    have known := orderly.known holder present
    exact absurd lock (Nat.ne_of_lt known)
  have acquired : waiting.acquire (traffic.cache.ensure 0 key).2 =
      ({ waiting with phase := .locked }, (traffic.cache.ensure 0 key).2.hold waiting.lock) := by
    rw [IndexBuild.acquire, if_neg (by simp [free])]
  have first := Step.ask traffic 0 ⟨key, anew, false⟩
  rw [asked] at first
  have second := Step.acquire ⟨(traffic.cache.ensure 0 key).2, traffic.builds ++ [waiting]⟩ traffic.builds [] waiting rfl rfl
  rw [acquired] at second
  exact .step _ _ _ _ (.step _ _ _ _ .here first) second

theorem another_running (traffic : Traffic) (key : String) (orderly : Orderly traffic) (guarded : Guarded traffic)
    (missing : traffic.cache.entry? key = none) :
    ∃ log next, Run traffic log next ∧ (log.of key).countP CacheEvent.isRemoval = 0 ∧
      (next.running key).length = (traffic.running key).length + 1 := by
  let cache := (traffic.cache.ensure 0 key).2.hold traffic.cache.lockCount
  let locked : IndexBuild := ⟨key, 0, traffic.cache.lockCount, false, .locked⟩
  have found : entry? cache key = some (traffic.cache.freshEntry 0) := by
    rw [entry_of_entries cache (traffic.cache.ensure 0 key).2 rfl key]
    exact ((ensure_of_none traffic.cache 0 key missing).2.2.2 key).trans (if_pos rfl)
  have started : locked.look cache = ({ locked with phase := .running }, cache) := by
    simp [IndexBuild.look, IndexBuild.newer?, found, freshEntry, locked]
  have onward := Step.look ⟨cache, traffic.builds ++ [locked]⟩ traffic.builds [] locked rfl rfl
  rw [started] at onward
  refine ⟨_, _, .step _ _ _ _ (fresh_caller_locks traffic key false orderly guarded missing) onward, ?_, ?_⟩
  · refine CacheEvent.count_removals_eq_zero _ ?_
    simp [CacheLog.of, IndexBuild.atLook, CacheEvent.left?]
  · simp [running, IndexBuild.isRunning, locked]

theorem running_attained (idleTime : Nat) (key : String) (count : Nat) :
    ∃ log last, Run ⟨{ idleTime }, []⟩ log last ∧ (log.of key).countP CacheEvent.isRemoval = count ∧
      (last.running key).length = count + 1 := by
  induction count with
  | zero =>
      obtain ⟨log, last, run, removals, runs⟩ := another_running ⟨{ idleTime }, []⟩ key
        (reachable_orderly idleTime _ ⟨[], .here⟩) (reachable_guarded idleTime _ ⟨[], .here⟩) rfl
      exact ⟨log, last, run, removals, runs⟩
  | succ count ih =>
      obtain ⟨log, last, run, removals, runs⟩ := ih
      have gone := Run.step _ _ _ _ run (.invalidate last key)
      obtain ⟨more, next, onward, none_, another⟩ := another_running _ key (reachable_orderly idleTime _ ⟨_, gone⟩)
        (reachable_guarded idleTime _ ⟨_, gone⟩) (by rw [entry_invalidate, if_pos rfl])
      refine ⟨_, next, run_trans _ _ _ _ _ gone onward, ?_, ?_⟩
      · rw [CacheLog.of_append, CacheLog.of_append, List.countP_append, List.countP_append, removals, none_]
        simp [CacheLog.of, CacheEvent.isRemoval]
      · rw [another]
        exact congrArg (· + 1) runs

theorem building_at_most_losses (idleTime : Nat) (key : String) :
    (∀ first last log, Reachable idleTime first →
      (∀ build ∈ first.builds, build.key = key → build.isOpen = false ∧ build.isOrphan = false) → Run first log last →
      (last.building key).length ≤
        (log.of key).countP CacheEvent.isRemoval + (log.of key).countP CacheEvent.isAbandonment + 1) ∧
    ∀ count, ∃ log last, Run ⟨{ idleTime }, []⟩ log last ∧ (log.of key).countP CacheEvent.isRemoval = count ∧
      (last.running key).length = count + 1 := by
  refine ⟨?_, running_attained idleTime key⟩
  intro first last log reached idle run
  obtain ⟨locks, lineage⟩ := lineage_run key first last log run fun build member named => (idle build member named).1
  have callers := running_le key locks _ last (run_orderly first last log run (reachable_orderly idleTime first reached)) lineage
  have none_ : first.orphans key = [] := by
    rw [orphans, List.filter_eq_nil_iff]
    intro build member
    by_cases named : build.key = key
    · simp [(idle build member named).2]
    · simp [named]
  have alone := run_orphans first last log run key
  rw [none_, List.length_nil] at alone
  rw [building_length]
  omega

-- The entry is taken away while its builder runs, and the next caller starts another one.
theorem overlapping_run : ∃ last, Run ⟨{ idleTime := 1000 }, []⟩
    ([.asked false, .started, .invalidated, .asked false, .started].map ("project", ·)) last ∧
    (last.running "project").length = 2 := by
  have asked := Run.step _ _ _ _ .here (.ask ⟨{ idleTime := 1000 }, []⟩ 0 ⟨"project", false, false⟩)
  have locked := Run.step _ _ _ _ asked (.acquire _ [] [] _ rfl rfl)
  have started := Run.step _ _ _ _ locked (.look _ [] [] _ rfl rfl)
  have gone := Run.step _ _ _ _ started (.invalidate _ "project")
  have again := Run.step _ _ _ _ gone (.ask _ 1 ⟨"project", false, false⟩)
  have alsoLocked := Run.step _ _ _ _ again (.acquire _ [_] [] _ rfl rfl)
  have both := Run.step _ _ _ _ alsoLocked (.look _ [_] [] _ rfl rfl)
  exact ⟨_, both, rfl⟩

theorem building_at_most_losses_overlap : ∃ log last, Run ⟨{ idleTime := 1000 }, []⟩ log last ∧
    (log.of "project").countP CacheEvent.isRemoval = 1 ∧ (last.running "project").length = 2 ∧
    (last.building "project").length ≤
      (log.of "project").countP CacheEvent.isRemoval + (log.of "project").countP CacheEvent.isAbandonment + 1 := by
  obtain ⟨last, run, both⟩ := overlapping_run
  exact ⟨_, last, run, rfl, both, (building_at_most_losses 1000 "project").1 _ last _ ⟨_, .here⟩ (by simp) run⟩

-- The caller goes away while its builder is at work, and the next one gets the same lock.
theorem abandoned_run : ∃ last, Run ⟨{ idleTime := 1000 }, []⟩
    ([.asked false, .started, .abandoned, .asked false, .started].map ("project", ·)) last ∧
    (last.building "project").length = 2 := by
  have asked := Run.step _ _ _ _ .here (.ask ⟨{ idleTime := 1000 }, []⟩ 0 ⟨"project", false, false⟩)
  have locked := Run.step _ _ _ _ asked (.acquire _ [] [] _ rfl rfl)
  have started := Run.step _ _ _ _ locked (.look _ [] [] _ rfl rfl)
  have dropped := Run.step _ _ _ _ started (.drop _ [] [] _ rfl rfl)
  have again := Run.step _ _ _ _ dropped (.ask _ 1 ⟨"project", false, false⟩)
  have alsoLocked := Run.step _ _ _ _ again (.acquire _ [_] [] _ rfl rfl)
  have both := Run.step _ _ _ _ alsoLocked (.look _ [_] [] _ rfl rfl)
  exact ⟨_, both, rfl⟩

theorem builders_of_key_overlap : ¬ ∀ log last, Run ⟨{ idleTime := 1000 }, []⟩ log last →
    (∀ key, .evicted ∉ log.of key) → ∀ key, (last.running key).length ≤ 1 := by
  intro exclusive
  obtain ⟨last, run, both⟩ := overlapping_run
  have alone := exclusive _ last run (by simp [CacheLog.of]) "project"
  omega

end Traffic
end YamlDialects
