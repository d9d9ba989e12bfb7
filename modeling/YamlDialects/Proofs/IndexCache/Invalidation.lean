import YamlDialects.Proofs.IndexCache.Provenance

/-!
What comes back after an invalidation. Callers that come afterwards get what their own builder makes or what readers see.
So a snapshot whose builder was called before can come back exactly if that builder still runs, and is not cancelled, when
the entry is taken away.
-/

set_option autoImplicit false

namespace YamlDialects.Traffic

open IndexCache IndexBuild

def Unevicted (log : CacheLog) : Prop :=
  ∀ each ∈ log, each.2 ≠ .evicted

def invalidated (traffic : Traffic) (key : String) : Traffic :=
  { traffic with cache := traffic.cache.invalidate key }

structure Answered (last next : Traffic) (key : String) (caller : Nat) (index : PropertyIndex) : Prop where
  waited : ∀ build, last.builds[caller]? = some build → build.result? = none
  answer : ∃ build, next.builds[caller]? = some build ∧ build.key = key ∧ build.result? = some (.ok index)

section

variable (last next : Traffic) (key : String) (caller : Nat) (index : PropertyIndex)

theorem answered_changes (answered : Answered last next key caller index) : last.builds[caller]? ≠ next.builds[caller]? := by
  intro same
  obtain ⟨build, found, _, result⟩ := answered.answer
  rw [answered.waited build (same.trans found)] at result
  cases result

theorem answered_onward (before after : List IndexBuild) (build later : IndexBuild)
    (chosen : last.builds = before ++ build :: after) (builds : next.builds = before ++ later :: after)
    (answered : Answered last next key caller index) :
    caller = before.length ∧ build.result? = none ∧ later.key = key ∧ later.result? = some (.ok index) := by
  obtain ⟨each, found, own, result⟩ := answered.answer
  have there := found
  rw [builds] at there
  rcases place_cases before after build later each caller there with ⟨rfl, rfl⟩ | ⟨_, elsewhere⟩
  · exact ⟨rfl, answered.waited build (by rw [chosen]; simp), own, result⟩
  · rw [← chosen] at elsewhere
    exact absurd (elsewhere.trans found.symm) (answered_changes last next key caller index answered)

theorem newer_snapshot (build : IndexBuild) (cache : IndexCache) (newer : build.newer? cache = some index) :
    (cache.entry? build.key).bind (·.snapshot) = some index := by
  unfold newer? at newer
  split at newer
  · next entry found =>
      split at newer
      · rw [found]
        exact newer
      · cases newer
  · cases newer

theorem look_answer (build : IndexBuild) (cache : IndexCache) (result : (build.look cache).1.result? = some (.ok index)) :
    (cache.entry? build.key).bind (·.snapshot) = some index := by
  unfold look at result
  split at result
  · next snapshot newer =>
      obtain rfl : snapshot = index := Except.ok.inj (Option.some.inj result)
      exact newer_snapshot snapshot build cache newer
  · split at result <;> cases result

theorem start_answer (now : Nat) (request : Request) (cache : IndexCache)
    (result : (IndexBuild.start now request cache).1.result? = some (.ok index)) :
    (cache.entry? request.key).bind (·.snapshot) = some index := by
  rcases start_cases now request cache with ⟨_, waits⟩ | ⟨found, _, snapshot, _, _, _, _, answers⟩
  · rw [waits] at result
    cases result
  · rw [answers] at result
    obtain rfl : found = index := Except.ok.inj (Option.some.inj result)
    cases present : cache.entry? request.key with
    | some entry =>
        rw [ensure_of_entry cache now request.key entry present] at snapshot
        exact snapshot
    | none =>
        rw [(ensure_of_none cache now request.key present).1] at snapshot
        cases snapshot

theorem step_answer (events : CacheLog) (step : Step last events next) (answered : Answered last next key caller index) :
    Stores key index last (.build caller) events next ∨
      ((∀ build, last.builds[caller]? = some build → build.isRunning = false) ∧
        (last.cache.entry? key).bind (·.snapshot) = some index) := by
  have changes := answered_changes last next key caller index answered
  cases step with
  | get now other => exact absurd rfl changes
  | put now other stored => exact absurd rfl changes
  | invalidate other => exact absurd rfl changes
  | evict now => exact absurd rfl changes
  | ask now request =>
      obtain ⟨build, found, own, result⟩ := answered.answer
      rcases Nat.lt_or_ge caller last.builds.length with old | new
      · exact absurd (List.getElem?_append_left old).symm changes
      · refine .inr ⟨fun each present => ?_, ?_⟩
        · rw [List.getElem?_eq_none new] at present
          cases present
        · rw [List.getElem?_append_right new] at found
          obtain rfl := List.mem_singleton.mp (List.mem_of_getElem? found)
          have key := (start_key now request last.cache).symm.trans own
          rw [← key]
          exact start_answer index now request last.cache result
  | cancel before after build chosen =>
      obtain ⟨_, open_, _, result⟩ := answered_onward last _ key caller index before after build _ chosen rfl answered
      rw [show result? { build with cancelled := true } = build.result? from rfl, open_] at result
      cases result
  | acquire before after build chosen waiting =>
      obtain ⟨_, _, _, result⟩ := answered_onward last _ key caller index before after build _ chosen rfl answered
      unfold acquire at result
      split at result <;> simp [result?, waiting] at result
  | look before after build chosen locked =>
      obtain ⟨rfl, _, own, result⟩ := answered_onward last _ key caller index before after build _ chosen rfl answered
      obtain rfl : build.key = key := (look_remains build last.cache locked).key.symm.trans own
      refine .inr ⟨fun each present => ?_, look_answer index build last.cache result⟩
      rw [chosen, List.getElem?_append_right (Nat.le_refl _), Nat.sub_self, List.getElem?_cons_zero] at present
      rw [← Option.some.inj present, isRunning, locked]
  | conclude now outcome before after build chosen running =>
      obtain ⟨rfl, _, own, result⟩ := answered_onward last _ key caller index before after build _ chosen rfl answered
      rcases conclude_stores last now outcome before after build chosen running with ⟨error, failed⟩ | ⟨other, ended, stores⟩
      · rw [result?, failed] at result
        cases result
      · rw [result?, ended] at result
        obtain rfl : other = index := Except.ok.inj (Option.some.inj result)
        obtain rfl : build.key = key := (conclude_remains now build outcome last.cache running).key.symm.trans own
        exact .inl stores
  | drop before after build chosen waited =>
      obtain ⟨_, _, _, result⟩ := answered_onward last _ key caller index before after build _ chosen rfl answered
      cases result
  | discard before after build chosen alone =>
      obtain ⟨_, _, _, result⟩ := answered_onward last _ key caller index before after build _ chosen rfl answered
      cases result

end

inductive Call where
  | get
  | ask (anew : Bool)

inductive Answers (first : Traffic) (key : String) (source : Source) (index : PropertyIndex) : Call → CacheLog → Prop where
  | get (log : CacheLog) (last : Traffic) (now : Nat) (shown : Shows first key source index log last)
      (read : (last.cache.get now key).1 = some index) : Answers first key source index .get log
  | shared (anew : Bool) (log events : CacheLog) (last next : Traffic) (caller : Nat) (late : first.builds.length ≤ caller)
      (shown : Shows first key source index log last) (step : Step last events next)
      (idle : ∀ build, last.builds[caller]? = some build → build.isRunning = false)
      (answered : Answered last next key caller index)
      (asked : (log ++ events).asks[caller - first.builds.length]? = some (key, anew)) :
      Answers first key source index (.ask anew) (log ++ events)
  | own (anew : Bool) (log events : CacheLog) (last next : Traffic) (caller : Nat) (late : first.builds.length ≤ caller)
      (run : Run first log last) (stores : Stores key index last (.build caller) events next) (maker : source = .build caller)
      (asked : (log ++ events).asks[caller - first.builds.length]? = some (key, anew)) :
      Answers first key source index (.ask anew) (log ++ events)

section

variable (first last : Traffic) (key : String) (index : PropertyIndex) (log : CacheLog)

theorem answer_sourced (run : Run first log last) (missing : (first.cache.entry? key).bind (·.snapshot) = none) :
    (∀ now, (last.cache.get now key).1 = some index → ∃ source, Answers first key source index .get log) ∧
      ∀ events next caller, Step last events next → first.builds.length ≤ caller → Answered last next key caller index →
        ∃ source anew, Answers first key source index (.ask anew) (log ++ events) := by
  refine ⟨fun now read => ?_, fun events next caller step late answered => ?_⟩
  · obtain ⟨source, shown⟩ := run_shows first last key index log run missing ((get_snapshot _ now key).symm.trans read)
    exact ⟨source, .get log last now shown read⟩
  · obtain ⟨build, found, own, _⟩ := answered.answer
    obtain ⟨anew, asked⟩ := (run_asks first next _ (.step _ _ _ _ run step)).2 caller build late found
    rw [own] at asked
    rcases step_answer last next key caller index events step answered with stores | ⟨idle, seen⟩
    · exact ⟨.build caller, anew, .own anew log events last next caller late run stores rfl asked⟩
    · obtain ⟨source, shown⟩ := run_shows first last key index log run missing seen
      exact ⟨source, anew, .shared anew log events last next caller late shown step idle answered asked⟩

theorem answer_building (call : Call) (caller : Nat) (build : IndexBuild) (answers : Answers first key (.build caller) index call log)
    (present : first.builds[caller]? = some build) (started : build.hasStarted = true) :
    build.key = key ∧ build.isRunning = true ∧ build.cancelled = false := by
  have bound := (List.getElem?_eq_some_iff.mp present).1
  cases answers with
  | get _ there now shown read => exact shows_building first there key index log caller build shown present started
  | shared anew log events there next later late shown =>
      exact shows_building first there key index log caller build shown present started
  | own anew log events there next later late run stores maker =>
      obtain rfl := Source.build.inj maker
      omega

end

theorem ask_asked (first last : Traffic) (log : CacheLog) (run : Run first log last) (request : Request)
    (events : List CacheEvent) (others : ∀ event ∈ events, event.asked? = none) :
    (log ++ ((request.key, .asked request.anew) :: events.map (request.key, ·))).asks[last.builds.length - first.builds.length]? =
      some (request.key, request.anew) := by
  have asked : CacheLog.asks ((request.key, .asked request.anew) :: events.map (request.key, ·)) =
      [(request.key, request.anew)] :=
    congrArg ((request.key, request.anew) :: ·) (CacheLog.asks_of_map request.key events others)
  rw [CacheLog.asks_append, (run_asks first last log run).1, Nat.add_sub_cancel_left, List.getElem?_append_right (Nat.le_refl _),
    Nat.sub_self, asked]
  rfl

theorem start_shown (now : Nat) (request : Request) (cache : IndexCache) (index : PropertyIndex)
    (seen : (cache.entry? request.key).bind (·.snapshot) = some index) (anyGood : request.anew = false) :
    (IndexBuild.start now request cache).1.result? = some (.ok index) := by
  obtain ⟨entry, found, snapshot⟩ := Option.bind_eq_some_iff.mp seen
  have ensured : (cache.ensure now request.key).1.snapshot = some index := by
    rw [ensure_of_entry cache now request.key entry found]
    exact snapshot
  rcases start_cases now request cache with ⟨anew | none_, _⟩ | ⟨other, _, shown, _, _, _, _, result⟩
  · rw [anyGood] at anew
    cases anew
  · rw [ensured] at none_
    cases none_
  · rw [result]
    exact congrArg (some ∘ Except.ok) (Option.some.inj (shown.symm.trans ensured))

theorem unevicted_map (key : String) (events : List CacheEvent) (kept : ∀ event ∈ events, event ≠ .evicted) :
    Unevicted (events.map (key, ·)) := by
  intro each member
  obtain ⟨event, inside, rfl⟩ := List.mem_map.mp member
  exact kept event inside

theorem at_return_unevicted (build : IndexBuild) : ∀ event ∈ build.atReturn, event ≠ .evicted := by
  unfold atReturn
  split <;> simp

theorem at_look_unevicted (build : IndexBuild) : ∀ event ∈ build.atLook, event ≠ .evicted := by
  unfold atLook
  split <;> simp

section

variable (first : Traffic) (before after : List IndexBuild) (build : IndexBuild) (index : PropertyIndex)
  (chosen : first.builds = before ++ build :: after) (running : build.phase = .running) (active : build.cancelled = false)

include chosen running active

theorem running_stores : ∃ events next, Stores build.key index first (.build before.length) events next ∧ Unevicted events ∧
    next.builds = before ++ { build with phase := .finished (.ok index) } :: after :=
  ⟨_, _, .build 0 before after build chosen rfl running active, unevicted_map build.key [_, _] (by simp), rfl⟩

theorem running_answers_get : ∃ log, Unevicted log ∧ Answers first build.key (.build before.length) index .get log := by
  obtain ⟨events, next, stores, unevicted, _⟩ := running_stores first before after build index chosen running active
  refine ⟨[] ++ events, unevicted, .get _ next 0 (.stored [] events first next .here stores) ?_⟩
  rw [get_snapshot, stores_snapshot _ _ _ first next events stores]

theorem running_answers_any : ∃ log, Unevicted log ∧ Answers first build.key (.build before.length) index (.ask false) log := by
  obtain ⟨events, next, stores, unevicted, _⟩ := running_stores first before after build index chosen running active
  have shown : Shows first build.key (.build before.length) index ([] ++ events) next := .stored [] events first next .here stores
  have result := start_shown 0 ⟨build.key, false, false⟩ next.cache index (stores_snapshot _ _ _ first next events stores) rfl
  have run := shows_run first next _ _ _ _ shown
  have grown := (run_asks first next _ run).1
  refine ⟨_, ?_, .shared false _ _ next _ next.builds.length (by omega) shown (.ask next 0 ⟨build.key, false, false⟩) (by simp)
    ⟨by simp, ⟨_, by simp, start_key 0 _ next.cache, result⟩⟩
    (ask_asked first next _ run ⟨build.key, false, false⟩ _ (at_return_unasked _))⟩
  refine List.forall_mem_append.mpr ⟨unevicted, List.forall_mem_cons.mpr ⟨by simp, ?_⟩⟩
  exact unevicted_map build.key _ (at_return_unevicted _)

end

theorem running_answers_anew (first : Traffic) (before after : List IndexBuild) (build : IndexBuild) (index : PropertyIndex)
    (chosen : first.builds = before ++ build :: after) (running : build.phase = .running) (active : build.cancelled = false)
    (orderly : Orderly first) (guarded : Guarded first) (missing : first.cache.entry? build.key = none) :
    ∃ log, Unevicted log ∧ Answers first build.key (.build before.length) index (.ask true) log := by
  let waiting : IndexBuild := ⟨build.key, 0, first.cache.lockCount, false, .locked⟩
  have asked := fresh_caller_locks first build.key true orderly guarded missing
  generalize (first.cache.ensure 0 build.key).2.hold first.cache.lockCount = cache at asked
  have split : (Traffic.mk cache (first.builds ++ [waiting])).builds = before ++ build :: (after ++ [waiting]) := by
    simp [chosen]
  obtain ⟨events, next, stores, unevicted, builds⟩ := running_stores _ before _ build index split running active
  have shown := Shows.stored _ events _ next asked stores
  obtain ⟨entry, found, snapshot, positive⟩ := stores_entry _ _ _ _ next events stores
  have newer : waiting.look next.cache = waiting.finish (.ok index) next.cache := by
    simp [look, newer?, waiting, found, positive, snapshot]
  rw [← List.cons_append, ← List.append_assoc] at builds
  have size : (before ++ { build with phase := .finished (.ok index) } :: after).length = first.builds.length := by
    simp [chosen]
  have look := Step.look next _ [] waiting builds rfl
  rw [newer] at look
  refine ⟨_, ?_, .shared true _ _ next _ first.builds.length (Nat.le_refl _) shown look ?_
    ⟨?_, ⟨(waiting.finish (.ok index) next.cache).1, ?_, rfl, rfl⟩⟩ ?_⟩
  · refine List.forall_mem_append.mpr ⟨List.forall_mem_append.mpr ⟨by simp, unevicted⟩, ?_⟩
    exact unevicted_map build.key _ (at_look_unevicted _)
  · intro each present
    rw [builds, ← size, List.getElem?_concat_length] at present
    rw [← Option.some.inj present]
    rfl
  · intro each present
    rw [builds, ← size, List.getElem?_concat_length] at present
    rw [← Option.some.inj present]
    rfl
  · rw [← size]
    exact List.getElem?_concat_length
  · rw [Nat.sub_self, List.append_assoc, CacheLog.asks_append]
    rfl

theorem running_answers (idleTime : Nat) (earlier : Traffic) (reached : Reachable idleTime earlier) (caller : Nat)
    (build : IndexBuild) (present : earlier.builds[caller]? = some build) (running : build.isRunning = true)
    (active : build.cancelled = false) (index : PropertyIndex) (call : Call) :
    ∃ log, Unevicted log ∧ Answers (earlier.invalidated build.key) build.key (.build caller) index call log := by
  obtain ⟨bound, found⟩ := List.getElem?_eq_some_iff.mp present
  have chosen : (earlier.invalidated build.key).builds = earlier.builds.take caller ++ build :: earlier.builds.drop (caller + 1) := by
    rw [← found, ← List.drop_eq_getElem_cons bound, List.take_append_drop]
    rfl
  have place : (earlier.builds.take caller).length = caller := List.length_take_of_le (Nat.le_of_lt bound)
  have runs : build.phase = .running := by
    unfold isRunning at running
    split at running
    · assumption
    · cases running
  rw [← place]
  cases call with
  | get => exact running_answers_get _ _ _ build index chosen runs active
  | ask anew =>
      cases anew with
      | false => exact running_answers_any _ _ _ build index chosen runs active
      | true =>
          have step := Step.invalidate earlier build.key
          refine running_answers_anew _ _ _ build index chosen runs active
            (step_orderly _ _ _ step (reachable_orderly idleTime earlier reached))
            (step_guarded _ _ _ step (reachable_guarded idleTime earlier reached)) ?_
          exact (entry_invalidate earlier.cache build.key build.key).trans (if_pos rfl)

theorem stale_answers (idleTime : Nat) (key : String) (earlier : Traffic) (reached : Reachable idleTime earlier) :
    (∀ log last index, Run (earlier.invalidated key) log last →
      (∀ now, (last.cache.get now key).1 = some index →
        ∃ source, Answers (earlier.invalidated key) key source index .get log) ∧
      ∀ events next caller, Step last events next → earlier.builds.length ≤ caller → Answered last next key caller index →
        ∃ source anew, Answers (earlier.invalidated key) key source index (.ask anew) (log ++ events)) ∧
    ∀ call caller build, earlier.builds[caller]? = some build → build.hasStarted = true →
      ((∃ index log, Unevicted log ∧ Answers (earlier.invalidated key) key (.build caller) index call log) ↔
        build.key = key ∧ build.isRunning = true ∧ build.cancelled = false) := by
  refine ⟨fun log last index run => ?_, fun call caller build present started => ⟨?_, ?_⟩⟩
  · refine answer_sourced _ last key index log run ?_
    rw [show entry? (earlier.invalidated key).cache key = none from (entry_invalidate earlier.cache key key).trans (if_pos rfl)]
    rfl
  · rintro ⟨index, log, _, answers⟩
    exact answer_building _ key index log call caller build answers present started
  · rintro ⟨rfl, running, active⟩
    obtain ⟨log, unevicted, answers⟩ := running_answers idleTime earlier reached caller build present running active default call
    exact ⟨default, log, unevicted, answers⟩

theorem building_run : ∃ log earlier, Run ⟨{ idleTime := 1000 }, []⟩ log earlier ∧ Unevicted log ∧
    earlier.builds[0]? = some ⟨"project", 0, 0, false, .running⟩ := by
  have asked := Run.step _ _ _ _ .here (.ask ⟨{ idleTime := 1000 }, []⟩ 0 ⟨"project", false, false⟩)
  have locked := Run.step _ _ _ _ asked (.acquire _ [] [] _ rfl rfl)
  have started := Run.step _ _ _ _ locked (.look _ [] [] _ rfl rfl)
  exact ⟨[("project", .asked false), ("project", .started)], _, started, by simp [Unevicted], rfl⟩

theorem stale_answers_building : ∃ earlier build, Reachable 1000 earlier ∧ earlier.builds[0]? = some build ∧
    build.hasStarted = true ∧ Run (earlier.invalidated "project") [] (earlier.invalidated "project") ∧
    ∃ index log, Unevicted log ∧ Answers (earlier.invalidated "project") "project" (.build 0) index (.ask true) log := by
  obtain ⟨log, earlier, run, _, present⟩ := building_run
  exact ⟨earlier, _, ⟨log, run⟩, present, rfl, .here,
    ((stale_answers 1000 "project" earlier ⟨log, run⟩).2 (.ask true) 0 _ present rfl).mpr ⟨rfl, rfl, rfl⟩⟩

theorem stale_snapshot_read : ¬ ∀ early earlier caller build index call log, Run ⟨{ idleTime := 1000 }, []⟩ early earlier →
    Unevicted early → earlier.builds[caller]? = some build → build.hasStarted = true → Unevicted log →
      ¬ Answers (earlier.invalidated "project") "project" (.build caller) index call log := by
  intro fresh
  obtain ⟨early, earlier, run, unevicted, present⟩ := building_run
  obtain ⟨log, also, answers⟩ := running_answers 1000 earlier ⟨early, run⟩ 0 _ present rfl rfl default .get
  exact fresh early earlier 0 _ default .get log run unevicted present rfl also answers

end YamlDialects.Traffic
