import YamlDialects.Proofs.IndexCache.Locks

/-!
Where a snapshot comes from. Readers of a key see what was stored last, by a put or by the builder of a caller; a caller
gets what its own builder made or what readers see. An invalidation takes away what is stored but ends no builder: what a
running one makes is stored afterwards, in an entry made anew, and goes to whoever asks then.
-/

set_option autoImplicit false

namespace YamlDialects

def CacheEvent.asked? : CacheEvent → Option Bool
  | .asked anew => some anew
  | _ => none

def CacheLog.asks (log : CacheLog) : List (String × Bool) :=
  log.filterMap fun each => each.2.asked?.map (each.1, ·)

namespace CacheLog

theorem asks_append (first second : CacheLog) : asks (first ++ second) = first.asks ++ second.asks :=
  List.filterMap_append

theorem asks_of_map (key : String) (events : List CacheEvent) (others : ∀ event ∈ events, event.asked? = none) :
    asks (events.map (key, ·)) = [] := by
  refine List.filterMap_eq_nil_iff.mpr fun each member => ?_
  obtain ⟨event, inside, rfl⟩ := List.mem_map.mp member
  simp [others event inside]

end CacheLog

namespace IndexBuild

def hasStarted (build : IndexBuild) : Bool :=
  match build.phase with
  | .waiting => false
  | .locked => false
  | _ => true

structure Remains (build later : IndexBuild) : Prop where
  key : later.key = build.key
  cancelled : build.cancelled = true → later.cancelled = true
  result : ∀ result, build.result? = some result → later.result? = some result
  closed : build.isOpen = false → later.isOpen = false

theorem remains_refl (build : IndexBuild) : Remains build build :=
  ⟨rfl, id, fun _ => id, id⟩

theorem remains_trans (first second third : IndexBuild) (before : Remains first second) (after : Remains second third) :
    Remains first third :=
  ⟨after.key.trans before.key, fun cancelled => after.cancelled (before.cancelled cancelled),
    fun result found => after.result result (before.result result found), fun closed => after.closed (before.closed closed)⟩

theorem remains_of_open (build later : IndexBuild) (key : later.key = build.key) (cancelled : later.cancelled = build.cancelled)
    (waits : build.isOpen = true) : Remains build later := by
  refine ⟨key, fun isCancelled => cancelled.trans isCancelled, fun result found => ?_, fun closed => ?_⟩
  · unfold result? at found
    unfold isOpen at waits
    split at found
    · next ended => simp [ended] at waits
    · cases found
  · rw [waits] at closed
    cases closed

theorem acquire_remains (build : IndexBuild) (cache : IndexCache) (waiting : build.phase = .waiting) :
    Remains build (build.acquire cache).1 := by
  refine remains_of_open build _ ?_ ?_ (by rw [isOpen, waiting])
  all_goals
    unfold acquire
    split <;> rfl

theorem look_remains (build : IndexBuild) (cache : IndexCache) (locked : build.phase = .locked) :
    Remains build (build.look cache).1 := by
  refine remains_of_open build _ ?_ ?_ (by rw [isOpen, locked])
  all_goals
    unfold look
    split
    · rfl
    · split <;> rfl

theorem conclude_remains (now : Nat) (build : IndexBuild) (outcome : BuildOutcome) (cache : IndexCache)
    (running : build.phase = .running) : Remains build (build.conclude now outcome cache).1 := by
  refine remains_of_open build _ ?_ ?_ (by rw [isOpen, running])
  all_goals
    rcases Traffic.conclude_cases now build outcome cache with ⟨error, result⟩ | ⟨index, result⟩ <;> rw [result] <;> rfl

theorem at_return_unasked (build : IndexBuild) : ∀ event ∈ build.atReturn, event.asked? = none := by
  unfold atReturn
  split <;> simp [CacheEvent.asked?]

theorem at_look_unasked (build : IndexBuild) : ∀ event ∈ build.atLook, event.asked? = none := by
  unfold atLook
  split <;> simp [CacheEvent.asked?]

theorem at_conclusion_unasked (build : IndexBuild) : ∀ event ∈ build.atConclusion, event.asked? = none := by
  unfold atConclusion
  split <;> simp [CacheEvent.asked?]

theorem at_drop_unasked (build : IndexBuild) : ∀ event ∈ build.atDrop, event.asked? = none := by
  intro event member
  rw [Traffic.at_drop_abandoned build event member]
  rfl

end IndexBuild

namespace Traffic

open IndexCache IndexBuild

theorem start_key (now : Nat) (request : Request) (cache : IndexCache) : (IndexBuild.start now request cache).1.key = request.key := by
  rcases start_cases now request cache with ⟨_, result⟩ | ⟨_, _, _, _, _, _, _, result⟩ <;> rw [result]

inductive Callers (traffic next : Traffic) (events : CacheLog) : Prop where
  | same (unasked : events.asks = []) (builds : next.builds = traffic.builds)
  | fresh (request : Request) (build : IndexBuild) (asked : events.asks = [(request.key, request.anew)])
      (key : build.key = request.key) (builds : next.builds = traffic.builds ++ [build])
  | onward (before after : List IndexBuild) (build later : IndexBuild) (unasked : events.asks = [])
      (chosen : traffic.builds = before ++ build :: after) (builds : next.builds = before ++ later :: after)
      (remains : Remains build later)

theorem step_builds (traffic next : Traffic) (events : CacheLog) (step : Step traffic events next) :
    Callers traffic next events := by
  cases step with
  | get now key => exact .same rfl rfl
  | put now key index => exact .same rfl rfl
  | invalidate key => exact .same rfl rfl
  | evict now =>
      refine .same (List.filterMap_eq_nil_iff.mpr fun each member => ?_) rfl
      obtain ⟨entry, _, rfl⟩ := List.mem_map.mp member
      rfl
  | ask now request =>
      refine .fresh request _ ?_ (start_key now request traffic.cache) rfl
      exact congrArg ((request.key, request.anew) :: ·) (CacheLog.asks_of_map request.key _ (at_return_unasked _))
  | cancel before after build chosen => exact .onward before after build _ rfl chosen rfl ⟨rfl, fun _ => rfl, fun _ => id, id⟩
  | acquire before after build chosen waiting =>
      exact .onward before after build _ rfl chosen rfl (acquire_remains build traffic.cache waiting)
  | look before after build chosen locked =>
      exact .onward before after build _ (CacheLog.asks_of_map build.key _ (at_look_unasked _)) chosen rfl
        (look_remains build traffic.cache locked)
  | conclude now outcome before after build chosen running =>
      exact .onward before after build _ (CacheLog.asks_of_map build.key _ (at_conclusion_unasked _)) chosen rfl
        (conclude_remains now build outcome traffic.cache running)
  | drop before after build chosen waited =>
      exact .onward before after build _ (CacheLog.asks_of_map build.key _ (at_drop_unasked _)) chosen rfl
        (remains_of_open build _ rfl rfl waited)
  | discard before after build chosen alone =>
      refine .onward before after build _ rfl chosen rfl ⟨rfl, id, fun result found => ?_, fun _ => rfl⟩
      rw [result?, alone] at found
      cases found

theorem place_cases (before after : List IndexBuild) (build later each : IndexBuild) (caller : Nat)
    (found : (before ++ later :: after)[caller]? = some each) :
    (caller = before.length ∧ each = later) ∨ (caller ≠ before.length ∧ (before ++ build :: after)[caller]? = some each) := by
  rcases Nat.lt_trichotomy caller before.length with less | rfl | more
  · rw [List.getElem?_append_left less] at found ⊢
    exact .inr ⟨Nat.ne_of_lt less, found⟩
  · rw [List.getElem?_append_right (Nat.le_refl _), Nat.sub_self, List.getElem?_cons_zero] at found
    exact .inl ⟨rfl, (Option.some.inj found).symm⟩
  · obtain ⟨further, rfl⟩ := Nat.exists_eq_add_of_lt more
    refine .inr ⟨Nat.ne_of_gt more, ?_⟩
    rw [List.getElem?_append_right (by omega), show before.length + further + 1 - before.length = further + 1 by omega,
      List.getElem?_cons_succ] at found ⊢
    exact found

theorem step_remains (traffic next : Traffic) (events : CacheLog) (step : Step traffic events next) (caller : Nat)
    (build : IndexBuild) (present : traffic.builds[caller]? = some build) :
    ∃ later, next.builds[caller]? = some later ∧ Remains build later := by
  cases step_builds traffic next events step with
  | same unasked builds => exact ⟨build, by rw [builds, present], remains_refl build⟩
  | fresh request new asked key builds =>
      refine ⟨build, ?_, remains_refl build⟩
      rw [builds, List.getElem?_append_left (List.getElem?_eq_some_iff.mp present).1, present]
  | onward before after old later unasked chosen builds remains =>
      rw [chosen] at present
      rw [builds]
      rcases place_cases before after later old build caller present with ⟨rfl, rfl⟩ | ⟨_, elsewhere⟩
      · exact ⟨later, by simp, remains⟩
      · exact ⟨build, elsewhere, remains_refl build⟩

theorem run_remains (first last : Traffic) (log : CacheLog) (run : Run first log last) (caller : Nat) (build : IndexBuild)
    (present : first.builds[caller]? = some build) : ∃ later, last.builds[caller]? = some later ∧ Remains build later := by
  induction run with
  | here => exact ⟨build, present, remains_refl build⟩
  | step second third log events _ step ih =>
      obtain ⟨middle, found, early⟩ := ih
      obtain ⟨later, there, late⟩ := step_remains second third events step caller middle found
      exact ⟨later, there, remains_trans build middle later early late⟩

theorem run_asks (first last : Traffic) (log : CacheLog) (run : Run first log last) :
    last.builds.length = first.builds.length + log.asks.length ∧ ∀ caller build, first.builds.length ≤ caller →
      last.builds[caller]? = some build → ∃ anew, log.asks[caller - first.builds.length]? = some (build.key, anew) := by
  induction run with
  | here =>
      refine ⟨rfl, fun caller build new found => ?_⟩
      have bound := (List.getElem?_eq_some_iff.mp found).1
      omega
  | step second third log events _ step ih =>
      obtain ⟨count, calls⟩ := ih
      rw [CacheLog.asks_append]
      have earlier (caller : Nat) (build : IndexBuild) (new : first.builds.length ≤ caller)
          (found : second.builds[caller]? = some build) :
          ∃ anew, (log.asks ++ events.asks)[caller - first.builds.length]? = some (build.key, anew) := by
        obtain ⟨anew, asked⟩ := calls caller build new found
        exact ⟨anew, by rw [List.getElem?_append_left (List.getElem?_eq_some_iff.mp asked).1, asked]⟩
      cases step_builds second third events step with
      | same unasked builds =>
          rw [builds]
          exact ⟨by rw [unasked, List.append_nil, count], earlier⟩
      | fresh request new asked key builds =>
          rw [builds]
          refine ⟨by rw [asked, List.length_append, List.length_append, count, Nat.add_assoc]; rfl, fun caller build late found => ?_⟩
          rcases Nat.lt_or_ge caller second.builds.length with old | added
          · rw [List.getElem?_append_left old] at found
            exact earlier caller build late found
          · have bound := (List.getElem?_eq_some_iff.mp found).1
            rw [List.length_append, List.length_singleton] at bound
            obtain rfl : caller = second.builds.length := by omega
            rw [List.getElem?_append_right (Nat.le_refl _), Nat.sub_self, List.getElem?_cons_zero] at found
            refine ⟨request.anew, ?_⟩
            rw [← Option.some.inj found, key, count, Nat.add_sub_cancel_left, asked,
              List.getElem?_append_right (Nat.le_refl _), Nat.sub_self]
            rfl
      | onward before after old later unasked chosen builds remains =>
          refine ⟨by rw [unasked, List.append_nil, ← count, builds, chosen]; simp, fun caller build late found => ?_⟩
          rw [builds] at found
          rcases place_cases before after old later build caller found with ⟨rfl, rfl⟩ | ⟨_, elsewhere⟩
          · obtain ⟨anew, asked⟩ := earlier before.length old late (by rw [chosen]; simp)
            exact ⟨anew, by rw [remains.key]; exact asked⟩
          · exact earlier caller build late (by rw [chosen]; exact elsewhere)

inductive Source where
  | put
  | build (caller : Nat)

inductive Stores (key : String) (index : PropertyIndex) (traffic : Traffic) : Source → CacheLog → Traffic → Prop where
  | put (now : Nat) :
      Stores key index traffic .put [(key, .put index)] { traffic with cache := traffic.cache.put now key index }
  | build (now : Nat) (before after : List IndexBuild) (build : IndexBuild) (chosen : traffic.builds = before ++ build :: after)
      (own : build.key = key) (running : build.phase = .running) (active : build.cancelled = false) :
      Stores key index traffic (.build before.length) [(key, .installed index), (key, .returned (.ok index))]
        ⟨(build.finish (.ok index) (traffic.cache.put now key index)).2,
          before ++ (build.finish (.ok index) (traffic.cache.put now key index)).1 :: after⟩

theorem conclude_ok (now : Nat) (build : IndexBuild) (index : PropertyIndex) (cache : IndexCache)
    (active : build.cancelled = false) :
    build.conclude now { result := .ok index } cache = build.finish (.ok index) (cache.put now build.key index) := by
  simp [conclude, active]

theorem stores_step (key : String) (index : PropertyIndex) (source : Source) (traffic next : Traffic) (events : CacheLog)
    (stores : Stores key index traffic source events next) : Step traffic events next := by
  cases stores with
  | put now => exact .put traffic now key index
  | build now before after build chosen own running active =>
      subst own
      have step := Step.conclude traffic now { result := .ok index } before after build chosen running
      rw [conclude_ok now build index traffic.cache active] at step
      exact step

theorem conclude_stores (traffic : Traffic) (now : Nat) (outcome : BuildOutcome) (before after : List IndexBuild)
    (build : IndexBuild) (chosen : traffic.builds = before ++ build :: after) (running : build.phase = .running) :
    (∃ error, (build.conclude now outcome traffic.cache).1.phase = .finished (.error error)) ∨
      ∃ index, (build.conclude now outcome traffic.cache).1.phase = .finished (.ok index) ∧
        Stores build.key index traffic (.build before.length)
          ((build.conclude now outcome traffic.cache).1.atConclusion.map (build.key, ·))
          ⟨(build.conclude now outcome traffic.cache).2, before ++ (build.conclude now outcome traffic.cache).1 :: after⟩ := by
  unfold conclude
  split
  · exact .inl ⟨_, rfl⟩
  · next index ended =>
      split
      · exact .inl ⟨_, rfl⟩
      · next active =>
          simp only [Bool.or_eq_true, not_or, Bool.not_eq_true] at active
          exact .inr ⟨index, rfl, .build now before after build chosen rfl running active.1⟩

theorem left_of_map (own key : String) (events : List CacheEvent) (index : PropertyIndex)
    (left : CacheLog.left? (CacheLog.of (events.map (own, ·)) key) = some (some index)) :
    own = key ∧ CacheLog.left? events = some (some index) := by
  by_cases same : own = key
  · rw [same, CacheLog.of_own] at left
    exact ⟨same, left⟩
  · rw [CacheLog.of_other events key own same] at left
    cases left

theorem left_quiet (events : List CacheEvent) (index : PropertyIndex) (quiet : ∀ event ∈ events, event.left? = none) :
    CacheLog.left? events ≠ some (some index) := by
  simp [CacheLog.left_of_quiet events quiet]

theorem step_stores (traffic next : Traffic) (events : CacheLog) (step : Step traffic events next) (key : String)
    (index : PropertyIndex) (left : CacheLog.left? (events.of key) = some (some index)) :
    ∃ source, Stores key index traffic source events next := by
  cases step with
  | get now other => cases left
  | put now other stored =>
      obtain ⟨rfl, same⟩ := left_of_map other key [.put stored] index left
      obtain rfl : stored = index := Option.some.inj (Option.some.inj same)
      exact ⟨.put, .put now⟩
  | invalidate other =>
      obtain ⟨_, gone⟩ := left_of_map other key [.invalidated] index left
      cases gone
  | evict now =>
      obtain ⟨before, event, after, split, stored, _⟩ := (CacheLog.left_eq_some_iff _ _).mp left
      have evicted := (lost_evicted traffic.cache now key event (by rw [split]; simp)).1
      rw [evicted] at stored
      cases stored
  | ask now request =>
      have own := (left_of_map request.key key (_ :: _) index left).2
      exact absurd own (left_quiet _ index (List.forall_mem_cons.mpr ⟨rfl, at_return_quiet _⟩))
  | cancel before after build chosen => cases left
  | acquire before after build chosen waiting => cases left
  | look before after build chosen locked =>
      exact absurd (left_of_map build.key key _ index left).2 (left_quiet _ index (at_look_quiet _))
  | conclude now outcome before after build chosen running =>
      obtain ⟨rfl, own⟩ := left_of_map build.key key _ index left
      rcases conclude_stores traffic now outcome before after build chosen running with ⟨error, failed⟩ | ⟨other, ended, stores⟩
      · rw [atConclusion, failed] at own
        cases own
      · rw [atConclusion, ended] at own
        obtain rfl : other = index := Option.some.inj (Option.some.inj own)
        exact ⟨_, stores⟩
  | drop before after build chosen waited =>
      exact absurd (left_of_map build.key key _ index left).2 (left_quiet _ index (at_drop_quiet _))
  | discard before after build chosen alone => cases left

-- Readers of the key see what was stored from the source.
inductive Shows (first : Traffic) (key : String) (source : Source) (index : PropertyIndex) : CacheLog → Traffic → Prop where
  | stored (log events : CacheLog) (traffic next : Traffic) (run : Run first log traffic)
      (stores : Stores key index traffic source events next) : Shows first key source index (log ++ events) next
  | kept (log events : CacheLog) (traffic next : Traffic) (earlier : Shows first key source index log traffic)
      (step : Step traffic events next) (quiet : ∀ event ∈ events.of key, event.left? = none) :
      Shows first key source index (log ++ events) next

section

variable (first last : Traffic) (key : String) (source : Source) (index : PropertyIndex) (log : CacheLog)

theorem shows_run (shown : Shows first key source index log last) : Run first log last := by
  induction shown with
  | stored log events traffic next run stores => exact .step _ _ _ _ run (stores_step key index source traffic next events stores)
  | kept log events traffic next _ step _ ih => exact .step _ _ _ _ ih step

theorem stores_entry (traffic next : Traffic) (events : CacheLog) (stores : Stores key index traffic source events next) :
    ∃ entry, next.cache.entry? key = some entry ∧ entry.snapshot = some index ∧ 0 < entry.generation := by
  have put (now : Nat) : ∃ entry, entry? (traffic.cache.put now key index) key = some entry ∧ entry.snapshot = some index ∧
      0 < entry.generation := by
    rw [entry_put, if_pos rfl]
    exact ⟨_, rfl, rfl, Nat.succ_pos _⟩
  cases stores with
  | put now => exact put now
  | build now before after build chosen own running active =>
      rw [show (build.finish (.ok index) (traffic.cache.put now key index)).snd.entry? key =
        entry? (traffic.cache.put now key index) key from entry_of_entries _ _ rfl key]
      exact put now

theorem stores_snapshot (traffic next : Traffic) (events : CacheLog) (stores : Stores key index traffic source events next) :
    (next.cache.entry? key).bind (·.snapshot) = some index := by
  obtain ⟨entry, found, snapshot, _⟩ := stores_entry key source index traffic next events stores
  rw [found]
  exact snapshot

theorem run_shows (run : Run first log last) (missing : (first.cache.entry? key).bind (·.snapshot) = none)
    (seen : (last.cache.entry? key).bind (·.snapshot) = some index) : ∃ source, Shows first key source index log last := by
  induction run with
  | here =>
      rw [missing] at seen
      cases seen
  | step second third log events run step ih =>
      rw [change_snapshot _ _ _ (step_change second third events step key)] at seen
      cases left : CacheLog.left? (events.of key) with
      | none =>
          rw [left] at seen
          obtain ⟨source, shown⟩ := ih seen
          have quiet : ∀ event ∈ events.of key, event.left? = none :=
            List.filterMap_eq_nil_iff.mp (List.getLast?_eq_none_iff.mp left)
          exact ⟨source, .kept log events second third shown step quiet⟩
      | some content =>
          rw [left] at seen
          obtain ⟨source, stores⟩ := step_stores second third events step key index (left.trans (congrArg some seen))
          exact ⟨source, .stored log events second third run stores⟩

theorem shows_building (caller : Nat) (build : IndexBuild) (shown : Shows first key (.build caller) index log last)
    (present : first.builds[caller]? = some build) (started : build.hasStarted = true) :
    build.key = key ∧ build.isRunning = true ∧ build.cancelled = false := by
  induction shown with
  | kept log events traffic next _ _ _ ih => exact ih
  | stored log events traffic next run stores =>
      cases stores with
      | build now before after runner chosen own running active =>
          obtain ⟨later, found, remains⟩ := run_remains first traffic log run before.length build present
          rw [chosen, List.getElem?_append_right (Nat.le_refl _), Nat.sub_self, List.getElem?_cons_zero] at found
          obtain rfl := Option.some.inj found
          refine ⟨remains.key.symm.trans own, ?_, ?_⟩
          · cases phase : build.phase with
            | running => rw [isRunning, phase]
            | finished result =>
                have kept := remains.closed (by rw [isOpen, phase])
                rw [isOpen, running] at kept
                cases kept
            | dropped building =>
                have kept := remains.closed (by rw [isOpen, phase])
                rw [isOpen, running] at kept
                cases kept
            | waiting => simp [hasStarted, phase] at started
            | locked => simp [hasStarted, phase] at started
          · cases cancelled : build.cancelled with
            | false => rfl
            | true => exact (remains.cancelled cancelled).symm.trans active

end

end Traffic
end YamlDialects
