import YamlDialects.Proofs.IndexCache.SingleFlight

set_option autoImplicit false

namespace YamlDialects

-- What an event leaves for readers, if it changes that.
def CacheEvent.left? : CacheEvent → Option (Option PropertyIndex)
  | .put index => some (some index)
  | .installed index => some (some index)
  | .invalidated => some none
  | .evicted => some none
  | _ => none

namespace Traffic

open IndexCache

inductive Change (before after : Option CacheEntry) (events : List CacheEvent) : Prop where
  | kept (quiet : ∀ event ∈ events, event.left? = none) (same : after.map view = before.map view)
  | made (quiet : ∀ event ∈ events, event.left? = none) (missing : before = none) (entry : CacheEntry)
      (present : after = some entry) (empty : entry.snapshot = none)
  | stored (event : CacheEvent) (rest : List CacheEvent) (index : PropertyIndex) (entry : CacheEntry)
      (split : events = event :: rest) (stores : event.left? = some (some index))
      (quiet : ∀ each ∈ rest, each.left? = none) (present : after = some entry) (snapshot : entry.snapshot = some index)
      (lock : ∀ old, before = some old → entry.lock = old.lock)
  | removed (event : CacheEvent) (member : event ∈ events) (removals : ∀ each ∈ events, each.left? = some none)
      (gone : after = none)

theorem change_none (entry : Option CacheEntry) : Change entry entry [] :=
  .kept (by simp) rfl

theorem at_return_quiet (build : IndexBuild) : ∀ event ∈ build.atReturn, event.left? = none := by
  unfold IndexBuild.atReturn
  split <;> simp [CacheEvent.left?]

theorem at_look_quiet (build : IndexBuild) : ∀ event ∈ build.atLook, event.left? = none := by
  unfold IndexBuild.atLook
  split <;> simp [CacheEvent.left?]

theorem at_drop_quiet (build : IndexBuild) : ∀ event ∈ build.atDrop, event.left? = none := by
  intro event member
  rw [at_drop_abandoned build event member]
  rfl

theorem put_change (cache : IndexCache) (now : Nat) (key : String) (index : PropertyIndex) (event : CacheEvent)
    (rest : List CacheEvent) (stores : event.left? = some (some index)) (quiet : ∀ each ∈ rest, each.left? = none) :
    Change (cache.entry? key) ( entry? (cache.put now key index) key) (event :: rest) := by
  have put := entry_put cache now key key index
  rw [if_pos rfl] at put
  refine .stored event rest index _ rfl stores quiet put rfl ?_
  intro old found
  rw [ensure_of_entry cache now key old found]
  rfl

theorem lost_evicted (cache : IndexCache) (now : Nat) (key : String) (event : CacheEvent)
    (member : event ∈ CacheLog.of (lost cache now) key) : event = .evicted ∧ entry? (cache.evict now) key = none := by
  obtain ⟨each, inside, own⟩ := List.mem_filterMap.mp member
  obtain ⟨entry, listed, rfl⟩ := List.mem_map.mp inside
  split at own
  · next named =>
      have gone := (List.mem_filter.mp listed).2
      rw [named] at gone
      exact ⟨(Option.some.inj own).symm, by simpa [contains] using gone⟩
  · cases own

theorem evict_change (cache : IndexCache) (now : Nat) (key : String) :
    Change (cache.entry? key) ( entry? (cache.evict now) key) (CacheLog.of (lost cache now) key) := by
  cases events : CacheLog.of (lost cache now) key with
  | nil =>
      have calm : ∀ event ∈ CacheLog.of (lost cache now) key, event.isForeign = false := by simp [events]
      rw [(lost_calm cache now key calm).2]
      exact change_none _
  | cons event rest =>
      have evicted := lost_evicted cache now key
      rw [events] at evicted
      refine .removed event List.mem_cons_self ?_ (evicted event List.mem_cons_self).2
      intro each member
      rw [(evicted each member).1]
      rfl

theorem ensure_change (cache : IndexCache) (now : Nat) (key : String) (events : List CacheEvent)
    (quiet : ∀ event ∈ events, event.left? = none) :
    Change (cache.entry? key) ((cache.ensure now key).snd.entry? key) events := by
  cases found : cache.entry? key with
  | some entry =>
      rw [ensure_of_entry cache now key entry found, found]
      exact .kept quiet rfl
  | none =>
      refine .made quiet rfl _ (entry_ensure cache now key) ?_
      rw [(ensure_of_none cache now key found).1]
      rfl

theorem ask_change (cache : IndexCache) (now : Nat) (request : IndexBuild.Request) :
    Change (cache.entry? request.key) ((IndexBuild.start now request cache).snd.entry? request.key)
      (.asked request.anew :: (IndexBuild.start now request cache).1.atReturn) := by
  have quiet : ∀ event ∈ CacheEvent.asked request.anew :: (IndexBuild.start now request cache).1.atReturn,
      event.left? = none := by
    intro event member
    rcases List.mem_cons.mp member with rfl | returned
    · rfl
    · exact at_return_quiet _ event returned
  rcases start_cases now request cache with ⟨_, result⟩ | ⟨index, later, snapshot, _, lock, shown, generation, result⟩
  · rw [show (IndexBuild.start now request cache).2 = _ from congrArg Prod.snd result]
    exact ensure_change cache now request.key _ quiet
  · rw [show (IndexBuild.start now request cache).2 = _ from congrArg Prod.snd result,
      entry_update _ request.key request.key _ later (entry_ensure cache now request.key), if_pos rfl]
    cases found : cache.entry? request.key with
    | some entry =>
        rw [ensure_of_entry cache now request.key entry found] at snapshot lock generation
        dsimp only at snapshot lock generation
        refine .kept quiet ?_
        rw [Option.map_some, Option.map_some, view, view, shown, lock, generation, snapshot]
    | none =>
        rw [(ensure_of_none cache now request.key found).1] at snapshot
        cases snapshot

theorem conclude_change (cache : IndexCache) (now : Nat) (build : IndexBuild) (outcome : BuildOutcome) :
    Change (cache.entry? build.key) ((build.conclude now outcome cache).snd.entry? build.key)
      (build.conclude now outcome cache).1.atConclusion := by
  rcases conclude_cases now build outcome cache with ⟨error, result⟩ | ⟨index, result⟩
  · rw [result]
    exact .kept (by simp [IndexBuild.finish, IndexBuild.atConclusion, CacheEvent.left?])
      (congrArg (Option.map view) (entry_of_entries _ cache rfl build.key))
  · rw [result, show (build.finish (.ok index) (cache.put now build.key index)).snd.entry? build.key =
      entry? (cache.put now build.key index) build.key from entry_of_entries _ _ rfl build.key]
    exact put_change cache now build.key index (.installed index) [.returned (.ok index)] rfl (by simp [CacheEvent.left?])

theorem own_change (cache next : IndexCache) (own key : String) (events : List CacheEvent)
    (here : Change (cache.entry? own) (next.entry? own) events)
    (elsewhere : key ≠ own → next.entry? key = cache.entry? key) :
    Change (cache.entry? key) (next.entry? key) (CacheLog.of (events.map (own, ·)) key) := by
  by_cases same : key = own
  · rw [same, CacheLog.of_own]
    exact here
  · rw [CacheLog.of_other events key own (Ne.symm same), elsewhere same]
    exact change_none _

theorem step_change (traffic next : Traffic) (events : CacheLog) (step : Step traffic events next) (key : String) :
    Change (traffic.cache.entry? key) (next.cache.entry? key) (events.of key) := by
  cases step with
  | get now other =>
      exact .kept (by simp [CacheLog.of]) (view_get traffic.cache now other key)
  | put now other index =>
      refine own_change traffic.cache _ other key [.put index] ?_ ?_
      · exact put_change traffic.cache now other index (.put index) [] rfl (by simp)
      · intro different
        rw [entry_put, if_neg different]
  | invalidate other =>
      refine own_change traffic.cache _ other key [.invalidated] ?_ ?_
      · exact .removed .invalidated List.mem_cons_self (by simp [CacheEvent.left?]) (by rw [entry_invalidate, if_pos rfl])
      · intro different
        rw [entry_invalidate, if_neg different]
  | evict now => exact evict_change traffic.cache now key
  | ask now request =>
      exact own_change traffic.cache _ request.key key _ (ask_change traffic.cache now request)
        (entry_start_other traffic.cache now request key)
  | cancel before after build chosen => exact change_none _
  | acquire before after build chosen waiting =>
      rw [entry_of_entries _ _ (acquire_continues build traffic.cache waiting).2.2]
      exact change_none _
  | look before after build chosen locked =>
      have entries := (look_continues build traffic.cache locked).2
      refine own_change traffic.cache _ build.key key _ (.kept (at_look_quiet _) ?_) ?_
      · rw [entry_of_entries _ _ entries]
      · exact fun _ => entry_of_entries _ _ entries key
  | conclude now outcome before after build chosen running =>
      exact own_change traffic.cache _ build.key key _ (conclude_change traffic.cache now build outcome)
        (entry_conclude_other traffic.cache now build outcome key)
  | drop before after build chosen waited =>
      have entries := entry_of_entries _ traffic.cache (drop_entries build traffic.cache)
      refine own_change traffic.cache _ build.key key _ (.kept (at_drop_quiet _) ?_) fun _ => entries key
      rw [entries]
  | discard before after build chosen alone => exact change_none _

end Traffic

theorem IndexCache.get_snapshot (cache : IndexCache) (now : Nat) (key : String) :
    (cache.get now key).1 = (cache.entry? key).bind (·.snapshot) := by
  unfold get
  cases cache.entry? key <;> rfl

def CacheLog.left? (events : List CacheEvent) : Option (Option PropertyIndex) :=
  (events.filterMap CacheEvent.left?).getLast?

namespace CacheLog

theorem left_append (first second : List CacheEvent) :
    left? (first ++ second) = (left? second).or (left? first) := by
  rw [left?, List.filterMap_append, List.getLast?_append]
  rfl

theorem left_of_quiet (events : List CacheEvent) (quiet : ∀ event ∈ events, event.left? = none) :
    left? events = none := by
  rw [left?, List.filterMap_eq_nil_iff.mpr quiet]
  rfl

theorem left_eq_some_iff (events : List CacheEvent) (content : Option PropertyIndex) :
    left? events = some content ↔ ∃ before event after, events = before ++ event :: after ∧
      event.left? = some content ∧ ∀ later ∈ after, later.left? = none := by
  rw [left?, List.getLast?_filterMap, List.findSome?_eq_some_iff]
  constructor
  · rintro ⟨after, event, before, split, left, quiet⟩
    refine ⟨before.reverse, event, after.reverse, ?_, left, fun later member => quiet later (List.mem_reverse.mp member)⟩
    rw [← List.reverse_reverse events, split]
    simp
  · rintro ⟨before, event, after, rfl, left, quiet⟩
    exact ⟨after.reverse, event, before.reverse, by simp, left, fun later member => quiet later (List.mem_reverse.mp member)⟩

end CacheLog

namespace Traffic

open IndexCache

theorem change_snapshot (before after : Option CacheEntry) (events : List CacheEvent) (change : Change before after events) :
    after.bind (·.snapshot) = (CacheLog.left? events).getD (before.bind (·.snapshot)) := by
  cases change with
  | kept quiet same =>
      have snapshots := congrArg (Option.bind · fun content => content.1) same
      rw [CacheLog.left_of_quiet events quiet]
      simpa [Option.bind_map, Function.comp_def, view] using snapshots
  | made quiet missing entry present empty =>
      rw [CacheLog.left_of_quiet events quiet, missing, present]
      exact empty
  | stored event rest index entry split stores quiet present snapshot =>
      have left := (CacheLog.left_eq_some_iff events (some index)).mpr ⟨[], event, rest, split, stores, quiet⟩
      rw [left, present]
      exact snapshot
  | removed event member removals gone =>
      have left : CacheLog.left? events = some none := by
        rw [CacheLog.left?, List.getLast?_filterMap]
        cases first : events.reverse with
        | nil => simp [List.reverse_eq_nil_iff.mp first] at member
        | cons last rest =>
            have removal := removals last (List.mem_reverse.mp (by rw [first]; exact List.mem_cons_self))
            rw [List.findSome?_cons, removal]
      rw [left, gone]
      rfl

theorem run_snapshot (first last : Traffic) (log : CacheLog) (run : Run first log last) (key : String) :
    (last.cache.entry? key).bind (·.snapshot) =
      (CacheLog.left? (log.of key)).getD ((first.cache.entry? key).bind (·.snapshot)) := by
  induction run with
  | here => rfl
  | step second third log events _ step ih =>
      rw [change_snapshot _ _ _ (step_change second third events step key), ih, CacheLog.of_append, CacheLog.left_append,
        Option.getD_or]

theorem step_read (traffic next : Traffic) (events : CacheLog) (step : Step traffic events next) (key : String)
    (quiet : ∀ event ∈ events.of key, event.left? = none) (now later : Nat) :
    (next.cache.get later key).1 = (traffic.cache.get now key).1 := by
  rw [get_snapshot, get_snapshot, change_snapshot _ _ _ (step_change traffic next events step key),
    CacheLog.left_of_quiet _ quiet]
  rfl

theorem failed_quiet (traffic next : Traffic) (events : CacheLog) (step : Step traffic events next) (other : String)
    (error : IndexError) (failed : (other, .returned (.error error)) ∈ events) :
    ∀ each ∈ events, each.2.left? = none := by
  have mapped : ∀ (key : String) (events : List CacheEvent), (∀ event ∈ events, event.left? = none) →
      ∀ each ∈ events.map (key, ·), each.2.left? = none := by
    intro key events quiet each member
    obtain ⟨event, inside, rfl⟩ := List.mem_map.mp member
    exact quiet event inside
  cases step with
  | get now key => cases failed
  | put now key index => simp at failed
  | invalidate key => simp at failed
  | evict now => simp [lost] at failed
  | ask now request =>
      intro each member
      rcases List.mem_cons.mp member with rfl | returned
      · rfl
      · exact mapped _ _ (at_return_quiet _) each returned
  | cancel before after build chosen => cases failed
  | acquire before after build chosen waiting => cases failed
  | look before after build chosen locked => exact mapped _ _ (at_look_quiet _)
  | conclude now outcome before after build chosen running =>
      rcases conclude_cases now build outcome traffic.cache with ⟨reason, result⟩ | ⟨index, result⟩
      · rw [result]
        simp [IndexBuild.finish, IndexBuild.atConclusion, CacheEvent.left?]
      · rw [result] at failed
        simp [IndexBuild.finish, IndexBuild.atConclusion] at failed
  | drop before after build chosen waited => exact mapped _ _ (at_drop_quiet _)
  | discard before after build chosen alone => cases failed

theorem reads_latest_snapshot (idleTime : Nat) (log : CacheLog) (traffic : Traffic)
    (run : Run ⟨{ idleTime }, []⟩ log traffic) (now : Nat) (key : String) :
    (∀ index, (traffic.cache.get now key).1 = some index ↔ ∃ before event after,
      log.of key = before ++ event :: after ∧ (event = .put index ∨ event = .installed index) ∧
        ∀ later ∈ after, later.left? = none) ∧
    ∀ events next, Step traffic events next →
      (∀ event ∈ events.of key, event.left? = none) ∨ (∃ other error, (other, .returned (.error error)) ∈ events) →
      ∀ later, (next.cache.get later key).1 = (traffic.cache.get now key).1 := by
  refine ⟨?_, ?_⟩
  · intro index
    have stores : ∀ event : CacheEvent, event.left? = some (some index) ↔ event = .put index ∨ event = .installed index := by
      intro event
      cases event <;> simp [CacheEvent.left?]
    simp only [← stores]
    rw [← CacheLog.left_eq_some_iff, get_snapshot, run_snapshot _ traffic log run key]
    cases CacheLog.left? (log.of key) with
    | none => simp [ entry?]
    | some content => simp
  · rintro events next step (quiet | ⟨other, error, failed⟩) later
    · exact step_read traffic next events step key quiet now later
    · have silent := failed_quiet traffic next events step other error failed
      refine step_read traffic next events step key ?_ now later
      intro event member
      obtain ⟨each, inside, own⟩ := List.mem_filterMap.mp member
      split at own
      · rw [← Option.some.inj own]
        exact silent each inside
      · cases own

-- The entry goes while its snapshot is built; what the build installs afterwards is read.
theorem reads_latest_snapshot_late : ∃ log last, Run ⟨{ idleTime := 1000 }, []⟩ log last ∧
    log.of "project" = [.put {}, .asked true, .started, .invalidated, .installed ⟨[("a", {})]⟩, .returned (.ok ⟨[("a", {})]⟩)] ∧
    (last.cache.get 5 "project").1 = some ⟨[("a", {})]⟩ := by
  have stored := Run.step _ _ _ _ .here (.put ⟨{ idleTime := 1000 }, []⟩ 0 "project" {})
  have asked := Run.step _ _ _ _ stored (.ask _ 1 ⟨"project", true, false⟩)
  have locked := Run.step _ _ _ _ asked (.acquire _ [] [] _ rfl rfl)
  have started := Run.step _ _ _ _ locked (.look _ [] [] _ rfl rfl)
  have gone := Run.step _ _ _ _ started (.invalidate _ "project")
  have installed := Run.step _ _ _ _ gone (.conclude _ 4 { result := .ok ⟨[("a", {})]⟩ } [] [] _ rfl rfl)
  refine ⟨_, _, installed, rfl, ?_⟩
  refine ((reads_latest_snapshot 1000 _ _ installed 5 "project").1 _).mpr ?_
  exact ⟨[.put {}, .asked true, .started, .invalidated], .installed ⟨[("a", {})]⟩, [.returned (.ok ⟨[("a", {})]⟩)], rfl,
    .inr rfl, by simp [CacheEvent.left?]⟩

end Traffic
end YamlDialects
