import YamlDialects.Proofs.IndexCache.Traffic

set_option autoImplicit false

namespace YamlDialects

namespace CacheLog

theorem of_append (first second : CacheLog) (key : String) : of (first ++ second) key = first.of key ++ second.of key :=
  List.filterMap_append

theorem of_own (events : List CacheEvent) (key : String) : of (events.map (key, ·)) key = events := by
  simp only [of, List.filterMap_map, Function.comp_def, if_true, List.filterMap_some]

theorem of_other (events : List CacheEvent) (key other : String) (different : other ≠ key) :
    of (events.map (other, ·)) key = [] := by
  rw [of, List.filterMap_map, List.filterMap_eq_nil_iff]
  exact fun event _ => if_neg different

end CacheLog

-- What touches an entry from outside: everything but the steps of callers that take what is there.
def CacheEvent.isForeign : CacheEvent → Bool
  | .put _ => true
  | .invalidated => true
  | .evicted => true
  | .asked anew => anew
  | _ => false

def CacheEvent.installed? : CacheEvent → Option PropertyIndex
  | .installed index => some index
  | _ => none

namespace Traffic

open IndexCache

-- No snapshot yet: every caller in progress waits for the lock of the entry and knows its generation.
structure Vacant (key : String) (traffic : Traffic) : Prop where
  empty : ∀ entry, traffic.cache.entry? key = some entry → entry.snapshot = none
  callers : ∀ build ∈ traffic.builds, build.key = key → build.isOpen = true →
    ∃ entry, traffic.cache.entry? key = some entry ∧ build.lock = entry.lock ∧ build.seen = entry.generation

-- The snapshot is there: every caller in progress will find that it is newer than what it knows.
structure Filled (key : String) (index : PropertyIndex) (traffic : Traffic) : Prop where
  entry : ∃ entry, traffic.cache.entry? key = some entry ∧ entry.snapshot = some index ∧
    ∀ build ∈ traffic.builds, build.key = key → build.isOpen = true →
      build.seen < entry.generation ∧ build.phase ≠ .running

structure InstalledOnce (index : PropertyIndex) (events : List CacheEvent) : Prop where
  split : ∃ before after, events = before ++ .installed index :: after ∧ (∀ other, .installed other ∉ before) ∧
    (∀ other, .installed other ∉ after) ∧ .started ∉ after
  returned : ∀ other, .returned (.ok other) ∈ events → other = index

structure Unserved (events : List CacheEvent) : Prop where
  uninstalled : ∀ index, .installed index ∉ events
  unreturned : ∀ index, .returned (.ok index) ∉ events

inductive Flight (key : String) (events : List CacheEvent) (traffic : Traffic) : Prop where
  | waits (unserved : Unserved events) (vacant : Vacant key traffic)
  | served (index : PropertyIndex) (once : InstalledOnce index events) (filled : Filled key index traffic)

theorem unserved_append (first second : List CacheEvent) (before : Unserved first) (after : Unserved second) :
    Unserved (first ++ second) := by
  refine ⟨?_, ?_⟩
  · intro index member
    rcases List.mem_append.mp member with early | late
    · exact before.uninstalled index early
    · exact after.uninstalled index late
  · intro index member
    rcases List.mem_append.mp member with early | late
    · exact before.unreturned index early
    · exact after.unreturned index late

theorem installed_once_append (index : PropertyIndex) (events more : List CacheEvent) (once : InstalledOnce index events)
    (quiet : ∀ other, .installed other ∉ more) (idle : .started ∉ more)
    (same : ∀ other, .returned (.ok other) ∈ more → other = index) : InstalledOnce index (events ++ more) := by
  obtain ⟨⟨before, after, split, clear, single, calm⟩, returned⟩ := once
  refine ⟨⟨before, after ++ more, by simp [split], clear, ?_, ?_⟩, ?_⟩
  · intro other member
    rcases List.mem_append.mp member with early | late
    · exact single other early
    · exact quiet other late
  · intro member
    rcases List.mem_append.mp member with early | late
    · exact calm early
    · exact idle late
  · intro other member
    rcases List.mem_append.mp member with early | late
    · exact returned other early
    · exact same other late

theorem installed_once_first (index : PropertyIndex) (events : List CacheEvent) (unserved : Unserved events) :
    InstalledOnce index (events ++ [.installed index, .returned (.ok index)]) := by
  refine ⟨⟨events, [.returned (.ok index)], rfl, unserved.uninstalled, by simp, by simp⟩, ?_⟩
  intro other member
  rcases List.mem_append.mp member with early | late
  · exact absurd early (unserved.unreturned other)
  · simpa using late

-- What callers know of an entry. An access changes its deadline only.
def view (entry : CacheEntry) : Option PropertyIndex × Nat × Nat :=
  (entry.snapshot, entry.generation, entry.lock)

theorem view_get (cache : IndexCache) (now : Nat) (key other : String) :
    ((cache.get now key).snd.entry? other).map view = (cache.entry? other).map view := by
  rw [entry_get]
  by_cases same : other = key
  · rw [if_pos same, same, Option.map_map]
    rfl
  · rw [if_neg same]

structure Onward (key : String) (traffic next : Traffic) : Prop where
  callers : ∀ build ∈ next.builds, build.key = key → build.isOpen = true →
    ∃ old ∈ traffic.builds, old.key = key ∧ old.isOpen = true ∧ build.lock = old.lock ∧ build.seen = old.seen
  view : (next.cache.entry? key).map view = (traffic.cache.entry? key).map view

theorem view_of_entry (key : String) (traffic next : Traffic) (onward : Onward key traffic next) (entry : CacheEntry)
    (found : traffic.cache.entry? key = some entry) : ∃ later, next.cache.entry? key = some later ∧
      later.snapshot = entry.snapshot ∧ later.generation = entry.generation ∧ later.lock = entry.lock := by
  have same := onward.view
  rw [found, Option.map_some, Option.map_eq_some_iff] at same
  obtain ⟨later, present, views⟩ := same
  simp only [view, Prod.mk.injEq] at views
  exact ⟨later, present, views.1, views.2.1, views.2.2⟩

theorem vacant_onward (key : String) (traffic next : Traffic) (onward : Onward key traffic next)
    (vacant : Vacant key traffic) : Vacant key next := by
  refine ⟨?_, ?_⟩
  · intro entry found
    have same := onward.view
    rw [found, Option.map_some, eq_comm, Option.map_eq_some_iff] at same
    obtain ⟨old, present, views⟩ := same
    simp only [view, Prod.mk.injEq] at views
    rw [← views.1]
    exact vacant.empty old present
  · intro build member named unfinished
    obtain ⟨old, before, oldNamed, wasUnfinished, lock, seen⟩ := onward.callers build member named unfinished
    obtain ⟨entry, found, oldLock, oldSeen⟩ := vacant.callers old before oldNamed wasUnfinished
    obtain ⟨later, present, _, generation, laterLock⟩ := view_of_entry key traffic next onward entry found
    exact ⟨later, present, by rw [lock, oldLock, laterLock], by rw [seen, oldSeen, generation]⟩

theorem filled_onward (key : String) (index : PropertyIndex) (traffic next : Traffic) (onward : Onward key traffic next)
    (idle : ∀ build ∈ next.builds, build.key = key → build.phase = .running →
      ∃ old ∈ traffic.builds, old.key = key ∧ old.phase = .running)
    (filled : Filled key index traffic) : Filled key index next := by
  obtain ⟨entry, found, snapshot, callers⟩ := filled.entry
  obtain ⟨later, present, laterSnapshot, generation, _⟩ := view_of_entry key traffic next onward entry found
  refine ⟨later, present, laterSnapshot.trans snapshot, ?_⟩
  intro build member named unfinished
  obtain ⟨old, before, oldNamed, wasUnfinished, _, seen⟩ := onward.callers build member named unfinished
  refine ⟨?_, ?_⟩
  · rw [seen, generation]
    exact (callers old before oldNamed wasUnfinished).1
  · intro running
    obtain ⟨runner, runs, own, wasRunning⟩ := idle build member named running
    exact (callers runner runs own (by rw [IndexBuild.isOpen, wasRunning])).2 wasRunning

theorem flight_onward (key : String) (events : List CacheEvent) (traffic next : Traffic) (onward : Onward key traffic next)
    (idle : ∀ build ∈ next.builds, build.key = key → build.phase = .running →
      ∃ old ∈ traffic.builds, old.key = key ∧ old.phase = .running)
    (flight : Flight key events traffic) : Flight key events next := by
  cases flight with
  | waits unserved vacant => exact .waits unserved (vacant_onward key traffic next onward vacant)
  | served index once filled => exact .served index once (filled_onward key index traffic next onward idle filled)

theorem flight_cache (key : String) (events : List CacheEvent) (traffic : Traffic) (cache : IndexCache)
    (same : (cache.entry? key).map view = (traffic.cache.entry? key).map view) (flight : Flight key events traffic) :
    Flight key events { traffic with cache } := by
  refine flight_onward key events traffic _ ⟨?_, same⟩ ?_ flight
  · intro build member named unfinished
    exact ⟨build, member, named, unfinished, rfl, rfl⟩
  · intro build member named running
    exact ⟨build, member, named, running⟩

theorem flight_silent (key : String) (events more : List CacheEvent) (traffic : Traffic)
    (silent : ∀ event ∈ more, event = .abandoned) (flight : Flight key events traffic) :
    Flight key (events ++ more) traffic := by
  have absent (event : CacheEvent) (other : event ≠ .abandoned) : event ∉ more := fun member => other (silent event member)
  cases flight with
  | waits unserved vacant =>
      exact .waits (unserved_append _ _ unserved ⟨fun _ => absent _ (by simp), fun _ => absent _ (by simp)⟩) vacant
  | served index once filled =>
      exact .served index (installed_once_append index events more once (fun _ => absent _ (by simp)) (absent _ (by simp))
        (fun _ member => absurd member (absent _ (by simp)))) filled

structure Continues (build next : IndexBuild) : Prop where
  key : next.key = build.key
  lock : next.lock = build.lock
  seen : next.seen = build.seen
  unfinished : next.isOpen = true → build.isOpen = true

theorem callers_place (key : String) (traffic : Traffic) (before after : List IndexBuild) (build next : IndexBuild)
    (chosen : traffic.builds = before ++ build :: after) (continues : Continues build next) :
    ∀ each ∈ before ++ next :: after, each.key = key → each.isOpen = true →
      ∃ old ∈ traffic.builds, old.key = key ∧ old.isOpen = true ∧ each.lock = old.lock ∧ each.seen = old.seen := by
  intro each member own unfinished
  rw [chosen]
  simp only [List.mem_append, List.mem_cons] at member ⊢
  rcases member with early | rfl | late
  · exact ⟨each, .inl early, own, unfinished, rfl, rfl⟩
  · exact ⟨build, .inr (.inl rfl), continues.key ▸ own, continues.unfinished unfinished, continues.lock, continues.seen⟩
  · exact ⟨each, .inr (.inr late), own, unfinished, rfl, rfl⟩

theorem onward_place (key : String) (traffic : Traffic) (before after : List IndexBuild) (build next : IndexBuild)
    (cache : IndexCache) (chosen : traffic.builds = before ++ build :: after) (continues : Continues build next)
    (same : (cache.entry? key).map view = (traffic.cache.entry? key).map view) :
    Onward key traffic ⟨cache, before ++ next :: after⟩ :=
  ⟨callers_place key traffic before after build next chosen continues, same⟩

theorem idle_place (key : String) (traffic : Traffic) (before after : List IndexBuild) (build next : IndexBuild)
    (cache : IndexCache) (chosen : traffic.builds = before ++ build :: after)
    (idle : next.key = key → next.phase = .running → build.key = key ∧ build.phase = .running) :
    ∀ each ∈ (Traffic.mk cache (before ++ next :: after)).builds, each.key = key → each.phase = .running →
      ∃ old ∈ traffic.builds, old.key = key ∧ old.phase = .running := by
  intro each member own running
  rw [chosen]
  simp only [List.mem_append, List.mem_cons] at member ⊢
  rcases member with early | rfl | late
  · exact ⟨each, .inl early, own, running⟩
  · exact ⟨build, .inr (.inl rfl), idle own running⟩
  · exact ⟨each, .inr (.inr late), own, running⟩

theorem flight_place (key : String) (events : List CacheEvent) (traffic : Traffic) (before after : List IndexBuild)
    (build next : IndexBuild) (cache : IndexCache) (chosen : traffic.builds = before ++ build :: after)
    (continues : Continues build next) (same : (cache.entry? key).map view = (traffic.cache.entry? key).map view)
    (idle : next.key = key → next.phase = .running → build.key = key ∧ build.phase = .running)
    (flight : Flight key events traffic) : Flight key events ⟨cache, before ++ next :: after⟩ :=
  flight_onward key events traffic _ (onward_place key traffic before after build next cache chosen continues same)
    (idle_place key traffic before after build next cache chosen idle) flight

theorem acquire_continues (build : IndexBuild) (cache : IndexCache) (waiting : build.phase = .waiting) :
    Continues build (build.acquire cache).1 ∧ (build.acquire cache).1.phase ≠ .running ∧
      (build.acquire cache).2.entries = cache.entries := by
  have unfinished : build.isOpen = true := by rw [IndexBuild.isOpen, waiting]
  unfold IndexBuild.acquire
  split
  · exact ⟨⟨rfl, rfl, rfl, fun _ => unfinished⟩, by simp [waiting], rfl⟩
  · exact ⟨⟨rfl, rfl, rfl, fun _ => unfinished⟩, by simp, rfl⟩

theorem look_continues (build : IndexBuild) (cache : IndexCache) (locked : build.phase = .locked) :
    Continues build (build.look cache).1 ∧ (build.look cache).2.entries = cache.entries := by
  have unfinished : build.isOpen = true := by rw [IndexBuild.isOpen, locked]
  unfold IndexBuild.look
  split
  · exact ⟨⟨rfl, rfl, rfl, fun _ => unfinished⟩, rfl⟩
  · split
    · exact ⟨⟨rfl, rfl, rfl, fun _ => unfinished⟩, rfl⟩
    · exact ⟨⟨rfl, rfl, rfl, fun _ => unfinished⟩, rfl⟩

theorem drop_entries (build : IndexBuild) (cache : IndexCache) : (build.drop cache).2.entries = cache.entries := by
  unfold IndexBuild.drop
  split <;> rfl

theorem at_drop_abandoned (build : IndexBuild) : ∀ event ∈ build.atDrop, event = .abandoned := by
  unfold IndexBuild.atDrop
  split <;> simp

theorem conclude_cases (now : Nat) (build : IndexBuild) (outcome : BuildOutcome) (cache : IndexCache) :
    (∃ error, build.conclude now outcome cache = build.finish (.error error) cache) ∨
    ∃ index, build.conclude now outcome cache = build.finish (.ok index) (cache.put now build.key index) := by
  unfold IndexBuild.conclude
  split
  · exact .inl ⟨_, rfl⟩
  · split
    · exact .inl ⟨_, rfl⟩
    · exact .inr ⟨_, rfl⟩

theorem entry_conclude_other (cache : IndexCache) (now : Nat) (build : IndexBuild) (outcome : BuildOutcome) (key : String)
    (different : key ≠ build.key) : (build.conclude now outcome cache).snd.entry? key = cache.entry? key := by
  rcases conclude_cases now build outcome cache with ⟨error, result⟩ | ⟨index, result⟩
  · rw [result]
    exact entry_of_entries _ cache rfl key
  · rw [result, show (build.finish (.ok index) (cache.put now build.key index)).snd.entry? key =
      entry? (cache.put now build.key index) key from entry_of_entries _ _ rfl key, entry_put, if_neg different]

theorem conclude_continues (now : Nat) (build : IndexBuild) (outcome : BuildOutcome) (cache : IndexCache)
    (running : build.phase = .running) : Continues build (build.conclude now outcome cache).1 := by
  have unfinished : build.isOpen = true := by rw [IndexBuild.isOpen, running]
  rcases conclude_cases now build outcome cache with ⟨error, result⟩ | ⟨index, result⟩
  · rw [result]
    exact ⟨rfl, rfl, rfl, fun _ => unfinished⟩
  · rw [result]
    exact ⟨rfl, rfl, rfl, fun _ => unfinished⟩

section Own

variable (key : String) (events : List CacheEvent) (traffic : Traffic) (before after : List IndexBuild)
  (build : IndexBuild)

theorem look_of_vacant (chosen : traffic.builds = before ++ build :: after) (locked : build.phase = .locked)
    (named : build.key = key) (vacant : Vacant key traffic) :
    build.look traffic.cache = build.finish (.error .cancelled) traffic.cache ∨
      build.look traffic.cache = ({ build with phase := .running }, traffic.cache) := by
  obtain ⟨entry, found, _, seen⟩ := vacant.callers build (by rw [chosen]; simp) named (by rw [IndexBuild.isOpen, locked])
  have none_ : build.newer? traffic.cache = none := by
    rw [IndexBuild.newer?, named, found]
    simp [seen]
  unfold IndexBuild.look
  rw [none_]
  by_cases cancelled : build.cancelled = true
  · exact .inl (by simp [cancelled])
  · exact .inr (by simp [cancelled])

theorem look_of_filled (index : PropertyIndex) (chosen : traffic.builds = before ++ build :: after)
    (locked : build.phase = .locked) (named : build.key = key) (filled : Filled key index traffic) :
    build.look traffic.cache = build.finish (.ok index) traffic.cache := by
  obtain ⟨entry, found, snapshot, callers⟩ := filled.entry
  have seen := (callers build (by rw [chosen]; simp) named (by rw [IndexBuild.isOpen, locked])).1
  have newer : build.newer? traffic.cache = some index := by
    rw [IndexBuild.newer?, named, found]
    simp [seen, snapshot]
  rw [IndexBuild.look, newer]

theorem flight_look (chosen : traffic.builds = before ++ build :: after) (locked : build.phase = .locked)
    (named : build.key = key) (flight : Flight key events traffic) :
    Flight key (events ++ (build.look traffic.cache).1.atLook)
      ⟨(build.look traffic.cache).2, before ++ (build.look traffic.cache).1 :: after⟩ := by
  obtain ⟨continues, entries⟩ := look_continues build traffic.cache locked
  have onward := onward_place key traffic before after build _ _ chosen continues
    (by rw [entry_of_entries _ _ entries])
  cases flight with
  | waits unserved vacant =>
      refine .waits (unserved_append _ _ unserved ?_) (vacant_onward key traffic _ onward vacant)
      rcases look_of_vacant key traffic before after build chosen locked named vacant with result | result
      · rw [result]
        exact ⟨by simp [IndexBuild.finish, IndexBuild.atLook], by simp [IndexBuild.finish, IndexBuild.atLook]⟩
      · rw [result]
        exact ⟨by simp [IndexBuild.atLook], by simp [IndexBuild.atLook]⟩
  | served index once filled =>
      have result := look_of_filled key traffic before after build index chosen locked named filled
      rw [result] at onward ⊢
      refine .served index (installed_once_append index events _ once (by simp [IndexBuild.finish, IndexBuild.atLook])
        (by simp [IndexBuild.finish, IndexBuild.atLook]) (by simp [IndexBuild.finish, IndexBuild.atLook])) ?_
      exact filled_onward key index traffic _ onward
        (idle_place key traffic before after build _ _ chosen (by simp [IndexBuild.finish])) filled

theorem filled_of_install (now : Nat) (index : PropertyIndex) (chosen : traffic.builds = before ++ build :: after)
    (running : build.phase = .running) (named : build.key = key) (orderly : Orderly traffic)
    (vacant : Vacant key traffic) :
    Filled key index ⟨(build.finish (.ok index) (traffic.cache.put now key index)).2,
      before ++ (build.finish (.ok index) (traffic.cache.put now key index)).1 :: after⟩ := by
  obtain ⟨entry, found, lock, _⟩ := vacant.callers build (by rw [chosen]; simp) named (by rw [IndexBuild.isOpen, running])
  have alone := holder_alone traffic before after build chosen (by rw [IndexBuild.isHolding, running]) orderly
  refine ⟨traffic.cache.installed now entry index, ?_, rfl, ?_⟩
  · have put := entry_put traffic.cache now key key index
    rw [if_pos rfl, ensure_of_entry traffic.cache now key entry found] at put
    rw [← put]
    exact entry_of_entries _ _ rfl key
  · intro each member own unfinished
    have other : each ∈ before ++ after := by
      simp only [List.mem_append, List.mem_cons] at member ⊢
      rcases member with early | rfl | late
      · exact .inl early
      · simp [IndexBuild.finish, IndexBuild.isOpen] at unfinished
      · exact .inr late
    have present : each ∈ traffic.builds := by
      rw [chosen]
      simp only [List.mem_append, List.mem_cons] at other ⊢
      tauto
    obtain ⟨again, foundAgain, eachLock, eachSeen⟩ := vacant.callers each present own unfinished
    obtain rfl := Option.some.inj (found.symm.trans foundAgain)
    refine ⟨?_, ?_⟩
    · rw [eachSeen]
      exact Nat.lt_succ_self _
    · intro alsoRunning
      exact alone each other (by rw [IndexBuild.isHolding, alsoRunning]) (eachLock.trans lock.symm)

theorem flight_conclude (now : Nat) (outcome : BuildOutcome) (chosen : traffic.builds = before ++ build :: after)
    (running : build.phase = .running) (named : build.key = key) (orderly : Orderly traffic)
    (flight : Flight key events traffic) :
    Flight key (events ++ (build.conclude now outcome traffic.cache).1.atConclusion)
      ⟨(build.conclude now outcome traffic.cache).2,
        before ++ (build.conclude now outcome traffic.cache).1 :: after⟩ := by
  have continues := conclude_continues now build outcome traffic.cache running
  cases flight with
  | waits unserved vacant =>
      rcases conclude_cases now build outcome traffic.cache with ⟨error, result⟩ | ⟨index, result⟩
      · rw [result] at continues ⊢
        have onward := onward_place key traffic before after build _ (traffic.cache.release build.lock) chosen continues
          (by rw [entry_of_entries (traffic.cache.release build.lock) traffic.cache rfl])
        refine .waits (unserved_append _ _ unserved ?_) (vacant_onward key traffic _ onward vacant)
        exact ⟨by simp [IndexBuild.finish, IndexBuild.atConclusion], by simp [IndexBuild.finish, IndexBuild.atConclusion]⟩
      · rw [result, named]
        exact .served index (installed_once_first index events unserved)
          (filled_of_install key traffic before after build now index chosen running named orderly vacant)
  | served index once filled =>
      obtain ⟨_, _, _, callers⟩ := filled.entry
      exact absurd running (callers build (by rw [chosen]; simp) named (by rw [IndexBuild.isOpen, running])).2

end Own

theorem vacant_ask (key : String) (traffic : Traffic) (now : Nat) (cancelled : Bool) (vacant : Vacant key traffic) :
    (IndexBuild.start now ⟨key, false, cancelled⟩ traffic.cache).1.atReturn = [] ∧
      Vacant key ⟨(IndexBuild.start now ⟨key, false, cancelled⟩ traffic.cache).2,
        traffic.builds ++ [(IndexBuild.start now ⟨key, false, cancelled⟩ traffic.cache).1]⟩ := by
  have found := entry_ensure traffic.cache now key
  have empty : (traffic.cache.ensure now key).1.snapshot = none := by
    cases present : traffic.cache.entry? key with
    | some entry =>
        rw [ensure_of_entry traffic.cache now key entry present]
        exact vacant.empty entry present
    | none => rw [(ensure_of_none traffic.cache now key present).1, freshEntry]
  rcases start_cases now ⟨key, false, cancelled⟩ traffic.cache with ⟨_, result⟩ | ⟨index, _, snapshot, _⟩
  · rw [result]
    refine ⟨rfl, ?_, ?_⟩
    · intro entry present
      rw [← Option.some.inj (found.symm.trans present)]
      exact empty
    · intro build member named unfinished
      rcases List.mem_append.mp member with old | last
      · obtain ⟨entry, present, lock, seen⟩ := vacant.callers build old named unfinished
        rw [ensure_of_entry traffic.cache now key entry present]
        exact ⟨entry, present, lock, seen⟩
      · rw [List.mem_singleton.mp last]
        exact ⟨_, found, rfl, rfl⟩
  · rw [empty] at snapshot
    cases snapshot

theorem filled_ask (key : String) (index : PropertyIndex) (traffic : Traffic) (now : Nat) (cancelled : Bool)
    (filled : Filled key index traffic) :
    (IndexBuild.start now ⟨key, false, cancelled⟩ traffic.cache).1.atReturn = [.returned (.ok index)] ∧
      Filled key index ⟨(IndexBuild.start now ⟨key, false, cancelled⟩ traffic.cache).2,
        traffic.builds ++ [(IndexBuild.start now ⟨key, false, cancelled⟩ traffic.cache).1]⟩ := by
  obtain ⟨entry, found, snapshot, callers⟩ := filled.entry
  have ensured := ensure_of_entry traffic.cache now key entry found
  rcases start_cases now ⟨key, false, cancelled⟩ traffic.cache with ⟨missing, _⟩ | ⟨other, later, same, _, _, shown, generation, result⟩
  · simp [ensured, snapshot] at missing
  · rw [ensured] at same generation result
    obtain rfl := Option.some.inj (snapshot.symm.trans same)
    rw [result]
    refine ⟨rfl, later, ?_, shown, ?_⟩
    · rw [entry_update traffic.cache key key entry later found, if_pos rfl]
    · intro build member named unfinished
      rcases List.mem_append.mp member with old | last
      · rw [generation]
        exact callers build old named unfinished
      · rw [List.mem_singleton.mp last] at unfinished
        simp [IndexBuild.isOpen] at unfinished

theorem flight_ask (key : String) (events : List CacheEvent) (traffic : Traffic) (now : Nat) (cancelled : Bool)
    (flight : Flight key events traffic) :
    Flight key (events ++ .asked false :: (IndexBuild.start now ⟨key, false, cancelled⟩ traffic.cache).1.atReturn)
      ⟨(IndexBuild.start now ⟨key, false, cancelled⟩ traffic.cache).2,
        traffic.builds ++ [(IndexBuild.start now ⟨key, false, cancelled⟩ traffic.cache).1]⟩ := by
  cases flight with
  | waits unserved vacant =>
      obtain ⟨silent, later⟩ := vacant_ask key traffic now cancelled vacant
      rw [silent]
      exact .waits (unserved_append _ _ unserved ⟨by simp, by simp⟩) later
  | served index once filled =>
      obtain ⟨returns, later⟩ := filled_ask key index traffic now cancelled filled
      rw [returns]
      exact .served index (installed_once_append index events _ once (by simp) (by simp) (by simp)) later

theorem entry_start_other (cache : IndexCache) (now : Nat) (request : IndexBuild.Request) (key : String)
    (different : key ≠ request.key) : (IndexBuild.start now request cache).snd.entry? key = cache.entry? key := by
  have ensured := entry_ensure_other cache now request.key key different
  rcases start_cases now request cache with ⟨_, result⟩ | ⟨_, later, _, _, _, _, _, result⟩
  · rw [result]
    exact ensured
  · rw [result, entry_update _ request.key key _ later (entry_ensure cache now request.key), if_neg different, ensured]

theorem flight_ask_other (key : String) (events : List CacheEvent) (traffic : Traffic) (now : Nat)
    (request : IndexBuild.Request) (different : key ≠ request.key) (flight : Flight key events traffic) :
    Flight key events ⟨(IndexBuild.start now request traffic.cache).2,
      traffic.builds ++ [(IndexBuild.start now request traffic.cache).1]⟩ := by
  have other : (IndexBuild.start now request traffic.cache).1.key = request.key := by
    rcases start_cases now request traffic.cache with ⟨_, result⟩ | ⟨_, _, _, _, _, _, _, result⟩
    · rw [result]
    · rw [result]
  have old : ∀ build ∈ traffic.builds ++ [(IndexBuild.start now request traffic.cache).1], build.key = key →
      build ∈ traffic.builds := by
    intro build member named
    rcases List.mem_append.mp member with before | last
    · exact before
    · rw [List.mem_singleton.mp last, other] at named
      exact absurd named.symm different
  have same := congrArg (Option.map view) (entry_start_other traffic.cache now request key different)
  refine flight_onward key events traffic _ ⟨?_, same⟩ ?_ flight
  · intro build member named unfinished
    exact ⟨build, old build member named, named, unfinished, rfl, rfl⟩
  · intro build member named running
    exact ⟨build, old build member named, named, running⟩

theorem lost_calm (cache : IndexCache) (now : Nat) (key : String)
    (calm : ∀ event ∈ CacheLog.of (lost cache now) key, event.isForeign = false) :
    CacheLog.of (lost cache now) key = [] ∧ entry? (cache.evict now) key = cache.entry? key := by
  have none_ : .evicted ∉ CacheLog.of (lost cache now) key := by
    intro member
    have := calm .evicted member
    cases this
  refine ⟨?_, ?_⟩
  · apply List.eq_nil_iff_forall_not_mem.mpr
    intro event member
    have evicted : event = .evicted := by
      obtain ⟨each, inside, own⟩ := List.mem_filterMap.mp member
      obtain ⟨entry, _, rfl⟩ := List.mem_map.mp inside
      split at own
      · exact (Option.some.inj own).symm
      · cases own
    exact none_ (evicted ▸ member)
  · rcases (thinned_evict cache now).entries key with same | gone
    · exact same
    · cases present : cache.entry? key with
      | none => exact gone
      | some entry =>
          obtain ⟨⟨name, listed⟩, found, _⟩ := Option.map_eq_some_iff.mp present
          have named : name = key := by simpa using List.find?_some found
          refine absurd (List.mem_filterMap.mpr ⟨(key, .evicted), ?_, by simp⟩) none_
          refine List.mem_map.mpr ⟨(name, listed), List.mem_filter.mpr ⟨List.mem_of_find?_eq_some found, ?_⟩, by rw [named]⟩
          simp [contains, named, gone]

theorem step_flight (key : String) (traffic next : Traffic) (events : List CacheEvent) (log : CacheLog)
    (step : Step traffic log next) (calm : ∀ event ∈ log.of key, event.isForeign = false) (orderly : Orderly traffic)
    (flight : Flight key events traffic) : Flight key (events ++ log.of key) next := by
  cases step with
  | get now other =>
      rw [CacheLog.of, List.filterMap_nil, List.append_nil]
      exact flight_cache key events traffic _ (view_get traffic.cache now other key) flight
  | put now other index =>
      have different : key ≠ other := by
        rintro rfl
        simp [CacheLog.of, CacheEvent.isForeign] at calm
      rw [show CacheLog.of [(other, .put index)] key = [] from CacheLog.of_other [.put index] key other (Ne.symm different),
        List.append_nil]
      refine flight_cache key events traffic _ ?_ flight
      rw [entry_put, if_neg different]
  | invalidate other =>
      have different : key ≠ other := by
        rintro rfl
        simp [CacheLog.of, CacheEvent.isForeign] at calm
      rw [show CacheLog.of [(other, .invalidated)] key = [] from
        CacheLog.of_other [.invalidated] key other (Ne.symm different), List.append_nil]
      refine flight_cache key events traffic _ ?_ flight
      rw [entry_invalidate, if_neg different]
  | evict now =>
      obtain ⟨silent, same⟩ := lost_calm traffic.cache now key calm
      rw [silent, List.append_nil]
      exact flight_cache key events traffic _ (congrArg (Option.map view) same) flight
  | ask now request =>
      obtain ⟨other, anew, cancelled⟩ := request
      rw [← List.map_cons (f := ((other, ·) : CacheEvent → String × CacheEvent))] at calm ⊢
      by_cases same : key = other
      · subst same
        rw [CacheLog.of_own] at calm ⊢
        have taken : anew = false := calm (.asked anew) List.mem_cons_self
        subst taken
        exact flight_ask key events traffic now cancelled flight
      · rw [CacheLog.of_other _ key other (Ne.symm same), List.append_nil]
        exact flight_ask_other key events traffic now ⟨other, anew, cancelled⟩ same flight
  | cancel before after build chosen =>
      rw [CacheLog.of, List.filterMap_nil, List.append_nil]
      exact flight_place key events traffic before after build _ _ chosen ⟨rfl, rfl, rfl, id⟩ rfl And.intro flight
  | acquire before after build chosen waiting =>
      obtain ⟨continues, idle, entries⟩ := acquire_continues build traffic.cache waiting
      rw [CacheLog.of, List.filterMap_nil, List.append_nil]
      exact flight_place key events traffic before after build _ _ chosen continues
        (by rw [entry_of_entries _ _ entries]) (fun _ running => absurd running idle) flight
  | look before after build chosen locked =>
      by_cases named : build.key = key
      · rw [named, CacheLog.of_own]
        exact flight_look key events traffic before after build chosen locked named flight
      · obtain ⟨continues, entries⟩ := look_continues build traffic.cache locked
        rw [CacheLog.of_other _ key build.key named, List.append_nil]
        exact flight_place key events traffic before after build _ _ chosen continues
          (by rw [entry_of_entries _ _ entries]) (fun own _ => absurd (continues.key ▸ own) named) flight
  | conclude now outcome before after build chosen running =>
      by_cases named : build.key = key
      · rw [named, CacheLog.of_own]
        exact flight_conclude key events traffic before after build now outcome chosen running named orderly flight
      · have continues := conclude_continues now build outcome traffic.cache running
        rw [CacheLog.of_other _ key build.key named, List.append_nil]
        refine flight_place key events traffic before after build _ _ chosen continues ?_
          (fun own _ => absurd (continues.key ▸ own) named) flight
        rw [entry_conclude_other traffic.cache now build outcome key (Ne.symm named)]
  | drop before after build chosen waited =>
      have same := congrArg (Option.map view) (entry_of_entries _ traffic.cache (drop_entries build traffic.cache) key)
      have placed := flight_place key events traffic before after build (build.drop traffic.cache).1 _ chosen
        ⟨rfl, rfl, rfl, fun _ => waited⟩ same (fun _ running => by cases running) flight
      refine flight_silent key events _ _ ?_ placed
      intro event member
      obtain ⟨each, inside, own⟩ := List.mem_filterMap.mp member
      obtain ⟨dropped, present, rfl⟩ := List.mem_map.mp inside
      rw [at_drop_abandoned build dropped present] at own
      split at own
      · exact (Option.some.inj own).symm
      · cases own
  | discard before after build chosen alone =>
      rw [CacheLog.of, List.filterMap_nil, List.append_nil]
      exact flight_place key events traffic before after build _ _ chosen ⟨rfl, rfl, rfl, fun open_ => by cases open_⟩ rfl
        (fun _ running => by cases running) flight

theorem run_flight (key : String) (first last : Traffic) (log : CacheLog) (run : Run first log last)
    (orderly : Orderly first) (calm : ∀ event ∈ log.of key, event.isForeign = false) (vacant : Vacant key first) :
    Flight key (log.of key) last := by
  induction run with
  | here => exact .waits ⟨by simp [CacheLog.of], by simp [CacheLog.of]⟩ vacant
  | step second third log events run step ih =>
      rw [CacheLog.of_append] at calm ⊢
      refine step_flight key second third _ events step ?_ (run_orderly first second log run orderly) (ih ?_)
      · exact fun event member => calm event (List.mem_append_right _ member)
      · exact fun event member => calm event (List.mem_append_left _ member)

theorem installed_once_split (index other : PropertyIndex) (events before after : List CacheEvent)
    (once : InstalledOnce index events) (place : events = before ++ .installed other :: after) : .started ∉ after := by
  obtain ⟨⟨first, last, split, clear, single, calm⟩, _⟩ := once
  rcases List.append_eq_append_iff.mp (split.symm.trans place) with ⟨gap, early, rest⟩ | ⟨gap, early, rest⟩
  · cases gap with
    | nil =>
        obtain ⟨_, rfl⟩ := List.cons.inj rest
        exact calm
    | cons event gap =>
        obtain ⟨_, rfl⟩ := List.cons.inj rest
        exact absurd (List.mem_append_right gap List.mem_cons_self) (single other)
  · cases gap with
    | nil =>
        obtain ⟨_, rfl⟩ := List.cons.inj rest
        exact calm
    | cons event gap =>
        obtain ⟨rfl, _⟩ := List.cons.inj rest
        refine absurd ?_ (clear other)
        rw [early]
        exact List.mem_append_right before List.mem_cons_self

theorem installs_nil (events : List CacheEvent) (none_ : ∀ index, .installed index ∉ events) :
    events.filterMap CacheEvent.installed? = [] := by
  rw [List.filterMap_eq_nil_iff]
  intro event member
  cases event with
  | installed index => exact absurd member (none_ index)
  | _ => rfl

theorem single_flight (idleTime : Nat) (key : String) (first last : Traffic) (log : CacheLog)
    (reached : Reachable idleTime first)
    (empty : ∀ entry, first.cache.entry? key = some entry → entry.snapshot = none)
    (idle : ∀ build ∈ first.builds, build.key = key → build.isOpen = false)
    (run : Run first log last) (calm : ∀ event ∈ log.of key, event.isForeign = false) :
    ((log.of key).filterMap CacheEvent.installed?).length ≤ 1 ∧
    (∀ index, .returned (.ok index) ∈ log.of key → .installed index ∈ log.of key) ∧
    (∀ before index after, log.of key = before ++ .installed index :: after → .started ∉ after) := by
  have vacant : Vacant key first := by
    refine ⟨empty, ?_⟩
    intro build member named unfinished
    have finished := idle build member named
    rw [unfinished] at finished
    cases finished
  cases run_flight key first last log run (reachable_orderly idleTime first reached) calm vacant with
  | waits unserved _ =>
      refine ⟨by simp [installs_nil _ unserved.uninstalled], ?_, ?_⟩
      · intro index returned
        exact absurd returned (unserved.unreturned index)
      · intro before index after place
        exact absurd (by simp [place]) (unserved.uninstalled index)
  | served index once _ =>
      obtain ⟨before, after, split, clear, single, _⟩ := once.split
      refine ⟨?_, ?_, ?_⟩
      · rw [split, List.filterMap_append, List.filterMap_cons, installs_nil before clear, installs_nil after single]
        exact Nat.le_refl 1
      · intro other returned
        rw [once.returned other returned, split]
        simp
      · intro early other late place
        exact installed_once_split index other _ early late once place

-- Two callers; the second waits while the first one builds.
theorem single_flight_two : ∃ log last, Run ⟨{ idleTime := 1000 }, []⟩ log last ∧
    log.of "project" = [.asked false, .asked false, .started, .installed {}, .returned (.ok {}), .returned (.ok {})] ∧
    ((log.of "project").filterMap CacheEvent.installed?).length ≤ 1 := by
  have asked := Run.step _ _ _ _ .here (.ask ⟨{ idleTime := 1000 }, []⟩ 0 ⟨"project", false, false⟩)
  have both := Run.step _ _ _ _ asked (.ask _ 1 ⟨"project", false, false⟩)
  have locked := Run.step _ _ _ _ both (.acquire _ [] _ _ rfl rfl)
  have started := Run.step _ _ _ _ locked (.look _ [] _ _ rfl rfl)
  have installed := Run.step _ _ _ _ started (.conclude _ 2 { result := .ok {} } [] _ _ rfl rfl)
  have waited := Run.step _ _ _ _ installed (.acquire _ [_] [] _ rfl rfl)
  have shared := Run.step _ _ _ _ waited (.look _ [_] [] _ rfl rfl)
  refine ⟨_, _, shared, rfl, ?_⟩
  exact (single_flight 1000 "project" _ _ _ ⟨_, .here⟩ (by simp [ entry?]) (by simp) shared (by decide)).1

end Traffic
end YamlDialects
