import YamlDialects.IndexCache.Basic

set_option autoImplicit false

namespace YamlDialects.Association

variable {α β : Type} [DecidableEq α] [BEq α] [LawfulBEq α]

theorem find_filter_ne (pairs : List (α × β)) (key other : α) :
    (pairs.filter (·.1 != key)).find? (·.1 == other) = if other = key then none else pairs.find? (·.1 == other) := by
  rw [List.find?_filter]
  by_cases same : other = key
  · rw [if_pos same, List.find?_eq_none]
    intro each _
    simp [same]
  · rw [if_neg same]
    congr 1
    funext each
    by_cases here : each.1 = other
    · simp [here, same]
    · simp [here]

theorem find_replace (pairs : List (α × β)) (key other : α) (old new : β)
    (found : (pairs.find? (·.1 == key)).map (·.2) = some old) :
    ((pairs.map fun each => if each.1 == key then (key, new) else each).find? (·.1 == other)).map (·.2) =
      if other = key then some new else (pairs.find? (·.1 == other)).map (·.2) := by
  have names : ((·.1 == other) ∘ fun each : α × β => if each.1 == key then (key, new) else each) = (·.1 == other) := by
    funext each
    by_cases here : each.1 = key <;> simp [here]
  rw [List.find?_map, names]
  by_cases same : other = key
  · obtain ⟨pair, listed, _⟩ := Option.map_eq_some_iff.mp found
    have named : pair.1 = key := by simpa using List.find?_some listed
    rw [if_pos same, same, listed]
    simp [named]
  · rw [if_neg same]
    cases listed : pairs.find? (·.1 == other) with
    | none => rfl
    | some pair =>
        have named : pair.1 = other := by simpa using List.find?_some listed
        simp [named, same]

end YamlDialects.Association

namespace YamlDialects.IndexCache

theorem entry_of_entries (first second : IndexCache) (same : first.entries = second.entries) (key : String) :
    first.entry? key = second.entry? key := by
  rw [ entry?, entry?, same]

theorem entry_update (cache : IndexCache) (key other : String) (old entry : CacheEntry)
    (found : cache.entry? key = some old) :
    entry? (cache.update key entry) other = if other = key then some entry else cache.entry? other :=
  Association.find_replace cache.entries key other old entry found

theorem ensure_of_entry (cache : IndexCache) (now : Nat) (key : String) (entry : CacheEntry)
    (found : cache.entry? key = some entry) : cache.ensure now key = (entry, cache) := by
  rw [ensure, found]

def freshEntry (cache : IndexCache) (now : Nat) : CacheEntry :=
  { lock := cache.lockCount, deadline := now + cache.idleTime }

theorem ensure_of_none (cache : IndexCache) (now : Nat) (key : String) (missing : cache.entry? key = none) :
    (cache.ensure now key).1 = cache.freshEntry now ∧ (cache.ensure now key).2.lockCount = cache.lockCount + 1 ∧
      (cache.ensure now key).2.held = cache.held ∧
      ∀ other, (cache.ensure now key).snd.entry? other =
        if other = key then some (cache.freshEntry now) else cache.entry? other := by
  rw [ensure, missing]
  refine ⟨rfl, rfl, rfl, ?_⟩
  intro other
  rw [ entry?, List.find?_append]
  by_cases same : other = key
  · have absent : cache.entries.find? (·.1 == key) = none := by simpa [ entry?] using missing
    rw [if_pos same, same, absent]
    simp [freshEntry]
  · have different : ¬ key = other := fun equal => same equal.symm
    rw [if_neg same, entry?]
    simp [different]

theorem entry_ensure (cache : IndexCache) (now : Nat) (key : String) :
    (cache.ensure now key).snd.entry? key = some (cache.ensure now key).1 := by
  cases found : cache.entry? key with
  | some entry => rw [ensure_of_entry cache now key entry found, found]
  | none =>
      obtain ⟨made, _, _, entries⟩ := ensure_of_none cache now key found
      rw [entries key, if_pos rfl, made]

theorem entry_ensure_other (cache : IndexCache) (now : Nat) (key other : String) (different : other ≠ key) :
    (cache.ensure now key).snd.entry? other = cache.entry? other := by
  cases found : cache.entry? key with
  | some entry => rw [ensure_of_entry cache now key entry found]
  | none => rw [(ensure_of_none cache now key found).2.2.2 other, if_neg different]

theorem held_ensure (cache : IndexCache) (now : Nat) (key : String) : (cache.ensure now key).2.held = cache.held := by
  cases found : cache.entry? key with
  | some entry => rw [ensure_of_entry cache now key entry found]
  | none => exact (ensure_of_none cache now key found).2.2.1

def installed (cache : IndexCache) (now : Nat) (entry : CacheEntry) (index : PropertyIndex) : CacheEntry :=
  { entry with snapshot := some index, generation := entry.generation + 1, deadline := now + cache.idleTime }

theorem idle_time_ensure (cache : IndexCache) (now : Nat) (key : String) :
    (cache.ensure now key).2.idleTime = cache.idleTime := by
  unfold ensure
  cases cache.entry? key <;> rfl

theorem entry_put (cache : IndexCache) (now : Nat) (key other : String) (index : PropertyIndex) :
    entry? (cache.put now key index) other =
      if other = key then some (cache.installed now (cache.ensure now key).1 index) else cache.entry? other := by
  have update : cache.put now key index =
      (cache.ensure now key).2.update key (cache.installed now (cache.ensure now key).1 index) := by
    rw [installed, ← idle_time_ensure cache now key]
    rfl
  rw [update, entry_update _ key other _ _ (entry_ensure cache now key)]
  by_cases same : other = key
  · rw [if_pos same, if_pos same]
  · rw [if_neg same, if_neg same, entry_ensure_other cache now key other same]

theorem entry_get (cache : IndexCache) (now : Nat) (key other : String) :
    (cache.get now key).snd.entry? other =
      if other = key then (cache.entry? key).map ({ · with deadline := now + cache.idleTime })
      else cache.entry? other := by
  unfold get
  cases found : cache.entry? key with
  | none =>
      by_cases same : other = key
      · simp [same, found]
      · simp [same]
  | some entry =>
      dsimp only
      rw [entry_update cache key other entry _ found]
      rfl

theorem entry_invalidate (cache : IndexCache) (key other : String) :
    entry? (cache.invalidate key) other = if other = key then none else cache.entry? other := by
  rw [ entry?, invalidate, Association.find_filter_ne, entry?]
  by_cases same : other = key <;> simp [same]

-- A cache that has lost some entries, and nothing else that matters to builds.
structure Thinned (cache thinned : IndexCache) : Prop where
  entries : ∀ key, thinned.entry? key = cache.entry? key ∨ thinned.entry? key = none
  lockCount : thinned.lockCount = cache.lockCount
  held : thinned.held = cache.held

theorem thinned_refl (cache : IndexCache) : Thinned cache cache :=
  ⟨fun _ => .inl rfl, rfl, rfl⟩

theorem thinned_trans (first second third : IndexCache) (before : Thinned first second) (after : Thinned second third) :
    Thinned first third := by
  refine ⟨?_, after.lockCount.trans before.lockCount, after.held.trans before.held⟩
  intro key
  rcases after.entries key with same | gone
  · rw [same]
    exact before.entries key
  · exact .inr gone

theorem thinned_invalidate (cache : IndexCache) (key : String) : Thinned cache (cache.invalidate key) := by
  refine ⟨?_, rfl, rfl⟩
  intro other
  rw [entry_invalidate]
  by_cases same : other = key
  · exact .inr (if_pos same)
  · exact .inl (if_neg same)

theorem thinned_visit (now : Nat) (cache : IndexCache) (key : String) : Thinned cache (visit now cache key) := by
  unfold visit
  cases cache.entry? key with
  | none => exact thinned_refl cache
  | some entry =>
      dsimp only
      split
      · exact ⟨fun _ => .inl rfl, rfl, rfl⟩
      · split
        · exact thinned_invalidate cache key
        · exact ⟨fun _ => .inl rfl, rfl, rfl⟩

theorem thinned_visits (now : Nat) (keys : List String) (cache : IndexCache) :
    Thinned cache (keys.foldl (visit now) cache) := by
  induction keys generalizing cache with
  | nil => exact thinned_refl cache
  | cons key rest ih => exact thinned_trans _ _ _ (thinned_visit now cache key) (ih _)

theorem thinned_evict (cache : IndexCache) (now : Nat) : Thinned cache (cache.evict now) := by
  have visits := thinned_visits now (((cache.queue.filter (·.1 ≤ now)).map (·.2)))
    { cache with queue := cache.queue.filter fun record => now < record.1 }
  exact ⟨visits.entries, visits.lockCount, visits.held⟩

end YamlDialects.IndexCache
