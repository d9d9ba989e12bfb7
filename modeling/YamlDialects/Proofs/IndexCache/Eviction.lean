import Mathlib.Logic.Relation
import YamlDialects.Proofs.IndexCache.Entries

/-!
Eviction takes the records that are due out of the queue one by one, in whatever order, and may queue records anew while
it does. As long as no build holds the lock of an entry, it comes to an end, and it always leaves the same entries: those
whose deadline is still to come. The queue then tells when to look again, and never too late.
-/

set_option autoImplicit false

namespace YamlDialects.IndexCache

-- An access moves the deadline of an entry only, so its record may be early but never late.
def Recorded (cache : IndexCache) : Prop :=
  ∀ key entry, cache.entry? key = some entry → ∃ record ∈ cache.queue, record.2 = key ∧ record.1 ≤ entry.deadline

def Free (cache : IndexCache) : Prop :=
  ∀ key entry, cache.entry? key = some entry → cache.isHeld entry.lock = false

-- One turn: some record that is due is taken out, and its entry is looked at.
inductive Turn (now : Nat) (cache : IndexCache) : IndexCache → Prop where
  | take (before after : List (Nat × String)) (record : Nat × String)
      (chosen : cache.queue = before ++ record :: after) (due : record.1 ≤ now) :
      Turn now cache (visit now { cache with queue := before ++ after } record.2)

def Sweep (now : Nat) : IndexCache → IndexCache → Prop :=
  Relation.ReflTransGen (Turn now)

def AtRest (now : Nat) (cache : IndexCache) : Prop :=
  ∀ record ∈ cache.queue, now < record.1

theorem visit_cases (now : Nat) (cache : IndexCache) (key : String) (free : Free cache) :
    (cache.entry? key = none ∧ visit now cache key = cache) ∨
    ∃ entry, cache.entry? key = some entry ∧
      ((entry.deadline ≤ now ∧ visit now cache key = cache.invalidate key) ∨
        (now < entry.deadline ∧ visit now cache key = { cache with queue := (entry.deadline, key) :: cache.queue })) := by
  cases found : cache.entry? key with
  | none => exact .inl ⟨rfl, by rw [visit, found]⟩
  | some entry =>
      refine .inr ⟨entry, rfl, ?_⟩
      by_cases passed : entry.deadline ≤ now
      · refine .inl ⟨passed, ?_⟩
        simp [visit, found, free key entry found, passed]
      · refine .inr ⟨by omega, ?_⟩
        simp [visit, found, free key entry found, passed]

theorem visit_free (now : Nat) (cache : IndexCache) (key : String) (free : Free cache) : Free (visit now cache key) := by
  have thinned := thinned_visit now cache key
  intro other entry found
  rw [isHeld, thinned.held]
  rcases thinned.entries other with same | gone
  · exact free other entry (same ▸ found)
  · rw [gone] at found
    cases found

theorem visit_idle_time (now : Nat) (cache : IndexCache) (key : String) :
    (visit now cache key).idleTime = cache.idleTime := by
  unfold visit
  cases cache.entry? key with
  | none => rfl
  | some entry =>
      dsimp only
      split
      · rfl
      · split
        · rfl
        · rfl

theorem visit_kept (now : Nat) (cache : IndexCache) (key other : String) (free : Free cache) :
    entry? (visit now cache key) other = cache.entry? other ∨
    ( entry? (visit now cache key) other = none ∧ ∃ entry, cache.entry? other = some entry ∧ entry.deadline ≤ now) := by
  rcases visit_cases now cache key free with ⟨_, result⟩ | ⟨entry, found, ⟨passed, result⟩ | ⟨_, result⟩⟩
  · exact .inl (by rw [result])
  · rw [result, entry_invalidate]
    by_cases same : other = key
    · exact .inr ⟨if_pos same, entry, same ▸ found, passed⟩
    · exact .inl (if_neg same)
  · exact .inl (by rw [result]; rfl)

theorem visit_recorded (now : Nat) (cache : IndexCache) (key : String) (free : Free cache)
    (others : ∀ other entry, other ≠ key → cache.entry? other = some entry →
      ∃ record ∈ cache.queue, record.2 = other ∧ record.1 ≤ entry.deadline) : Recorded (visit now cache key) := by
  intro other present found
  rcases visit_cases now cache key free with ⟨missing, result⟩ | ⟨entry, listed, ⟨_, result⟩ | ⟨_, result⟩⟩
  · rw [result] at found ⊢
    refine others other present ?_ found
    rintro rfl
    rw [missing] at found
    cases found
  · rw [result] at found ⊢
    rw [entry_invalidate] at found
    by_cases same : other = key
    · rw [if_pos same] at found
      cases found
    · rw [if_neg same] at found
      exact others other present same found
  · rw [result] at found ⊢
    by_cases same : other = key
    · subst same
      obtain rfl := Option.some.inj (listed.symm.trans found)
      exact ⟨_, List.mem_cons_self, rfl, Nat.le_refl _⟩
    · obtain ⟨record, member, own, early⟩ := others other present same found
      exact ⟨record, List.mem_cons_of_mem _ member, own, early⟩

theorem visit_queue (now : Nat) (cache : IndexCache) (key : String) (free : Free cache) :
    (visit now cache key).queue = cache.queue ∨
    ∃ record, now < record.1 ∧ (visit now cache key).queue = record :: cache.queue := by
  rcases visit_cases now cache key free with ⟨_, result⟩ | ⟨entry, _, ⟨_, result⟩ | ⟨coming, result⟩⟩
  · exact .inl (by rw [result])
  · exact .inl (by rw [result]; rfl)
  · exact .inr ⟨_, coming, by rw [result]⟩

def dueCount (now : Nat) (cache : IndexCache) : Nat :=
  cache.queue.countP (·.1 ≤ now)

theorem turn_due (now : Nat) (cache next : IndexCache) (turn : Turn now cache next) (free : Free cache) :
    dueCount now next < dueCount now cache := by
  obtain ⟨before, after, record, chosen, due⟩ := turn
  have fewer : dueCount now cache = (before ++ after).countP (·.1 ≤ now) + 1 := by
    rw [dueCount, chosen, List.countP_append, List.countP_append, List.countP_cons_of_pos (by simpa using due)]
    omega
  have kept : dueCount now (visit now { cache with queue := before ++ after } record.2) =
      (before ++ after).countP (·.1 ≤ now) := by
    rcases visit_queue now { cache with queue := before ++ after } record.2 free with same | ⟨anew, coming, queued⟩
    · rw [dueCount, same]
    · rw [dueCount, queued, List.countP_cons_of_neg (by simpa using coming)]
  omega

theorem turn_free (now : Nat) (cache next : IndexCache) (turn : Turn now cache next) (free : Free cache) :
    Free next := by
  obtain ⟨before, after, record, _, _⟩ := turn
  exact visit_free now _ record.2 free

theorem turn_recorded (now : Nat) (cache next : IndexCache) (turn : Turn now cache next) (free : Free cache)
    (recorded : Recorded cache) : Recorded next := by
  obtain ⟨before, after, taken, chosen, _⟩ := turn
  refine visit_recorded now _ taken.2 free ?_
  intro other entry different found
  obtain ⟨record, member, own, early⟩ := recorded other entry found
  refine ⟨record, ?_, own, early⟩
  rw [chosen] at member
  rcases List.mem_append.mp member with left | right
  · exact List.mem_append_left _ left
  · rcases List.mem_cons.mp right with rfl | late
    · exact absurd own.symm different
    · exact List.mem_append_right _ late

-- Whatever record is taken next, the loop comes to an end: each turn leaves fewer records that are due.
theorem turns_end (now : Nat) (cache : IndexCache) (free : Free cache) :
    Acc (fun next earlier => Turn now earlier next) cache := by
  induction amount : dueCount now cache using Nat.strongRecOn generalizing cache with
  | ind amount ih =>
      apply Acc.intro
      intro next turn
      subst amount
      exact ih _ (turn_due now cache next turn free) next (turn_free now cache next turn free) rfl

section Loop

variable (now : Nat) (cache last : IndexCache) (sweep : Sweep now cache last)
include sweep

theorem sweep_idle_time : last.idleTime = cache.idleTime := by
  induction sweep with
  | refl => rfl
  | tail _ turn ih =>
      obtain ⟨front, back, record, _, _⟩ := turn
      exact (visit_idle_time now _ record.2).trans ih

theorem sweep_recorded (free : Free cache) (recorded : Recorded cache) : Free last ∧ Recorded last := by
  induction sweep with
  | refl => exact ⟨free, recorded⟩
  | tail _ turn ih => exact ⟨turn_free now _ _ turn ih.1, turn_recorded now _ _ turn ih.1 ih.2⟩

theorem sweep_kept (free : Free cache) (recorded : Recorded cache) (key : String) :
    last.entry? key = cache.entry? key ∨
    (last.entry? key = none ∧ ∃ entry, cache.entry? key = some entry ∧ entry.deadline ≤ now) := by
  induction sweep with
  | refl => exact .inl rfl
  | @tail earlier next before turn ih =>
      have stillFree := (sweep_recorded now cache earlier before free recorded).1
      obtain ⟨front, back, record, _, _⟩ := turn
      rcases visit_kept now { earlier with queue := front ++ back } record.2 key stillFree with same | ⟨gone, entry, found, passed⟩
      · rw [same]
        exact ih
      · rcases ih with kept | ⟨missing, _⟩
        · exact .inr ⟨gone, entry, kept ▸ found, passed⟩
        · have absent : earlier.entry? key = some entry := found
          rw [missing] at absent
          cases absent

end Loop

theorem visit_frame (now : Nat) (cache : IndexCache) (key : String) :
    ∃ (visited : IndexCache) (queued : List (Nat × String)), ∀ queue,
      visit now { cache with queue } key = { visited with queue := queued ++ queue } := by
  cases found : cache.entry? key with
  | none =>
      refine ⟨cache, [], ?_⟩
      intro queue
      have same : entry? { cache with queue } key = none := found
      rw [visit, same]
      rfl
  | some entry =>
      have same : ∀ queue, entry? { cache with queue } key = some entry := fun _ => found
      have held : ∀ queue, isHeld { cache with queue } entry.lock = cache.isHeld entry.lock := fun _ => rfl
      by_cases locked : cache.isHeld entry.lock = true
      · refine ⟨cache, [(now + cache.idleTime, key)], ?_⟩
        intro queue
        simp [visit, same, held, locked]
      · by_cases passed : entry.deadline ≤ now
        · refine ⟨cache.invalidate key, [], ?_⟩
          intro queue
          simp [visit, same, held, locked, passed, invalidate]
        · refine ⟨cache, [(entry.deadline, key)], ?_⟩
          intro queue
          simp [visit, same, held, locked, passed]

theorem sweep_visits (now : Nat) (queue front : List (Nat × String)) (cache : IndexCache) :
    Sweep now { cache with queue := front ++ queue }
      (((queue.filter (·.1 ≤ now)).map (·.2)).foldl (visit now)
        { cache with queue := front ++ queue.filter fun record => now < record.1 }) := by
  induction queue generalizing front cache with
  | nil => exact .refl
  | cons record rest ih =>
      by_cases due : record.1 ≤ now
      · obtain ⟨visited, queued, frame⟩ := visit_frame now cache record.2
        have turn : Turn now { cache with queue := front ++ record :: rest } _ := .take front rest record rfl due
        have onward := ih (queued ++ front) visited
        simp only [List.append_assoc] at onward
        simp only [List.filter_cons, decide_eq_true due, if_true, Nat.not_lt.mpr due, decide_false, Bool.false_eq_true,
          if_false, List.map_cons, List.foldl_cons]
        simp only [frame] at turn ⊢
        exact .head turn onward
      · have onward := ih (front ++ [record]) cache
        simp only [List.filter_cons, due, decide_false, Bool.false_eq_true, if_false, Nat.lt_of_not_le due, decide_true,
          if_true]
        simpa only [List.append_assoc, List.singleton_append] using onward

theorem sweep_evict (cache : IndexCache) (now : Nat) : Sweep now cache (cache.evict now) :=
  sweep_visits now cache.queue [] cache

theorem visits_at_rest (now : Nat) (keys : List String) (cache : IndexCache) (free : Free cache)
    (rest : AtRest now cache) : AtRest now (keys.foldl (visit now) cache) := by
  induction keys generalizing cache with
  | nil => exact rest
  | cons key keys ih =>
      refine ih _ (visit_free now cache key free) ?_
      intro record member
      rcases visit_queue now cache key free with same | ⟨anew, coming, queued⟩
      · exact rest record (same ▸ member)
      · rw [queued] at member
        rcases List.mem_cons.mp member with rfl | old
        · exact coming
        · exact rest record old

theorem evict_at_rest (cache : IndexCache) (now : Nat) (free : Free cache) : AtRest now (cache.evict now) := by
  refine visits_at_rest now _ _ free ?_
  intro record member
  simpa using (List.mem_filter.mp member).2

-- The entries whose deadline is still to come are left as they were, and the next deadline is neither past nor too late.
structure Evicted (now : Nat) (cache last : IndexCache) : Prop where
  entries : ∀ key, last.entry? key = (cache.entry? key).filter (now < ·.deadline)
  coming : ∀ deadline, last.nextDeadline? = some deadline → now < deadline
  timely : ∀ key entry, last.entry? key = some entry → ∃ deadline, last.nextDeadline? = some deadline ∧ deadline ≤ entry.deadline

theorem next_deadline_coming (now : Nat) (cache : IndexCache) (rest : AtRest now cache) (deadline : Nat)
    (next : cache.nextDeadline? = some deadline) : now < deadline := by
  obtain ⟨record, member, rfl⟩ := List.mem_map.mp (List.min?_mem next)
  exact rest record member

theorem next_deadline_timely (cache : IndexCache) (recorded : Recorded cache) (key : String) (entry : CacheEntry)
    (found : cache.entry? key = some entry) : ∃ deadline, cache.nextDeadline? = some deadline ∧ deadline ≤ entry.deadline := by
  obtain ⟨record, member, _, early⟩ := recorded key entry found
  have listed : record.1 ∈ cache.queue.map (·.1) := List.mem_map_of_mem member
  obtain ⟨deadline, next⟩ := Option.isSome_iff_exists.mp (List.isSome_min?_of_mem listed)
  have least := (List.min?_eq_some_iff.mp next).2 record.1 listed
  exact ⟨deadline, next, Nat.le_trans least early⟩

theorem sweep_evicted (now : Nat) (cache last : IndexCache) (sweep : Sweep now cache last) (rest : AtRest now last)
    (free : Free cache) (recorded : Recorded cache) : Evicted now cache last := by
  have stillRecorded := (sweep_recorded now cache last sweep free recorded).2
  refine ⟨?_, next_deadline_coming now last rest, next_deadline_timely last stillRecorded⟩
  intro key
  rcases sweep_kept now cache last sweep free recorded key with same | ⟨gone, entry, found, passed⟩
  · rw [same]
    cases found : cache.entry? key with
    | none => rfl
    | some entry =>
        -- Its record has not been taken, so it is not due, and the deadline is not earlier.
        obtain ⟨record, member, _, early⟩ := stillRecorded key entry (same.trans found)
        have coming := rest record member
        rw [Option.filter_some, if_pos (by simp; omega)]
  · rw [gone, found, Option.filter_some, if_neg (by simp; omega)]

end YamlDialects.IndexCache
