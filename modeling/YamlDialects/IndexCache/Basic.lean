import YamlDialects.Schema.Index

/-!
A cache of property indices, one snapshot for each key. An entry that has been idle for long enough is
evicted. Times are milliseconds.
-/

set_option autoImplicit false

namespace YamlDialects

structure CacheEntry where
  snapshot : Option PropertyIndex := none
  generation : Nat := 0
  lock : Nat
  deadline : Nat
deriving DecidableEq

structure IndexCache where
  idleTime : Nat
  entries : List (String × CacheEntry) := []
  /-- When to look at which entry. Every entry has a record that is not later than its deadline. -/
  queue : List (Nat × String) := []
  lockCount : Nat := 0
  held : List Nat := []
deriving DecidableEq

namespace IndexCache

def entry? (cache : IndexCache) (key : String) : Option CacheEntry :=
  (cache.entries.find? (·.1 == key)).map (·.2)

def contains (cache : IndexCache) (key : String) : Bool :=
  (cache.entry? key).isSome

def update (cache : IndexCache) (key : String) (entry : CacheEntry) : IndexCache :=
  { cache with entries := cache.entries.map fun each => if each.1 == key then (key, entry) else each }

def ensure (cache : IndexCache) (now : Nat) (key : String) : CacheEntry × IndexCache :=
  match cache.entry? key with
  | some entry => (entry, cache)
  | none =>
      let entry : CacheEntry := { lock := cache.lockCount, deadline := now + cache.idleTime }
      (entry, { cache with
        entries := cache.entries ++ [(key, entry)]
        queue := (entry.deadline, key) :: cache.queue
        lockCount := cache.lockCount + 1 })

def get (cache : IndexCache) (now : Nat) (key : String) : Option PropertyIndex × IndexCache :=
  match cache.entry? key with
  | none => (none, cache)
  | some entry => (entry.snapshot, cache.update key { entry with deadline := now + cache.idleTime })

def put (cache : IndexCache) (now : Nat) (key : String) (index : PropertyIndex) : IndexCache :=
  let (entry, cache) := cache.ensure now key
  cache.update key { entry with
    snapshot := some index
    generation := entry.generation + 1
    deadline := now + cache.idleTime }

def invalidate (cache : IndexCache) (key : String) : IndexCache :=
  { cache with entries := cache.entries.filter (·.1 != key) }

def isHeld (cache : IndexCache) (lock : Nat) : Bool :=
  cache.held.contains lock

def hold (cache : IndexCache) (lock : Nat) : IndexCache :=
  { cache with held := lock :: cache.held }

def release (cache : IndexCache) (lock : Nat) : IndexCache :=
  { cache with held := cache.held.erase lock }

def nextDeadline? (cache : IndexCache) : Option Nat :=
  (cache.queue.map (·.1)).min?

/-- Looks at the entry of one record that is due: it goes if its deadline has passed, and otherwise it is
looked at again. -/
def visit (now : Nat) (cache : IndexCache) (key : String) : IndexCache :=
  match cache.entry? key with
  | none => cache
  | some entry =>
      if cache.isHeld entry.lock then { cache with queue := (now + cache.idleTime, key) :: cache.queue }
      else if entry.deadline ≤ now then cache.invalidate key
      else { cache with queue := (entry.deadline, key) :: cache.queue }

def evict (cache : IndexCache) (now : Nat) : IndexCache :=
  let due := cache.queue.filter (·.1 ≤ now)
  let rest := { cache with queue := cache.queue.filter fun record => now < record.1 }
  (due.map (·.2)).foldl (visit now) rest

end IndexCache
end YamlDialects
