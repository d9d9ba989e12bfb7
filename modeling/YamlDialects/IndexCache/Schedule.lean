import YamlDialects.IndexCache.Basic

/-!
Builds of an index, step by step, so that several can take turns. A build waits for the lock of its
entry. Once it has the lock it looks whether another build has installed a snapshot meanwhile, and only
otherwise it runs the builder and installs what that gives.
-/

set_option autoImplicit false

namespace YamlDialects

inductive IndexError where
  | cancelled
  | failed (reason : String)
deriving DecidableEq

def IndexError.message : IndexError → String
  | .cancelled => "property index build cancelled"
  | .failed reason => "property index build failed: " ++ reason

abbrev BuildResult := Except IndexError PropertyIndex

structure BuildOutcome where
  result : BuildResult
  cancels : Bool := false

inductive BuildPhase where
  | waiting
  | locked
  | running
  | finished (result : BuildResult)
  /-- Nobody waits for the result any more. The builder may still be at work. -/
  | dropped (building : Bool)

structure IndexBuild where
  key : String
  seen : Nat
  lock : Nat
  cancelled : Bool
  phase : BuildPhase := .waiting

namespace IndexBuild

def rebuild (now : Nat) (key : String) (cancelled : Bool) (cache : IndexCache) : IndexBuild × IndexCache :=
  let (entry, cache) := cache.ensure now key
  ({ key, seen := entry.generation, lock := entry.lock, cancelled }, cache)

def getOrBuild (now : Nat) (key : String) (cancelled : Bool) (cache : IndexCache) : IndexBuild × IndexCache :=
  let (entry, cache) := cache.ensure now key
  let build : IndexBuild := { key, seen := entry.generation, lock := entry.lock, cancelled }
  match entry.snapshot with
  | some snapshot =>
      ({ build with phase := .finished (.ok snapshot) },
        cache.update key { entry with deadline := now + cache.idleTime })
  | none => (build, cache)

def isWaiting (build : IndexBuild) : Bool :=
  match build.phase with
  | .waiting => true
  | _ => false

def isRunning (build : IndexBuild) : Bool :=
  match build.phase with
  | .running => true
  | _ => false

def isOpen (build : IndexBuild) : Bool :=
  match build.phase with
  | .finished _ => false
  | .dropped _ => false
  | _ => true

def isHolding (build : IndexBuild) : Bool :=
  match build.phase with
  | .locked => true
  | .running => true
  | _ => false

def result? (build : IndexBuild) : Option BuildResult :=
  match build.phase with
  | .finished result => some result
  | _ => none

def acquire (build : IndexBuild) (cache : IndexCache) : IndexBuild × IndexCache :=
  if cache.isHeld build.lock then (build, cache)
  else ({ build with phase := .locked }, cache.hold build.lock)

def finish (build : IndexBuild) (result : BuildResult) (cache : IndexCache) : IndexBuild × IndexCache :=
  ({ build with phase := .finished result }, cache.release build.lock)

def newer? (build : IndexBuild) (cache : IndexCache) : Option PropertyIndex :=
  match cache.entry? build.key with
  | some entry => if build.seen < entry.generation then entry.snapshot else none
  | none => none

def look (build : IndexBuild) (cache : IndexCache) : IndexBuild × IndexCache :=
  match build.newer? cache with
  | some snapshot => build.finish (.ok snapshot) cache
  | none =>
      if build.cancelled then build.finish (.error .cancelled) cache
      else ({ build with phase := .running }, cache)

def conclude (now : Nat) (build : IndexBuild) (outcome : BuildOutcome) (cache : IndexCache) :
    IndexBuild × IndexCache :=
  match outcome.result with
  | .error error => build.finish (.error error) cache
  | .ok index =>
      if build.cancelled || outcome.cancels then build.finish (.error .cancelled) cache
      else build.finish (.ok index) (cache.put now build.key index)

/-- The caller goes away. Its lock is free again, but a builder that is at work is not stopped. -/
def drop (build : IndexBuild) (cache : IndexCache) : IndexBuild × IndexCache :=
  ({ build with phase := .dropped build.isRunning }, if build.isHolding then cache.release build.lock else cache)

def discard (build : IndexBuild) : IndexBuild :=
  { build with phase := .dropped false }

def advance (build : IndexBuild) (cache : IndexCache) : IndexBuild × IndexCache :=
  if build.isWaiting && !cache.isHeld build.lock then
    let (build, cache) := build.acquire cache
    build.look cache
  else (build, cache)

end IndexBuild
end YamlDialects

namespace YamlDialects.IndexBuild

abbrev Builder (σ : Type) := String → σ → BuildOutcome × σ

def advanceAll : List IndexBuild → IndexCache → List IndexBuild × IndexCache
  | [], cache => ([], cache)
  | build :: rest, cache =>
      let (build, cache) := build.advance cache
      let (rest, cache) := advanceAll rest cache
      (build :: rest, cache)

def runFirst {σ : Type} (builder : Builder σ) (now : Nat) :
    List IndexBuild → IndexCache → σ → List IndexBuild × IndexCache × σ
  | [], cache, memory => ([], cache, memory)
  | build :: rest, cache, memory =>
      if build.isRunning then
        let (outcome, memory) := builder build.key memory
        let (build, cache) := build.conclude now outcome cache
        (build :: rest, cache, memory)
      else
        let (rest, cache, memory) := runFirst builder now rest cache memory
        (build :: rest, cache, memory)

def rounds {σ : Type} (builder : Builder σ) (now : Nat) :
    Nat → List IndexBuild → IndexCache → σ → List IndexBuild × IndexCache × σ
  | 0, builds, cache, memory => (builds, cache, memory)
  | count + 1, builds, cache, memory =>
      let (builds, cache) := advanceAll builds cache
      let (builds, cache, memory) := runFirst builder now builds cache memory
      rounds builder now count builds cache memory

structure Request where
  key : String
  anew : Bool
  cancelled : Bool := false

def start (now : Nat) (request : Request) (cache : IndexCache) : IndexBuild × IndexCache :=
  if request.anew then rebuild now request.key request.cancelled cache
  else getOrBuild now request.key request.cancelled cache

def startAll (now : Nat) : List Request → IndexCache → List IndexBuild × IndexCache
  | [], cache => ([], cache)
  | request :: rest, cache =>
      let (build, cache) := start now request cache
      let (build, cache) := build.advance cache
      let (rest, cache) := startAll now rest cache
      (build :: rest, cache)

def runAll {σ : Type} (builder : Builder σ) (now : Nat) (requests : List Request) (cache : IndexCache)
    (memory : σ) : List BuildResult × IndexCache × σ :=
  let (builds, cache) := startAll now requests cache
  let (builds, cache, memory) := rounds builder now (builds.length + 1) builds cache memory
  (builds.filterMap result?, cache, memory)

def run {σ : Type} (builder : Builder σ) (now : Nat) (request : Request) (cache : IndexCache) (memory : σ) :
    Option BuildResult × IndexCache × σ :=
  let (results, cache, memory) := runAll builder now [request] cache memory
  (results.head?, cache, memory)

end YamlDialects.IndexBuild
