import Gloss.Cache.Basic

/-!
# Callers of a cache

Several callers want values from one cache, each by its key, and a value that is
not there is generated. Callers of one key that find no value share a lock, so
that one of them generates while the others wait in line; each looks again when
its turn comes.

A caller goes through phases (`Phase`), and what happens is a sequence of events
(`Event`): `step` says what each does. An event goes from one point at which a
caller may be held up to the next. Such points are the lock, even if it is free,
and the generation. `run` lets events happen in any order.
-/

namespace Gloss.Cache

open Gloss.Generation (Failure)

/-- What a caller gets: a value and whether it was in the cache, or why there is
none. -/
abbrev Result : Type := Except Failure (String × Bool)

/-- Where a caller stands. -/
inductive Phase where
  /-- It has not called yet. -/
  | idle
  /-- It waits for a lock. -/
  | queued (lock : Nat)
  /-- It has been given the lock and has not gone on yet. -/
  | granted (lock : Nat)
  /-- It generates, with a lock if the cache keeps anything. -/
  | generating (lock : Option Nat)
  | finished (result : Result)
  /-- It was given up. -/
  | dropped

/-- The lock that a caller holds or waits for. -/
def Phase.lock? : Phase → Option Nat
  | queued lock | granted lock => some lock
  | generating lock => lock
  | _ => none

/-- Whether a caller has a lock. -/
def Phase.holds (phase : Phase) (lock : Nat) : Bool :=
  match phase with
  | granted l => l == lock
  | generating l => l == some lock
  | _ => false

/-- Whether a caller waits for a lock. -/
def Phase.awaits (phase : Phase) (lock : Nat) : Bool :=
  match phase with
  | queued l => l == lock
  | _ => false

/-- A caller and the key of its value. -/
structure Caller where
  key : String
  phase : Phase := .idle

/-- A cache and its callers at some time. -/
structure Calls where
  now : Nat := 0
  cache : Cache
  callers : List Caller
  /-- The locks in use, by key. -/
  inFlight : List (String × Nat) := []
  /-- The name of the next lock. -/
  nextLock : Nat := 0
  /-- The callers that wait for a lock, in the order of their coming. -/
  queue : List Nat := []

namespace Calls

/-- Callers that have not called yet, by their keys. -/
def ofKeys (cache : Cache) (now : Nat) (keys : List String) : Calls where
  now := now
  cache := cache
  callers := keys.map fun key => { key := key }

/-- The phase of a caller. -/
def phase (s : Calls) (i : Nat) : Phase :=
  (s.callers[i]?.map Caller.phase).getD .dropped

/-- The key of a caller. -/
def key (s : Calls) (i : Nat) : String :=
  (s.callers[i]?.map Caller.key).getD ""

/-- Puts a caller into a phase. -/
def setPhase (s : Calls) (i : Nat) (phase : Phase) : Calls :=
  { s with callers := s.callers.modify i fun c => { c with phase := phase } }

/-- Whether nobody has a lock or waits for it. -/
def isFree (s : Calls) (lock : Nat) : Bool :=
  s.callers.all fun c => !c.phase.holds lock && !c.phase.awaits lock

/-- The lock of a key, made if there is none. -/
def lockOf (s : Calls) (key : String) : Nat × Calls :=
  match s.inFlight.lookup key with
  | some lock => (lock, s)
  | none =>
    (s.nextLock,
      { s with inFlight := (key, s.nextLock) :: s.inFlight, nextLock := s.nextLock + 1 })

/-- Gives a lock to the first caller in line. -/
def grantNext (s : Calls) (lock : Nat) : Calls :=
  match s.queue.find? fun j => (s.phase j).awaits lock with
  | some j => { s.setPhase j (.granted lock) with queue := s.queue.erase j }
  | none => s

/-- Forgets a lock that no caller has or waits for. -/
def retire (s : Calls) (lock : Nat) : Calls :=
  if s.callers.any fun c => c.phase.lock? == some lock then s
  else { s with inFlight := s.inFlight.filter fun (_, l) => l != lock }

/-- Passes a lock on that a caller has left. -/
def release (s : Calls) (lock : Nat) : Calls :=
  (s.grantNext lock).retire lock

/-- Passes a lock on, if there is one. -/
def releaseAll (s : Calls) : Option Nat → Calls
  | some lock => s.release lock
  | none => s

/-- A caller that has its lock looks for its value, and generates one if there is
none. -/
def enter (s : Calls) (i lock : Nat) : Calls :=
  let (hit, cache) := s.cache.get s.now (s.key i)
  let s := { s with cache := cache }
  match hit with
  | some value => (s.setPhase i (.finished (.ok (value, true)))).release lock
  | none => s.setPhase i (.generating (some lock))

/-- A caller calls: it takes its value from the cache, or claims the lock of its
key, which is given to it if it is free. -/
def start (s : Calls) (i : Nat) : Calls :=
  if s.cache.enabled then
    let (hit, cache) := s.cache.get s.now (s.key i)
    let s := { s with cache := cache }
    match hit with
    | some value => s.setPhase i (.finished (.ok (value, true)))
    | none =>
      let (lock, s) := s.lockOf (s.key i)
      if s.isFree lock then s.setPhase i (.granted lock)
      else { s.setPhase i (.queued lock) with queue := s.queue ++ [i] }
  else s.setPhase i (.generating none)

/-- A generation ends: a value goes into the cache. -/
def finish (s : Calls) (i : Nat) (lock : Option Nat) (outcome : Except Failure String) : Calls :=
  let cache := match outcome with
    | .ok value => s.cache.insert s.now (s.key i) value
    | .error _ => s.cache
  let result := outcome.map fun value => (value, false)
  ({ s with cache := cache }.setPhase i (.finished result)).releaseAll lock

/-- A caller is given up. -/
def abandon (s : Calls) (i : Nat) : Calls :=
  let lock := (s.phase i).lock?
  let s := { s.setPhase i .dropped with queue := s.queue.erase i }
  match lock with
  | some lock => if s.callers.any (·.phase.holds lock) then s.retire lock else s.release lock
  | none => s

end Calls

/-- What can happen to callers. -/
inductive Event where
  /-- A caller calls. -/
  | start (i : Nat)
  /-- A caller that was given its lock goes on. -/
  | resume (i : Nat)
  /-- A generation ends. -/
  | finish (i : Nat) (outcome : Except Failure String)
  /-- A caller is given up. -/
  | abandon (i : Nat)
  /-- Time passes. -/
  | pass (time : Nat)

/-- What an event does; none if it cannot happen. -/
def Calls.step (s : Calls) : Event → Option Calls
  | .start i =>
    match s.phase i with
    | .idle => some (s.start i)
    | _ => none
  | .resume i =>
    match s.phase i with
    | .granted lock => some (s.enter i lock)
    | _ => none
  | .finish i outcome =>
    match s.phase i with
    | .generating lock => some (s.finish i lock outcome)
    | _ => none
  | .abandon i =>
    match s.phase i with
    | .queued _ | .granted _ | .generating _ => some (s.abandon i)
    | _ => none
  | .pass time => some { s with now := s.now + time }

/-- Lets an event happen, if it can. -/
def Calls.attempt (s : Calls) (event : Event) : Calls :=
  (s.step event).getD s

/-- Lets events happen one after the other; those that cannot are left out. -/
def Calls.run (s : Calls) (events : List Event) : Calls :=
  events.foldl attempt s

/-- A caller calls, and goes on at once if it has its lock. -/
def Event.call (i : Nat) : List Event :=
  [.start i, .resume i]

end Gloss.Cache
