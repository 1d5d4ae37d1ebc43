import Gloss.Cache.Calls
import Gloss.Generation.Generator

/-!
# A schedule of callers

Jobs are worked on in turn, at most a given number at a time. A job that wants a
value calls the cache; any other is done at once. Jobs start in order, a caller
that was given its lock or whose generation has ended goes on in the order in
which this happened, and time passes only when nothing else can be done.
-/

namespace Gloss.Cache

open Gloss.Generation (Answer)

/-- A wanted value: its key, and the answer that generating it would bring. -/
structure Request where
  key : String
  answer : Answer

/-- What happens to a job. -/
inductive Mark where
  | started (job : Nat)
  /-- A generation was begun for it. -/
  | asked (job : Nat)
  | ended (job : Nat)
  deriving DecidableEq, Repr

/-- Jobs at some point of the work on them. -/
structure Schedule where
  calls : Calls
  /-- The jobs that have not been taken up. -/
  upcoming : List Nat
  /-- How many jobs have been taken up and not ended. -/
  active : Nat := 0
  /-- The jobs that can go on, in order. -/
  ready : List Nat := []
  /-- When the generations under way end, and for whom. -/
  timers : List (Nat × Nat) := []
  /-- What has happened. -/
  marks : List Mark := []

namespace Schedule

/-- Takes up jobs while there is room for them. -/
def takeUp (s : Schedule) (limit : Nat) : Schedule :=
  let taken := s.upcoming.take (limit - s.active)
  { s with
    upcoming := s.upcoming.drop (limit - s.active)
    active := s.active + taken.length
    ready := s.ready ++ taken }

/-- Notes what has happened. -/
def mark (s : Schedule) (m : Mark) : Schedule :=
  { s with marks := s.marks ++ [m] }

/-- A job has ended. -/
def conclude (s : Schedule) (i : Nat) : Schedule :=
  { s.mark (.ended i) with active := s.active - 1 }

/-- The callers that have been given a lock and are not known to go on. -/
def newlyGranted (calls : Calls) (ready : List Nat) : List Nat :=
  (List.range calls.callers.length).filter fun j =>
    match calls.phase j with
    | .granted _ => !ready.contains j
    | _ => false

/-- Lets events happen; a caller that is given a lock by them can go on. -/
def happen (s : Schedule) (events : List Event) : Schedule :=
  let calls := s.calls.run events
  { s with calls := calls, ready := s.ready ++ newlyGranted calls s.ready }

/-- What follows when a caller has come to a new phase. -/
def followUp (s : Schedule) (i : Nat) (answer : Answer) : Schedule :=
  match s.calls.phase i with
  | .finished _ => s.conclude i
  | .generating _ =>
    let s := s.mark (.asked i)
    if answer.delay = 0 then (s.happen [.finish i answer.outcome]).conclude i
    else { s with timers := s.timers ++ [(s.calls.now + answer.delay, i)] }
  | _ => s

/-- Works on a job that can go on. -/
def work (jobs : List (Option Request)) (s : Schedule) (i : Nat) : Schedule :=
  match jobs[i]?.join with
  | none => (s.mark (.started i)).conclude i
  | some request =>
    match s.calls.phase i with
    | .idle => ((s.mark (.started i)).happen (Event.call i)).followUp i request.answer
    | .granted _ => (s.happen [.resume i]).followUp i request.answer
    | .generating _ => (s.happen [.finish i request.answer.outcome]).conclude i
    | _ => s

/-- Lets time pass until the next generation ends; none if none is under way. -/
def wait (s : Schedule) : Option Schedule :=
  (s.timers.map (·.1)).min?.map fun due =>
    let (done, left) := s.timers.partition fun (time, _) => decide (time ≤ due)
    { s.happen [.pass (due - s.calls.now)] with timers := left, ready := done.map (·.2) }

/-- Works on jobs, at most `limit` at a time, for a number of steps. -/
def loop (jobs : List (Option Request)) (limit : Nat) : Nat → Schedule → Schedule
  | 0, s => s
  | fuel + 1, s =>
    let s := s.takeUp limit
    match s.ready with
    | i :: rest => loop jobs limit fuel (work jobs { s with ready := rest } i)
    | [] =>
      match s.wait with
      | some s => loop jobs limit fuel s
      | none => s

/-- The state before any work. -/
def initial (cache : Cache) (now : Nat) (jobs : List (Option Request)) : Schedule where
  calls := .ofKeys cache now (jobs.map fun job => (job.map Request.key).getD "")
  upcoming := List.range jobs.length

/-- Works on all jobs. Each takes at most three turns, and waits at most once. -/
def run (cache : Cache) (now limit : Nat) (jobs : List (Option Request)) : Schedule :=
  loop jobs (max limit 1) (4 * jobs.length + 1) (initial cache now jobs)

/-- What the caller of a job got. -/
def result? (s : Schedule) (i : Nat) : Option Result :=
  match s.calls.phase i with
  | .finished result => some result
  | _ => none

/-- How many generations were begun. -/
def asked (s : Schedule) : Nat :=
  s.marks.countP fun
    | .asked _ => true
    | _ => false

end Schedule

/-! ## One caller -/

/-- A cache at some time. -/
structure Clock where
  now : Nat := 0
  cache : Cache

/-- One caller that is given up after some time, if it has not got its value by
then. -/
def callWithin (clock : Clock) (request : Request) (limit : Nat) : Option Result × Clock :=
  let calls := (Calls.ofKeys clock.cache clock.now [request.key]).run (Event.call 0)
  let after := fun (s : Calls) => (⟨s.now, s.cache⟩ : Clock)
  match calls.phase 0 with
  | .finished result => (some result, after calls)
  | .generating lock =>
    if request.answer.delay < limit then
      let calls := { calls with now := calls.now + request.answer.delay }
      (some (request.answer.outcome.map fun value => (value, false)),
        after (calls.finish 0 lock request.answer.outcome))
    else (none, after ({ calls with now := calls.now + limit }.abandon 0))
  | _ => (none, after calls)

end Gloss.Cache
