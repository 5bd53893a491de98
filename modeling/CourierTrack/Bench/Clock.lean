import CourierTrack.Time.Span
/-!
Things that run on a virtual clock. The clock stands still while anything is ready to happen, and
then jumps to the next time something waits for.
-/

namespace CourierTrack.Bench

open Time

class Timed (σ : Type u) where
  now : σ → Reading
  /-- The same at another clock reading. -/
  setNow : Reading → σ → σ
  /-- Does one thing that is ready, if there is one. -/
  ready? : σ → Option σ
  next? : σ → Option Reading

/-- The number of steps after which a run that does not come to rest is given up. -/
def maxSteps : Nat := 1000000

section

variable {σ : Type u} [Timed σ]

def settleWithin : Nat → σ → σ
  | 0, s => s
  | fuel + 1, s =>
    match Timed.ready? s with
    | some s => settleWithin fuel s
    | none => s

/-- Lets everything happen that is ready. -/
def settle (s : σ) : σ := settleWithin maxSteps s

/-- Moves the clock forward, and lets everything happen that is ready then. -/
def arrive (time : Reading) (s : σ) : σ := settle (Timed.setNow (max (Timed.now s) time) s)

/-- The next time that something waits for, if it is before the limit. -/
def nextBefore? (limit : Option Reading) (s : σ) : Option Reading :=
  match Timed.next? s, limit with
  | some time, some limit => if time < limit then some time else none
  | next, _ => next

def runWithin (done : σ → Bool) (limit : Option Reading) : Nat → σ → σ
  | 0, s => s
  | fuel + 1, s =>
    if done s then s
    else match Timed.ready? s with
      | some s => runWithin done limit fuel s
      | none =>
        match nextBefore? limit s with
        | some time => runWithin done limit fuel (Timed.setNow (max (Timed.now s) time) s)
        | none => s

/-- Runs until `done` holds, or until nothing is ready and nothing waits for a time before the
limit. -/
def runUntil (done : σ → Bool) (limit : Option Reading) (s : σ) : σ :=
  runWithin done limit maxSteps s

def isAtRest (s : σ) : Bool := (Timed.ready? s).isNone

def runTo (target : Reading) (s : σ) : σ :=
  arrive target (runUntil (fun _ => false) (some target) s)

def runFor (span : Span) (s : σ) : σ := runTo (Timed.now s + span) s

end

/-- The earlier of two times, where either may be missing. -/
def sooner (a b : Option Reading) : Option Reading :=
  match a, b with
  | some a, some b => some (min a b)
  | some a, none => some a
  | none, b => b

def soonest (times : List (Option Reading)) : Option Reading := times.foldl sooner none

end CourierTrack.Bench
