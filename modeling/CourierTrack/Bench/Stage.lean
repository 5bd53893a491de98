import CourierTrack.Bench.Happening
import CourierTrack.Bench.Trip
import CourierTrack.Bench.Viewing
/-!
A courier and a watcher on one clock, and what happens to them by a timeline.
-/

namespace CourierTrack.Bench

open Time

inductive Incident where
  | world (happening : Happening)
  | cancelViewing
  | closeDisplay
  deriving Repr

structure Stage where
  clock : Instant
  world : World := {}
  trip : Option Trip := none
  viewing : Option Viewing := none
  timeline : List (Reading × Incident) := []
  answers : List Answer := []
  deriving Repr

namespace Stage

def happen (s : Stage) : Incident → Answer × Stage
  | .world happening =>
    let (answer, world) := s.world.happen happening
    (answer, { s with world })
  | .cancelViewing =>
    (.nothing, { s with viewing := s.viewing.map fun v => v.cue s.world.now s.clock .cancelled })
  | .closeDisplay => (.nothing, { s with viewing := s.viewing.map Viewing.closeDisplay })

def timelineReady? (s : Stage) : Option Stage :=
  match s.timeline with
  | (due, incident) :: rest =>
    if due ≤ s.world.now then
      let (answer, s) := s.happen incident
      some { s with timeline := rest, answers := s.answers ++ [answer] }
    else none
  | [] => none

def tripReady? (s : Stage) : Option Stage := do
  let trip ← s.trip
  let (world, trip) ← trip.ready? s.world s.clock
  return { s with world, trip := some trip }

def viewingReady? (s : Stage) : Option Stage := do
  let viewing ← s.viewing
  let (world, viewing) ← viewing.ready? s.world s.clock
  return { s with world, viewing := some viewing }

def storeReady? (s : Stage) : Option Stage := do
  let trip ← s.trip
  let trip ← trip.storeReady?
  return { s with trip := some trip }

def worldReady? (s : Stage) : Option Stage := do
  let world ← Timed.ready? s.world
  return { s with world }

instance : Timed Stage where
  now s := s.world.now
  setNow now s := { s with world := { s.world with now } }
  ready? s :=
    s.timelineReady? <|> s.tripReady? <|> s.viewingReady? <|> s.storeReady? <|> s.worldReady?
  next? s := soonest [
    s.timeline.head?.map Prod.fst,
    s.trip.bind Trip.next?,
    s.viewing.bind Viewing.next?,
    Timed.next? s.world]

def runTask (s : Stage) : Stage :=
  runUntil (fun s => s.trip.all fun t => t.task.isOver) none s

/-- Lets the courier wait for what comes back. -/
def linger (s : Stage) (span : Span) : Stage :=
  { s with trip := s.trip.map fun t => t.wait (s.world.now + span) }

def dismiss (s : Stage) : Stage :=
  match s.trip with
  | none => s
  | some t =>
    let (world, t) := t.shutdown s.world
    { s with world, trip := some t }

def cancelViewing (s : Stage) : Stage := settle (s.happen .cancelViewing).2

end Stage

end CourierTrack.Bench
