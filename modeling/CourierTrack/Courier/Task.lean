import CourierTrack.Courier.Basic
/-!
What a courier does over time: following a source, walking a route, or waiting for what comes back.

A task takes one cue at a time. Following ends with the source; a walk sends its first waypoint at
once and one more at every tick, and ends a tick after the last one; waiting ends when its time is
up. Each of them ends as well when the channel has gone, and the first two when they are cancelled.
A tick that comes late does not bring the later ones closer together.
-/

namespace CourierTrack.Courier

open Time

inductive Task where
  | following
  | walking (due : Reading) (route : List Point) (walked : Nat)
  | waiting (due : Reading)
  | finished (walked : Nat)
  deriving Repr

inductive Cue where
  | cancelled
  | elapsed
  | sample (sample : Sample)
  | dry
  | event (event : Channel.Event)
  | gone
  deriving Repr

namespace Task

def isOver : Task → Bool
  | .finished _ => true
  | _ => false

def walked : Task → Nat
  | .walking _ _ walked => walked
  | .finished walked => walked
  | _ => 0

def due? : Task → Option Reading
  | .walking due _ _ => some due
  | .waiting due => some due
  | _ => none

end Task

/-- A tick that is no later than this counts as in time. -/
def tickSlack : Span := Span.millis 5

/-- When the next tick is due; after one that was missed the ticks start anew. -/
def nextTick (tick : Span) (due now : Reading) : Reading :=
  if due + tickSlack < now then now + tick else due + tick

/-- Starts a walk; the delivery is a demonstration from now on. -/
def walk (c : Courier) (route : List Point) (now : Reading) : Task × Courier :=
  (.walking now route 0, c.setStatus walkStatus)

def elapse (c : Courier) (task : Task) (clock : Instant) (now : Reading) :
    List Transmission × Task × Courier :=
  match task with
  | .walking due (point :: route) walked =>
    let (transmission, c) := c.hop point clock now
    ([transmission], .walking (nextTick c.config.tick due now) route (walked + 1), c)
  | .walking _ [] walked => ([], .finished walked, c)
  | .waiting _ => ([], .finished 0, c)
  | task => ([], task, c)

def step (c : Courier) (task : Task) (clock : Instant) (now : Reading) :
    Cue → List Transmission × Task × Courier
  | .cancelled =>
    match task with
    | .waiting _ => ([], task, c)
    | task => ([], .finished task.walked, c)
  | .elapsed => c.elapse task clock now
  | .sample sample =>
    match task with
    | .following =>
      let (transmission, c) := c.offer sample now
      (transmission.toList, task, c)
    | task => ([], task, c)
  | .dry =>
    match task with
    | .following => ([], .finished 0, c)
    | task => ([], task, c)
  | .event event =>
    match task with
    | .finished _ => ([], task, c)
    | task => ([], task, c.handle now event)
  | .gone => ([], .finished task.walked, c)

end CourierTrack.Courier
