import CourierTrack.Bench.Stage
/-!
A command at work on a clock: what it prints first, what happens to its courier or its watcher, and
what it prints when that is over.

A courier goes on for a while after its task, for what still comes back. Then it shuts down, and so
does the watcher.
-/

namespace CourierTrack.Command

open Time Bench

inductive Act where
  | drive
  | walk (waypoints : Nat)
  /-- A walk with a watcher of its own. -/
  | demo
  | watch
  deriving Repr

inductive Progress where
  | working
  /-- The task is over, but something may still come back. -/
  | lingering
  | finished
  deriving Repr, DecidableEq

structure Performance where
  act : Act
  opening : List String
  stage : Stage
  progress : Progress := .working
  deriving Repr

namespace Performance

/-- The time for what comes back after the task of a courier. -/
def grace : Span := Span.millis 500

def isOver (p : Performance) : Bool := p.progress = .finished

def isThrough (p : Performance) : Bool :=
  match p.act with
  | .watch => p.stage.viewing.all fun v => v.session.ended
  | _ => p.stage.trip.all fun t => t.task.isOver

/-- Whether a courier lingers after its task; one that was interrupted does so in a demo only. -/
def lingers (p : Performance) : Bool :=
  match p.act with
  | .watch => false
  | .demo => true
  | _ => p.stage.trip.any fun t => !t.cancelled

def close (s : Stage) : Stage :=
  match s.viewing with
  | none => s
  | some v => { (s.happen .cancelViewing).2 with world := s.world.stop v.node }

/-- Goes on when what the performance waits for has come. -/
def advance (p : Performance) : Performance :=
  if p.progress = .working && p.lingers then
    { p with stage := p.stage.linger grace, progress := .lingering }
  else { p with stage := close p.stage.dismiss, progress := .finished }

def ready? (p : Performance) : Option Performance :=
  if p.isOver then none
  else if p.isThrough then some p.advance
  else (Timed.ready? p.stage).map fun stage => { p with stage }

instance : Timed Performance where
  now p := Timed.now p.stage
  setNow now p := { p with stage := Timed.setNow now p.stage }
  ready? := ready?
  next? p := if p.isOver then none else Timed.next? p.stage

def shown (p : Performance) : List String :=
  (p.stage.viewing.elim [] Viewing.shown).map fun e => e.2.line

def courierLines (act : Act) (t : Trip) : List String :=
  let tally := t.courier.tally
  match act with
  | .drive =>
    ["Session Summary",
      "───────────────",
      "  Sent:         " ++ toString tally.sent,
      "  Acknowledged: " ++ toString tally.acked,
      "  Filtered:     " ++ toString tally.rejected]
      ++ (t.courier.lastError.map fun e => "  Last error:   " ++ e).toList
  | .walk waypoints =>
    ["Sent " ++ toString tally.sent ++ " of " ++ toString waypoints ++ " waypoints ("
      ++ toString tally.acked ++ " acknowledged)"]
  | .demo => ["Sent " ++ toString tally.sent ++ ", acknowledged " ++ toString tally.acked]
  | .watch => []

def watcherLines (v : Viewing) : List String :=
  let d := v.session.watcher.delivery
  ["Delivery " ++ toString d.id.toNat ++ ": " ++ d.status.text ++ " ("
    ++ toString d.trail.points.length ++ " trail points)"]

/-- What is printed at the end. -/
def closing (p : Performance) : List String :=
  "" :: match p.act with
    | .watch => p.stage.viewing.elim [] watcherLines
    | act => p.stage.trip.elim [] (courierLines act)

def lines (p : Performance) : List String :=
  p.opening ++ p.shown ++ if p.isOver then p.closing else []

def run (p : Performance) : Performance := runUntil isOver none p

end Performance

end CourierTrack.Command
