import CourierTrack.Watcher.Basic
/-!
A watcher at work: takes the backfill once, channel events in order, and stops when the delivery is
over.

Every cue makes one batch of render events. The batch goes to the display as a whole unless the
display closes meanwhile; then, or when the status has become terminal, the session ends.
-/

namespace CourierTrack.Watcher

open Time

inductive Cue where
  | cancelled
  /-- The backfill; `none` if there is no place to ask for it. -/
  | backfill (result : Option (Except HistoryError (List Point)))
  | event (event : Channel.Event)
  | gone
  deriving Repr

structure Session where
  watcher : Watcher
  awaiting : Bool := true
  ended : Bool := false
  deriving Repr

namespace Session

def finish (s : Session) : Session := { s with ended := true }

/-- The batch that a cue makes; none if the cue ends the session. -/
def batch? (s : Session) (clock : Instant) : Cue → Option (List RenderEvent × Session)
  | .cancelled => none
  | .backfill result =>
    if s.awaiting then
      let (events, watcher) := match result with
        | some result => s.watcher.applyHistory result
        | none => ([], s.watcher)
      some (events, { s with watcher, awaiting := false })
    else some ([], s)
  | .event event =>
    let (events, watcher) := s.watcher.handle clock event
    some (events, { s with watcher })
  | .gone => none

/-- What the display gets of a batch if it takes `room` more events, or any number. -/
def shown (room : Option Nat) (batch : List RenderEvent) : List RenderEvent :=
  match room with
  | none => batch
  | some n => batch.take n

def step (s : Session) (clock : Instant) (room : Option Nat) (cue : Cue) :
    List RenderEvent × Session :=
  if s.ended then ([], s)
  else match s.batch? clock cue with
    | none => ([], s.finish)
    | some (batch, s) =>
      let events := shown room batch
      if events.length < batch.length || s.watcher.delivery.status.isTerminal then
        (events, s.finish)
      else (events, s)

end Session

end CourierTrack.Watcher
