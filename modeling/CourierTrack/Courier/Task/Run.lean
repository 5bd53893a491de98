import CourierTrack.Courier.Task
/-!
A walk over a whole run. Its ticks, the order to cancel it and what the channel tells come in any
order, and the clock goes on in between.
-/

namespace CourierTrack.Courier

open Time

/-- What a walk waits for takes place, or time passes. -/
inductive Choice where
  | wait (span : Span)
  | cancel
  | tick (clock : Instant)
  /-- The channel's next event, or its end. -/
  | event
  deriving Repr, DecidableEq

structure Outing where
  now : Reading
  task : Task
  courier : Courier
  /-- The channel events still to come; after them the channel is gone. -/
  coming : List Channel.Event
  deriving Repr

namespace Outing

def start (c : Courier) (route : List Point) (now : Reading) (coming : List Channel.Event) :
    Outing :=
  let (task, courier) := c.walk route now
  { now, task, courier, coming }

/-- The cue of a choice, if there is one, and the channel events still to come after it. -/
def cue? (o : Outing) : Choice → Option (Instant × Cue × List Channel.Event)
  | .wait _ => none
  | .cancel => some (.epoch, .cancelled, o.coming)
  | .tick clock =>
    if o.task.due?.any (· ≤ o.now) then some (clock, .elapsed, o.coming) else none
  | .event =>
    match o.coming with
    | [] => some (.epoch, .gone, [])
    | event :: rest => some (.epoch, .event event, rest)

def after (o : Outing) : Choice → Outing
  | .wait span => { o with now := o.now + span }
  | _ => o

/-- What a choice makes of an outing, with what is sent and when. -/
def choose (o : Outing) (choice : Choice) : List (Reading × Transmission) × Outing :=
  if o.task.isOver then ([], o)
  else match o.cue? choice with
    | none => ([], o.after choice)
    | some (clock, cue, coming) =>
      let (sent, task, courier) := o.courier.step o.task clock o.now cue
      (sent.map (o.now, ·), { o with task, courier, coming })

def run (o : Outing) : List Choice → List (Reading × Transmission) × Outing
  | [] => ([], o)
  | choice :: rest =>
    let (sent, o) := o.choose choice
    let (more, o) := o.run rest
    (sent ++ more, o)

/-- Whether a choice is made by a clock that does not pass over a time that is waited for. -/
def KeepsTime (o : Outing) : Choice → Prop
  | .wait span => ∀ due, o.task.due? = some due → o.now + span ≤ due
  | _ => True

/-- Whether no tick comes late. -/
def Exact (o : Outing) : List Choice → Prop
  | [] => True
  | choice :: rest => o.KeepsTime choice ∧ (o.choose choice).2.Exact rest

end Outing

/-- The choices without those that hear one of the first `count` events. -/
def unheard : Nat → List Choice → List Choice
  | _, [] => []
  | 0, choices => choices
  | count + 1, .event :: rest => unheard count rest
  | count + 1, choice :: rest => choice :: unheard (count + 1) rest

end CourierTrack.Courier
