import CourierTrack.Bench.World
import CourierTrack.Courier.Task
import CourierTrack.Source.Watch
/-!
A courier at work on a node: its task, the source it watches, and the store it writes to.
-/

namespace CourierTrack.Bench

open Time

/-- The room in the pipe between a source and a courier. -/
def sampleRoom : Nat := 64

structure Trip where
  courier : Courier
  node : Nat
  task : Courier.Task := .finished 0
  cancelAt : Option Reading := none
  cancelled : Bool := false
  tap : Option Source.Tap := none
  /-- What is on its way to the store. -/
  storing : List Courier.Record := []
  /-- What was stored and not looked at yet. -/
  stored : List Courier.Record := []
  deriving Repr

namespace Trip

/-- Hands a transmission to the channel, and sends its record off to the store. -/
def dispatch (t : Trip) (w : World) (transmission : Courier.Transmission) : World × Trip :=
  (w.send t.node transmission.frame,
    { t with storing := t.storing ++ transmission.record.toList })

def dispatchAll (t : Trip) (w : World) : List Courier.Transmission → World × Trip
  | [] => (w, t)
  | transmission :: rest =>
    let (w, t) := t.dispatch w transmission
    dispatchAll t w rest

/-- The reader of the source leaves when the task is over. -/
def leaveSource (t : Trip) (now : Reading) : Trip :=
  if t.task.isOver then { t with tap := t.tap.map fun tap => tap.leave.settle now } else t

def cue (t : Trip) (w : World) (clock : Instant) (cue : Courier.Cue) : World × Trip :=
  let (transmissions, task, courier) := t.courier.step t.task clock w.now cue
  let (w, t) := { t with task, courier }.dispatchAll w transmissions
  (w, t.leaveSource w.now)

/-- Offers a fix at a clock reading of its own. -/
def offer (t : Trip) (w : World) (sample : Sample) (now : Reading) : Bool × World × Trip :=
  let (transmission, courier) := t.courier.offer sample now
  let (w, t) := { t with courier }.dispatchAll w transmission.toList
  (transmission.isSome, w, t)

def handle (t : Trip) (now : Reading) (event : Channel.Event) : Trip :=
  { t with courier := t.courier.handle now event }

def read? (t : Trip) (w : World) : Option (World × Trip) :=
  match w.nextEvent? t.node with
  | some (event, w) => some (w, t.handle w.now event)
  | none => none

def catchUp (t : Trip) (w : World) : World × Trip :=
  let (events, w) := w.takeEvents t.node
  (w, events.foldl (fun t event => t.handle w.now event) t)

/-- Watches a source in place of the one watched before. -/
def watch (t : Trip) (feed : List Source.Entry) : Trip :=
  { t with tap := some (.start feed sampleRoom) }

def begin (t : Trip) (task : Courier.Task) (cancelAt : Option Reading) : Trip :=
  { t with task, cancelAt, cancelled := false }

def follow (t : Trip) (feed : List Source.Entry) (cancelAt : Option Reading) : Trip :=
  (t.watch feed).begin .following cancelAt

def walk (t : Trip) (route : List Point) (now : Reading) (cancelAt : Option Reading) : Trip :=
  let (task, courier) := t.courier.walk route now
  { t with courier }.begin task cancelAt

def wait (t : Trip) (due : Reading) : Trip := t.begin (.waiting due) none

def stopWatch (t : Trip) : Trip := { t with tap := none }

def shutdown (t : Trip) (w : World) : World × Trip := (w.stop t.node, t.stopWatch)

def isWatching (t : Trip) : Bool := t.tap.any fun tap => tap.watch.isActive

def sourceReady? (t : Trip) (now : Reading) : Option Trip := do
  let tap ← t.tap
  match tap.watch.phase with
  | .fresh _ => some { t with tap := some (tap.settle now) }
  | .waiting due _ _ => if due ≤ now then some { t with tap := some (tap.settle now) } else none
  | _ => none

/-- What the source has for a courier that follows it. -/
def sampleReady? (t : Trip) (now : Reading) : Option (Courier.Cue × Trip) :=
  match t.task, t.tap with
  | .following, some tap =>
    match tap.take? with
    | some (sample, tap) => some (.sample sample, { t with tap := some (tap.settle now) })
    | none => if tap.isDry then some (.dry, t) else none
  | _, _ => none

def hasCome (now : Reading) : Option Reading → Bool
  | some due => due ≤ now
  | none => false

def eventReady? (t : Trip) (w : World) : Option (Courier.Cue × World) :=
  match w.nextEvent? t.node with
  | some (event, w) => some (.event event, w)
  | none => if w.isGone t.node then some (.gone, w) else none

def taskReady? (t : Trip) (w : World) (clock : Instant) : Option (World × Trip) :=
  if t.task.isOver then none
  else if hasCome w.now t.task.due? then some (t.cue w clock .elapsed)
  else match t.sampleReady? w.now with
    | some (cue, t) => some (t.cue w clock cue)
    | none =>
      match t.eventReady? w with
      | some (cue, w) => some (t.cue w clock cue)
      | none =>
        if hasCome w.now t.cancelAt then some ({ t with cancelled := true }.cue w clock .cancelled)
        else none

/-- The store gets what is on its way to it. -/
def storeReady? (t : Trip) : Option Trip :=
  if t.storing.isEmpty then none
  else some { t with storing := [], stored := t.stored ++ t.storing }

def ready? (t : Trip) (w : World) (clock : Instant) : Option (World × Trip) :=
  match t.sourceReady? w.now with
  | some t => some (w, t)
  | none => t.taskReady? w clock

def next? (t : Trip) : Option Reading :=
  let task := if t.task.isOver then none else sooner t.task.due? t.cancelAt
  sooner task (t.tap.bind fun tap => tap.watch.due?)

end Trip

end CourierTrack.Bench
