import CourierTrack.Channel.Basic
import CourierTrack.Relay
/-!
A channel with what stands behind it: how its attempts to connect go, the connection it holds, and
what the far end saw of it.
-/

namespace CourierTrack.Bench

open Time

/-- How an attempt to connect goes. -/
structure Plan where
  delay : Span := 0
  refused : Bool := false
  /-- The writes that succeed before one fails, unless all do. -/
  room : Option Nat := none
  deriving Repr

/-- What reaches the far end. -/
inductive Mark where
  | text (text : String)
  | closed
  deriving Repr, DecidableEq

/-- The far end of a connection, as long as it remembers it. -/
structure Peer where
  held : Bool := true
  /-- The writes that still succeed. -/
  room : Option Nat
  deriving Repr

inductive Order where
  | connect
  | send (frame : Frame)
  | stop
  /-- The owner leaves. -/
  | abandon
  deriving Repr

structure Node where
  channel : Channel
  orders : List Order := []
  /-- Whether connections join the relay. -/
  relayed : Bool := false
  /-- How the next attempts go; those after the last plan succeed at once. -/
  plans : List Plan := []
  /-- Whether attempts without a plan fail. -/
  refusing : Bool := false
  attempts : List Reading := []
  /-- The attempt under way, with the time of its outcome. -/
  underway : Option (Reading × Plan) := none
  accepted : Nat := 0
  peer : Option Peer := none
  /-- The inbox at the relay of the connection, or of the one that the attempt under way gives. -/
  seat : Option Nat := none
  /-- What reached the far end, each with the number of its connection. -/
  written : List (Nat × Mark) := []
  /-- What the channel told its owner and was not taken yet. -/
  events : List Channel.Event := []
  deriving Repr

namespace Node

def ofChannel (channel : Channel) (relayed : Bool) : Node := { channel, relayed }

def canWrite (n : Node) : Bool :=
  match n.peer with
  | some { room := some 0, .. } => false
  | _ => true

def orderSignal (n : Node) : Order → Channel.Signal
  | .connect => .connect
  | .send frame => .send frame n.canWrite
  | .stop => .stop
  | .abandon => .abandoned

def plan (n : Node) : Plan :=
  match n.plans with
  | plan :: _ => plan
  | [] => { refused := n.refusing }

def attempt (n : Node) (now : Reading) : Node :=
  { n with
    attempts := n.attempts ++ [now]
    underway := some (now + n.plan.delay, n.plan)
    plans := n.plans.tail }

def accept (n : Node) (plan : Plan) : Node :=
  { n with
    underway := none
    accepted := n.accepted + 1
    peer := some { room := plan.room } }

def log (n : Node) (mark : Mark) : Node := { n with written := n.written ++ [(n.accepted, mark)] }

def wrote (n : Node) (text : String) : Node :=
  let peer := n.peer.map fun p => { p with room := p.room.map (· - 1) }
  { n with peer }.log (.text text)

/-- The channel lets its connection go, and with it the seat at the relay. -/
def letGo (r : Relay) (n : Node) : Relay × Node :=
  (match n.seat with
    | some seat => r.leave seat
    | none => r,
    { n with peer := n.peer.map fun p => { p with held := false }, seat := none })

/-- What an action of the channel does to a node and the relay. An attempt that is to succeed joins
the relay at once. -/
def act (now : Reading) (r : Relay) (n : Node) : Channel.Action → Relay × Node
  | .attempt =>
    if n.relayed && !n.plan.refused then
      (r.join.2, { n.attempt now with seat := some r.join.1 })
    else (r, n.attempt now)
  | .cancel => { n with underway := none }.letGo r
  | .write text => (if n.relayed then (r.broadcast text).2 else r, n.wrote text)
  | .close => (n.log .closed).letGo r
  | .release => n.letGo r
  | .announce event => (r, { n with events := n.events ++ [event] })
  | .strayed => (r, n)

def actAll (now : Reading) (r : Relay) (n : Node) : List Channel.Action → Relay × Node
  | [] => (r, n)
  | action :: rest =>
    let (r, n) := n.act now r action
    n.actAll now r rest

def signal (now : Reading) (r : Relay) (n : Node) (s : Channel.Signal) : Relay × Node :=
  let (actions, channel) := n.channel.step now s
  { n with channel }.actAll now r actions

def conclude (now : Reading) (r : Relay) (n : Node) (plan : Plan) : Relay × Node :=
  if plan.refused then { n with underway := none }.signal now r .refused
  else (n.accept plan).signal now r (.accepted plan.room)

/-- What a node does by itself, when its time has come. -/
inductive Chore where
  | order
  | outcome
  | retry
  /-- Takes a text from the inbox; an inbox that is over ends the connection. -/
  | inbox
  deriving Repr, DecidableEq

/-- All chores, the most urgent first. -/
def chores : List Chore := [.order, .outcome, .retry, .inbox]

def order? (now : Reading) (r : Relay) (n : Node) : Option (Relay × Node) :=
  match n.orders with
  | [] => none
  | order :: rest => some ({ n with orders := rest }.signal now r (n.orderSignal order))

def outcome? (now : Reading) (r : Relay) (n : Node) : Option (Relay × Node) :=
  match n.underway with
  | none => none
  | some (due, plan) => if due ≤ now then some (n.conclude now r plan) else none

def retry? (now : Reading) (r : Relay) (n : Node) : Option (Relay × Node) :=
  match n.channel.due? with
  | none => none
  | some due => if due ≤ now then some (n.signal now r .elapsed) else none

def inbox? (now : Reading) (r : Relay) (n : Node) : Option (Relay × Node) :=
  match n.underway, n.seat with
  | none, some seat =>
    match r.take? seat with
    | some (text, r) => some (n.signal now r (.received text))
    | none => if (r.inbox? seat).any Inbox.isOver then some (n.signal now r .dropped) else none
  | _, _ => none

/-- Does a chore, if there is anything to do. -/
def do? (now : Reading) (r : Relay) (n : Node) : Chore → Option (Relay × Node)
  | .order => n.order? now r
  | .outcome => n.outcome? now r
  | .retry => n.retry? now r
  | .inbox => n.inbox? now r

/-- What the far end of the newest connection got, if it is still there. -/
def received (n : Node) : List String :=
  if n.peer.isSome then
    n.written.filterMap fun (connection, mark) =>
      match mark with
      | .text text => if connection = n.accepted then some text else none
      | .closed => none
  else []

/-- Forgets what was looked at. -/
def looked (n : Node) : Node := { n with written := [] }

end Node

end CourierTrack.Bench
