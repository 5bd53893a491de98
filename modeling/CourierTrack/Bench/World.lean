import CourierTrack.Bench.Clock
import CourierTrack.Bench.Node
/-!
Nodes on one clock and one relay.
-/

namespace CourierTrack.Bench

open Time

structure World where
  now : Reading := 0
  relay : Relay := {}
  nodes : List Node := []
  deriving Repr

namespace World

def modify (w : World) (i : Nat) (f : Node → Node) : World :=
  { w with nodes := w.nodes.modify i f }

/-- A node and the relay after a turn of the node. -/
def put (w : World) (i : Nat) (turn : Relay × Node) : World :=
  { w with relay := turn.1, nodes := w.nodes.set i turn.2 }

/-- Passes a text on to the members of the relay. -/
def broadcast (w : World) (text : String) : Nat × World :=
  let (count, relay) := w.relay.broadcast text
  (count, { w with relay })

def signal (w : World) (i : Nat) (s : Channel.Signal) : World :=
  match w.nodes[i]? with
  | none => w
  | some n => w.put i (n.signal w.now w.relay s)

/-- A node does a chore, if there is anything to do. -/
def chore? (w : World) (i : Nat) (chore : Node.Chore) : Option World :=
  match w.nodes[i]? with
  | none => none
  | some n => (n.do? w.now w.relay chore).map (w.put i)

def nodeReady? (w : World) (i : Nat) : Option World := Node.chores.findSome? (w.chore? i)

instance : Timed World where
  now := World.now
  setNow now w := { w with now }
  ready? w := (List.range w.nodes.length).findSome? w.nodeReady?
  next? w := soonest (w.nodes.map fun n => sooner (n.underway.map Prod.fst) n.channel.due?)

/-- Adds a node, with its number. -/
def add (w : World) (n : Node) : Nat × World :=
  (w.nodes.length, { w with nodes := w.nodes ++ [n] })

def order (w : World) (i : Nat) (order : Order) : World :=
  w.modify i fun n => { n with orders := n.orders ++ [order] }

def connect (w : World) (i : Nat) : World := w.order i .connect

def send (w : World) (i : Nat) (frame : Frame) : World := w.order i (.send frame)

def stop (w : World) (i : Nat) : World := w.order i .stop

def refuse (w : World) (i : Nat) (refusing : Bool) : World :=
  w.modify i fun n => { n with refusing }

/-- Whether the newest connection of a node is still held on both sides. -/
def isHeld (w : World) (i : Nat) : Bool :=
  match (w.nodes[i]?).bind Node.peer with
  | some peer => peer.held
  | none => false

/-- The far end sends a text; tells whether the channel holds the connection. -/
def receive (w : World) (i : Nat) (text : String) : Bool × World :=
  if w.isHeld i then (true, w.signal i (.received text)) else (false, w)

/-- The connection breaks; tells whether the channel held it. -/
def fail (w : World) (i : Nat) : Bool × World :=
  if w.isHeld i then (true, w.signal i .dropped) else (false, w)

/-- The far end closes the connection and forgets it; tells whether it remembered one. -/
def hangUp (w : World) (i : Nat) : Bool × World :=
  match (w.nodes[i]?).bind Node.peer with
  | none => (false, w)
  | some peer =>
    let w := w.modify i fun n => { n with peer := none }
    (true, if peer.held then w.signal i .dropped else w)

def disconnectAll (w : World) : World := { w with relay := w.relay.disconnectAll }

def takeEvents (w : World) (i : Nat) : List Channel.Event × World :=
  ((w.nodes[i]?).elim [] Node.events, w.modify i fun n => { n with events := [] })

def nextEvent? (w : World) (i : Nat) : Option (Channel.Event × World) :=
  match (w.nodes[i]?).elim [] Node.events with
  | [] => none
  | event :: rest => some (event, w.modify i fun n => { n with events := rest })

def isGone (w : World) (i : Nat) : Bool := (w.nodes[i]?).any fun n => n.channel.phase = .gone

def published? (w : World) (i : Nat) : Option Channel.Snapshot :=
  (w.nodes[i]?).map fun n => n.channel.published

def isIn (w : World) (i : Nat) (state : Channel.State) : Bool :=
  (w.published? i).any fun s => s.state = state

/-- Waits until a node's channel is in a state, but no longer than `limit`; tells whether it is. -/
def awaitState (w : World) (i : Nat) (state : Channel.State) (limit : Span) : Bool × World :=
  let target := w.now + limit
  let there (w : World) : Bool := w.isIn i state && isAtRest w
  let w := runUntil there (some target) w
  if there w then (true, w) else (false, runTo target w)

end World

end CourierTrack.Bench
