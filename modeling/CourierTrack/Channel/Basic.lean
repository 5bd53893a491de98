import CourierTrack.Channel.Event
import CourierTrack.Frame.Decode
import CourierTrack.Frame.Encode
/-!
A reconnecting channel: the machine of `Channel.Machine`, and what its owner, its connection and
the clock do to it.

A channel waits in one phase at a time. Every signal it takes makes it act, and leaves it waiting
in some phase again; a signal that has no meaning in a phase changes nothing there. Writing does
not wait, so a signal that leads to writes says how many of them succeed. The state of the machine
is published after every signal, with an event if it changed; sending while the channel is live
publishes nothing, for the outbox stays empty.
-/

namespace CourierTrack.Channel

open Time

/-- What a channel waits for. -/
inductive Phase where
  /-- The order to connect. -/
  | idle
  /-- The end of an attempt. -/
  | connecting
  /-- Frames of either side. -/
  | live
  /-- The time of the next attempt. -/
  | pausing (due : Reading)
  /-- Nothing but more frames to keep. -/
  | finished
  /-- Nothing: the owner has left. -/
  | gone
  deriving Repr, DecidableEq

inductive Signal where
  | connect
  /-- A frame from the owner; `written` tells whether writing it now succeeds. -/
  | send (frame : Frame) (written : Bool)
  | stop
  | abandoned
  | refused
  /-- The attempt gave a connection that takes `room` writes before one fails, or any number. -/
  | accepted (room : Option Nat)
  | received (text : String)
  /-- The connection broke, or its peer closed it. -/
  | dropped
  | elapsed
  deriving Repr

inductive Action where
  | attempt
  | cancel
  | write (text : String)
  /-- Closes the connection and lets it go, whether or not closing succeeds. -/
  | close
  /-- Lets the connection go as it is. -/
  | release
  | announce (event : Event)
  /-- Found the machine in a state that no phase leaves behind. -/
  | strayed
  deriving Repr

end CourierTrack.Channel

namespace CourierTrack

open Time Channel

structure Channel where
  machine : Machine
  phase : Phase := .idle
  published : Snapshot
  deriving Repr

namespace Channel

def ofBackoff (backoff : Backoff) : Channel :=
  let machine : Machine := { backoff }
  { machine, published := machine.snapshot }

/-- Publishes the machine without an event. -/
def note (c : Channel) : Channel := { c with published := c.machine.snapshot }

/-- Publishes the machine, with an event if its state changed. -/
def publish (c : Channel) : List Action × Channel :=
  (if c.published.state = c.machine.state then []
    else [.announce (.status c.machine.state)], c.note)

/-- What is done next comes after what was done before. -/
def andThen (turn : List Action × Channel) (next : Channel → List Action × Channel) :
    List Action × Channel :=
  let (before, c) := turn
  let (after, c) := next c
  (before ++ after, c)

/-- Waits in the phase of the machine's state. No signal leaves a machine `live` or `closing`
here; such a machine is stopped. -/
def resume (now : Reading) (c : Channel) : List Action × Channel :=
  match c.machine.state with
  | .idle => ([], { c with phase := .idle })
  | .connecting => ([.attempt], { c with phase := .connecting })
  | .reconnecting => ([], { c with phase := .pausing (now + c.machine.scheduled.getD 0) })
  | .closed => ([], { c with phase := .finished })
  | .live | .closing =>
    let (events, c) := { c with machine := c.machine.stop.lost.2, phase := .finished }.publish
    (.strayed :: events, c)

def begin (now : Reading) (c : Channel) : List Action × Channel :=
  andThen { c with machine := c.machine.connect.2 }.publish (resume now)

/-- Waits for the next attempt after one failed or the connection was lost. -/
def retry (now : Reading) (c : Channel) : List Action × Channel :=
  andThen { c with machine := c.machine.lost.2 }.publish (resume now)

/-- Stops without a connection. -/
def halt (now : Reading) (c : Channel) : List Action × Channel :=
  andThen { c with machine := c.machine.stop }.publish (resume now)

/-- Stops with a connection, which is closed between the two states. -/
def closeDown (now : Reading) (c : Channel) : List Action × Channel :=
  andThen { c with machine := c.machine.stop }.publish fun c =>
    andThen ([.close], { c with machine := c.machine.lost.2 }) fun c =>
      andThen c.publish (resume now)

/-- Keeps a frame for later. -/
def keep (c : Channel) (frame : Frame) : Channel :=
  { c with machine := (c.machine.send frame).2 }.note

/-- Writes a frame; one that cannot be written comes first again, and the connection is lost. -/
def write (now : Reading) (c : Channel) (frame : Frame) (written : Bool) :
    List Action × Channel :=
  match c.machine.send frame with
  | (none, machine) => ([], { c with machine })
  | (some frame, machine) =>
    if written then ([.write frame.encode], { c with machine })
    else andThen ([.release], { c with machine := machine.requeue [frame] }) (retry now)

/-- The kept frames that the first writes of a connection take. -/
def flushed (room : Option Nat) (kept : List Frame) : List Frame :=
  match room with
  | none => kept
  | some n => kept.take n

/-- Goes live and writes the kept frames; what is not written is kept on, and the connection is
lost. -/
def enter (now : Reading) (c : Channel) (room : Option Nat) : List Action × Channel :=
  let (kept, machine) := c.machine.opened
  let written := flushed room kept
  let rest := kept.drop written.length
  andThen { c with machine }.publish fun c =>
    andThen (written.map fun frame => .write frame.encode, c) fun c =>
      if rest.isEmpty then ([], { c with phase := .live }.note)
      else andThen ([.release], { c with machine := c.machine.requeue rest }) (retry now)

/-- The event of a text that came in; a text that is no frame has none. -/
def inbound (text : String) : List Action :=
  match Frame.decode text with
  | .ok frame => [.announce (.message frame)]
  | .error _ => []

/-- Waits for nothing any more. -/
def depart (c : Channel) : List Action × Channel := ([], { c with phase := .gone })

def stepIdle (now : Reading) (c : Channel) : Signal → List Action × Channel
  | .connect => c.begin now
  | .send frame _ => ([], c.keep frame)
  | .stop => c.halt now
  | .abandoned => andThen (c.halt now) depart
  | _ => ([], c)

def stepConnecting (now : Reading) (c : Channel) : Signal → List Action × Channel
  | .send frame _ => ([], c.keep frame)
  | .stop => andThen (c.halt now) fun c => ([.cancel], c)
  | .abandoned => andThen (c.halt now) fun c => ([.cancel], { c with phase := .gone })
  | .refused => c.retry now
  | .accepted room => c.enter now room
  | _ => ([], c)

def stepLive (now : Reading) (c : Channel) : Signal → List Action × Channel
  | .send frame written => c.write now frame written
  | .stop => c.closeDown now
  | .abandoned => andThen (c.closeDown now) depart
  | .received text => (inbound text, c)
  | .dropped => andThen ([.release], c) (retry now)
  | _ => ([], c)

def stepPausing (now : Reading) (c : Channel) (due : Reading) : Signal → List Action × Channel
  | .send frame _ => ([], c.keep frame)
  | .stop => c.halt now
  | .abandoned => andThen (c.halt now) depart
  | .elapsed => if due ≤ now then c.begin now else ([], c)
  | _ => ([], c)

def stepFinished (c : Channel) : Signal → List Action × Channel
  | .send frame _ => ([], c.keep frame)
  | .abandoned => c.depart
  | _ => ([], c)

/-- What a channel does on a signal at the time `now`. -/
def step (now : Reading) (c : Channel) (signal : Signal) : List Action × Channel :=
  match c.phase with
  | .idle => c.stepIdle now signal
  | .connecting => c.stepConnecting now signal
  | .live => c.stepLive now signal
  | .pausing due => c.stepPausing now due signal
  | .finished => c.stepFinished signal
  | .gone => ([], c)

/-- When the channel goes on by itself. -/
def due? (c : Channel) : Option Reading :=
  match c.phase with
  | .pausing due => some due
  | _ => none

end Channel

end CourierTrack
