import CourierTrack.Channel.Backoff
import CourierTrack.Frame.Basic
/-!
The life of a reconnecting channel without any input or output: its state, how often it failed in
a row, the wait it chose, and the frames that wait for a connection.

A channel goes from `idle` to `connecting`, from there to `live` or `reconnecting`, and from `live`
to `reconnecting` when the connection is lost. Stopping a live channel takes it through `closing`;
any other channel is `closed` at once. Nothing leaves `closed`. Frames offered while the channel is
not live are kept in order, also when it is closed.
-/

namespace CourierTrack.Channel

open Time

inductive State where
  | idle
  | connecting
  | live
  | closing
  | reconnecting
  | closed
  deriving Repr, DecidableEq

namespace State

def label : State → String
  | .idle => "idle"
  | .connecting => "connecting"
  | .live => "live"
  | .closing => "closing"
  | .reconnecting => "reconnecting"
  | .closed => "closed"

def isFinal : State → Bool
  | .closed => true
  | _ => false

end State

structure Machine where
  backoff : Backoff
  state : State := .idle
  /-- Failures in a row; the count stops at the largest 32-bit word. -/
  retries : Nat := 0
  /-- The wait chosen by the last failure, while it lasts. -/
  scheduled : Option Span := none
  outbox : List Frame := []
  deriving Repr

namespace Machine

def maxRetries : Nat := 0xffffffff

/-- Starts an attempt, from `idle` or after a wait. -/
def connect (m : Machine) : Bool × Machine :=
  match m.state with
  | .idle | .reconnecting => (true, { m with state := .connecting, scheduled := none })
  | _ => (false, m)

/-- The attempt succeeded: hands out the kept frames, oldest first. -/
def opened (m : Machine) : List Frame × Machine :=
  match m.state with
  | .connecting => (m.outbox, { m with state := .live, retries := 0, outbox := [] })
  | _ => ([], m)

/-- The attempt failed or the connection ended: gives the wait before the next attempt. -/
def lost (m : Machine) : Option Span × Machine :=
  match m.state with
  | .connecting | .live =>
    let delay := m.backoff.delay m.retries
    (some delay,
      { m with state := .reconnecting, retries := min (m.retries + 1) maxRetries,
               scheduled := some delay })
  | .closing => (none, { m with state := .closed })
  | _ => (none, m)

def stop (m : Machine) : Machine :=
  match m.state with
  | .live | .closing => { m with state := .closing, scheduled := none }
  | _ => { m with state := .closed, scheduled := none }

/-- Offers a frame: a live channel hands it back to be written now, any other keeps it. -/
def send (m : Machine) (frame : Frame) : Option Frame × Machine :=
  match m.state with
  | .live => (some frame, m)
  | _ => (none, { m with outbox := m.outbox ++ [frame] })

/-- Puts frames that were not written back in front of the kept ones. -/
def requeue (m : Machine) (frames : List Frame) : Machine :=
  { m with outbox := frames ++ m.outbox }

end Machine

structure Snapshot where
  state : State
  retries : Nat
  waiting : Nat
  deriving Repr, DecidableEq

def Machine.snapshot (m : Machine) : Snapshot := ⟨m.state, m.retries, m.outbox.length⟩

end CourierTrack.Channel
