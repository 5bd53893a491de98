import CourierTrack.Channel.Machine
import Mathlib.Data.List.DropRight
/-!
A machine over a whole run: requests in any order, also where they make no sense, and what each of
them changes.
-/

namespace CourierTrack.Channel.Machine

open Time

inductive Request where
  | connect
  | opened
  | lost
  | stop
  | send (frame : Frame)
  | requeue (frames : List Frame)
  deriving Repr

inductive Answer where
  | begun (begins : Bool)
  | drained (frames : List Frame)
  | waits (delay : Option Span)
  | stopped (state : State)
  | offered (back : Option Frame)
  | requeued
  deriving Repr

def respond (m : Machine) : Request → Answer × Machine
  | .connect => (.begun m.connect.1, m.connect.2)
  | .opened => (.drained m.opened.1, m.opened.2)
  | .lost => (.waits m.lost.1, m.lost.2)
  | .stop => (.stopped m.stop.state, m.stop)
  | .send frame => (.offered (m.send frame).1, (m.send frame).2)
  | .requeue frames => (.requeued, m.requeue frames)

/-- A request, its answer, and the machine before and after it. -/
structure Move where
  before : Machine
  request : Request
  answer : Answer
  after : Machine
  deriving Repr

namespace Move

/-- Whether an attempt succeeds. -/
def opens (move : Move) : Bool :=
  match move.request with
  | .opened => move.before.state = .connecting
  | _ => false

/-- Whether a wait before the next attempt is chosen. -/
def fails (move : Move) : Bool :=
  match move.answer with
  | .waits (some _) => true
  | _ => false

end Move

def move (m : Machine) (request : Request) : Move :=
  ⟨m, request, (m.respond request).1, (m.respond request).2⟩

def moves (m : Machine) : List Request → List Move
  | [] => []
  | request :: rest => m.move request :: (m.move request).after.moves rest

/-- The machine after some requests. -/
def after (m : Machine) (requests : List Request) : Machine :=
  requests.foldl (fun m request => (m.respond request).2) m

/-- The failures since an attempt succeeded last, or since the start. -/
def failures (moves : List Move) : Nat :=
  (moves.rtakeWhile fun move => !move.opens).countP Move.fails

/-- The changes of state that a request brings. -/
inductive Leads : Request → State → State → Prop where
  | begun : Leads .connect .idle .connecting
  | again : Leads .connect .reconnecting .connecting
  | opened : Leads .opened .connecting .live
  | refused : Leads .lost .connecting .reconnecting
  | dropped : Leads .lost .live .reconnecting
  | closing : Leads .stop .live .closing
  | closed : Leads .lost .closing .closed
  | halted {s : State} (hlive : s ≠ .live) (hclosing : s ≠ .closing) : Leads .stop s .closed

end CourierTrack.Channel.Machine
