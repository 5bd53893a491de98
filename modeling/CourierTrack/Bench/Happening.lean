import CourierTrack.Bench.World
/-!
What can be done to a world from outside, and what is told about it.
-/

namespace CourierTrack.Bench

inductive Happening where
  /-- Orders to a node's channel. -/
  | connect (node : Nat)
  | send (node : Nat) (frame : Frame)
  | stop (node : Nat)
  | abandon (node : Nat)
  | refuse (node : Nat) (refusing : Bool)
  /-- The far end of a node's connection sends a text, breaks the connection, or closes it. -/
  | deliver (node : Nat) (text : String)
  | fail (node : Nat)
  | hangUp (node : Nat)
  /-- What the relay does. -/
  | broadcast (text : String)
  | disconnectAll
  deriving Repr

inductive Answer where
  | nothing
  | told (there : Bool)
  | reached (count : Nat)
  deriving Repr, DecidableEq

namespace World

def happen (w : World) : Happening → Answer × World
  | .connect i => (.nothing, w.connect i)
  | .send i frame => (.nothing, w.send i frame)
  | .stop i => (.nothing, w.stop i)
  | .abandon i => (.nothing, w.order i .abandon)
  | .refuse i refusing => (.nothing, w.refuse i refusing)
  | .deliver i text =>
    let (there, w) := w.receive i text
    (.told there, w)
  | .fail i =>
    let (there, w) := w.fail i
    (.told there, w)
  | .hangUp i =>
    let (there, w) := w.hangUp i
    (.told there, w)
  | .broadcast text =>
    let (count, w) := w.broadcast text
    (.reached count, w)
  | .disconnectAll => (.nothing, w.disconnectAll)

end World

end CourierTrack.Bench
