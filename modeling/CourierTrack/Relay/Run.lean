import CourierTrack.Frame.Encode
import CourierTrack.Relay
/-!
A relay over a whole run: connections that join, write, take their texts and leave, and a server
that passes texts on and lets all members go, in any order; and what comes of each request.
-/

namespace CourierTrack.Relay

inductive Request where
  | join
  /-- A connection writes a text. -/
  | write (member : Nat) (text : String)
  | broadcast (text : String)
  | publish (frame : Frame)
  /-- A connection is closed or dropped. -/
  | leave (member : Nat)
  | disconnectAll
  /-- A connection asks for its next text. -/
  | take (member : Nat)
  deriving Repr

inductive Outcome where
  | joined (member : Nat)
  /-- A text was passed on; `count` is the answer to whoever did it. -/
  | passed (text : String) (count : Nat)
  /-- The connection that was to write is closed. -/
  | refused
  | left (member : Nat)
  | dismissed
  | took (member : Nat) (text : String)
  /-- Nothing comes any more. -/
  | ended (member : Nat)
  /-- Nothing is there yet. -/
  | waits (member : Nat)
  deriving Repr, DecidableEq

namespace Outcome

@[simp] def text? : Outcome → Option String
  | .passed text _ => some text
  | _ => none

@[simp] def takenBy? (member : Nat) : Outcome → Option String
  | .took m text => if m = member then some text else none
  | _ => none

@[simp] def joined? : Outcome → Option Nat
  | .joined member => some member
  | _ => none

/-- Whether a member is still one afterwards. -/
@[simp] def keeps (member : Nat) : Outcome → Bool
  | .left m => m ≠ member
  | .dismissed => false
  | _ => true

end Outcome

def canWrite (r : Relay) (member : Nat) : Bool := (r.inbox? member).any Inbox.listening

def pass (r : Relay) (text : String) : Outcome × Relay :=
  (.passed text (r.broadcast text).1, (r.broadcast text).2)

def respond (r : Relay) : Request → Outcome × Relay
  | .join => (.joined r.join.1, r.join.2)
  | .write member text => if r.canWrite member then r.pass text else (.refused, r)
  | .broadcast text => r.pass text
  | .publish frame => r.pass frame.encode
  | .leave member => (.left member, r.leave member)
  | .disconnectAll => (.dismissed, r.disconnectAll)
  | .take member =>
    match r.take? member with
    | some (text, r) => (.took member text, r)
    | none => (if (r.inbox? member).any Inbox.isOver then .ended member else .waits member, r)

def run (r : Relay) : List Request → List Outcome × Relay
  | [] => ([], r)
  | request :: rest =>
    let (outcome, r) := r.respond request
    let (more, r) := r.run rest
    (outcome :: more, r)

/-- All texts that were passed on, whoever wrote them. -/
def passed (outcomes : List Outcome) : List String := outcomes.filterMap Outcome.text?

def takenBy (member : Nat) (outcomes : List Outcome) : List String :=
  outcomes.filterMap (Outcome.takenBy? member)

def joined (outcomes : List Outcome) : List Nat := outcomes.filterMap Outcome.joined?

/-- The texts passed on from when a member joined until it left or all were let go. -/
def heard (member : Nat) : List Outcome → List String
  | [] => []
  | outcome :: after =>
    if outcome = .joined member then passed (after.takeWhile (·.keeps member))
    else heard member after

/-- Whether a member joined and did not leave again. -/
def attends (member : Nat) : List Outcome → Bool
  | [] => false
  | outcome :: after =>
    if outcome = .joined member then after.all (·.keeps member) else attends member after

end CourierTrack.Relay
