import CourierTrack.Source.Line
import CourierTrack.Source.Watch
/-!
The feeds a watch can follow: the lines of a text, which come without delay, and a script of timed
fixes. A text is used up by its first watch; a script is replayed by each.
-/

namespace CourierTrack.Source

open Time

/-- One fix of a script, `after` the one before it. -/
structure ScriptStep where
  after : Span
  point : Point
  accuracy : Option Float := none
  deriving Repr

def ScriptStep.sample? (clock : Instant) (s : ScriptStep) : Option Sample :=
  (Sample.checked s.point.lat s.point.lng s.accuracy clock).toOption

/-- The feed of a script, each fix captured at a time of its own; a fix out of range takes its time
and brings nothing. -/
def scriptFeedAt (clocks : Nat → Instant) (steps : List ScriptStep) : List Entry :=
  steps.mapIdx fun i s => ⟨s.after, s.sample? (clocks i)⟩

def scriptFeed (clock : Instant) (steps : List ScriptStep) : List Entry :=
  scriptFeedAt (fun _ => clock) steps

/-- A script through points, evenly spaced in time. -/
def evenly (points : List Point) (every : Span) : List ScriptStep :=
  points.map fun point => { after := every, point }

/-- The feed of a text; lines that are no fixes bring nothing. -/
def lineFeedAt (clocks : Nat → Instant) (bytes : List UInt8) : List Entry :=
  (textLines bytes).mapIdx fun i line => ⟨0, sample? (clocks i) line⟩

def lineFeed (clock : Instant) (bytes : List UInt8) : List Entry :=
  lineFeedAt (fun _ => clock) bytes

/-- What can be watched. -/
inductive Supply where
  /-- A text, until it was watched. -/
  | text (unread : Option (List UInt8))
  | script (steps : List ScriptStep)
  deriving Repr

namespace Supply

def tap (clocks : Nat → Instant) (capacity : Nat) : Supply → Tap
  | .text none => .inert capacity
  | .text (some bytes) => .start (lineFeedAt clocks bytes) capacity
  | .script steps => .start (scriptFeedAt clocks steps) capacity

/-- What is there for later watches. -/
def watched : Supply → Supply
  | .text _ => .text none
  | .script steps => .script steps

end Supply

end CourierTrack.Source
