import CourierTrack.Source.Watch
/-!
A tap over a whole run. What the watch does, what its reader does, and when the watch is cleared
come in any order, and the clock goes on in between.
-/

namespace CourierTrack.Source

open Time

/-- One thing that takes place at a tap, or time passes. -/
inductive Turn where
  | wait (span : Span)
  | fetch
  | deliver
  | quit
  | clear
  | take
  | leave
  deriving Repr, DecidableEq

/-- Whether neither the watch is told to stop nor its reader goes. -/
def Turn.Keeps : Turn → Prop
  | .clear => False
  | .leave => False
  | _ => True

inductive Note where
  /-- The watch took the sample from its feed. -/
  | fetched (sample : Sample)
  | entered (sample : Sample)
  | taken (sample : Sample)
  deriving Repr

namespace Note

@[simp] def fetched? : Note → Option Sample
  | .fetched sample => some sample
  | _ => none

@[simp] def entered? : Note → Option Sample
  | .entered sample => some sample
  | _ => none

@[simp] def taken? : Note → Option Sample
  | .taken sample => some sample
  | _ => none

end Note

structure Flow where
  now : Reading
  tap : Tap
  deriving Repr

namespace Flow

def turn (f : Flow) : Turn → Option Note × Flow
  | .wait span => (none, { f with now := f.now + span })
  | .fetch =>
    let (sample, watch) := f.tap.watch.fetch f.now
    (sample.map .fetched, { f with tap.watch := watch })
  | .deliver =>
    let (sample, watch, pipe) := f.tap.watch.deliver f.now f.tap.pipe
    (sample.map .entered, { f with tap := ⟨watch, pipe⟩ })
  | .quit => (none, { f with tap.watch := f.tap.watch.quit })
  | .clear => (none, { f with tap := f.tap.clear })
  | .take =>
    match f.tap.take? with
    | some (sample, tap) => (some (.taken sample), { f with tap })
    | none => (none, f)
  | .leave => (none, { f with tap := f.tap.leave })

def run (f : Flow) : List Turn → List (Reading × Note) × Flow
  | [] => ([], f)
  | turn :: rest =>
    let (note, g) := f.turn turn
    let (more, g) := g.run rest
    (note.toList.map (f.now, ·) ++ more, g)

/-- Whether a turn is made by a clock that does not go on while the watch can go on or quit. -/
def KeepsTime (f : Flow) : Turn → Prop
  | .wait span =>
    match f.tap.watch.phase with
    | .fresh _ => span = 0
    | .waiting due _ _ => f.now + span ≤ due ∧ (f.tap.watch.cleared = true → span = 0)
    | .handing _ _ =>
      f.tap.pipe.hasRoom = true ∨ f.tap.pipe.listening = false → span = 0
    | .ended => True
  | _ => True

/-- Whether the watch never has to be waited for. -/
def Exact (f : Flow) : List Turn → Prop
  | [] => True
  | turn :: rest => f.KeepsTime turn ∧ (f.turn turn).2.Exact rest

end Flow

/-- The samples of the entries at the front of a feed that come without delay. -/
def undelayed (feed : List Entry) : List Sample :=
  (feed.takeWhile (·.after = 0)).filterMap Entry.sample

namespace Phase

/-- The sample that is being handed over. -/
def atHand : Phase → Option Sample
  | .handing sample _ => some sample
  | _ => none

/-- The samples of the feed that were not taken from it yet. -/
def unfetched : Phase → List Sample
  | .fresh feed => feed.filterMap Entry.sample
  | .waiting _ sample rest => sample.toList ++ rest.filterMap Entry.sample
  | .handing _ rest => rest.filterMap Entry.sample
  | .ended => []

/-- What may still enter the pipe. -/
def toCome (phase : Phase) : List Sample := phase.atHand.toList ++ phase.unfetched

/-- What may enter the pipe before the watch has to wait for an entry. -/
def atOnce (now : Reading) : Phase → List Sample
  | .fresh feed => undelayed feed
  | .waiting due sample rest => if due ≤ now then sample.toList ++ undelayed rest else []
  | .handing sample rest => sample :: undelayed rest
  | .ended => []

end Phase

/-- Whether the pipe always has room for the sample that is handed over. -/
def Flow.Roomy (f : Flow) : List Turn → Prop
  | [] => True
  | turn :: rest =>
    (f.tap.watch.phase.atHand.isSome → f.tap.pipe.hasRoom = true) ∧ (f.turn turn).2.Roomy rest

/-- The notes of one kind, with their times. -/
def noted (kind : Note → Option Sample) (log : List (Reading × Note)) : List (Reading × Sample) :=
  log.filterMap fun note => (kind note.2).map (note.1, ·)

def fetched (log : List (Reading × Note)) : List (Reading × Sample) := noted Note.fetched? log

def entered (log : List (Reading × Note)) : List (Reading × Sample) := noted Note.entered? log

def taken (log : List (Reading × Note)) : List (Reading × Sample) := noted Note.taken? log

/-- When an entry of a feed comes: after the sum of the spans up to its own. -/
def dueAt (start : Reading) (feed : List Entry) (i : Nat) : Reading :=
  (feed.take (i + 1)).foldl (fun time entry => time + entry.after) start

/-- The samples of a feed with the times at which they come. -/
def timetable (start : Reading) (feed : List Entry) : List (Reading × Sample) :=
  (feed.mapIdx fun i entry => entry.sample.map (dueAt start feed i, ·)).filterMap id

end CourierTrack.Source
