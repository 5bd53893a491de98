import CourierTrack.Watcher.Run
import CourierTrack.Watcher.Session
/-!
A session over a whole run. What it waits for may come in any order: the order to stop, the backfill
and the channel's events, as long as these keep their own order; and the display may close at any
time.
-/

namespace CourierTrack.Watcher

open Time

/-- What is got within a timeout from a place that answers after a span, or never. -/
def fetch (timeout : Span) :
    Option (Span × Except HistoryError (List Point)) → Except HistoryError (List Point)
  | some (after, answer) => if after ≤ timeout then answer else .error (.timeout timeout)
  | none => .error (.timeout timeout)

/-- What a session waits for takes place. -/
inductive Choice where
  | cancel
  | backfill
  /-- The channel's next event, or its end. -/
  | event (clock : Instant)
  deriving Repr

structure Sitting where
  session : Session
  /-- The channel events still to come; after them the channel is gone. -/
  coming : List Channel.Event
  /-- How many more events the display takes until it closes, or any number. -/
  room : Option Nat
  deriving Repr

namespace Sitting

def start (w : Watcher) (coming : List Channel.Event) (room : Option Nat) : Sitting :=
  { session := { watcher := w }, coming, room }

/-- The cue of a choice, and the channel events still to come after it. -/
def cue (v : Sitting) (backfill : Option (Except HistoryError (List Point))) :
    Choice → Instant × Cue × List Channel.Event
  | .cancel => (.epoch, .cancelled, v.coming)
  | .backfill => (.epoch, .backfill backfill, v.coming)
  | .event clock =>
    match v.coming with
    | [] => (clock, .gone, [])
    | event :: rest => (clock, .event event, rest)

def choose (v : Sitting) (backfill : Option (Except HistoryError (List Point))) (choice : Choice) :
    List RenderEvent × Sitting :=
  if v.session.ended then ([], v)
  else
    let (clock, cue, coming) := v.cue backfill choice
    let (shown, session) := v.session.step clock v.room cue
    (shown, { session, coming, room := v.room.map (· - shown.length) })

def run (v : Sitting) (backfill : Option (Except HistoryError (List Point))) :
    List Choice → List RenderEvent × Sitting
  | [] => ([], v)
  | choice :: rest =>
    let (shown, v) := v.choose backfill choice
    let (more, v) := v.run backfill rest
    (shown ++ more, v)

end Sitting

/-- What makes a batch of a session: a channel event, or what came of the backfill, if it was asked
for at all. -/
inductive Round where
  | event (clock : Instant) (event : Channel.Event)
  | backfill (result : Option (Except HistoryError (List Point)))
  deriving Repr

namespace Round

@[simp] def call? : Round → Option Call
  | .event clock heard => some (.event clock heard)
  | .backfill result => result.map .backfill

@[simp] def event? : Round → Option (Instant × Channel.Event)
  | .event clock heard => some (clock, heard)
  | .backfill _ => none

@[simp] def backfill? : Round → Option (Option (Except HistoryError (List Point)))
  | .event _ _ => none
  | .backfill result => some result

/-- The calls that rounds make of a watcher. -/
def calls (rounds : List Round) : List Call := rounds.filterMap call?

/-- The channel events of rounds, with the readings of the clock. -/
def events (rounds : List Round) : List (Instant × Channel.Event) := rounds.filterMap event?

def backfills (rounds : List Round) : List (Option (Except HistoryError (List Point))) :=
  rounds.filterMap backfill?

theorem calls_append (first second : List Round) :
    calls (first ++ second) = calls first ++ calls second :=
  List.filterMap_append

theorem events_append (first second : List Round) :
    events (first ++ second) = events first ++ events second :=
  List.filterMap_append

theorem backfills_append (first second : List Round) :
    backfills (first ++ second) = backfills first ++ backfills second :=
  List.filterMap_append

end Round

end CourierTrack.Watcher
