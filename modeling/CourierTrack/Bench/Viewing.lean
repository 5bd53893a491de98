import CourierTrack.Bench.World
import CourierTrack.Watcher.Session
/-!
A watcher at work on a node: its session, the backfill on its way, and what the display showed.
-/

namespace CourierTrack.Bench

open Time

abbrev Backfill := Except Watcher.HistoryError (List Point)

structure Viewing where
  session : Watcher.Session
  node : Nat
  /-- The backfill, with the time when it comes; `none` inside if there is no place to ask. -/
  backfill : Option (Reading × Option Backfill)
  displaying : Bool := true
  shown : List (Reading × Watcher.RenderEvent) := []
  endedAt : Option Reading := none
  deriving Repr

namespace Viewing

/-- The answer that a watcher gets to see if the answer to its request comes `after` a span. -/
def timed (timeout after : Span) (answer : Backfill) : Span × Backfill :=
  if after ≤ timeout then (after, answer) else (timeout, .error (.timeout timeout))

def start (watcher : Watcher) (node : Nat) (now : Reading) (timeout : Span)
    (answer : Option (Span × Backfill)) : Viewing :=
  { session := { watcher }
    node
    backfill := match answer with
      | none => some (now, none)
      | some (after, answer) =>
        let (after, answer) := timed timeout after answer
        some (now + after, some answer) }

def cue (v : Viewing) (now : Reading) (clock : Instant) (cue : Watcher.Cue) : Viewing :=
  let room := if v.displaying then none else some 0
  let (events, session) := v.session.step clock room cue
  { v with
    session
    shown := v.shown ++ events.map fun e => (now, e)
    endedAt := if session.ended && v.endedAt.isNone then some now else v.endedAt }

def closeDisplay (v : Viewing) : Viewing := { v with displaying := false }

def eventReady? (v : Viewing) (w : World) : Option (Watcher.Cue × World) :=
  match w.nextEvent? v.node with
  | some (event, w) => some (.event event, w)
  | none => if w.isGone v.node then some (.gone, w) else none

def listen? (v : Viewing) (w : World) (clock : Instant) : Option (World × Viewing) :=
  if v.session.ended then none
  else (v.eventReady? w).map fun (cue, w) => (w, v.cue w.now clock cue)

def fill? (v : Viewing) (w : World) (clock : Instant) : Option (World × Viewing) :=
  if v.session.ended then none
  else match v.backfill with
    | some (due, answer) =>
      if due ≤ w.now then
        some (w, { v with backfill := none }.cue w.now clock (.backfill answer))
      else none
    | none => none

def ready? (v : Viewing) (w : World) (clock : Instant) : Option (World × Viewing) :=
  v.listen? w clock <|> v.fill? w clock

def next? (v : Viewing) : Option Reading :=
  if v.session.ended then none else v.backfill.map Prod.fst

end Viewing

end CourierTrack.Bench
