import CourierTrack.Watcher.Basic
/-!
A watcher over a whole run: the updates that its trail takes and the calls that it answers, in any
order, a display that keeps the last render event of each kind, and the positions and estimates
among the render events.
-/

namespace CourierTrack.Watcher

open Time

inductive Update where
  | position (point : Point) (stated : Option Instant) (clock : Instant)
  | history (points : List Point)
  | status (text : String)
  | destination (point : Point)
  deriving Repr

/-- The live sample of an update; a point out of range makes none. -/
def Update.live? : Update → Option Sample
  | .position point stated clock =>
    if point.isValid then some ⟨point, none, stated.getD clock⟩ else none
  | _ => none

@[simp] def Update.history? : Update → Option (List Point)
  | .history points => some points
  | _ => none

def samples (updates : List Update) : List Sample := updates.filterMap Update.live?

/-- The live points in range, in the order of their arrival. -/
def livePoints (updates : List Update) : List Point := (samples updates).map Sample.point

def backfills (updates : List Update) : List (List Point) := updates.filterMap Update.history?

/-- The points in range of the only backfill that counts, the first. -/
def historyPoints (updates : List Update) : List Point :=
  ((backfills updates).headD []).filter Point.isValid

namespace Reconciler

def apply (r : Reconciler) : Update → Reconciler
  | .position point stated clock => (r.applyPosition point stated clock).2
  | .history points => r.applyHistory points
  | .status text => (r.applyStatus text).2
  | .destination point => r.setDestination point

def run (r : Reconciler) (updates : List Update) : Reconciler := updates.foldl apply r

end Reconciler

inductive Call where
  | event (clock : Instant) (event : Channel.Event)
  | backfill (result : Except HistoryError (List Point))

/-- What a display shows of a watcher's render events. -/
structure Display where
  trail : List Point := []
  status : Status := .pending
  destination : Option Point := none
  position : Option Point := none
  deriving Repr

namespace Display

def draw (d : Display) : RenderEvent → Display
  | .trail points => { d with trail := points }
  | .status status => { d with status }
  | .destination point => { d with destination := some point }
  | .position point => { d with position := some point }
  | .connection _ | .error _ | .eta _ | .route _ => d

def drawAll (d : Display) (events : List RenderEvent) : Display := events.foldl draw d

/-- Whether an event is more than a repetition; only trails and statuses may not be repeated. -/
def IsNews (d : Display) : RenderEvent → Prop
  | .trail points => Point.sameAll points d.trail = false
  | .status status => status ≠ d.status
  | _ => True

/-- Whether each of some events is news when its turn comes. -/
def AllNews (d : Display) : List RenderEvent → Prop
  | [] => True
  | event :: rest => d.IsNews event ∧ (d.draw event).AllNews rest

end Display

@[simp] def RenderEvent.position? : RenderEvent → Option Point
  | .position point => some point
  | _ => none

@[simp] def RenderEvent.eta? : RenderEvent → Option Eta
  | .eta estimate => some estimate
  | _ => none

def positions (events : List RenderEvent) : List Point := events.filterMap RenderEvent.position?

def estimates (events : List RenderEvent) : List Eta := events.filterMap RenderEvent.eta?

theorem positions_append (first second : List RenderEvent) :
    positions (first ++ second) = positions first ++ positions second :=
  List.filterMap_append

theorem estimates_append (first second : List RenderEvent) :
    estimates (first ++ second) = estimates first ++ estimates second :=
  List.filterMap_append

def answer (w : Watcher) : Call → List RenderEvent × Watcher
  | .event clock event => w.handle clock event
  | .backfill result => w.applyHistory result

def run (w : Watcher) : List Call → List RenderEvent × Watcher
  | [] => ([], w)
  | call :: rest =>
    let (first, w) := w.answer call
    let (more, w) := w.run rest
    (first ++ more, w)

end CourierTrack.Watcher
