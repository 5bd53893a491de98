import CourierTrack.Channel.Event
import CourierTrack.Watcher.History
import CourierTrack.Watcher.Reconciler
import CourierTrack.Watcher.Render
/-!
The watching side of a delivery: turns channel events and the backfill into render events.
-/

namespace CourierTrack.Watcher

open Time

structure Config where
  historyLimit : Nat := defaultLimit
  historyTimeout : Span := Span.seconds 10
  speedKmph : Float := Estimator.defaultSpeed
  deriving Repr, DecidableEq

end CourierTrack.Watcher

namespace CourierTrack

open Time Watcher

structure Watcher where
  reconciler : Reconciler
  estimator : Estimator
  deriving Repr

namespace Watcher

def ofConfig (id : DeliveryId) (config : Config) (destination : Option Point) : Watcher :=
  let reconciler := Reconciler.ofId id
  { reconciler := match destination with
      | some point => reconciler.setDestination point
      | none => reconciler
    estimator := .ofSpeed config.speedKmph }

def delivery (w : Watcher) : Delivery := w.reconciler.delivery

/-- The estimate from a point, once the destination is known. -/
def etaFrom (w : Watcher) (point : Point) : List RenderEvent :=
  match w.delivery.destination with
  | some destination => [.eta (w.estimator.estimate point destination)]
  | none => []

/-- The end of a trail as position and estimate. -/
def showEnd (w : Watcher) : List RenderEvent :=
  match w.reconciler.trail.last? with
  | some last => .position last :: w.etaFrom last
  | none => []

/-- Applies the backfill; without one the trail stays as it is. -/
def applyHistory (w : Watcher) : Except HistoryError (List Point) → List RenderEvent × Watcher
  | .error _ => ([], w)
  | .ok points =>
    let next := { w with reconciler := w.reconciler.applyHistory points }
    let before := w.reconciler.trail
    if next.reconciler.trail.same before then ([], next)
    else
      let shown := if before.points.isEmpty then next.showEnd else []
      (.trail next.reconciler.trail.points :: shown, next)

def applyPosition (w : Watcher) (point : Point) (stated : Option Instant) (clock : Instant) :
    List RenderEvent × Watcher :=
  let (outcome, reconciler) := w.reconciler.applyPosition point stated clock
  let next := { w with reconciler }
  match outcome with
  | .invalid => ([], next)
  | .appended =>
    (.position point :: .trail reconciler.trail.points :: next.etaFrom point, next)
  | .duplicate => (.position point :: next.etaFrom point, next)

/-- Applies a status text, if there is one. -/
def applyStatus (w : Watcher) : Option String → List RenderEvent × Watcher
  | none => ([], w)
  | some text =>
    let (changed, reconciler) := w.reconciler.applyStatus text
    let next := { w with reconciler }
    (if changed then [.status next.delivery.status] else [], next)

/-- First a position, then a status. -/
def applyPositionAndStatus (w : Watcher) (point : Point) (stated : Option Instant)
    (status : Option String) (clock : Instant) : List RenderEvent × Watcher :=
  let (first, w) := w.applyPosition point stated clock
  let (second, w) := w.applyStatus status
  (first ++ second, w)

/-- A route shows its path and its estimate; without a distance the length of the path counts. -/
def showRoute (w : Watcher) (route : Route) : List RenderEvent :=
  let distance := match route.distanceKm with
    | some km => some km
    | none => Point.pathKm? route.points
  let path : List RenderEvent := if route.points.isEmpty then [] else [.route route.points]
  match distance with
  | some km => path ++ [.eta (w.estimator.ofRoute km route.durationMin)]
  | none => path

/-- A new destination, and the estimate from the position known so far. -/
def applyDestination (w : Watcher) : Option Point → List RenderEvent × Watcher
  | none => ([], w)
  | some destination =>
    let next := { w with reconciler := w.reconciler.setDestination destination }
    let estimate := match next.delivery.position with
      | some sample => next.etaFrom sample.point
      | none => []
    (.destination destination :: estimate, next)

def applyFrame (w : Watcher) (clock : Instant) : Frame → List RenderEvent × Watcher
  | .position u => w.applyPositionAndStatus u.point u.instant? u.status clock
  | .tick t => w.applyPositionAndStatus t.point none t.status clock
  | .status text => w.applyStatus (some text)
  | .statusUpdate text => w.applyStatus (some text)
  | .error report => ([.error ("Error: " ++ report.describe)], w)
  | .route route => (w.showRoute route, w)
  | .init init =>
    let (first, w) := w.applyDestination init.destination
    let (second, w) := w.applyStatus init.status
    (first ++ second, w)
  | .complete c =>
    match c.point? with
    | some point => w.applyPositionAndStatus point none c.status clock
    | none => w.applyStatus c.status
  | .hello => ([], w)
  | .probeAck => ([], w)
  | .unknown _ => ([], w)

def handle (w : Watcher) (clock : Instant) : Channel.Event → List RenderEvent × Watcher
  | .status state => ([.connection state], w)
  | .message frame => w.applyFrame clock frame

end Watcher

end CourierTrack
