import CourierTrack.Delivery.Basic
/-!
One trail from the backfill and the live stream.

A backfill that comes before any live point becomes the trail; one that comes later is put in front
of the live points. Live points are added at the end and never taken away again. Only the first
backfill counts, and points out of range never do.
-/

namespace CourierTrack.Watcher

open Time

inductive Outcome where
  | appended
  /-- It equals the end of the trail; only the position is new. -/
  | duplicate
  | invalid
  deriving Repr, DecidableEq

structure Reconciler where
  delivery : Delivery
  liveSeen : Bool := false
  historyApplied : Bool := false
  deriving Repr, DecidableEq

namespace Reconciler

def ofId (id : DeliveryId) : Reconciler := { delivery := { id } }

def trail (r : Reconciler) : Trail := r.delivery.trail

/-- The trail after a backfill with these valid points. -/
def merged (r : Reconciler) (valid : List Point) : Trail :=
  if r.liveSeen then r.trail.precede valid else .ofPoints valid

/-- Applies the backfill, oldest point first. -/
def applyHistory (r : Reconciler) (points : List Point) : Reconciler :=
  if r.historyApplied then r
  else
    { r with historyApplied := true
             delivery := { r.delivery with trail := r.merged (points.filter Point.isValid) } }

/-- Applies a live position, captured at the time stated or else at `clock`. -/
def applyPosition (r : Reconciler) (point : Point) (stated : Option Instant) (clock : Instant) :
    Outcome × Reconciler :=
  if point.isValid then
    let (added, trail) := r.trail.push point
    let delivery := { r.delivery with
      position := some ⟨point, none, stated.getD clock⟩
      trail }
    (if added then .appended else .duplicate, { r with liveSeen := true, delivery })
  else (.invalid, r)

/-- Applies a status text; tells whether the status changed. -/
def applyStatus (r : Reconciler) (text : String) : Bool × Reconciler :=
  let status := Status.ofText text
  if r.delivery.status = status then (false, r)
  else (true, { r with delivery := { r.delivery with status } })

def setDestination (r : Reconciler) (destination : Point) : Reconciler :=
  { r with delivery := { r.delivery with destination := some destination } }

end Reconciler

end CourierTrack.Watcher
