import CourierTrack.Watcher.Basic
/-!
What positions and status texts do to the delivery that a watcher keeps.
-/

namespace CourierTrack.Proofs.WatcherUpdates

open CourierTrack.Time
open CourierTrack.Watcher

variable {r : Reconciler} {w : Watcher} {point : Point} {stated : Option Instant} {clock : Instant}

/-- A point in range is pushed onto the trail, any other is left out. -/
theorem applyPosition_trail :
    (r.applyPosition point stated clock).2.delivery.trail =
      if point.isValid then (r.trail.push point).2 else r.delivery.trail := by
  unfold Reconciler.applyPosition
  split <;> rfl

theorem applyStatus_trail (text : String) :
    (r.applyStatus text).2.delivery.trail = r.delivery.trail := by
  simp only [Reconciler.applyStatus]
  split <;> rfl

theorem applyStatus_status (text : String) :
    (r.applyStatus text).2.delivery.status = Status.ofText text := by
  simp only [Reconciler.applyStatus]
  split
  · assumption
  · rfl

theorem reconciler_applyPosition :
    (w.applyPosition point stated clock).2.reconciler =
      (w.reconciler.applyPosition point stated clock).2 := by
  unfold Watcher.applyPosition
  generalize w.reconciler.applyPosition point stated clock = applied
  obtain ⟨outcome, reconciler⟩ := applied
  cases outcome <;> rfl

theorem applyPositionAndStatus_delivery (hvalid : point.isValid = true) (text : String) :
    (w.applyPositionAndStatus point stated (some text) clock).2.delivery.trail =
        (w.delivery.trail.push point).2 ∧
      (w.applyPositionAndStatus point stated (some text) clock).2.delivery.status =
        Status.ofText text := by
  have hreconciler :
      (w.applyPositionAndStatus point stated (some text) clock).2.reconciler =
        ((w.reconciler.applyPosition point stated clock).2.applyStatus text).2 := by
    rw [← reconciler_applyPosition]
    rfl
  rw [Watcher.delivery, Watcher.delivery, hreconciler]
  constructor
  · rw [applyStatus_trail, applyPosition_trail, if_pos hvalid]
    rfl
  · exact applyStatus_status text

end CourierTrack.Proofs.WatcherUpdates
