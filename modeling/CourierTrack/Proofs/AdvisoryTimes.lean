import CourierTrack.Proofs.WatcherUpdates
/-!
The time of a position update is advisory: whatever is given for it, the update is read with the
same point and status, shown in the same way, and leaves a watcher with the same knowledge but for
when its position was captured.
-/

namespace CourierTrack.Proofs.AdvisoryTimes

open CourierTrack.Time
open CourierTrack.Watcher
open CourierTrack.Json (lookup)
open CourierTrack.Frame (ofJson positionPayload pointFields optionally)
open CourierTrack.Proofs.WatcherUpdates

variable {ms other : List (String × Json)} {w w' : Watcher}

/-! Reading -/

theorem pointFields_congr (h : ∀ name, name ≠ "ts" → lookup name other = lookup name ms) :
    pointFields other = pointFields ms := by
  unfold pointFields Frame.required
  rw [h "lat" (by decide), h "lng" (by decide)]

theorem status_congr (h : ∀ name, name ≠ "ts" → lookup name other = lookup name ms) :
    optionally Json.text? "status" other = optionally Json.text? "status" ms := by
  unfold optionally
  rw [h "status" (by decide)]

/-- A position update is read whatever its time is, and only the time depends on it. -/
theorem positionPayload_eq (ms : List (String × Json)) :
    positionPayload ms = (pointFields ms).bind fun point =>
      (optionally Json.text? "status" ms).map fun status =>
        .position ⟨point, status, (lookup "ts" ms).bind Timestamp.ofJson?⟩ := by
  unfold positionPayload
  cases pointFields ms with
  | none => rfl
  | some point => cases optionally Json.text? "status" ms <;> rfl

theorem ofJson_of_positionPayload (hkind : lookup "type" ms = some (.text "position_update")) :
    ofJson (.object ms) =
      ((positionPayload ms).elim (.error (.invalidPayload "position_update")) .ok) := by
  simp only [ofJson, hkind, Frame.ofPayload?]
  cases positionPayload ms <;> rfl

/-! Handling -/

/-- A watcher whose position, if it has one, was captured at another time. -/
def recaptured (w : Watcher) (captured : Instant) : Watcher :=
  { w with reconciler := { w.reconciler with delivery := { w.delivery with
      position := w.delivery.position.map fun sample => { sample with captured } } } }

/-- Whether two watchers differ at most in when their position was captured. -/
def Recaptured (w w' : Watcher) : Prop := ∃ captured, w' = recaptured w captured

theorem recaptured_self (w : Watcher) : Recaptured w w := by
  obtain ⟨⟨⟨id, destination, status, position, trail, sent, acked⟩, seen, applied⟩, estimator⟩ := w
  cases position with
  | none => exact ⟨.epoch, rfl⟩
  | some sample => exact ⟨sample.captured, rfl⟩

theorem applyPosition_recaptured (w : Watcher) (point : Point) (stated stated' : Option Instant)
    (clock clock' : Instant) :
    (w.applyPosition point stated' clock').1 = (w.applyPosition point stated clock).1 ∧
      Recaptured (w.applyPosition point stated clock).2
        (w.applyPosition point stated' clock').2 := by
  simp only [Watcher.applyPosition, Reconciler.applyPosition]
  cases point.isValid with
  | false => exact ⟨rfl, recaptured_self w⟩
  | true =>
      generalize w.reconciler.trail.push point = pushed
      obtain ⟨added, trail⟩ := pushed
      cases added with
      | true => exact ⟨rfl, stated'.getD clock', rfl⟩
      | false => exact ⟨rfl, stated'.getD clock', rfl⟩

theorem applyStatus_recaptured (h : Recaptured w w') (text : Option String) :
    (w'.applyStatus text).1 = (w.applyStatus text).1 ∧
      Recaptured (w.applyStatus text).2 (w'.applyStatus text).2 := by
  obtain ⟨captured, rfl⟩ := h
  cases text with
  | none => exact ⟨rfl, captured, rfl⟩
  | some text =>
      have hstatus : (recaptured w captured).reconciler.delivery.status =
          w.reconciler.delivery.status := rfl
      simp only [Watcher.applyStatus, Reconciler.applyStatus, hstatus]
      split
      · exact ⟨rfl, captured, rfl⟩
      · exact ⟨rfl, captured, rfl⟩

/-- Updates with the same point and status are handled alike. -/
theorem handle_recaptured (w : Watcher) {u v : PositionUpdate} (hpoint : v.point = u.point)
    (hstatus : v.status = u.status) (clock clock' : Instant) :
    (w.handle clock' (.message (.position v))).1 = (w.handle clock (.message (.position u))).1 ∧
      Recaptured (w.handle clock (.message (.position u))).2
        (w.handle clock' (.message (.position v))).2 := by
  obtain ⟨hshown, hknown⟩ :=
    applyPosition_recaptured w u.point u.instant? v.instant? clock clock'
  obtain ⟨hshown', hknown'⟩ := applyStatus_recaptured hknown u.status
  simp only [Watcher.handle, Watcher.applyFrame, Watcher.applyPositionAndStatus, hpoint, hstatus]
  exact ⟨by rw [hshown, hshown'], hknown'⟩

/-- Two position updates that agree but for their time are both refused, for the same reason, or
are both read, with the same point and status; a watcher then shows the same of both, at whatever
readings of its clock, and knows the same afterwards but for when its position was captured. -/
theorem time_is_advisory {ms other : List (String × Json)}
    (hkind : lookup "type" ms = some (.text "position_update"))
    (hother : ∀ name, name ≠ "ts" → lookup name other = lookup name ms)
    (w : Watcher) (clock clock' : Instant) :
    (∃ e, ofJson (.object ms) = .error e ∧ ofJson (.object other) = .error e) ∨
      ∃ u v, ofJson (.object ms) = .ok (.position u) ∧
        ofJson (.object other) = .ok (.position v) ∧
        v.point = u.point ∧ v.status = u.status ∧
        let (shown, first) := w.handle clock (.message (.position u))
        let (shown', second) := w.handle clock' (.message (.position v))
        shown' = shown ∧
          second.delivery.trail = first.delivery.trail ∧
          second.delivery.status = first.delivery.status ∧
          second.delivery.destination = first.delivery.destination ∧
          second.reconciler.historyApplied = first.reconciler.historyApplied ∧
          ∃ captured, second = recaptured first captured := by
  have hkind' : lookup "type" other = some (.text "position_update") := by
    rw [hother "type" (by decide), hkind]
  rw [ofJson_of_positionPayload hkind, ofJson_of_positionPayload hkind', positionPayload_eq,
    positionPayload_eq, pointFields_congr hother, status_congr hother]
  cases pointFields ms with
  | none => exact .inl ⟨_, rfl, rfl⟩
  | some point =>
      cases optionally Json.text? "status" ms with
      | none => exact .inl ⟨_, rfl, rfl⟩
      | some status =>
          right
          refine ⟨_, _, rfl, rfl, rfl, rfl, ?_⟩
          obtain ⟨hshown, captured, hknown⟩ := handle_recaptured w
            (u := ⟨point, status, (lookup "ts" ms).bind Timestamp.ofJson?⟩)
            (v := ⟨point, status, (lookup "ts" other).bind Timestamp.ofJson?⟩) rfl rfl clock clock'
          simp only
          rw [hknown]
          exact ⟨hshown, rfl, rfl, rfl, rfl, captured, rfl⟩

/-- A time out of shape costs nothing. -/
theorem time_is_advisory_misshapen :
    let timed := [("lat", Json.float 1), ("lng", .float 2),
      ("ts", .object [("sec", .array [.null, .bool true])]), ("type", .text "position_update")]
    let untimed := [("lat", Json.float 1), ("lng", .float 2), ("type", .text "position_update")]
    let w := Watcher.ofConfig 7 {} none
    lookup "type" timed = some (.text "position_update") ∧
      (∀ name, name ≠ "ts" → lookup name untimed = lookup name timed) ∧
      ∃ u v, ofJson (.object timed) = .ok (.position u) ∧
        ofJson (.object untimed) = .ok (.position v) ∧ v.point = u.point ∧ v.status = u.status ∧
        (w.handle ⟨5, 0⟩ (.message (.position v))).1 =
          (w.handle .epoch (.message (.position u))).1 := by
  intro timed untimed w
  have hkind : lookup "type" timed = some (.text "position_update") := rfl
  have hother : ∀ name, name ≠ "ts" → lookup name untimed = lookup name timed := by
    intro name hname
    simp [untimed, timed, lookup, hname]
  refine ⟨hkind, hother, ?_⟩
  rcases time_is_advisory hkind hother w .epoch ⟨5, 0⟩ with ⟨e, herror, -⟩ | hread
  · cases herror
  · obtain ⟨u, v, hu, hv, hpoint, hstatus, hshown, -⟩ := hread
    exact ⟨u, v, hu, hv, hpoint, hstatus, hshown⟩

end CourierTrack.Proofs.AdvisoryTimes
