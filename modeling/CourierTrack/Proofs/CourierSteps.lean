import CourierTrack.Courier.Basic
/-!
What a courier does on a single offer, a single waypoint and a single event.
-/

namespace CourierTrack.Proofs.CourierSteps

open CourierTrack.Time
open CourierTrack.Channel
open CourierTrack.Courier

/-- What an event can change of a courier. -/
theorem handle_eq (c : Courier) (now : Reading) (event : Event) :
    ∃ status lastAcked acked lastError, c.handle now event =
      { c with
        delivery := { c.delivery with status, lastAcked }
        tally := { c.tally with acked }
        lastError } := by
  cases event with
  | status _ => exact ⟨_, _, _, _, rfl⟩
  | message frame =>
      cases frame with
      | position update =>
          simp only [Courier.handle, Courier.acknowledge]
          split <;> exact ⟨_, _, _, _, rfl⟩
      | _ => exact ⟨_, _, _, _, rfl⟩

/-- A fix is sent if the gate admits it, or else counted and forgotten. -/
theorem offer_eq (c : Courier) (sample : Sample) (now : Reading) :
    c.offer sample now =
      if Gate.admits c.gate.config c.gate.last sample.point now then
        let sent := { c with
          gate := c.gate.record sample.point now
          delivery := { c.delivery with position := some sample }
          tally := { c.tally with lastMove := c.gate.movedM? sample.point } }.transmit
            sample.point c.config.status sample.captured now
        (some sent.1, sent.2)
      else (none, { c with tally := { c.tally with rejected := c.tally.rejected + 1 } }) := by
  unfold Courier.offer Gate.offer
  cases Gate.admits c.gate.config c.gate.last sample.point now <;> rfl

theorem hop_eq (c : Courier) {point : Point} (hpoint : point.isValid = true) (clock : Instant)
    (now : Reading) :
    c.hop point clock now =
      { c with
        gate := c.gate.record point now
        delivery := { c.delivery with position := some ⟨point, none, clock⟩ }
        tally := { c.tally with lastMove := c.gate.movedM? point } }.transmit
          point walkStatus clock now := by
  have hcheck : Point.check ⟨point.lat, point.lng⟩ = .ok () :=
    (Point.check_eq_ok_iff point).2 hpoint
  have hchecked : Sample.checked point.lat point.lng none clock = .ok ⟨point, none, clock⟩ := by
    simp only [Sample.checked, Point.checked, hcheck]
    rfl
  rw [Courier.hop, hchecked]

end CourierTrack.Proofs.CourierSteps
