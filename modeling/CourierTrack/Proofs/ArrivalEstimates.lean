import CourierTrack.Proofs.Rendering
/-!
The estimate that a watcher told last is from the position that it told last to the destination, or
comes from a route. Only if the position is the end of a backfill and the destination came after it
is there no such estimate, until a live point or a route comes.
-/

namespace CourierTrack.Proofs.ArrivalEstimates

open CourierTrack.Time
open CourierTrack.Watcher
open CourierTrack.Proofs.WatcherUpdates
open CourierTrack.Proofs.Rendering

variable {d : Display} {w w' : Watcher} {events batch : List RenderEvent} {point place : Point}

/-- Whether the last estimate is from a point to a place, or from a route. -/
def Fits (w : Watcher) (events : List RenderEvent) (point place : Point) : Prop :=
  ∃ eta, (estimates events).getLast? = some eta ∧
    (eta.source = .route ∨ eta = w.estimator.estimate point place)

/-- Whether the destination came after the last position, which is of no live point, and no
estimate has been made since. -/
def Unmeasured (w : Watcher) (events : List RenderEvent) (place : Point) : Prop :=
  w.delivery.position = none ∧ ∃ before after, events = before ++ .destination place :: after ∧
    positions after = [] ∧ estimates after = []

def Estimated (w : Watcher) (events : List RenderEvent) : Prop :=
  ∀ place, w.delivery.destination = some place → ∀ point, (positions events).getLast? = some point →
    Fits w events point place ∨ Unmeasured w events place

theorem position_drawAll (d : Display) (events : List RenderEvent) :
    (d.drawAll events).position = (positions events).getLast?.or d.position := by
  induction events generalizing d with
  | nil => rfl
  | cons event rest ih =>
      change ((d.draw event).drawAll rest).position = _
      rw [ih]
      cases event with
      | position point =>
          change _ = (point :: positions rest).getLast?.or d.position
          rw [List.getLast?_cons]
          cases (positions rest).getLast? <;> rfl
      | _ => rfl

/-- Events that are neither positions nor estimates change nothing. -/
theorem Estimated.quiet (h : Estimated w events) (hpositions : positions batch = [])
    (hestimates : estimates batch = []) (hestimator : w'.estimator = w.estimator)
    (hdestination : w'.delivery.destination = w.delivery.destination)
    (hposition : w'.delivery.position = w.delivery.position) :
    Estimated w' (events ++ batch) := by
  intro place hplace point hpoint
  rw [positions_append, hpositions, List.append_nil] at hpoint
  rcases h place (hdestination ▸ hplace) point hpoint with ⟨eta, heta, hfits⟩ | ⟨hnone, hsince⟩
  · left
    refine ⟨eta, ?_, hestimator ▸ hfits⟩
    rw [estimates_append, hestimates, List.append_nil]
    exact heta
  · right
    obtain ⟨before, after, rfl, hafter, hafter'⟩ := hsince
    refine ⟨hposition.trans hnone, before, after ++ batch, by simp, ?_, ?_⟩
    · rw [positions_append, hafter, hpositions]
      rfl
    · rw [estimates_append, hafter', hestimates]
      rfl

theorem positions_etaFrom (w : Watcher) (point : Point) : positions (w.etaFrom point) = [] := by
  rw [Watcher.etaFrom]
  split <;> rfl

/-- An estimate from the last position fits whatever was told before. -/
theorem estimated_etaFrom (hlast : (positions events).getLast? = some point) :
    Estimated w (events ++ w.etaFrom point) := by
  intro place hplace q hq
  rw [positions_append, positions_etaFrom, List.append_nil, hlast] at hq
  obtain rfl : point = q := Option.some.inj hq
  left
  refine ⟨w.estimator.estimate point place, ?_, .inr rfl⟩
  rw [estimates_append, Watcher.etaFrom, hplace]
  exact List.getLast?_concat

theorem estimated_of_position (events batch : List RenderEvent)
    (hbatch : positions batch = [point]) :
    Estimated w (events ++ (batch ++ w.etaFrom point)) := by
  rw [← List.append_assoc]
  apply estimated_etaFrom
  rw [positions_append, hbatch]
  exact List.getLast?_concat

/-! Single calls -/

theorem estimated_applyPosition (h : Estimated w events) (point : Point) (stated : Option Instant)
    (clock : Instant) :
    Estimated (w.applyPosition point stated clock).2
      (events ++ (w.applyPosition point stated clock).1) := by
  rw [Watcher.applyPosition]
  rcases applyPosition_cases w.reconciler point stated clock with heq | ⟨sample, rfl, heq | heq⟩
  · rw [heq]
    exact h.quiet rfl rfl rfl rfl rfl
  · rw [heq]
    exact estimated_of_position events [.position sample.point] rfl
  · rw [heq]
    exact estimated_of_position events [.position sample.point, .trail _] rfl

theorem estimated_applyStatus (h : Estimated w events) (text : Option String) :
    Estimated (w.applyStatus text).2 (events ++ (w.applyStatus text).1) := by
  cases text with
  | none => exact h.quiet rfl rfl rfl rfl rfl
  | some text =>
      simp only [Watcher.applyStatus, Reconciler.applyStatus]
      split
      · exact h.quiet rfl rfl rfl rfl rfl
      · exact h.quiet rfl rfl rfl rfl rfl

theorem estimated_applyPositionAndStatus (h : Estimated w events) (point : Point)
    (stated : Option Instant) (status : Option String) (clock : Instant) :
    Estimated (w.applyPositionAndStatus point stated status clock).2
      (events ++ (w.applyPositionAndStatus point stated status clock).1) := by
  have hposition := estimated_applyPosition h point stated clock
  have hstatus := estimated_applyStatus hposition status
  rw [List.append_assoc] at hstatus
  exact hstatus

/-- A destination is measured from the live position; before there is one it is not. -/
theorem estimated_applyDestination (h : Estimated w events)
    (hlive : ∀ sample, w.delivery.position = some sample →
      (positions events).getLast? = some sample.point) (destination : Option Point) :
    Estimated (w.applyDestination destination).2
      (events ++ (w.applyDestination destination).1) := by
  cases destination with
  | none => exact h.quiet rfl rfl rfl rfl rfl
  | some destination =>
      have hposition : (w.applyDestination (some destination)).2.delivery.position =
          w.delivery.position := rfl
      simp only [Watcher.applyDestination] at hposition ⊢
      rw [hposition]
      cases hw : w.delivery.position with
      | some sample =>
          rw [List.append_cons]
          apply estimated_etaFrom
          rw [positions_append]
          simpa [positions] using hlive sample hw
      | none =>
          rintro place ⟨⟩ point -
          right
          exact ⟨hposition.trans hw, events, [], rfl, rfl, rfl⟩

theorem estimated_showRoute (h : Estimated w events) (route : Route) :
    Estimated w (events ++ w.showRoute route) := by
  have hpath : Estimated w
      (events ++ if route.points.isEmpty then [] else [.route route.points]) := by
    split
    · exact h.quiet rfl rfl rfl rfl rfl
    · exact h.quiet rfl rfl rfl rfl rfl
  simp only [Watcher.showRoute]
  split
  · rename_i km _
    intro place _ point _
    left
    refine ⟨w.estimator.ofRoute km route.durationMin, ?_, .inl rfl⟩
    rw [← List.append_assoc, estimates_append]
    exact List.getLast?_concat
  · exact hpath

theorem estimated_applyHistory (h : Estimated w events)
    (result : Except HistoryError (List Point)) :
    Estimated (w.applyHistory result).2 (events ++ (w.applyHistory result).1) := by
  cases result with
  | error e => exact h.quiet rfl rfl rfl rfl rfl
  | ok points =>
      have hdelivery := applyHistory_delivery w.reconciler points
      rw [Watcher.applyHistory]
      simp only
      generalize w.reconciler.applyHistory points = r at hdelivery ⊢
      have hdestination : r.delivery.destination = w.delivery.destination := by
        rw [hdelivery]
        rfl
      have hposition : r.delivery.position = w.delivery.position := by
        rw [hdelivery]
        rfl
      have hquiet {batch : List RenderEvent} (hpositions : positions batch = [])
          (hestimates : estimates batch = []) :
          Estimated { w with reconciler := r } (events ++ batch) :=
        h.quiet hpositions hestimates rfl hdestination hposition
      split
      · exact hquiet rfl rfl
      · split
        · rw [Watcher.showEnd]
          split
          · exact estimated_of_position events [.trail _, .position _] rfl
          · exact hquiet rfl rfl
        · exact hquiet rfl rfl

theorem estimated_applyFrame (h : Estimated w events)
    (hlive : ∀ sample, w.delivery.position = some sample →
      (positions events).getLast? = some sample.point) (clock : Instant) (frame : Frame) :
    Estimated (w.applyFrame clock frame).2 (events ++ (w.applyFrame clock frame).1) := by
  cases frame with
  | position update => exact estimated_applyPositionAndStatus h _ _ _ _
  | tick tick => exact estimated_applyPositionAndStatus h _ _ _ _
  | status text => exact estimated_applyStatus h (some text)
  | statusUpdate text => exact estimated_applyStatus h (some text)
  | error report => exact h.quiet rfl rfl rfl rfl rfl
  | route route => exact estimated_showRoute h route
  | init init =>
      have hdestination := estimated_applyDestination h hlive init.destination
      have hstatus := estimated_applyStatus hdestination init.status
      rw [List.append_assoc] at hstatus
      exact hstatus
  | complete complete =>
      rw [Watcher.applyFrame]
      split
      · exact estimated_applyPositionAndStatus h _ _ _ _
      · exact estimated_applyStatus h _
  | hello => exact h.quiet rfl rfl rfl rfl rfl
  | probeAck => exact h.quiet rfl rfl rfl rfl rfl
  | unknown kind => exact h.quiet rfl rfl rfl rfl rfl

/-! Runs -/

theorem estimated_answer (h : Estimated w events)
    (hlive : ∀ sample, w.delivery.position = some sample →
      (positions events).getLast? = some sample.point) (call : Call) :
    Estimated (w.answer call).2 (events ++ (w.answer call).1) := by
  cases call with
  | event clock event =>
      cases event with
      | status state => exact h.quiet rfl rfl rfl rfl rfl
      | message frame => exact estimated_applyFrame h hlive clock frame
  | backfill result => exact estimated_applyHistory h result

/-- The last position told is the live one as soon as there is one. -/
theorem getLast_positions (hblank : d.position = none) (h : Mirrors (d.drawAll events) w)
    {sample : Sample} (hsample : w.delivery.position = some sample) :
    (positions events).getLast? = some sample.point := by
  have hdrawn := h.position sample hsample
  rw [position_drawAll, hblank, Option.or_none] at hdrawn
  exact hdrawn

theorem estimated_run (hblank : d.position = none) (hmirrors : Mirrors (d.drawAll events) w)
    (h : Estimated w events) (calls : List Call) :
    Estimated (w.run calls).2 (events ++ (w.run calls).1) := by
  induction calls generalizing w events with
  | nil => exact h.quiet rfl rfl rfl rfl rfl
  | cons call rest ih =>
      have hnext : Mirrors (d.drawAll (events ++ (w.answer call).1)) (w.answer call).2 := by
        rw [drawAll_append]
        exact (tells_answer hmirrors call).2
      have hanswer := estimated_answer h (fun _ => getLast_positions hblank hmirrors) call
      have hrest := ih hnext hanswer
      rw [List.append_assoc] at hrest
      exact hrest

/-- After any calls, if the destination is known and some position has been told, then the last
estimate is from the last position to the destination or comes from a route; or else no live point
is known, the destination came after the last position, and nothing was estimated since. -/
theorem estimate_fits_position (id : DeliveryId) (config : Watcher.Config)
    (destination : Option Point) (calls : List Call) {place point : Point} :
    let (events, w) := (Watcher.ofConfig id config destination).run calls
    w.delivery.destination = some place → (positions events).getLast? = some point →
      (∃ eta, (estimates events).getLast? = some eta ∧
        (eta.source = .route ∨ eta = w.estimator.estimate point place)) ∨
      (w.delivery.position = none ∧
        ∃ before after, events = before ++ .destination place :: after ∧
          positions after = [] ∧ estimates after = []) := by
  intro hplace hpoint
  have hstart : Estimated (.ofConfig id config destination) [] := by
    rintro _ _ _ ⟨⟩
  have hmirrors : Mirrors (Display.drawAll { destination } []) (.ofConfig id config destination) :=
    mirrors_ofConfig id config destination
  have hrun := estimated_run rfl hmirrors hstart calls
  exact hrun place hplace point hpoint

/-- A live point after a backfill and a destination is measured. -/
theorem estimate_fits_position_live :
    let calls : List Call := [.backfill (.ok [⟨1, 1⟩]),
      .event .epoch (.message (.init { destination := some ⟨2, 2⟩ })),
      .event .epoch (.message (.tick { point := ⟨1, 2⟩ }))]
    let (events, w) := (Watcher.ofConfig 7 {} none).run calls
    w.delivery.destination = some ⟨2, 2⟩ ∧ (positions events).getLast? = some ⟨1, 2⟩ ∧
      ∃ eta, (estimates events).getLast? = some eta ∧
        (eta.source = .route ∨ eta = w.estimator.estimate ⟨1, 2⟩ ⟨2, 2⟩) := by
  intro calls
  have hplace : ((Watcher.ofConfig 7 {} none).run calls).2.delivery.destination =
      some ⟨2, 2⟩ := by decide +kernel
  have hpoint : (positions ((Watcher.ofConfig 7 {} none).run calls).1).getLast? =
      some ⟨1, 2⟩ := by decide +kernel
  refine ⟨hplace, hpoint, ?_⟩
  rcases estimate_fits_position 7 {} none calls hplace hpoint with hfits | ⟨hnone, -⟩
  · exact hfits
  · exact absurd hnone (by decide +kernel)

/-- A destination after a backfill is not measured. -/
theorem backfill_unmeasured :
    let (events, w) := (Watcher.ofConfig 1 {} none).run [.backfill (.ok [⟨1, 1⟩]),
      .event .epoch (.message (.init { destination := some ⟨1, 1⟩ }))]
    w.delivery.destination = some ⟨1, 1⟩ ∧ (positions events).getLast? = some ⟨1, 1⟩ ∧
      estimates events = [] := by
  decide +kernel

end CourierTrack.Proofs.ArrivalEstimates
