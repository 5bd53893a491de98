import CourierTrack.Proofs.MergedTrail
/-!
A display that draws every render event of a watcher shows what the watcher knows, and no trail and
no status is drawn twice in a row.
-/

namespace CourierTrack.Proofs.Rendering

open CourierTrack.Time
open CourierTrack.Watcher
open CourierTrack.Proofs.PointEquality
open CourierTrack.Proofs.TrailCollapse
open CourierTrack.Proofs.WatcherUpdates
open CourierTrack.Proofs.MergedTrail

variable {d : Display} {w w' : Watcher} {events first second : List RenderEvent}

theorem drawAll_append (d : Display) (first second : List RenderEvent) :
    d.drawAll (first ++ second) = (d.drawAll first).drawAll second :=
  List.foldl_append

theorem allNews_append :
    d.AllNews (first ++ second) ↔ d.AllNews first ∧ (d.drawAll first).AllNews second := by
  induction first generalizing d with
  | nil => exact ⟨fun h => ⟨trivial, h⟩, fun h => h.2⟩
  | cons event rest ih =>
      change d.IsNews event ∧ (d.draw event).AllNews (rest ++ second) ↔ _
      rw [ih, ← and_assoc]
      rfl

/-- A watcher whose trail and state come from updates only. -/
def Reached (w : Watcher) : Prop := ∃ id us, w.reconciler = (Reconciler.ofId id).run us

/-- A display that shows what a watcher knows. -/
structure Mirrors (d : Display) (w : Watcher) : Prop where
  reached : Reached w
  trail : Alike d.trail w.delivery.trail.points
  status : d.status = w.delivery.status
  destination : d.destination = w.delivery.destination
  position : ∀ sample, w.delivery.position = some sample → d.position = some sample.point

/-- Events that are all news and make a display show what a watcher knows. -/
def Tells (d : Display) (events : List RenderEvent) (w : Watcher) : Prop :=
  d.AllNews events ∧ Mirrors (d.drawAll events) w

theorem Tells.append (h : Tells d first w) (h' : Tells (d.drawAll first) second w') :
    Tells d (first ++ second) w' := by
  refine ⟨allNews_append.2 ⟨h.1, h'.1⟩, ?_⟩
  rw [drawAll_append]
  exact h'.2

theorem Tells.cons {event : RenderEvent} (hnews : d.IsNews event)
    (h : Tells (d.draw event) events w) : Tells d (event :: events) w :=
  ⟨⟨hnews, h.1⟩, h.2⟩

/-- An event that a display does not keep. -/
def IsAside (event : RenderEvent) : Prop := ∀ d : Display, d.draw event = d ∧ d.IsNews event

theorem tells_asides (h : Mirrors d w) (hasides : ∀ event ∈ events, IsAside event) :
    Tells d events w := by
  induction events with
  | nil => exact ⟨trivial, h⟩
  | cons event rest ih =>
      obtain ⟨hdraw, hnews⟩ := hasides event List.mem_cons_self d
      refine Tells.cons hnews ?_
      rw [hdraw]
      exact ih fun e he => hasides e (List.mem_cons_of_mem _ he)

theorem isAside_of_mem_etaFrom {point : Point} {event : RenderEvent}
    (h : event ∈ w.etaFrom point) : IsAside event := by
  rw [Watcher.etaFrom] at h
  split at h
  · obtain rfl := List.mem_singleton.1 h
    exact fun d => ⟨rfl, trivial⟩
  · exact absurd h List.not_mem_nil

theorem isAside_of_mem_showRoute {route : Route} {event : RenderEvent}
    (h : event ∈ w.showRoute route) : IsAside event := by
  have hpath : ∀ e ∈ (if route.points.isEmpty then [] else [RenderEvent.route route.points]),
      IsAside e := by
    intro e he
    split at he
    · exact absurd he List.not_mem_nil
    · obtain rfl := List.mem_singleton.1 he
      exact fun d => ⟨rfl, trivial⟩
  simp only [Watcher.showRoute] at h
  split at h
  · rcases List.mem_append.1 h with h | h
    · exact hpath event h
    · obtain rfl := List.mem_singleton.1 h
      exact fun d => ⟨rfl, trivial⟩
  · exact hpath event h

/-! What watchers know -/

theorem Reached.isValid (h : Reached w) : ∀ p ∈ w.delivery.trail.points, p.isValid = true := by
  obtain ⟨id, us, hrun⟩ := h
  intro p hp
  rw [Watcher.delivery, hrun] at hp
  exact isValid_of_mem_trail hp

theorem Reached.apply (h : Reached w) (u : Update)
    (happly : w'.reconciler = w.reconciler.apply u) : Reached w' := by
  obtain ⟨id, us, hrun⟩ := h
  refine ⟨id, us ++ [u], ?_⟩
  rw [happly, hrun, run_append]
  rfl

/-- A watcher without a trail has seen no live point. -/
theorem Reached.position_of_empty (h : Reached w) (hempty : w.delivery.trail.points = []) :
    w.delivery.position = none := by
  obtain ⟨id, us, hrun⟩ := h
  obtain ⟨front, -, htrail⟩ := exists_kept id us
  rw [Watcher.delivery, hrun] at hempty ⊢
  have hcollapse : collapse (front ++ livePoints us) = [] := by
    rw [← ofPoints_points, ← htrail]
    exact hempty
  have hpoints : front ++ livePoints us = [] := (List.destutter_eq_nil _).1 hcollapse
  have hlive : livePoints us = [] := (List.append_eq_nil_iff.1 hpoints).2
  rw [run_position, List.map_eq_nil_iff.1 hlive]
  rfl

/-! Single calls -/

/-- A reconciler after a live sample that left it with a trail. -/
def located (r : Reconciler) (sample : Sample) (trail : Trail) : Reconciler :=
  { r with liveSeen := true, delivery := { r.delivery with position := some sample, trail } }

theorem applyPosition_cases (r : Reconciler) (point : Point) (stated : Option Instant)
    (clock : Instant) :
    r.applyPosition point stated clock = (.invalid, r) ∨
    ∃ sample, sample.point = point ∧
      (r.applyPosition point stated clock = (.duplicate, located r sample r.trail) ∨
        r.applyPosition point stated clock =
          (.appended, located r sample ⟨r.trail.points ++ [point]⟩)) := by
  unfold Reconciler.applyPosition
  cases point.isValid with
  | false => exact .inl rfl
  | true =>
      refine .inr ⟨⟨point, none, stated.getD clock⟩, rfl, ?_⟩
      unfold Trail.push
      cases r.trail.endsAt point with
      | true => exact .inl rfl
      | false => exact .inr rfl

theorem sameAll_append_singleton {ps qs : List Point} {p : Point} (h : Alike ps qs) :
    Point.sameAll (qs ++ [p]) ps = false := by
  rw [Bool.eq_false_iff]
  intro hsame
  have hlength := ((sameAll_iff _ _).1 hsame).length_eq
  rw [h.length_eq, List.length_append] at hlength
  simp at hlength

theorem tells_applyPosition (h : Mirrors d w) (point : Point) (stated : Option Instant)
    (clock : Instant) :
    Tells d (w.applyPosition point stated clock).1 (w.applyPosition point stated clock).2 := by
  have hreached := h.reached.apply (.position point stated clock) reconciler_applyPosition
  rw [Watcher.applyPosition] at hreached ⊢
  rcases applyPosition_cases w.reconciler point stated clock with
    heq | ⟨sample, rfl, heq | heq⟩
  · rw [heq]
    exact ⟨trivial, h⟩
  · rw [heq] at hreached ⊢
    refine Tells.cons trivial (tells_asides ?_ fun _ he => isAside_of_mem_etaFrom he)
    refine ⟨hreached, h.trail, h.status, h.destination, ?_⟩
    rintro _ ⟨⟩
    rfl
  · rw [heq] at hreached ⊢
    have hnews : (d.draw (.position sample.point)).IsNews
        (.trail (w.delivery.trail.points ++ [sample.point])) :=
      sameAll_append_singleton h.trail
    refine Tells.cons trivial (Tells.cons hnews ?_)
    refine tells_asides ?_ fun _ he => isAside_of_mem_etaFrom he
    refine ⟨hreached, alike_self hreached.isValid, h.status, h.destination, ?_⟩
    rintro _ ⟨⟩
    rfl

theorem tells_applyStatus (h : Mirrors d w) (text : Option String) :
    Tells d (w.applyStatus text).1 (w.applyStatus text).2 := by
  cases text with
  | none => exact ⟨trivial, h⟩
  | some text =>
      have hreached : Reached (w.applyStatus (some text)).2 := h.reached.apply (.status text) rfl
      simp only [Watcher.applyStatus, Reconciler.applyStatus] at hreached ⊢
      split at hreached
      · rename_i hsame
        simp only [if_pos hsame]
        exact ⟨trivial, h⟩
      · rename_i hchanged
        simp only [if_neg hchanged] at hreached ⊢
        refine Tells.cons ?_ ⟨trivial, ?_⟩
        · intro hstatus
          exact hchanged (h.status.symm.trans hstatus.symm)
        · exact ⟨hreached, h.trail, rfl, h.destination, h.position⟩

theorem tells_applyDestination (h : Mirrors d w) (destination : Option Point) :
    Tells d (w.applyDestination destination).1 (w.applyDestination destination).2 := by
  cases destination with
  | none => exact ⟨trivial, h⟩
  | some point =>
      have hreached : Reached (w.applyDestination (some point)).2 :=
        h.reached.apply (.destination point) rfl
      refine Tells.cons trivial (tells_asides ?_ fun e he => ?_)
      · exact ⟨hreached, h.trail, h.status, rfl, h.position⟩
      · split at he
        · exact isAside_of_mem_etaFrom he
        · exact absurd he List.not_mem_nil

theorem applyHistory_delivery (r : Reconciler) (points : List Point) :
    (r.applyHistory points).delivery =
      { r.delivery with trail := (r.applyHistory points).trail } := by
  rw [Reconciler.applyHistory]
  split <;> rfl

/-- The end of a trail may be shown as the position as long as none is known. -/
theorem tells_showEnd (h : Mirrors d w) (hnone : w.delivery.position = none) :
    Tells d w.showEnd w := by
  rw [Watcher.showEnd]
  split
  · refine Tells.cons trivial (tells_asides ?_ fun _ he => isAside_of_mem_etaFrom he)
    refine ⟨h.reached, h.trail, h.status, h.destination, fun sample hsample => ?_⟩
    exact absurd (hnone.symm.trans hsample) (by simp)
  · exact ⟨trivial, h⟩

theorem tells_applyHistory (h : Mirrors d w) (result : Except HistoryError (List Point)) :
    Tells d (w.applyHistory result).1 (w.applyHistory result).2 := by
  cases result with
  | error e => exact ⟨trivial, h⟩
  | ok points =>
      have hdelivery := applyHistory_delivery w.reconciler points
      have hreached : Reached { w with reconciler := w.reconciler.applyHistory points } :=
        h.reached.apply (.history points) rfl
      rw [Watcher.applyHistory]
      simp only
      generalize w.reconciler.applyHistory points = r at hdelivery hreached ⊢
      have hposition : r.delivery.position = w.delivery.position := by
        rw [hdelivery]
        rfl
      have hmirrors {shown : List Point} (hshown : Alike shown r.trail.points) :
          Mirrors { d with trail := shown } { w with reconciler := r } := by
        refine ⟨hreached, hshown, ?_, ?_, ?_⟩
        · exact h.status.trans (congrArg Delivery.status hdelivery).symm
        · exact h.destination.trans (congrArg Delivery.destination hdelivery).symm
        · intro sample hsample
          exact h.position sample (hposition.symm.trans hsample)
      cases hsame : r.trail.same w.reconciler.trail with
      | true =>
          have hback : Alike w.delivery.trail.points r.trail.points :=
            ((sameAll_iff _ _).1 hsame).symm
          exact ⟨trivial, hmirrors (h.trail.trans hback)⟩
      | false =>
          -- What is drawn equals the trail before, so it cannot equal the new one.
          have hnews : d.IsNews (.trail r.trail.points) := by
            refine (Bool.eq_false_iff).2 fun hd => ?_
            have hagain : Alike r.trail.points w.delivery.trail.points :=
              ((sameAll_iff _ _).1 hd).trans h.trail
            exact absurd (hsame.symm.trans ((sameAll_iff _ _).2 hagain)) (by simp)
          refine Tells.cons hnews ?_
          have hdrawn := hmirrors (alike_self hreached.isValid)
          split
          · rename_i hempty
            have hnone := h.reached.position_of_empty (List.isEmpty_iff.1 hempty)
            exact tells_showEnd hdrawn (hposition.trans hnone)
          · exact ⟨trivial, hdrawn⟩

theorem tells_applyPositionAndStatus (h : Mirrors d w) (point : Point) (stated : Option Instant)
    (status : Option String) (clock : Instant) :
    Tells d (w.applyPositionAndStatus point stated status clock).1
      (w.applyPositionAndStatus point stated status clock).2 := by
  have hposition := tells_applyPosition h point stated clock
  exact hposition.append (tells_applyStatus hposition.2 status)

theorem tells_applyFrame (h : Mirrors d w) (clock : Instant) (frame : Frame) :
    Tells d (w.applyFrame clock frame).1 (w.applyFrame clock frame).2 := by
  cases frame with
  | position update => exact tells_applyPositionAndStatus h _ _ _ _
  | tick tick => exact tells_applyPositionAndStatus h _ _ _ _
  | status text => exact tells_applyStatus h (some text)
  | statusUpdate text => exact tells_applyStatus h (some text)
  | error report => exact Tells.cons trivial ⟨trivial, h⟩
  | route route => exact tells_asides h fun _ he => isAside_of_mem_showRoute he
  | init init =>
      have hdestination := tells_applyDestination h init.destination
      exact hdestination.append (tells_applyStatus hdestination.2 init.status)
  | complete complete =>
      rw [Watcher.applyFrame]
      split
      · exact tells_applyPositionAndStatus h _ _ _ _
      · exact tells_applyStatus h _
  | hello => exact ⟨trivial, h⟩
  | probeAck => exact ⟨trivial, h⟩
  | unknown kind => exact ⟨trivial, h⟩

/-! Runs -/

theorem tells_answer (h : Mirrors d w) (call : Call) :
    Tells d (w.answer call).1 (w.answer call).2 := by
  cases call with
  | event clock event =>
      cases event with
      | status state => exact Tells.cons trivial ⟨trivial, h⟩
      | message frame => exact tells_applyFrame h clock frame
  | backfill result => exact tells_applyHistory h result

theorem tells_run (h : Mirrors d w) (calls : List Call) :
    Tells d (w.run calls).1 (w.run calls).2 := by
  induction calls generalizing d w with
  | nil => exact ⟨trivial, h⟩
  | cons call rest ih =>
      have hanswer := tells_answer h call
      exact hanswer.append (ih hanswer.2)

theorem mirrors_ofConfig (id : DeliveryId) (config : Watcher.Config) (destination : Option Point) :
    Mirrors { destination } (.ofConfig id config destination) := by
  cases destination with
  | none => exact ⟨⟨id, [], rfl⟩, .nil, rfl, rfl, by rintro _ ⟨⟩⟩
  | some point => exact ⟨⟨id, [.destination point], rfl⟩, .nil, rfl, rfl, by rintro _ ⟨⟩⟩

/-- After any calls a display that drew all render events shows the trail, up to equal points, the
status, the destination and, once there is a live one, the position that the watcher knows; and no
event drew a trail or a status that was there already. -/
theorem display_mirrors_delivery (id : DeliveryId) (config : Watcher.Config)
    (destination : Option Point) (calls : List Call) :
    let blank : Display := { destination }
    let (events, w) := (Watcher.ofConfig id config destination).run calls
    let display := blank.drawAll events
    Point.sameAll display.trail w.delivery.trail.points = true ∧
      display.status = w.delivery.status ∧
      display.destination = w.delivery.destination ∧
      (∀ sample, w.delivery.position = some sample → display.position = some sample.point) ∧
      blank.AllNews events := by
  have htells := tells_run (mirrors_ofConfig id config destination) calls
  obtain ⟨hnews, hmirrors⟩ := htells
  refine ⟨(sameAll_iff _ _).2 hmirrors.trail, hmirrors.status, hmirrors.destination, ?_, hnews⟩
  exact hmirrors.position

end CourierTrack.Proofs.Rendering
