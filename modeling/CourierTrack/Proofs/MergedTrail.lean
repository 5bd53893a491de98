import CourierTrack.Proofs.TrailCollapse
import CourierTrack.Proofs.WatcherUpdates
import CourierTrack.Watcher.Run
/-!
What becomes of a backfill and the live points around it: the trail is the front of the backfill
that was kept when it came, and then all live points, collapsed together.
-/

namespace CourierTrack.Proofs.MergedTrail

open CourierTrack.Watcher
open CourierTrack.Proofs.PointEquality
open CourierTrack.Proofs.TrailCollapse
open CourierTrack.Proofs.WatcherUpdates

variable {r : Reconciler} {u : Update} {us before after : List Update}

/-! Runs -/

theorem run_append (r : Reconciler) (before after : List Update) :
    r.run (before ++ after) = (r.run before).run after :=
  List.foldl_append

theorem livePoints_cons (u : Update) (us : List Update) :
    livePoints (u :: us) = livePoints [u] ++ livePoints us := by
  simp only [livePoints, samples, ← List.map_append, ← List.filterMap_append, List.singleton_append]

theorem livePoints_append (before after : List Update) :
    livePoints (before ++ after) = livePoints before ++ livePoints after := by
  simp only [livePoints, samples, List.filterMap_append, List.map_append]

theorem backfills_append (before after : List Update) :
    backfills (before ++ after) = backfills before ++ backfills after :=
  List.filterMap_append

theorem isValid_of_mem_livePoints {p : Point} (h : p ∈ livePoints us) : p.isValid = true := by
  obtain ⟨sample, hsample, rfl⟩ := List.mem_map.1 h
  obtain ⟨update, -, hlive⟩ := List.mem_filterMap.1 hsample
  cases update with
  | position point stated clock =>
      rw [Update.live?] at hlive
      split at hlive
      · obtain rfl := Option.some.inj hlive
        assumption
      · exact absurd hlive (by simp)
  | _ => exact absurd hlive (by simp [Update.live?])

theorem isValid_of_mem_historyPoints {p : Point} (h : p ∈ historyPoints us) : p.isValid = true :=
  (List.mem_filter.1 h).2

/-! Single updates -/

theorem apply_position (r : Reconciler) (u : Update) :
    (r.apply u).delivery.position = u.live?.or r.delivery.position := by
  cases u with
  | position point stated clock =>
      rw [Reconciler.apply, Reconciler.applyPosition, Update.live?]
      split <;> rfl
  | history points =>
      rw [Reconciler.apply, Reconciler.applyHistory]
      split <;> rfl
  | status text =>
      rw [Reconciler.apply, Reconciler.applyStatus]
      split <;> rfl
  | destination point => rfl

theorem run_position (r : Reconciler) (us : List Update) :
    (r.run us).delivery.position = (samples us).getLast?.or r.delivery.position := by
  induction us generalizing r with
  | nil => rfl
  | cons u us ih =>
      change ((r.apply u).run us).delivery.position = _
      rw [ih, apply_position, samples, samples, List.filterMap_cons]
      cases u.live? with
      | none => rfl
      | some sample =>
          simp only [List.getLast?_cons, Option.some_or]
          cases (us.filterMap Update.live?).getLast? <;> rfl

/-- An update that no longer brings a backfill adds its live points to the trail. -/
theorem apply_trail (h : u.history? = none ∨ r.historyApplied = true) :
    (r.apply u).trail = r.trail.extend (livePoints [u]) := by
  cases u with
  | position point stated clock =>
      change (r.applyPosition point stated clock).2.delivery.trail = _
      rw [applyPosition_trail, livePoints, samples, List.filterMap_cons, Update.live?]
      cases point.isValid <;> rfl
  | history points =>
      rcases h with h | h
      · exact absurd h (by simp)
      · rw [Reconciler.apply, Reconciler.applyHistory, if_pos h]
        rfl
  | status text => exact applyStatus_trail text
  | destination point => rfl

theorem apply_liveSeen (r : Reconciler) (u : Update) :
    (r.apply u).liveSeen = (r.liveSeen || !(livePoints [u]).isEmpty) := by
  cases u with
  | position point stated clock =>
      rw [Reconciler.apply, Reconciler.applyPosition, livePoints, samples, List.filterMap_cons,
        Update.live?]
      cases point.isValid <;> simp
  | history points =>
      rw [Reconciler.apply, Reconciler.applyHistory]
      split <;> simp [livePoints, samples, Update.live?]
  | status text =>
      rw [Reconciler.apply, Reconciler.applyStatus]
      split <;> simp [livePoints, samples, Update.live?]
  | destination point => simp [Reconciler.apply, Reconciler.setDestination, livePoints, samples,
      Update.live?]

theorem apply_historyApplied (r : Reconciler) (u : Update) :
    (r.apply u).historyApplied = (r.historyApplied || u.history?.isSome) := by
  cases u with
  | position point stated clock =>
      rw [Reconciler.apply, Reconciler.applyPosition]
      split <;> simp
  | history points =>
      rw [Reconciler.apply, Reconciler.applyHistory]
      split <;> simp_all
  | status text =>
      rw [Reconciler.apply, Reconciler.applyStatus]
      split <;> simp
  | destination point => simp [Reconciler.apply, Reconciler.setDestination]

/-! Whole runs -/

theorem run_liveSeen (r : Reconciler) (us : List Update) :
    (r.run us).liveSeen = (r.liveSeen || !(livePoints us).isEmpty) := by
  induction us generalizing r with
  | nil => simp [Reconciler.run, livePoints, samples]
  | cons u us ih =>
      change ((r.apply u).run us).liveSeen = _
      rw [ih, apply_liveSeen, livePoints_cons u us]
      cases livePoints [u] <;> simp

theorem run_historyApplied (r : Reconciler) (us : List Update) :
    (r.run us).historyApplied = (r.historyApplied || !(backfills us).isEmpty) := by
  induction us generalizing r with
  | nil => simp [Reconciler.run, backfills]
  | cons u us ih =>
      change ((r.apply u).run us).historyApplied = _
      rw [ih, apply_historyApplied, backfills, backfills, List.filterMap_cons]
      cases u.history? <;> simp

theorem run_trail (h : backfills us = [] ∨ r.historyApplied = true) :
    (r.run us).trail = r.trail.extend (livePoints us) := by
  induction us generalizing r with
  | nil => rfl
  | cons u us ih =>
      have hfirst : u.history? = none ∨ r.historyApplied = true := by
        rcases h with h | h
        · exact .inl (List.filterMap_eq_nil_iff.1 h u List.mem_cons_self)
        · exact .inr h
      have hrest : backfills us = [] ∨ (r.apply u).historyApplied = true := by
        rcases h with h | h
        · refine .inl (List.filterMap_eq_nil_iff.2 fun v hv => ?_)
          exact List.filterMap_eq_nil_iff.1 h v (List.mem_cons_of_mem u hv)
        · rw [apply_historyApplied, h]
          exact .inr rfl
      change ((r.apply u).run us).trail = _
      rw [ih hrest, apply_trail hfirst, livePoints_cons u us, Trail.extend_append]

/-- The points of a backfill that a trail keeps if these live points came before it. -/
def kept (live history : List Point) : List Point := (Trail.ofPoints live).uncovered history

@[simp] theorem kept_nil (history : List Point) : kept [] history = history := rfl

/-- The first backfill leaves a trail as if what is kept of it had come before all live points. -/
theorem run_backfill (id : DeliveryId) (points : List Point) (hbefore : backfills before = []) :
    ((Reconciler.ofId id).run (before ++ .history points :: after)).trail =
      .ofPoints (kept (livePoints before) (points.filter Point.isValid) ++
        livePoints (before ++ after)) := by
  rw [run_append]
  have htrail : ((Reconciler.ofId id).run before).trail = .ofPoints (livePoints before) :=
    run_trail (.inl hbefore)
  have happlied : ((Reconciler.ofId id).run before).historyApplied = false := by
    rw [run_historyApplied, hbefore]
    rfl
  have hseen : ((Reconciler.ofId id).run before).liveSeen = !(livePoints before).isEmpty := by
    rw [run_liveSeen]
    rfl
  generalize (Reconciler.ofId id).run before = r at htrail happlied hseen
  have hmerged : (r.applyHistory points).trail =
      .ofPoints (kept (livePoints before) (points.filter Point.isValid) ++ livePoints before) := by
    rw [Reconciler.applyHistory, happlied]
    change r.merged (points.filter Point.isValid) = _
    rw [Reconciler.merged, hseen, htrail]
    cases hlive : livePoints before with
    | nil => simp
    | cons p ps => rw [ofPoints_append, ← extend_collapse _ (p :: ps), ← ofPoints_points]; rfl
  have hdone : (r.applyHistory points).historyApplied = true := by
    rw [Reconciler.applyHistory, happlied]
    rfl
  change ((r.applyHistory points).run after).trail = _
  rw [run_trail (.inr hdone), hmerged, livePoints_append, ← List.append_assoc]
  exact (ofPoints_append _ _).symm

theorem exists_split_of_backfill (h : backfills us ≠ []) :
    ∃ before points after, us = before ++ .history points :: after ∧ backfills before = [] := by
  induction us with
  | nil => exact absurd rfl h
  | cons u us ih =>
      cases u with
      | history points => exact ⟨[], points, us, rfl, rfl⟩
      | _ =>
          obtain ⟨before, points, after, rfl, hbefore⟩ := ih h
          exact ⟨_ :: before, points, after, rfl, hbefore⟩

theorem livePoints_split (before after : List Update) (points : List Point) :
    livePoints (before ++ .history points :: after) = livePoints (before ++ after) := by
  rw [livePoints_append, livePoints_append, livePoints_cons]
  rfl

theorem historyPoints_split (points : List Point) (hbefore : backfills before = []) :
    historyPoints (before ++ .history points :: after) = points.filter Point.isValid := by
  rw [historyPoints, backfills_append, hbefore]
  rfl

/-- At any time a trail is a front of the first backfill and all live points, collapsed. -/
theorem exists_kept (id : DeliveryId) (us : List Update) :
    ∃ front, front <+: historyPoints us ∧
      ((Reconciler.ofId id).run us).trail = .ofPoints (front ++ livePoints us) := by
  by_cases h : backfills us = []
  · exact ⟨[], List.nil_prefix, run_trail (.inl h)⟩
  · obtain ⟨before, points, after, rfl, hbefore⟩ := exists_split_of_backfill h
    rw [historyPoints_split points hbefore, livePoints_split]
    exact ⟨_, isPrefix_uncovered _ _, run_backfill id points hbefore⟩

theorem isValid_of_mem_trail {id : DeliveryId} {p : Point}
    (h : p ∈ ((Reconciler.ofId id).run us).trail.points) : p.isValid = true := by
  obtain ⟨part, hpart, htrail⟩ := exists_kept id us
  rw [htrail] at h
  refine isValid_of_mem_ofPoints (fun q hq => ?_) p h
  rcases List.mem_append.1 hq with hq | hq
  · exact isValid_of_mem_historyPoints (hpart.subset hq)
  · exact isValid_of_mem_livePoints hq

theorem exists_front_alike (id : DeliveryId) (us : List Update) :
    ∃ front, front <+: collapse (historyPoints us) ∧
      Alike ((Reconciler.ofId id).run us).trail.points (front ++ collapse (livePoints us)) := by
  obtain ⟨part, hpart, htrail⟩ := exists_kept id us
  have hvalid : ∀ p ∈ part, p.isValid = true :=
    fun p hp => isValid_of_mem_historyPoints (hpart.subset hp)
  have hlive : ∀ p ∈ livePoints us, p.isValid = true := fun p hp => isValid_of_mem_livePoints hp
  obtain ⟨front, hfront, hsame⟩ :=
    exists_prefix_alike_extend (isValid_of_mem_ofPoints hvalid) hlive
  rw [ofPoints_points] at hfront
  refine ⟨front, hfront.trans (isPrefix_collapse hpart), ?_⟩
  rw [htrail, ofPoints_append]
  exact hsame

theorem isChain_trail (id : DeliveryId) (us : List Update) :
    ((Reconciler.ofId id).run us).trail.points.IsChain Differs := by
  obtain ⟨part, -, htrail⟩ := exists_kept id us
  rw [htrail, ofPoints_points]
  exact isChain_collapse _

theorem applyHistory_again (r : Reconciler) (h : backfills us ≠ []) (points : List Point) :
    (r.run us).applyHistory points = r.run us := by
  have hsome : (backfills us).isEmpty = false := by simpa using h
  have happlied : (r.run us).historyApplied = true := by
    rw [run_historyApplied, hsome]
    exact Bool.or_true _
  rw [Reconciler.applyHistory, if_pos happlied]

/-- However live points, backfills, statuses and destinations come, the trail is a front of the
first backfill and then all live points in range, up to equal points; it has no point out of range
and no two equal points in a row, later backfills change nothing, and the position is the last live
one. -/
theorem trail_is_history_then_live (id : DeliveryId) (us : List Update) :
    let r := (Reconciler.ofId id).run us
    (∃ front, front <+: collapse (historyPoints us) ∧
        Point.sameAll r.trail.points (front ++ collapse (livePoints us)) = true) ∧
      (∀ p ∈ r.trail.points, p.isValid = true) ∧
      r.trail.points.IsChain Differs ∧
      (backfills us ≠ [] → ∀ points, r.applyHistory points = r) ∧
      r.delivery.position = (samples us).getLast? := by
  intro r
  refine ⟨?_, fun p hp => isValid_of_mem_trail hp, isChain_trail id us, ?_, ?_⟩
  · obtain ⟨front, hfront, hsame⟩ := exists_front_alike id us
    exact ⟨front, hfront, (sameAll_iff _ _).2 hsame⟩
  · intro hbackfill points
    exact applyHistory_again _ hbackfill points
  · exact (run_position _ us).trans Option.or_none

end CourierTrack.Proofs.MergedTrail
