import CourierTrack.Proofs.MergedTrail
/-!
When a backfill comes does not matter if the live points start at its end or away from it. If the
backfill runs further ahead it depends: after a live point it is cut, before all of them the trail
goes back to where they start.
-/

namespace CourierTrack.Proofs.Handover

open CourierTrack.Time
open CourierTrack.Watcher
open CourierTrack.Proofs.PointEquality
open CourierTrack.Proofs.TrailCollapse
open CourierTrack.Proofs.MergedTrail

variable {p q : Point} {us vs before after : List Update} {history : List Point}

/-! What is kept of a backfill -/

theorem kept_of_differs (h : ∀ q ∈ history, Differs q p) (ps : List Point) :
    kept (p :: ps) history = history := by
  rw [kept, uncovered_ofPoints_cons, beforeLast_eq_none_iff.2 h]
  rfl

theorem kept_of_last {front rest : List Point} (hqp : (q == p) = true)
    (h : ∀ r ∈ rest, Differs r p) (ps : List Point) :
    kept (p :: ps) (front ++ q :: rest) = front := by
  rw [kept, uncovered_ofPoints_cons, beforeLast_eq_some_iff.2 ⟨q, rest, rfl, hqp, h⟩]
  rfl

/-- A point at the end of one list may go if the next list starts with an equal one. -/
theorem alike_ofPoints_repeated (front : List Point) (hqp : (q == p) = true) {ps : List Point}
    (hfront : ∀ r ∈ front, r.isValid = true) (hps : ∀ r ∈ ps, r.isValid = true) :
    Alike (Trail.ofPoints (front ++ p :: ps)).points
      (Trail.ofPoints (front ++ q :: p :: ps)).points := by
  rw [ofPoints_append, ofPoints_append, extend_repeated _ hqp]
  have hsame : Alike (Trail.ofPoints front).points (Trail.ofPoints front).points :=
    alike_self (isValid_of_mem_ofPoints hfront)
  exact extend_congr hsame (.cons (BEq.symm hqp) (alike_self hps))

/-! The time of a backfill -/

/-- Whether live points start at the end of a history or away from all of it. -/
def Follows (history live : List Point) : Prop :=
  ∀ p, live.head? = some p →
    (∀ q ∈ history, Differs q p) ∨ ∃ last, history.getLast? = some last ∧ (last == p) = true

theorem exists_split_of_single (h : backfills us = [history]) :
    ∃ before after, us = before ++ .history history :: after ∧ backfills before = [] ∧
      livePoints us = livePoints (before ++ after) := by
  obtain ⟨before, points, after, rfl, hbefore⟩ :=
    exists_split_of_backfill (h ▸ List.cons_ne_nil history [])
  rw [backfills_append, hbefore] at h
  obtain rfl : points = history := (List.cons.inj h).1
  exact ⟨before, after, rfl, hbefore, livePoints_split _ _ _⟩

theorem alike_of_follows (id : DeliveryId) (h : backfills us = [history])
    (hfollows : Follows (history.filter Point.isValid) (livePoints us)) :
    Alike ((Reconciler.ofId id).run us).trail.points
      (collapse (history.filter Point.isValid ++ livePoints us)) := by
  have hvalid : ∀ p ∈ history.filter Point.isValid, p.isValid = true :=
    fun p hp => (List.mem_filter.1 hp).2
  have hlive : ∀ p ∈ livePoints us, p.isValid = true := fun p hp => isValid_of_mem_livePoints hp
  have hself : Alike (Trail.ofPoints (history.filter Point.isValid ++ livePoints us)).points
      (Trail.ofPoints (history.filter Point.isValid ++ livePoints us)).points := by
    refine alike_self (isValid_of_mem_ofPoints fun p hp => ?_)
    exact (List.mem_append.1 hp).elim (hvalid p) (hlive p)
  obtain ⟨before, after, rfl, hbefore, hsame⟩ := exists_split_of_single h
  rw [← ofPoints_points, run_backfill id history hbefore, ← hsame]
  cases hfirst : livePoints before with
  | nil => exact hself
  | cons p ps =>
      have hcons : livePoints (before ++ .history history :: after) =
          p :: (ps ++ livePoints after) := by
        rw [hsame, livePoints_append, hfirst]
        rfl
      rw [hcons] at hfollows hlive hself ⊢
      rcases hfollows p rfl with hdiffers | ⟨last, hlast, hequal⟩
      · rw [kept_of_differs hdiffers]
        exact hself
      · obtain ⟨front, hfront⟩ := List.getLast?_eq_some_iff.1 hlast
        rw [hfront] at hvalid ⊢
        rw [kept_of_last hequal (by simp), List.append_assoc]
        refine alike_ofPoints_repeated front hequal ?_ ?_
        · exact fun r hr => hvalid r (List.mem_append_left _ hr)
        · exact fun r hr => hlive r (List.mem_cons_of_mem _ hr)

/-- If the live points start at the end of the backfill or away from it, a trail shows the backfill
and then the live points wherever the backfill comes among them. -/
theorem backfill_time_irrelevant (id : DeliveryId) (hus : backfills us = [history])
    (hvs : backfills vs = [history]) (hlive : livePoints us = livePoints vs)
    (hfollows : Follows (history.filter Point.isValid) (livePoints us)) :
    let shown := collapse (history.filter Point.isValid ++ livePoints us)
    let trail := ((Reconciler.ofId id).run us).trail.points
    let trail' := ((Reconciler.ofId id).run vs).trail.points
    Point.sameAll trail trail' = true ∧ Point.sameAll trail shown = true ∧
      Point.sameAll trail' shown = true := by
  intro shown trail trail'
  have hshown : Alike trail shown := alike_of_follows id hus hfollows
  have hshown' : Alike trail' shown := by
    have h := alike_of_follows id hvs (hlive ▸ hfollows)
    rwa [← hlive] at h
  simp only [sameAll_iff]
  exact ⟨hshown.trans hshown'.symm, hshown, hshown'⟩

theorem backfill_time_irrelevant_loop :
    let history : List Point := [⟨1, 1⟩, ⟨95, 0⟩, ⟨2, 0⟩]
    let trail := ((Reconciler.ofId 7).run [.history history, .position ⟨2, -0.0⟩ none .epoch,
      .position ⟨0, 200⟩ none .epoch, .position ⟨1, 1⟩ none .epoch]).trail.points
    let trail' := ((Reconciler.ofId 7).run [.position ⟨2, -0.0⟩ none .epoch,
      .position ⟨1, 1⟩ none .epoch, .status "delivered", .history history]).trail.points
    trail ≠ trail' ∧ Point.sameAll trail trail' = true ∧
      Point.sameAll trail [⟨1, 1⟩, ⟨2, 0⟩, ⟨1, 1⟩] = true := by
  have hus : backfills [.history [⟨1, 1⟩, ⟨95, 0⟩, ⟨2, 0⟩], .position ⟨2, -0.0⟩ none .epoch,
      .position ⟨0, 200⟩ none .epoch, .position ⟨1, 1⟩ none .epoch] =
      [[⟨1, 1⟩, ⟨95, 0⟩, ⟨2, 0⟩]] := rfl
  have hvs : backfills [.position ⟨2, -0.0⟩ none .epoch, .position ⟨1, 1⟩ none .epoch,
      .status "delivered", .history [⟨1, 1⟩, ⟨95, 0⟩, ⟨2, 0⟩]] =
      [[⟨1, 1⟩, ⟨95, 0⟩, ⟨2, 0⟩]] := rfl
  have hsame := backfill_time_irrelevant 7 hus hvs (by decide +kernel) (by
    intro p hp
    obtain rfl : ⟨2, -0.0⟩ = p := Option.some.inj (hp ▸ by decide +kernel)
    exact .inr ⟨⟨2, 0⟩, by decide +kernel, by decide +kernel⟩)
  exact ⟨by decide +kernel, hsame.1, by decide +kernel⟩

/-! A journey of which the backfill has the start and the live points a later part -/

theorem points_ofPoints_of_pairwise {ps : List Point} (h : ps.Pairwise Differs) :
    (Trail.ofPoints ps).points = ps := by
  rw [ofPoints_points]
  exact collapse_of_isChain h.isChain

section Journey

variable {past ahead future more : List Point} {x : Point}

/-- After a live point a backfill is cut where the live points start. -/
theorem kept_of_journey (hx : x.isValid = true) (hdistinct : (past ++ x :: future).Pairwise Differs)
    (hahead : ahead <+: x :: future) (ps : List Point) : kept (x :: ps) (past ++ ahead) = past := by
  obtain ⟨-, hfuture, hpast⟩ := List.pairwise_append.1 hdistinct
  cases ahead with
  | nil =>
      rw [List.append_nil]
      exact kept_of_differs (fun q hq => hpast q hq x List.mem_cons_self) ps
  | cons y rest =>
      obtain ⟨rfl, hrest⟩ := List.cons_prefix_cons.1 hahead
      refine kept_of_last (beq_self_of_isValid hx) (fun r hr => ?_) ps
      exact ((List.pairwise_cons.1 hfuture).1 r (hrest.subset hr)).symm

/-- Before all live points a backfill that runs ahead of their start stays as it is. -/
theorem points_of_ahead (hdistinct : (past ++ x :: future).Pairwise Differs) {y : Point}
    (hahead : x :: y :: ahead <+: x :: future) (hmore : more <+: future) :
    (Trail.ofPoints (past ++ x :: y :: ahead ++ x :: more)).points =
      past ++ x :: y :: ahead ++ x :: more := by
  obtain ⟨-, hfuture, -⟩ := List.pairwise_append.1 hdistinct
  have hmore' : x :: more <+: x :: future := List.cons_prefix_cons.2 ⟨rfl, hmore⟩
  rw [ofPoints_points]
  refine collapse_of_isChain (List.isChain_append.2 ⟨?_, ?_, ?_⟩)
  · have hfront : past ++ x :: y :: ahead <+: past ++ x :: future :=
      (List.prefix_append_right_inj past).2 hahead
    exact (hdistinct.sublist hfront.sublist).isChain
  · exact (hfuture.sublist hmore'.sublist).isChain
  · intro z hz w hw
    obtain rfl : x = w := Option.some.inj hw
    have hz : z ∈ y :: ahead := by
      rw [List.getLast?_append_of_ne_nil _ (List.cons_ne_nil _ _), List.getLast?_cons_cons] at hz
      exact List.mem_of_getLast? hz
    have hrest : y :: ahead <+: future := (List.cons_prefix_cons.1 hahead).2
    exact ((List.pairwise_cons.1 hfuture).1 z (hrest.subset hz)).symm

/-- The trail of a journey: the past and all live points, unless the backfill came before all of
them and runs past the first. -/
theorem trail_of_journey (id : DeliveryId) (hvalid : ∀ p ∈ past ++ x :: future, p.isValid = true)
    (hdistinct : (past ++ x :: future).Pairwise Differs) (hahead : ahead <+: x :: future)
    (hmore : more <+: future) (hbefore : backfills before = [])
    (hlive : livePoints (before ++ after) = x :: more) :
    ((Reconciler.ofId id).run (before ++ .history (past ++ ahead) :: after)).trail.points =
      if livePoints before = [] ∧ 2 ≤ ahead.length then past ++ ahead ++ x :: more
      else past ++ x :: more := by
  have hx : x.isValid = true := hvalid x (by simp)
  have hhistory : past ++ ahead <+: past ++ x :: future :=
    (List.prefix_append_right_inj past).2 hahead
  have hfilter : (past ++ ahead).filter Point.isValid = past ++ ahead :=
    List.filter_eq_self.2 fun p hp => hvalid p (hhistory.subset hp)
  have hshown : past ++ x :: more <+: past ++ x :: future :=
    (List.prefix_append_right_inj past).2 (List.cons_prefix_cons.2 ⟨rfl, hmore⟩)
  have hplain : (Trail.ofPoints (past ++ x :: more)).points = past ++ x :: more :=
    points_ofPoints_of_pairwise (hdistinct.sublist hshown.sublist)
  rw [run_backfill id _ hbefore, hfilter, hlive]
  cases hfirst : livePoints before with
  | cons p ps =>
      obtain rfl : p = x := by
        rw [livePoints_append, hfirst] at hlive
        exact (List.cons.inj hlive).1
      rw [kept_of_journey hx hdistinct hahead, hplain, if_neg (by simp)]
  | nil =>
      rw [kept_nil]
      -- All of the backfill stays, and only a single point ahead is taken up by the live ones.
      match ahead, hahead with
      | [], _ => simpa using hplain
      | [y], hahead =>
          obtain ⟨rfl, -⟩ := List.cons_prefix_cons.1 hahead
          rw [List.append_assoc, List.singleton_append, ofPoints_append,
            extend_repeated _ (beq_self_of_isValid hx), ← ofPoints_append, hplain, if_neg (by simp)]
      | y :: z :: ahead, hahead =>
          obtain ⟨rfl, -⟩ := List.cons_prefix_cons.1 hahead
          rw [points_of_ahead hdistinct hahead hmore, if_pos (by simp)]

end Journey

variable {journey : List Point} {s e h : Nat}

theorem segment_eq_cons (hse : s < e) (he : e ≤ journey.length) :
    (journey.take e).drop s =
      journey[s] :: (journey.drop (s + 1)).take (e - s - 1) := by
  rw [List.drop_take, List.drop_eq_getElem_cons (hse.trans_le he),
    List.take_cons (Nat.sub_pos_of_lt hse)]

theorem trail_of_segment (id : DeliveryId) (hvalid : ∀ p ∈ journey, p.isValid = true)
    (hdistinct : journey.Pairwise Differs) (hsh : s ≤ h) (hse : s < e) (he : e ≤ journey.length)
    (hh : h ≤ journey.length) (hbefore : backfills before = [])
    (hlive : livePoints (before ++ after) = (journey.take e).drop s) :
    ((Reconciler.ofId id).run (before ++ .history (journey.take h) :: after)).trail.points =
      if livePoints before = [] ∧ s + 1 < h then journey.take h ++ (journey.take e).drop s
      else journey.take e := by
  have hdrop : journey.drop s = journey[s] :: journey.drop (s + 1) :=
    List.drop_eq_getElem_cons (hse.trans_le he)
  have hjourney : journey.take s ++ journey[s] :: journey.drop (s + 1) = journey := by
    rw [← hdrop, List.take_append_drop]
  have hhistory : journey.take h = journey.take s ++ (journey.drop s).take (h - s) := by
    rw [← List.take_add, Nat.add_sub_cancel' hsh]
  have hend : journey.take s ++ (journey.take e).drop s = journey.take e := by
    rw [List.drop_take, ← List.take_add, Nat.add_sub_cancel' hse.le]
  have hlength : 2 ≤ ((journey.drop s).take (h - s)).length ↔ s + 1 < h := by
    rw [List.length_take, List.length_drop]
    omega
  have hahead : (journey.drop s).take (h - s) <+: journey[s] :: journey.drop (s + 1) :=
    hdrop ▸ List.take_prefix _ _
  have hmore : (journey.drop (s + 1)).take (e - s - 1) <+: journey.drop (s + 1) :=
    List.take_prefix _ _
  have hsegment := segment_eq_cons hse he
  have htrail := trail_of_journey id (hjourney.symm ▸ hvalid) (hjourney.symm ▸ hdistinct) hahead
    hmore hbefore (hlive.trans hsegment)
  simpa only [← hhistory, ← hsegment, hend, hlength] using htrail

/-- A trail that goes back shows the first live point twice. -/
theorem not_pairwise_of_back (hvalid : ∀ p ∈ journey, p.isValid = true) (hsh : s < h)
    (hse : s < e) (he : e ≤ journey.length) :
    ¬ (journey.take h ++ (journey.take e).drop s).Pairwise Differs := by
  intro hpairwise
  have hs : s < journey.length := hse.trans_le he
  have hfirst : journey[s] ∈ journey.take h :=
    List.mem_take_iff_getElem.2 ⟨s, by omega, rfl⟩
  have hagain : journey[s] ∈ (journey.take e).drop s := by
    rw [segment_eq_cons hse he]
    exact List.mem_cons_self
  have hdiffers : Differs journey[s] journey[s] :=
    (List.pairwise_append.1 hpairwise).2.2 _ hfirst _ hagain
  have hself := beq_self_of_isValid (hvalid _ (List.getElem_mem hs))
  exact absurd (hself.symm.trans hdiffers) (by simp)

/-- On a journey without repeated points, the backfill being its first `h` points and the live ones
those from `s` to `e`, the trail is the start of the journey up to the last live point if and only
if a live point came before the backfill or the backfill ends where the live points start. -/
theorem handover_keeps_to_journey_iff (id : DeliveryId)
    (hvalid : ∀ p ∈ journey, p.isValid = true) (hdistinct : journey.Pairwise Differs)
    (hsh : s ≤ h) (hse : s < e) (he : e ≤ journey.length) (hh : h ≤ journey.length)
    (hbefore : backfills before = [])
    (hlive : livePoints (before ++ after) = (journey.take e).drop s) :
    let trail := ((Reconciler.ofId id).run
      (before ++ .history (journey.take h) :: after)).trail.points
    (trail <+: journey ∧ journey.take e <+: trail ∧ trail.Pairwise Differs ↔
        livePoints before ≠ [] ∨ h ≤ s + 1) ∧
      trail = if livePoints before = [] ∧ s + 1 < h then journey.take h ++ (journey.take e).drop s
        else journey.take e := by
  intro trail
  have htrail : trail = _ := trail_of_segment id hvalid hdistinct hsh hse he hh hbefore hlive
  refine ⟨⟨?_, ?_⟩, htrail⟩
  · rintro ⟨-, -, hpairwise⟩
    by_contra hback
    rw [not_or, Classical.not_not, Nat.not_le] at hback
    rw [htrail, if_pos hback] at hpairwise
    exact not_pairwise_of_back hvalid (by omega) hse he hpairwise
  · intro hgood
    have hnot : ¬ (livePoints before = [] ∧ s + 1 < h) := by
      rintro ⟨hnone, hfar⟩
      exact hgood.elim (· hnone) (by omega)
    have hstart : journey.take e <+: journey := List.take_prefix _ _
    rw [htrail, if_neg hnot]
    exact ⟨hstart, List.prefix_rfl, hdistinct.sublist hstart.sublist⟩

theorem handover_keeps_to_journey_live_first :
    let journey : List Point := [⟨1, 1⟩, ⟨2, 2⟩, ⟨3, 3⟩, ⟨4, 4⟩]
    let trail := ((Reconciler.ofId 7).run [.position ⟨2, 2⟩ none .epoch,
      .history (journey.take 4), .position ⟨3, 3⟩ none .epoch]).trail.points
    trail <+: journey ∧ journey.take 3 <+: trail ∧ trail.Pairwise Differs := by
  have hvalid : ∀ p ∈ ([⟨1, 1⟩, ⟨2, 2⟩, ⟨3, 3⟩, ⟨4, 4⟩] : List Point), p.isValid = true := by
    decide +kernel
  have hdistinct : ([⟨1, 1⟩, ⟨2, 2⟩, ⟨3, 3⟩, ⟨4, 4⟩] : List Point).Pairwise Differs := by
    decide +kernel
  have hbefore : backfills [.position ⟨2, 2⟩ none .epoch] = [] := rfl
  have hlive : livePoints ([.position ⟨2, 2⟩ none .epoch] ++ [.position ⟨3, 3⟩ none .epoch]) =
      (([⟨1, 1⟩, ⟨2, 2⟩, ⟨3, 3⟩, ⟨4, 4⟩] : List Point).take 3).drop 1 := by
    decide +kernel
  have hkeeps := handover_keeps_to_journey_iff 7 (h := 4) hvalid hdistinct (by decide) (by decide)
    (by decide) (by decide) hbefore hlive
  exact hkeeps.1.2 (.inl (by decide +kernel))

/-- A backfill that comes before an older live point makes the trail go back. -/
theorem backfill_ahead_goes_back :
    let journey : List Point := [⟨1, 1⟩, ⟨2, 2⟩]
    let trail := ((Reconciler.ofId 1).run [.history (journey.take 2),
      .position ⟨1, 1⟩ none .epoch]).trail.points
    (∀ p ∈ journey, p.isValid = true) ∧ journey.Pairwise Differs ∧
      trail = [⟨1, 1⟩, ⟨2, 2⟩, ⟨1, 1⟩] ∧ ¬ trail <+: journey := by
  decide +kernel

end CourierTrack.Proofs.Handover
