import CourierTrack.Delivery.Trail
import CourierTrack.Proofs.PointEquality
/-!
A trail is the list of the points that it was given, with each run of equal points made one. What
it looks like does not change if the points given are collapsed before, or if some of them are
replaced by equal ones.
-/

namespace CourierTrack.Proofs.TrailCollapse

open CourierTrack.Proofs.PointEquality

variable {t u : Trail} {p q : Point} {ps qs : List Point}

def Differs (p q : Point) : Prop := (p == q) = false

instance decidableDiffers : DecidableRel Differs :=
  fun p q => inferInstanceAs (Decidable ((p == q) = false))

/-- The first point of each run of equal points. -/
def collapse (points : List Point) : List Point := points.destutter Differs

theorem Differs.symm (h : Differs p q) : Differs q p := by
  rw [Differs, BEq.comm]
  exact h

/-! Single points -/

theorem push_of_endsAt (h : t.endsAt p = true) : (t.push p).2 = t := by
  rw [Trail.push, if_pos h]

theorem push_of_not_endsAt (h : t.endsAt p = false) : (t.push p).2 = ⟨t.points ++ [p]⟩ := by
  rw [Trail.push, h]
  rfl

@[simp] theorem endsAt_append_singleton (front : List Point) :
    (⟨front ++ [q]⟩ : Trail).endsAt p = (q == p) := by
  simp [Trail.endsAt, Trail.last?]

theorem eq_append_of_endsAt (h : t.endsAt p = true) :
    ∃ front last, t = ⟨front ++ [last]⟩ ∧ (last == p) = true := by
  obtain ⟨points⟩ := t
  rcases List.eq_nil_or_concat points with rfl | ⟨front, last, rfl⟩
  · simp [Trail.endsAt, Trail.last?] at h
  · refine ⟨front, last, by simp, ?_⟩
    simpa using h

@[simp] theorem endsAt_push : (t.push q).2.endsAt p = (q == p) := by
  cases hq : t.endsAt q with
  | true =>
      obtain ⟨front, last, rfl, hlast⟩ := eq_append_of_endsAt hq
      rw [push_of_endsAt hq, endsAt_append_singleton]
      exact BEq.congr_left hlast
  | false => rw [push_of_not_endsAt hq, endsAt_append_singleton]

/-! Trails as collapsed lists -/

theorem extend_append_singleton (front : List Point) (p : Point) (ps : List Point) :
    (⟨front ++ [p]⟩ : Trail).extend ps = ⟨front ++ collapse (p :: ps)⟩ := by
  induction ps generalizing front p with
  | nil => rfl
  | cons q ps ih =>
      rw [Trail.extend_cons]
      cases hpq : p == q with
      | true =>
          have hends : (⟨front ++ [p]⟩ : Trail).endsAt q = true := by simpa using hpq
          rw [push_of_endsAt hends, ih, collapse, collapse, List.destutter_cons_cons,
            if_neg (by simp [Differs, hpq])]
          rfl
      | false =>
          have hends : (⟨front ++ [p]⟩ : Trail).endsAt q = false := by simpa using hpq
          have hdiffers : Differs p q := hpq
          rw [push_of_not_endsAt hends, ih, collapse, collapse, List.destutter_cons_cons,
            if_pos hdiffers, List.append_assoc]
          rfl

theorem ofPoints_points (ps : List Point) : (Trail.ofPoints ps).points = collapse ps := by
  cases ps with
  | nil => rfl
  | cons p ps =>
      have hextend := extend_append_singleton [] p ps
      exact congrArg Trail.points hextend

theorem mem_of_mem_collapse (h : p ∈ collapse ps) : p ∈ ps :=
  (List.destutter_sublist _ ps).subset h

theorem isValid_of_mem_ofPoints (hps : ∀ p ∈ ps, p.isValid = true) :
    ∀ p ∈ (Trail.ofPoints ps).points, p.isValid = true := by
  intro p hp
  rw [ofPoints_points] at hp
  exact hps p (mem_of_mem_collapse hp)

theorem isChain_collapse (ps : List Point) : (collapse ps).IsChain Differs :=
  List.isChain_destutter _ ps

theorem collapse_of_isChain (h : ps.IsChain Differs) : collapse ps = ps :=
  List.destutter_of_isChain _ ps h

theorem prefix_extend (t : Trail) (ps : List Point) : t.points <+: (t.extend ps).points := by
  induction ps generalizing t with
  | nil => exact List.prefix_rfl
  | cons p ps ih =>
      refine List.IsPrefix.trans ?_ (ih _)
      rw [Trail.push_points]
      split
      · exact List.prefix_rfl
      · exact List.prefix_append _ _

theorem ofPoints_append (ps qs : List Point) :
    Trail.ofPoints (ps ++ qs) = (Trail.ofPoints ps).extend qs :=
  Trail.extend_append _ _ _

theorem isPrefix_collapse (h : ps <+: qs) : collapse ps <+: collapse qs := by
  obtain ⟨rest, rfl⟩ := h
  rw [← ofPoints_points, ← ofPoints_points, ofPoints_append]
  exact prefix_extend _ _

/-- A trail that took points ends where a trail of these points alone ends. -/
theorem endsAt_extend_of_endsAt (t : Trail) (h : (Trail.ofPoints ps).endsAt p = true) :
    (t.extend ps).endsAt p = true := by
  rcases List.eq_nil_or_concat ps with rfl | ⟨front, last, rfl⟩
  · exact absurd h Bool.false_ne_true
  · rw [List.concat_eq_append, ofPoints_append, Trail.extend_cons, Trail.extend_nil,
      endsAt_push] at h
    rw [List.concat_eq_append, Trail.extend_append, Trail.extend_cons, Trail.extend_nil,
      endsAt_push]
    exact h

/-- Points may be collapsed before a trail takes them. -/
theorem extend_collapse (t : Trail) (ps : List Point) : t.extend (collapse ps) = t.extend ps := by
  rw [← ofPoints_points]
  -- From the end: whether the last point counts depends only on where both trails end before it.
  induction ps using List.reverseRecOn with
  | nil => rfl
  | append_singleton ps p ih =>
      rw [ofPoints_append, Trail.extend_append, ← ih]
      change t.extend ((Trail.ofPoints ps).push p).2.points = ((t.extend _).push p).2
      cases hends : (Trail.ofPoints ps).endsAt p with
      | true =>
          have hends' : (t.extend ps).endsAt p = true := endsAt_extend_of_endsAt t hends
          rw [push_of_endsAt hends, ih, push_of_endsAt hends']
      | false =>
          rw [push_of_not_endsAt hends, Trail.extend_append]
          rfl

/-! Equal points in place of others -/

theorem endsAt_congr (h : Alike t.points u.points) (hpq : (p == q) = true) :
    t.endsAt p = u.endsAt q := by
  obtain ⟨points⟩ := t
  obtain ⟨points'⟩ := u
  simp only at h
  induction h with
  | nil => rfl
  | cons hhead hrest ih =>
      cases hrest with
      | nil => exact (BEq.congr_left hhead).trans (BEq.congr_right hpq)
      | cons _ _ => exact ih

theorem push_congr (h : Alike t.points u.points) (hpq : (p == q) = true) :
    Alike (t.push p).2.points (u.push q).2.points := by
  rw [Trail.push_points, Trail.push_points, endsAt_congr h hpq]
  split
  · exact h
  · exact h.append (.cons hpq .nil)

theorem extend_congr (h : Alike t.points u.points) (hpoints : Alike ps qs) :
    Alike (t.extend ps).points (u.extend qs).points := by
  induction hpoints generalizing t u with
  | nil => exact h
  | cons hpq _ ih => exact ih (push_congr h hpq)

/-- Of two equal points one after the other the second changes nothing. -/
theorem extend_repeated (t : Trail) (h : (p == q) = true) (ps : List Point) :
    t.extend (p :: q :: ps) = t.extend (p :: ps) := by
  have hends : (t.push p).2.endsAt q = true := endsAt_push.trans h
  rw [Trail.extend_cons, Trail.extend_cons, push_of_endsAt hends, Trail.extend_cons]

/-- What a trail shows after more points is a front of it and then these points collapsed; at
most its end gives way to the first of them, which is equal to it. -/
theorem exists_prefix_alike_extend (ht : ∀ p ∈ t.points, p.isValid = true)
    (hps : ∀ p ∈ ps, p.isValid = true) :
    ∃ front, front <+: t.points ∧ Alike (t.extend ps).points (front ++ collapse ps) := by
  cases ps with
  | nil =>
      refine ⟨t.points, List.prefix_rfl, ?_⟩
      rw [collapse, List.destutter_nil, List.append_nil]
      exact alike_self ht
  | cons p ps =>
      cases hends : t.endsAt p with
      | true =>
          obtain ⟨front, last, rfl, hlast⟩ := eq_append_of_endsAt hends
          refine ⟨front, List.prefix_append _ _, ?_⟩
          have hfront : Alike front front :=
            alike_self fun q hq => ht q (List.mem_append_left _ hq)
          have hrest : Alike ps ps :=
            alike_self fun q hq => hps q (List.mem_cons_of_mem _ hq)
          have hsame : Alike (front ++ [last]) (front ++ [p]) := hfront.append (.cons hlast .nil)
          rw [Trail.extend_cons, push_of_endsAt hends]
          have hextend := extend_congr (t := ⟨front ++ [last]⟩) (u := ⟨front ++ [p]⟩) hsame hrest
          rwa [extend_append_singleton front p ps] at hextend
      | false =>
          refine ⟨t.points, List.prefix_rfl, ?_⟩
          rw [Trail.extend_cons, push_of_not_endsAt hends, extend_append_singleton]
          refine (alike_self ht).append (alike_self fun q hq => ?_)
          exact hps q (mem_of_mem_collapse hq)

/-! What comes before a trail -/

theorem beforeLast_eq_none_iff :
    Trail.beforeLast? p ps = none ↔ ∀ q ∈ ps, Differs q p := by
  induction ps with
  | nil => simp [Trail.beforeLast?]
  | cons q ps ih =>
      rw [Trail.beforeLast?, List.forall_mem_cons, ← ih]
      cases Trail.beforeLast? p ps with
      | none => cases hqp : q == p <;> simp [Differs, hqp]
      | some front => simp

theorem beforeLast_eq_some_iff {front : List Point} :
    Trail.beforeLast? p ps = some front ↔
      ∃ q rest, ps = front ++ q :: rest ∧ (q == p) = true ∧ ∀ r ∈ rest, Differs r p := by
  induction ps generalizing front with
  | nil => simp [Trail.beforeLast?]
  | cons q ps ih =>
      constructor
      · intro h
        rw [Trail.beforeLast?] at h
        cases hrest : Trail.beforeLast? p ps with
        | some front' =>
            rw [hrest] at h
            obtain rfl := Option.some.inj h
            obtain ⟨q', rest, rfl, hq', hdiffers⟩ := ih.1 hrest
            exact ⟨q', rest, rfl, hq', hdiffers⟩
        | none =>
            simp only [hrest] at h
            split at h
            · rename_i hqp
              obtain rfl := Option.some.inj h
              exact ⟨q, ps, rfl, hqp, beforeLast_eq_none_iff.1 hrest⟩
            · exact absurd h (by simp)
      · rintro ⟨q', rest, hsplit, hq', hdiffers⟩
        rw [Trail.beforeLast?]
        cases front with
        | nil =>
            obtain ⟨rfl, rfl⟩ := List.cons.inj hsplit
            simp [beforeLast_eq_none_iff.2 hdiffers, hq']
        | cons p' front' =>
            obtain ⟨rfl, rfl⟩ := List.cons.inj hsplit
            rw [ih.2 ⟨q', rest, rfl, hq', hdiffers⟩]

theorem isPrefix_uncovered (t : Trail) (ps : List Point) : t.uncovered ps <+: ps := by
  rw [Trail.uncovered]
  cases t.points with
  | nil => exact List.prefix_rfl
  | cons first _ =>
      change (Trail.beforeLast? first ps).getD ps <+: ps
      cases hfront : Trail.beforeLast? first ps with
      | none => exact List.prefix_rfl
      | some front =>
          obtain ⟨q, rest, rfl, -, -⟩ := beforeLast_eq_some_iff.1 hfront
          exact List.prefix_append _ _

/-- The first of the points that a trail was given decides what it covers. -/
theorem uncovered_ofPoints_cons (p : Point) (ps earlier : List Point) :
    (Trail.ofPoints (p :: ps)).uncovered earlier =
      (Trail.beforeLast? p earlier).getD earlier := by
  have hprefix : [p] <+: collapse (p :: ps) := isPrefix_collapse (List.prefix_append [p] ps)
  obtain ⟨rest, hrest⟩ := hprefix
  rw [Trail.uncovered, ofPoints_points, ← hrest]
  rfl

end CourierTrack.Proofs.TrailCollapse
