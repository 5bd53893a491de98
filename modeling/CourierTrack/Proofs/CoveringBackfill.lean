import CourierTrack.Proofs.TrailCollapse
/-!
A backfill that ends with all that a trail shows. It is cut where the first point of the trail
occurs last, and that is not where the trail starts if the trail comes back to its first point:
then all that lies before the last return is shown twice.
-/

namespace CourierTrack.Proofs.CoveringBackfill

open CourierTrack.Proofs.PointEquality
open CourierTrack.Proofs.TrailCollapse

variable {t u : Trail} {p q : Point} {ps qs earlier : List Point}

/-- Whether a trail comes back to where it starts. -/
def Returns (t : Trail) : Prop :=
  ∃ first rest, t.points = first :: rest ∧ ∃ p ∈ rest, (p == first) = true

/-- The points of a trail before it is for the last time where it starts. -/
def rounds (t : Trail) : List Point :=
  match t.points with
  | [] => []
  | first :: _ => (Trail.beforeLast? first t.points).getD []

theorem exists_rounds (h : t.points = p :: ps) (hp : (p == p) = true) :
    ∃ q rest, t.points = rounds t ++ q :: rest ∧ (q == p) = true ∧ ∀ r ∈ rest, Differs r p := by
  have hrounds : rounds t = (Trail.beforeLast? p t.points).getD [] := by
    rw [rounds]
    simp only [h]
  cases hfront : Trail.beforeLast? p t.points with
  | none =>
      have hdiffers : Differs p p := beforeLast_eq_none_iff.1 hfront p (h ▸ List.mem_cons_self)
      exact absurd (hp.symm.trans hdiffers) (by simp)
  | some front =>
      rw [hrounds, hfront]
      exact beforeLast_eq_some_iff.1 hfront

theorem rounds_eq_nil_iff (hvalid : ∀ p ∈ t.points, p.isValid = true) :
    rounds t = [] ↔ ¬ Returns t := by
  cases hpoints : t.points with
  | nil =>
      refine ⟨?_, fun _ => by simp [rounds, hpoints]⟩
      rintro - ⟨first, rest, hfirst, -⟩
      simp [hpoints] at hfirst
  | cons p ps =>
      have hp : (p == p) = true :=
        beq_self_of_isValid (hvalid p (hpoints ▸ List.mem_cons_self))
      obtain ⟨q, rest, hsplit, hqp, hdiffers⟩ := exists_rounds hpoints hp
      constructor
      · rintro hrounds ⟨first, later, hfirst, r, hr, hrfirst⟩
        rw [hrounds, List.nil_append] at hsplit
        obtain ⟨rfl, rfl⟩ := List.cons.inj (hpoints.symm.trans hfirst)
        obtain ⟨rfl, rfl⟩ := List.cons.inj (hpoints.symm.trans hsplit)
        exact absurd (hrfirst.symm.trans (hdiffers r hr)) (by simp)
      · intro hreturns
        cases hrounds : rounds t with
        | nil => rfl
        | cons p' back =>
            rw [hrounds, List.cons_append, hpoints] at hsplit
            obtain ⟨rfl, rfl⟩ := List.cons.inj hsplit
            refine absurd ⟨p, _, hpoints, q, ?_, hqp⟩ hreturns
            exact List.mem_append_right back List.mem_cons_self

/-! The merged trail -/

/-- A backfill that ends with the trail keeps what is new in it, and the rounds of the trail. -/
theorem uncovered_append (earlier : List Point) (hvalid : ∀ p ∈ t.points, p.isValid = true) :
    t.uncovered (earlier ++ t.points) = earlier ++ rounds t := by
  cases hpoints : t.points with
  | nil => simp [Trail.uncovered, rounds, hpoints]
  | cons p ps =>
      have hp : (p == p) = true :=
        beq_self_of_isValid (hvalid p (hpoints ▸ List.mem_cons_self))
      obtain ⟨q, rest, hsplit, hqp, hdiffers⟩ := exists_rounds hpoints hp
      have hlast : Trail.beforeLast? p (earlier ++ t.points) = some (earlier ++ rounds t) := by
        refine beforeLast_eq_some_iff.2 ⟨q, rest, ?_, hqp, hdiffers⟩
        rw [List.append_assoc, ← hsplit]
      rw [hpoints] at hlast
      rw [Trail.uncovered]
      simp only [hpoints]
      rw [hlast]
      rfl

theorem precede_append (earlier : List Point) (hvalid : ∀ p ∈ t.points, p.isValid = true) :
    t.precede (earlier ++ t.points) = .ofPoints (earlier ++ rounds t ++ t.points) := by
  rw [Trail.precede, uncovered_append earlier hvalid, ← ofPoints_append]

/-! Its length -/

/-- Points of which no two in a row are equal are all added, except the first where a trail ends. -/
theorem extend_of_isChain (u : Trail) (h : (p :: ps).IsChain Differs) :
    (u.extend (p :: ps)).points = u.points ++ if u.endsAt p then ps else p :: ps := by
  cases hends : u.endsAt p with
  | true =>
      obtain ⟨front, last, rfl, hlast⟩ := eq_append_of_endsAt hends
      have hchain : (last :: ps).IsChain Differs := by
        cases ps with
        | nil => exact .singleton last
        | cons q qs =>
            obtain ⟨hpq, hrest⟩ := List.isChain_cons_cons.1 h
            exact List.isChain_cons_cons.2 ⟨(BEq.congr_left hlast).trans hpq, hrest⟩
      rw [Trail.extend_cons, push_of_endsAt hends, extend_append_singleton,
        collapse_of_isChain hchain]
      simp
  | false =>
      rw [Trail.extend_cons, push_of_not_endsAt hends, extend_append_singleton,
        collapse_of_isChain h]
      rfl

theorem endsAt_extend_append_singleton (u : Trail) (ps : List Point) :
    (u.extend (ps ++ [p])).endsAt q = (p == q) := by
  rw [Trail.extend_append, Trail.extend_cons, Trail.extend_nil, endsAt_push]

/-- The rounds of a trail do not end where they start. -/
theorem not_endsAt_rounds (hchain : t.points.IsChain Differs) (h : t.points = p :: ps)
    (hp : (p == p) = true) (hrounds : rounds t ≠ []) : (u.extend (rounds t)).endsAt p = false := by
  obtain ⟨q, rest, hsplit, hqp, -⟩ := exists_rounds h hp
  obtain ⟨back, last, hlast⟩ := (List.eq_nil_or_concat (rounds t)).resolve_left hrounds
  rw [hsplit, hlast, List.concat_eq_append, List.append_assoc, List.singleton_append] at hchain
  have hdiffers : Differs last q :=
    (List.isChain_cons_cons.1 (List.isChain_append.1 hchain).2.1).1
  rw [hlast, List.concat_eq_append, endsAt_extend_append_singleton]
  exact (BEq.congr_right hqp).symm.trans hdiffers

/-- A trail starts with its rounds if it has any. -/
theorem exists_of_rounds {back : List Point} (hvalid : ∀ p ∈ t.points, p.isValid = true)
    (h : rounds t = p :: back) :
    ∃ q rest, t.points = p :: back ++ q :: rest ∧ (p == p) = true := by
  cases hpoints : t.points with
  | nil =>
      rw [rounds] at h
      simp [hpoints] at h
  | cons first ps =>
      have hself : (first == first) = true :=
        beq_self_of_isValid (hvalid first (hpoints ▸ List.mem_cons_self))
      obtain ⟨q, rest, hsplit, -, -⟩ := exists_rounds hpoints hself
      rw [h] at hsplit
      obtain ⟨rfl, -⟩ := List.cons.inj (hpoints.symm.trans hsplit)
      exact ⟨q, rest, hpoints.symm.trans hsplit, hself⟩

theorem length_precede_append (earlier : List Point)
    (hvalid : ∀ p ∈ t.points, p.isValid = true) (hchain : t.points.IsChain Differs) :
    (t.precede (earlier ++ t.points)).points.length =
      (Trail.ofPoints (earlier ++ t.points)).points.length + (rounds t).length := by
  rw [precede_append earlier hvalid]
  cases hrounds : rounds t with
  | nil => simp
  | cons p back =>
      obtain ⟨q, rest, hpoints, hself⟩ := exists_of_rounds hvalid hrounds
      have hback : (p :: back).IsChain Differs := by
        rw [hpoints] at hchain
        exact (List.isChain_append.1 hchain).1
      have hends : ((Trail.ofPoints earlier).extend (p :: back)).endsAt p = false := by
        have hne : rounds t ≠ [] := by simp [hrounds]
        have hnot := not_endsAt_rounds (u := .ofPoints earlier) hchain hpoints hself hne
        rwa [hrounds] at hnot
      rw [hpoints, List.cons_append] at hchain ⊢
      -- The rounds lose their first point to the backfill if the trail alone would.
      rw [ofPoints_append, ofPoints_append, extend_of_isChain _ hchain, hends,
        extend_of_isChain _ hback, ofPoints_append, extend_of_isChain _ hchain]
      cases (Trail.ofPoints earlier).endsAt p with
      | true => simp; omega
      | false => simp; omega

theorem length_of_sameAll (h : Point.sameAll ps qs = true) : ps.length = qs.length :=
  ((sameAll_iff ps qs).1 h).length_eq

/-- A backfill that ends with all that a trail shows gives what its points give alone if and only
if the trail does not come back to its first point; otherwise the trail's rounds are shown twice,
and it is longer by them. -/
theorem covering_backfill_repeats_iff (t : Trail) (earlier : List Point)
    (hchain : t.points.IsChain Differs) (hvalid : ∀ p ∈ t.points, p.isValid = true)
    (hearlier : ∀ p ∈ earlier, p.isValid = true) :
    let merged := t.precede (earlier ++ t.points)
    let plain := Trail.ofPoints (earlier ++ t.points)
    (merged.same plain = true ↔ ¬ Returns t) ∧
      merged = .ofPoints (earlier ++ rounds t ++ t.points) ∧
      merged.points.length = plain.points.length + (rounds t).length := by
  intro merged plain
  have hmerged : merged = .ofPoints (earlier ++ rounds t ++ t.points) :=
    precede_append earlier hvalid
  have hlength : merged.points.length = plain.points.length + (rounds t).length :=
    length_precede_append earlier hvalid hchain
  refine ⟨?_, hmerged, hlength⟩
  rw [← rounds_eq_nil_iff hvalid]
  constructor
  · intro hsame
    have hequal := length_of_sameAll hsame
    rw [hlength] at hequal
    exact List.eq_nil_of_length_eq_zero (by omega)
  · intro hrounds
    have hequal : merged = plain := by
      rw [hmerged, hrounds, List.append_nil]
    rw [hequal]
    refine (sameAll_iff _ _).2 (alike_self (isValid_of_mem_ofPoints ?_))
    intro p hp
    exact (List.mem_append.1 hp).elim (hearlier p) (hvalid p)

theorem covering_backfill_repeats_iff_loop :
    let t : Trail := ⟨[⟨1, 1⟩, ⟨2, 2⟩, ⟨1, 1⟩, ⟨3, 3⟩]⟩
    let earlier : List Point := [⟨4, 4⟩, ⟨1, 1⟩]
    t.points.IsChain Differs ∧ (∀ p ∈ t.points, p.isValid = true) ∧
      (∀ p ∈ earlier, p.isValid = true) ∧
      (t.precede (earlier ++ t.points)).points.length =
        (Trail.ofPoints (earlier ++ t.points)).points.length + 2 := by
  have hchain : ([⟨1, 1⟩, ⟨2, 2⟩, ⟨1, 1⟩, ⟨3, 3⟩] : List Point).IsChain Differs := by
    decide +kernel
  have hvalid : ∀ p ∈ ([⟨1, 1⟩, ⟨2, 2⟩, ⟨1, 1⟩, ⟨3, 3⟩] : List Point), p.isValid = true := by
    decide +kernel
  have hearlier : ∀ p ∈ ([⟨4, 4⟩, ⟨1, 1⟩] : List Point), p.isValid = true := by decide +kernel
  have hrounds : (rounds ⟨[⟨1, 1⟩, ⟨2, 2⟩, ⟨1, 1⟩, ⟨3, 3⟩]⟩).length = 2 := by decide +kernel
  refine ⟨hchain, hvalid, hearlier, ?_⟩
  have hlength := (covering_backfill_repeats_iff ⟨_⟩ _ hchain hvalid hearlier).2.2
  rwa [hrounds] at hlength

/-- A trail that ends where it starts is shown twice by a backfill that is the trail itself. -/
theorem round_trip_shown_twice :
    let t : Trail := ⟨[⟨1, 1⟩, ⟨2, 2⟩, ⟨1, 1⟩]⟩
    t.points.IsChain Differs ∧ (∀ p ∈ t.points, p.isValid = true) ∧
      (t.precede ([] ++ t.points)).points = [⟨1, 1⟩, ⟨2, 2⟩, ⟨1, 1⟩, ⟨2, 2⟩, ⟨1, 1⟩] ∧
      (Trail.ofPoints ([] ++ t.points)).points = [⟨1, 1⟩, ⟨2, 2⟩, ⟨1, 1⟩] ∧
      (t.precede ([] ++ t.points)).same (.ofPoints ([] ++ t.points)) = false := by
  decide +kernel

end CourierTrack.Proofs.CoveringBackfill
