import Mathlib
import CourierTrack.Geo.Point
/-!
Equality of points as numbers. It is symmetric and transitive, and every point in range equals
itself. Lists of points are alike if their points are equal one by one.
-/

namespace CourierTrack.Proofs.PointEquality

theorem beq_self_of_isFinite {x : Float} (h : x.isFinite = true) : (x == x) = true := by
  refine Float.beq_self_iff.2 ?_
  rintro rfl
  exact absurd h (by decide)

theorem point_beq_iff (p q : Point) :
    (p == q) = true ↔ (p.lat == q.lat) = true ∧ (p.lng == q.lng) = true :=
  Bool.and_eq_true_iff

instance partialEquivBEq : PartialEquivBEq Point where
  symm := by
    intro p q h
    obtain ⟨hlat, hlng⟩ := (point_beq_iff p q).1 h
    exact (point_beq_iff q p).2 ⟨BEq.symm hlat, BEq.symm hlng⟩
  trans := by
    intro p q r h h'
    obtain ⟨hlat, hlng⟩ := (point_beq_iff p q).1 h
    obtain ⟨hlat', hlng'⟩ := (point_beq_iff q r).1 h'
    exact (point_beq_iff p r).2 ⟨BEq.trans hlat hlat', BEq.trans hlng hlng'⟩

theorem beq_self_of_isValid {p : Point} (h : p.isValid = true) : (p == p) = true := by
  simp only [Point.isValid, Point.within, Bool.and_eq_true] at h
  obtain ⟨⟨⟨hlat, -⟩, -⟩, ⟨hlng, -⟩, -⟩ := h
  exact (point_beq_iff p p).2 ⟨beq_self_of_isFinite hlat, beq_self_of_isFinite hlng⟩

/-! Lists -/

def Alike (ps qs : List Point) : Prop := List.Forall₂ (fun p q => (p == q) = true) ps qs

theorem sameAll_iff (ps qs : List Point) : Point.sameAll ps qs = true ↔ Alike ps qs := by
  induction ps generalizing qs with
  | nil => cases qs <;> simp [Point.sameAll, Alike]
  | cons p ps ih =>
      cases qs with
      | nil => simp [Point.sameAll, Alike]
      | cons q qs =>
          rw [Point.sameAll, Bool.and_eq_true, ih, Alike, Alike, List.forall₂_cons]

theorem Alike.symm {ps qs : List Point} (h : Alike ps qs) : Alike qs ps := by
  induction h with
  | nil => exact .nil
  | cons hpq _ ih => exact .cons (BEq.symm hpq) ih

theorem Alike.trans {ps qs rs : List Point} (h : Alike ps qs) (h' : Alike qs rs) :
    Alike ps rs := by
  induction h generalizing rs with
  | nil => exact h'
  | cons hpq _ ih =>
      cases h' with
      | cons hqr hrest => exact .cons (BEq.trans hpq hqr) (ih hrest)

theorem alike_self {ps : List Point} (h : ∀ p ∈ ps, p.isValid = true) : Alike ps ps :=
  List.forall₂_same.2 fun p hp => beq_self_of_isValid (h p hp)

theorem Alike.append {ps qs ps' qs' : List Point} (h : Alike ps qs) (h' : Alike ps' qs') :
    Alike (ps ++ ps') (qs ++ qs') :=
  List.rel_append h h'

end CourierTrack.Proofs.PointEquality
