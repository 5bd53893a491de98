import CourierTrack.Geo.Point
/-!
The trail of a delivery: points in travel order, none equal to the one before it.

A trail is built by `extend`, which adds points at the end one by one. A backfill is put in front
by `precede`, which cuts it where the trail's own first point last occurs.
-/

namespace CourierTrack

structure Trail where
  points : List Point := []
  deriving Repr, DecidableEq

namespace Trail

def last? (t : Trail) : Option Point := t.points.getLast?

def endsAt (t : Trail) (p : Point) : Bool :=
  match t.last? with
  | none => false
  | some last => last == p

/-- Adds a point at the end unless the trail ends there; tells whether it was added. -/
def push (t : Trail) (p : Point) : Bool × Trail :=
  if t.endsAt p then (false, t) else (true, ⟨t.points ++ [p]⟩)

def extend (t : Trail) (points : List Point) : Trail :=
  points.foldl (fun t p => (t.push p).2) t

def ofPoints (points : List Point) : Trail := extend {} points

/-- What comes before the last point that equals `p`; none if there is no such point. -/
def beforeLast? (p : Point) : List Point → Option (List Point)
  | [] => none
  | q :: rest =>
    match beforeLast? p rest with
    | some front => some (q :: front)
    | none => if q == p then some [] else none

/-- The part of `earlier` that does not repeat ground from the trail's first point on. -/
def uncovered (t : Trail) (earlier : List Point) : List Point :=
  match t.points with
  | [] => earlier
  | first :: _ => (beforeLast? first earlier).getD earlier

def precede (t : Trail) (earlier : List Point) : Trail :=
  (ofPoints (t.uncovered earlier)).extend t.points

def same (a b : Trail) : Bool := Point.sameAll a.points b.points

@[simp]
theorem extend_nil (t : Trail) : t.extend [] = t := rfl

@[simp]
theorem extend_cons (t : Trail) (p : Point) (points : List Point) :
    t.extend (p :: points) = (t.push p).2.extend points := rfl

theorem extend_append (t : Trail) (a b : List Point) :
    t.extend (a ++ b) = (t.extend a).extend b := by
  simp [extend, List.foldl_append]

/-- A push adds its point or changes nothing. -/
theorem push_points (t : Trail) (p : Point) :
    (t.push p).2.points = if t.endsAt p then t.points else t.points ++ [p] := by
  unfold push
  split <;> rfl

end Trail

end CourierTrack
