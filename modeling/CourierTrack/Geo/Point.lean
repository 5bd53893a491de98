import CourierTrack.Decimal.Layout
/-!
Points on the globe, their valid range, and the errors for values outside it.
-/

namespace CourierTrack

/-- Latitude and longitude in degrees. -/
structure Point where
  lat : Float
  lng : Float
  deriving Repr, DecidableEq

inductive GeoError where
  | latitude (value : Float)
  | longitude (value : Float)
  | accuracy (value : Float)
  deriving Repr, DecidableEq

def GeoError.message : GeoError → String
  | .latitude x => "Invalid latitude: " ++ Decimal.Layout.plain.format x
      ++ " (must be within -90..=90)"
  | .longitude x => "Invalid longitude: " ++ Decimal.Layout.plain.format x
      ++ " (must be within -180..=180)"
  | .accuracy x => "Invalid accuracy: " ++ Decimal.Layout.plain.format x
      ++ " (must be a non-negative number of metres)"

namespace Point

/-- Coordinates compare as numbers: the two zeros are equal and NaN differs from itself. -/
protected def beq (a b : Point) : Bool := a.lat == b.lat && a.lng == b.lng

instance : BEq Point := ⟨Point.beq⟩

/-- Whether `x` is finite and within `bound` of zero. -/
def within (bound x : Float) : Bool := x.isFinite && -bound ≤ x && x ≤ bound

/-- The latitude is looked at first. -/
def check (p : Point) : Except GeoError Unit :=
  if !within 90 p.lat then .error (.latitude p.lat)
  else if !within 180 p.lng then .error (.longitude p.lng)
  else .ok ()

def checked (lat lng : Float) : Except GeoError Point := do
  Point.check ⟨lat, lng⟩
  return ⟨lat, lng⟩

def isValid (p : Point) : Bool := within 90 p.lat && within 180 p.lng

theorem check_eq_ok_iff (p : Point) : p.check = .ok () ↔ p.isValid = true := by
  unfold check isValid
  cases within 90 p.lat <;> cases within 180 p.lng <;> simp

/-- Whether two lists hold equal points in the same order. -/
def sameAll : List Point → List Point → Bool
  | [], [] => true
  | p :: ps, q :: qs => p == q && sameAll ps qs
  | _, _ => false

def display (p : Point) : String := Decimal.fixed 6 p.lat ++ ", " ++ Decimal.fixed 6 p.lng

end Point

end CourierTrack
