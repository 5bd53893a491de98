import CourierTrack.Geo.Point
/-!
Great-circle distances on a sphere with the mean radius of the earth.
-/

namespace CourierTrack.Point

def earthRadiusKm : Float := 6371

def earthRadiusM : Float := earthRadiusKm * 1000

def radians (degrees : Float) : Float := degrees * (3.141592653589793 / 180)

def square (x : Float) : Float := x * x

def haversine (a b : Point) : Float :=
  let deltaLat := radians (b.lat - a.lat)
  let deltaLng := radians (b.lng - a.lng)
  square (deltaLat / 2).sin
    + (radians a.lat).cos * (radians b.lat).cos * square (deltaLng / 2).sin

/-- The angle between two points seen from the centre. Rounding can push the sine above one for
opposite points; what is not below one counts as one. -/
def centralAngle (a b : Point) : Float :=
  let sine := (haversine a b).sqrt
  2 * (if sine < 1 then sine else 1).asin

def distanceKm (a b : Point) : Float := earthRadiusKm * centralAngle a b

def distanceM (a b : Point) : Float := earthRadiusM * centralAngle a b

/-- The length of a line through points; none for fewer than two. -/
def pathKm? : List Point → Option Float
  | a :: b :: rest => some (legs 0 (a :: b :: rest))
  | _ => none
where
  legs (sum : Float) : List Point → Float
    | a :: b :: rest => legs (sum + distanceKm a b) (b :: rest)
    | _ => sum

end CourierTrack.Point
