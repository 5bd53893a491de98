import CourierTrack.Delivery.Basic
import CourierTrack.Frame.Encode
/-!
What is stored of a position that a courier sends.
-/

namespace CourierTrack.Courier

structure Record where
  delivery : DeliveryId
  point : Point
  status : String
  deriving Repr, DecidableEq

def Record.toJson (r : Record) : Json :=
  .ofMembers [
    ("delivery_id", .integer (.ofUInt64 r.delivery)),
    ("lat", .ofFloat r.point.lat),
    ("lng", .ofFloat r.point.lng),
    ("status", .text r.status)]

end CourierTrack.Courier
