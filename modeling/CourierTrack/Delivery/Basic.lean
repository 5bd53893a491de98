import CourierTrack.Delivery.Status
import CourierTrack.Delivery.Trail
import CourierTrack.Geo.Sample
import CourierTrack.Time.Span
/-!
What one side of a session knows about its delivery.
-/

namespace CourierTrack

open Time

/-- The number of a delivery, as it stands in channel and endpoint addresses. -/
abbrev DeliveryId := UInt64

structure Delivery where
  id : DeliveryId
  destination : Option Point := none
  status : Status := .pending
  position : Option Sample := none
  trail : Trail := {}
  lastSent : Option Reading := none
  lastAcked : Option Reading := none
  deriving Repr, DecidableEq

end CourierTrack
