import CourierTrack.Channel.Event
import CourierTrack.Courier.Record
import CourierTrack.Gate
/-!
The courier's side of a delivery: sends fixes that pass the gate, walks a route regardless of the
gate, and reads what comes back.

Whatever is sent is kept in the delivery's trail, and stored as well if the courier stores. The
relay passes a courier's own positions back to it; one that equals the end of the trail is
acknowledged.
-/

namespace CourierTrack.Courier

open Time

structure Config where
  gate : GateConfig := {}
  status : Status := .inTransit
  tick : Span := Span.millis 900
  deriving Repr, DecidableEq

structure Tally where
  sent : Nat := 0
  rejected : Nat := 0
  /-- Own positions that came back. -/
  acked : Nat := 0
  /-- Metres between the last two positions sent. -/
  lastMove : Option Float := none
  deriving Repr, DecidableEq

/-- A position on its way: the frame for the channel, and the record if positions are stored. -/
structure Transmission where
  frame : Frame
  record : Option Record
  deriving Repr

/-- The status sent along with the waypoints of a walk. -/
def walkStatus : Status := .demo

end CourierTrack.Courier

namespace CourierTrack

open Time Courier

structure Courier where
  delivery : Delivery
  gate : Gate
  config : Config
  stores : Bool
  tally : Tally := {}
  lastError : Option String := none
  deriving Repr, DecidableEq

namespace Courier

def ofConfig (id : DeliveryId) (config : Config) (stores : Bool) : Courier :=
  { delivery := { id, status := config.status }, gate := .ofConfig config.gate, config, stores }

/-- Sends a position, and keeps the books. -/
def transmit (c : Courier) (point : Point) (status : Status) (captured : Instant)
    (now : Reading) : Transmission × Courier :=
  let record : Record := ⟨c.delivery.id, point, status.text⟩
  (⟨.atPosition point (some status.text) (some captured), if c.stores then some record else none⟩,
    { c with
      delivery := { c.delivery with
        trail := (c.delivery.trail.push point).2
        lastSent := some now }
      tally := { c.tally with sent := c.tally.sent + 1 } })

/-- Offers a fix to the gate, and sends it if it passes. -/
def offer (c : Courier) (sample : Sample) (now : Reading) : Option Transmission × Courier :=
  let (admitted, gate) := c.gate.offer sample.point now
  if admitted then
    let c := { c with
      gate
      delivery := { c.delivery with position := some sample }
      tally := { c.tally with lastMove := c.gate.movedM? sample.point } }
    let (transmission, c) := c.transmit sample.point c.config.status sample.captured now
    (some transmission, c)
  else (none, { c with tally := { c.tally with rejected := c.tally.rejected + 1 } })

/-- Sends a waypoint, which passes the gate; the position stays as it is if the waypoint is out of
range. -/
def hop (c : Courier) (point : Point) (clock : Instant) (now : Reading) :
    Transmission × Courier :=
  let position := match Sample.checked point.lat point.lng none clock with
    | .ok sample => some sample
    | .error _ => c.delivery.position
  let c := { c with
    gate := c.gate.record point now
    delivery := { c.delivery with position }
    tally := { c.tally with lastMove := c.gate.movedM? point } }
  c.transmit point walkStatus clock now

/-- Counts a position that came back if it is where the trail ends. -/
def acknowledge (c : Courier) (point : Point) (now : Reading) : Courier :=
  if c.delivery.trail.endsAt point then
    { c with
      delivery := { c.delivery with lastAcked := some now }
      tally := { c.tally with acked := c.tally.acked + 1 } }
  else c

def setStatus (c : Courier) (status : Status) : Courier :=
  { c with delivery := { c.delivery with status } }

def handle (c : Courier) (now : Reading) : Channel.Event → Courier
  | .message (.position update) => c.acknowledge update.point now
  | .message (.error report) => { c with lastError := some report.describe }
  | .message (.status text) => c.setStatus (.ofText text)
  | .message (.statusUpdate text) => c.setStatus (.ofText text)
  | .message _ => c
  | .status _ => c

end Courier

end CourierTrack
