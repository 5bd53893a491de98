import CourierTrack.Channel.Machine
import CourierTrack.Delivery.Status
import CourierTrack.Eta
/-!
What a watcher shows: events for a display, and one line of text for each.
-/

namespace CourierTrack.Watcher

inductive RenderEvent where
  | connection (state : Channel.State)
  | position (point : Point)
  /-- The whole trail after a change. -/
  | trail (points : List Point)
  | status (status : Status)
  | error (text : String)
  | eta (eta : Eta)
  | route (points : List Point)
  | destination (point : Point)
  deriving Repr, DecidableEq

def RenderEvent.line : RenderEvent → String
  | .connection s => "[" ++ s.label ++ "] channel"
  | .position p => "position " ++ p.display
  | .trail ps => "trail " ++ toString ps.length ++ " points"
  | .status s => "status " ++ s.text
  | .error text => text
  | .eta e => "eta " ++ e.display
  | .route ps => "route " ++ toString ps.length ++ " points"
  | .destination p => "destination " ++ p.display

end CourierTrack.Watcher
