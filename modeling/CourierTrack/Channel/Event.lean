import CourierTrack.Channel.Machine
/-!
What a channel tells its owner.
-/

namespace CourierTrack.Channel

inductive Event where
  | message (frame : Frame)
  | status (state : State)
  deriving Repr

end CourierTrack.Channel
