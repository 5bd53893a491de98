/-!
The status of a delivery. Its text is free; a text without a meaning here is kept as it is.
-/

namespace CourierTrack

inductive Status where
  | pending
  | inTransit
  | demo
  | delivered
  | cancelled
  | other (text : String)
  deriving Repr, DecidableEq, Inhabited

namespace Status

def ofText : String → Status
  | "pending" => .pending
  | "in_transit" => .inTransit
  | "demo" => .demo
  | "delivered" => .delivered
  | "cancelled" => .cancelled
  | text => .other text

def text : Status → String
  | .pending => "pending"
  | .inTransit => "in_transit"
  | .demo => "demo"
  | .delivered => "delivered"
  | .cancelled => "cancelled"
  | .other text => text

/-- Reading a text loses nothing of it. -/
@[simp]
theorem text_ofText (s : String) : (ofText s).text = s := by
  unfold ofText
  split <;> rfl

/-- Whether no movement is expected any more. -/
def isTerminal : Status → Bool
  | .delivered | .cancelled => true
  | _ => false

def isKnown : Status → Bool
  | .other _ => false
  | _ => true

end Status

end CourierTrack
