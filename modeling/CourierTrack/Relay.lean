/-!
A relay passes every text on to all its members, the sender included.

Each member has an inbox. A relay feeds an inbox until its owner leaves or the relay lets all
members go; texts that are in an inbox by then can still be taken from it. Inboxes are numbered in
the order of joining, and a number is never used again.
-/

namespace CourierTrack

structure Inbox where
  waiting : List String := []
  listening : Bool := true
  /-- Whether the relay has not let the member go. -/
  fed : Bool := true
  deriving Repr, DecidableEq

namespace Inbox

/-- Whether the inbox gets what is passed on. -/
def isMember (i : Inbox) : Bool := i.listening && i.fed

def put (i : Inbox) (text : String) : Inbox :=
  if i.isMember then { i with waiting := i.waiting ++ [text] } else i

/-- Whether nothing comes any more. -/
def isOver (i : Inbox) : Bool := !i.isMember && i.waiting.isEmpty

end Inbox

structure Relay where
  inboxes : List Inbox := []
  deriving Repr, DecidableEq

namespace Relay

/-- A new member, with the number of its inbox. -/
def join (r : Relay) : Nat × Relay := (r.inboxes.length, ⟨r.inboxes ++ [({} : Inbox)]⟩)

def memberCount (r : Relay) : Nat := r.inboxes.countP Inbox.isMember

/-- Passes a text on; tells how many members got it. -/
def broadcast (r : Relay) (text : String) : Nat × Relay :=
  (r.memberCount, ⟨r.inboxes.map (·.put text)⟩)

def inbox? (r : Relay) (member : Nat) : Option Inbox := r.inboxes[member]?

/-- Takes the oldest text out of an inbox, if there is one. -/
def take? (r : Relay) (member : Nat) : Option (String × Relay) :=
  match r.inboxes[member]? with
  | none => none
  | some i =>
    match i.waiting with
    | [] => none
    | text :: rest => some (text, ⟨r.inboxes.set member { i with waiting := rest }⟩)

def leave (r : Relay) (member : Nat) : Relay :=
  ⟨r.inboxes.modify member fun i => { i with listening := false }⟩

def disconnectAll (r : Relay) : Relay := ⟨r.inboxes.map fun i => { i with fed := false }⟩

@[simp]
theorem broadcast_fst (r : Relay) (text : String) : (r.broadcast text).1 = r.memberCount := rfl

@[simp]
theorem length_broadcast (r : Relay) (text : String) :
    (r.broadcast text).2.inboxes.length = r.inboxes.length := by
  simp [broadcast]

end Relay

end CourierTrack
