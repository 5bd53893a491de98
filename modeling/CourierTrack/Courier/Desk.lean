import CourierTrack.Channel.Run
import CourierTrack.Courier.Basic
/-!
A courier at its desk, with the queues to and from its channel and to its store. What is put in a
queue is taken out in order, but in between anything may happen, at any clock readings: the
connection may fail and come back, the store may fail, and the relay may take its time to send
back what was written.
-/

namespace CourierTrack.Courier

open Time Channel

structure Desk where
  courier : Courier
  channel : Channel
  outgoing : List Frame := []
  incoming : List Event := []
  /-- Texts that were written and did not come back yet. -/
  echoing : List String := []
  /-- Records that are being stored. -/
  storing : List Record := []
  stored : List Record := []
  deriving Repr

/-- A position that was sent, as the courier knew it, and what became of it. -/
structure Dispatch where
  sample : Sample
  status : Status
  time : Reading
  transmission : Transmission
  deriving Repr

inductive Entry where
  | sent (dispatch : Dispatch)
  | rejected
  | handled (event : Event)
  deriving Repr

inductive Move where
  | offer (sample : Sample) (now : Reading)
  | hop (point : Point) (clock : Instant) (now : Reading)
  /-- The courier is given an event, wherever it comes from. -/
  | handle (event : Event) (now : Reading)
  | read (now : Reading)
  | take (written : Bool) (now : Reading)
  /-- Something else happens to the channel. -/
  | signal (signal : Signal) (now : Reading)
  /-- The next text comes back, if there is a connection. -/
  | echo (now : Reading)
  /-- Storing a record ends, in whichever order. -/
  | stored (index : Nat) (ok : Bool)
  deriving Repr

namespace Move

def sample? : Move → Option Sample
  | .offer sample _ => some sample
  | .hop point clock _ => some ⟨point, none, clock⟩
  | _ => none

def sends (m : Move) : Bool := m.sample?.isSome

/-- Whether a move leaves the relay and the channel to the courier alone. -/
def keepsToOwn : Move → Bool
  | .handle _ _ => false
  | .signal (.send _ _) _ => false
  | .signal .abandoned _ => false
  | .signal (.received _) _ => false
  | _ => true

end Move

namespace Desk

def opening (courier : Courier) (channel : Channel) : Desk := { courier, channel }

def dispatch (d : Desk) (transmission : Transmission) : Desk :=
  { d with
    outgoing := d.outgoing ++ [transmission.frame]
    storing := d.storing ++ transmission.record.toList }

def absorb (d : Desk) (turn : List Action × Channel) : Desk :=
  { d with
    channel := turn.2
    incoming := d.incoming ++ announced turn.1
    echoing := d.echoing ++ written turn.1 }

def offer (d : Desk) (sample : Sample) (now : Reading) : Entry × Desk :=
  let (transmission, courier) := d.courier.offer sample now
  match transmission with
  | none => (.rejected, { d with courier })
  | some transmission =>
    (.sent ⟨sample, d.courier.config.status, now, transmission⟩,
      { d with courier }.dispatch transmission)

def hop (d : Desk) (point : Point) (clock : Instant) (now : Reading) : Entry × Desk :=
  let (transmission, courier) := d.courier.hop point clock now
  (.sent ⟨⟨point, none, clock⟩, walkStatus, now, transmission⟩,
    { d with courier }.dispatch transmission)

/-- What a move makes of a desk, with what the courier did; a move that is not possible changes
nothing. -/
def move (d : Desk) : Move → Option Entry × Desk
  | .offer sample now =>
    let (entry, d) := d.offer sample now
    (some entry, d)
  | .hop point clock now =>
    let (entry, d) := d.hop point clock now
    (some entry, d)
  | .handle event now => (some (.handled event), { d with courier := d.courier.handle now event })
  | .read now =>
    match d.incoming with
    | [] => (none, d)
    | event :: rest =>
      (some (.handled event),
        { d with courier := d.courier.handle now event, incoming := rest })
  | .take written now =>
    match d.outgoing with
    | [] => (none, d)
    | frame :: rest =>
      (none, { d with outgoing := rest }.absorb (d.channel.step now (.send frame written)))
  | .signal signal now => (none, d.absorb (d.channel.step now signal))
  | .echo now =>
    match d.channel.phase, d.echoing with
    | .live, text :: rest =>
      (none, { d with echoing := rest }.absorb (d.channel.step now (.received text)))
    | _, _ => (none, d)
  | .stored index ok =>
    match d.storing[index]? with
    | none => (none, d)
    | some record =>
      (none, { d with
        storing := d.storing.eraseIdx index
        stored := if ok then d.stored ++ [record] else d.stored })

def play (d : Desk) : List Move → List Entry × Desk
  | [] => ([], d)
  | m :: rest =>
    let (entry, d) := d.move m
    let (entries, d) := d.play rest
    (entry.toList ++ entries, d)

theorem play_cons (d : Desk) (m : Move) (rest : List Move) :
    d.play (m :: rest) =
      ((d.move m).1.toList ++ ((d.move m).2.play rest).1, ((d.move m).2.play rest).2) :=
  rfl

/-- Whether nothing is on its way to the channel, to the relay or back. -/
def isQuiet (d : Desk) : Bool :=
  d.outgoing.isEmpty && d.channel.machine.outbox.isEmpty && d.echoing.isEmpty && d.incoming.isEmpty

end Desk

namespace Entry

def dispatch? : Entry → Option Dispatch
  | .sent dispatch => some dispatch
  | _ => none

def isRejected : Entry → Bool
  | .rejected => true
  | _ => false

def message? : Entry → Option Frame
  | .handled event => event.message?
  | _ => none

def isPosition : Entry → Bool
  | .handled (.message (.position _)) => true
  | _ => false

end Entry

def dispatches (entries : List Entry) : List Dispatch := entries.filterMap Entry.dispatch?

def sentFrames (entries : List Entry) : List Frame :=
  (dispatches entries).map (·.transmission.frame)

def handledFrames (entries : List Entry) : List Frame := entries.filterMap Entry.message?

/-- The positions handled after another point had been sent, where `last` was sent before all. -/
def overtaken (last : Option Point) : List Entry → Nat
  | [] => 0
  | .sent dispatch :: rest => overtaken (some dispatch.sample.point) rest
  | .handled (.message (.position update)) :: rest =>
    (if last.any (· == update.point) then 0 else 1) + overtaken last rest
  | _ :: rest => overtaken last rest

end CourierTrack.Courier
