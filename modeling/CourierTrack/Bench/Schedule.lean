import CourierTrack.Bench.Stage
/-!
A courier and a watcher on one relay, whose steps come in any order: which of the things that can
happen comes next is left open. Nobody stops, leaves or is disconnected.
-/

namespace CourierTrack.Bench

open Time

inductive Move where
  /-- The clocks go on; the wall clock may jump. -/
  | clocks (now : Reading) (clock : Instant)
  | connect (node : Nat)
  | refuse (node : Nat) (refusing : Bool)
  | chore (node : Nat) (chore : Node.Chore)
  /-- The courier is offered a fix, at a clock reading of its own. -/
  | offer (sample : Sample) (now : Reading)
  | read
  /-- The store gets what is on its way to it. -/
  | store
  | listen
  | fill
  deriving Repr

namespace Stage

def readReady? (s : Stage) : Option Stage := do
  let trip ← s.trip
  let (world, trip) ← trip.read? s.world
  return { s with world, trip := some trip }

def listenReady? (s : Stage) : Option Stage := do
  let viewing ← s.viewing
  let (world, viewing) ← viewing.listen? s.world s.clock
  return { s with world, viewing := some viewing }

def fillReady? (s : Stage) : Option Stage := do
  let viewing ← s.viewing
  let (world, viewing) ← viewing.fill? s.world s.clock
  return { s with world, viewing := some viewing }

def choreReady? (s : Stage) (node : Nat) (chore : Node.Chore) : Option Stage := do
  let world ← s.world.chore? node chore
  return { s with world }

def offer (s : Stage) (sample : Sample) (now : Reading) : Stage :=
  match s.trip with
  | none => s
  | some trip =>
    let (_, world, trip) := trip.offer s.world sample now
    { s with world, trip := some trip }

/-- What a move makes of a stage; one that is not possible changes nothing. -/
def move (s : Stage) : Move → Stage
  | .clocks now clock => { s with clock, world := { s.world with now := max s.world.now now } }
  | .connect node => { s with world := s.world.connect node }
  | .refuse node refusing => { s with world := s.world.refuse node refusing }
  | .chore node chore => (s.choreReady? node chore).getD s
  | .offer sample now => s.offer sample now
  | .read => s.readReady?.getD s
  | .store => s.storeReady?.getD s
  | .listen => s.listenReady?.getD s
  | .fill => s.fillReady?.getD s

def play (s : Stage) (moves : List Move) : Stage := moves.foldl move s

/-- The stages that moves lead through, from first to last. -/
def course (s : Stage) : List Move → List Stage
  | [] => [s]
  | m :: rest => s :: (s.move m).course rest

/-- A watcher at node 0 and a courier at node 1 with nothing done yet, and no backfill to ask for.
Both nodes connect to the relay. -/
def opening (courier : Courier) (watcher : Watcher) (publishing watching : Channel.Backoff)
    (clock : Instant) : Stage :=
  { clock
    world := { nodes := [.ofChannel (.ofBackoff watching) true,
                         .ofChannel (.ofBackoff publishing) true] }
    trip := some { courier, node := 1 }
    viewing := some (.start watcher 0 0 0 none) }

def sentPoints (s : Stage) : List Point :=
  s.trip.elim [] fun t => t.courier.delivery.trail.points

def seenPoints (s : Stage) : List Point :=
  s.viewing.elim [] fun v => v.session.watcher.delivery.trail.points

/-- Whether nothing is on its way: no order, no kept frame, no text in an inbox, no event. -/
def isQuiet (s : Stage) : Bool :=
  s.world.nodes.all (fun n =>
    n.orders.isEmpty && n.channel.machine.outbox.isEmpty && n.events.isEmpty) &&
  s.world.relay.inboxes.all fun i => i.waiting.isEmpty

/-- Whether the watcher has a seat at the relay, unless the courier has written nothing so far. -/
def joinedFirst (s : Stage) : Bool :=
  (s.world.nodes[1]?).all (fun n => n.written.isEmpty) ||
    (s.world.nodes[0]?).any fun n => n.seat.isSome

end Stage

end CourierTrack.Bench
