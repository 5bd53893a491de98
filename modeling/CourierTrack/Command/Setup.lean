import CourierTrack.Bench.Stage
import CourierTrack.Command.Performance
import CourierTrack.Command.Target
import CourierTrack.Source.Feed
/-!
From a command and the settings to its performance.

Nothing outside can be reached, so every attempt of a channel is refused, and there is no backfill.
What a command refuses it refuses before it starts.
-/

namespace CourierTrack.Command

open Time Bench

/-- A node that reaches nobody. -/
def offlineNode (s : Settings) : Node :=
  { Node.ofChannel (.ofBackoff s.backoff) false with refusing := true }

/-- A world with nothing but a node that tries to connect. -/
def offline (s : Settings) : World := World.connect { nodes := [offlineNode s] } 0

namespace Drive

/-- The settings with what is asked for in place of them. -/
def amend (d : Drive) (s : Settings) : Settings :=
  { s with
    minIntervalSecs := d.minIntervalSecs.getD s.minIntervalSecs
    minDistance := d.minDistance.getD s.minDistance
    status := d.status.getD s.status }

def opening (site : Site) (store : Option Url) : List String :=
  (store.map fun url => "Persisting to " ++ url.toText).toList ++ [
    "Driving delivery " ++ site.number ++ " - reading \"lat,lng[,accuracy_m]\" lines from stdin",
    "Press Ctrl+C to stop",
    ""]

/-- Where positions are stored, if they are. -/
def store (d : Drive) (site : Site) (s : Settings) : Except Error (Option Url) :=
  if d.persist || s.persist then (Target.endpoint site s.persistPath).map some else .ok none

/-- Drives along a feed. -/
def setup (d : Drive) (s : Settings) (clock : Instant) :
    Except Error (List Source.Entry → Performance) := do
  let site ← d.target.site s
  let _ ← Target.channelUrl site
  let store ← d.store site s
  let courier := Courier.ofConfig site.delivery (d.amend s).courier store.isSome
  return fun feed =>
    { act := .drive
      opening := opening site store
      stage := { clock, world := offline s
                 trip := some ({ courier, node := 0 : Trip }.follow feed none) } }

end Drive

namespace Simulate

/-- The settings with what is asked for in place of them. -/
def amend (w : Simulate) (s : Settings) : Settings :=
  { s with tickMs := (w.tickMs.map (max 1)).getD s.tickMs }

def opening (intro : String) (delivery : DeliveryId) (w : Simulate) : String :=
  intro ++ " delivery " ++ toString delivery.toNat ++ " over " ++ toString w.waypoints.length
    ++ " waypoints"

def setup (w : Simulate) (s : Settings) (clock : Instant) : Except Error Performance := do
  let site ← w.target.site s
  let _ ← Target.channelUrl site
  let courier := Courier.ofConfig site.delivery (w.amend s).courier false
  return {
    act := .walk w.waypoints.length
    opening := [opening "Simulating" site.delivery w]
    stage := { clock, world := offline s
               trip := some ({ courier, node := 0 : Trip }.walk w.waypoints 0 none) } }

/-- The delivery of a demo when none is named. -/
def demoDelivery : DeliveryId := 1

/-- Walks in front of a watcher, unless it is interrupted. The watcher is there first. -/
def demo (w : Simulate) (s : Settings) (clock : Instant) (interrupt : Option Span) :
    Performance :=
  let delivery := (w.target.delivery? s).getD demoDelivery
  let node := Node.ofChannel (.ofBackoff s.backoff) true
  let world := settle (World.connect { nodes := [node, node] } 0)
  let watcher := Watcher.ofConfig delivery s.watcher w.waypoints.getLast?
  let courier := Courier.ofConfig delivery (w.amend s).courier false
  { act := .demo
    opening := [opening "Loopback demo:" delivery w, ""]
    stage := { clock, world := world.connect 1
               viewing := some (.start watcher 0 0 s.watcher.historyTimeout none)
               trip := some ({ courier, node := 1 : Trip }.walk w.waypoints 0 interrupt)
               timeline := interrupt.toList.map fun at_ => (at_, .cancelViewing) } }

end Simulate

namespace Watch

/-- The settings with what is asked for in place of them. -/
def amend (w : Watch) (s : Settings) : Settings :=
  { s with
    historyLimit := (w.historyLimit.map Watcher.clampLimit).getD s.historyLimit
    speedKmph := w.speedKmph.getD s.speedKmph }

def noBackfill : Backfill := .error (.http "offline")

def opening (site : Site) : List String :=
  ["Watching delivery " ++ site.number, "Press Ctrl+C to stop", ""]

def setup (w : Watch) (s : Settings) (clock : Instant) : Except Error Performance := do
  let site ← w.target.site s
  if w.withHistory then let _ ← Target.endpoint site s.historyPath
  let _ ← Target.channelUrl site
  let config := (w.amend s).watcher
  let watcher := Watcher.ofConfig site.delivery config w.destination
  let backfill := if w.withHistory then some (0, noBackfill) else none
  return {
    act := .watch
    opening := opening site
    stage := { clock, world := offline s
               viewing := some (.start watcher 0 0 config.historyTimeout backfill) } }

end Watch

end CourierTrack.Command
