import CourierTrack.Source.Run
/-!
The watches that were started one after another. Each has a pipe of its own; the one that counts is
cleared when another takes its place.
-/

namespace CourierTrack.Source

open Time

structure Rota where
  now : Reading
  /-- All watches that were started, in this order. -/
  taps : List Tap := []
  current : Option Nat := none
  deriving Repr

/-- A watch is started or stopped, or something takes place at one that was started. -/
inductive Deed where
  | start (tap : Tap)
  | stop
  | turn (which : Nat) (turn : Turn)
  deriving Repr

namespace Rota

def stop (r : Rota) : Rota :=
  match r.current with
  | some which => { r with taps := r.taps.modify which Tap.clear, current := none }
  | none => r

/-- Starts a watch in place of the one that counts. -/
def start (r : Rota) (tap : Tap) : Rota :=
  { now := r.now, taps := r.stop.taps ++ [tap], current := some r.taps.length }

def turn (r : Rota) (which : Nat) (turn : Turn) : Option Note × Rota :=
  match r.taps[which]? with
  | some tap =>
    let (note, f) := Flow.turn ⟨r.now, tap⟩ turn
    (note, { r with now := f.now, taps := r.taps.set which f.tap })
  | none => (none, r)

def perform (r : Rota) : Deed → List (Nat × Reading × Note) × Rota
  | .start tap => ([], r.start tap)
  | .stop => ([], r.stop)
  | .turn which turn =>
    let (note, next) := r.turn which turn
    (note.toList.map (which, r.now, ·), next)

def run (r : Rota) : List Deed → List (Nat × Reading × Note) × Rota
  | [] => ([], r)
  | deed :: rest =>
    let (log, r) := r.perform deed
    let (more, r) := r.run rest
    (log ++ more, r)

/-- The notes about one watch. -/
def about (which : Nat) (log : List (Nat × Reading × Note)) : List (Reading × Note) :=
  log.filterMap fun note => if note.1 = which then some note.2 else none

end Rota

end CourierTrack.Source
