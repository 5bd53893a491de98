import CourierTrack.Geo.Sample
import CourierTrack.Time.Span
/-!
A watch hands the samples of a feed to a reader, through a pipe with room for a fixed number of
them.

A feed is a list of entries; each entry comes a span after the one before it was handed over, and
an entry without a sample takes its time and brings nothing. A watch waits for an entry, hands its
sample over as soon as the pipe has room, and ends after the last entry, or when it finds that the
reader is gone. A cleared watch may quit while it waits; a sample it was already handing over may
still enter the pipe. When an entry has come as well, nothing says which of the two a cleared watch
does; the steps here go on with the entry.
-/

namespace CourierTrack.Source

open Time

structure Entry where
  after : Span
  sample : Option Sample
  deriving Repr

structure Pipe where
  capacity : Nat
  queue : List Sample := []
  /-- Whether the reader is there. -/
  listening : Bool := true
  deriving Repr

namespace Pipe

def hasRoom (p : Pipe) : Bool := p.queue.length < p.capacity

def push (p : Pipe) (sample : Sample) : Pipe := { p with queue := p.queue ++ [sample] }

def take? (p : Pipe) : Option (Sample × Pipe) :=
  match p.queue with
  | [] => none
  | sample :: rest => some (sample, { p with queue := rest })

end Pipe

inductive Phase where
  /-- Nothing was looked at yet. -/
  | fresh (feed : List Entry)
  | waiting (due : Reading) (sample : Option Sample) (rest : List Entry)
  /-- The pipe had no room for the sample. -/
  | handing (sample : Sample) (rest : List Entry)
  | ended
  deriving Repr

namespace Phase

/-- What a watch does that has these entries left. -/
def onward (now : Reading) : List Entry → Phase
  | [] => .ended
  | entry :: rest => .waiting (now + entry.after) entry.sample rest

/-- The number of entries not handed over yet. -/
def left : Phase → Nat
  | .fresh feed => feed.length + 1
  | .waiting _ _ rest => rest.length + 1
  | .handing _ rest => rest.length + 1
  | .ended => 0

end Phase

structure Watch where
  phase : Phase
  cleared : Bool := false
  deriving Repr

namespace Watch

def start (feed : List Entry) : Watch := { phase := .fresh feed }

def clear (w : Watch) : Watch := { w with cleared := true }

def isEnded (w : Watch) : Bool :=
  match w.phase with
  | .ended => true
  | _ => false

def isActive (w : Watch) : Bool := !w.isEnded && !w.cleared

/-- Takes the entry that is waited for, if it has come. -/
def fetch (now : Reading) (w : Watch) : Option Sample × Watch :=
  match w.phase with
  | .fresh feed => (none, { w with phase := .onward now feed })
  | .waiting due sample rest =>
    if now < due then (none, w)
    else match sample with
      | none => (none, { w with phase := .onward now rest })
      | some sample => (some sample, { w with phase := .handing sample rest })
  | _ => (none, w)

/-- Tries to hand over the sample at hand. -/
def deliver (now : Reading) (w : Watch) (pipe : Pipe) : Option Sample × Watch × Pipe :=
  match w.phase with
  | .handing sample rest =>
    if !pipe.listening then (none, { w with phase := .ended }, pipe)
    else if pipe.hasRoom then
      (some sample, { w with phase := .onward now rest }, pipe.push sample)
    else (none, w, pipe)
  | _ => (none, w, pipe)

/-- Goes on with the feed as far as one entry. -/
def go (now : Reading) (w : Watch) (pipe : Pipe) : Watch × Pipe :=
  ((w.fetch now).2.deliver now pipe).2

/-- A cleared watch may quit unless it is handing a sample over. -/
def quit (w : Watch) : Watch :=
  match w.phase with
  | .handing _ _ => w
  | _ => if w.cleared then { w with phase := .ended } else w

/-- Whether an entry is waited for that has not come. -/
def waits (now : Reading) (w : Watch) : Bool :=
  match w.phase with
  | .waiting due _ _ => now < due
  | _ => false

/-- The next thing a watch does; a cleared one quits once it has to wait. -/
def step (now : Reading) (w : Watch) (pipe : Pipe) : Watch × Pipe :=
  if w.waits now then (w.quit, pipe) else w.go now pipe

/-- When a watch goes on by itself, if it waits for an entry. -/
def due? (w : Watch) : Option Reading :=
  match w.phase with
  | .waiting due _ _ => some due
  | _ => none

end Watch

/-- A watch with the pipe it fills. -/
structure Tap where
  watch : Watch
  pipe : Pipe
  deriving Repr

namespace Tap

def start (feed : List Entry) (capacity : Nat) : Tap := ⟨.start feed, { capacity }⟩

/-- A watch with nothing behind it. -/
def inert (capacity : Nat) : Tap := ⟨{ phase := .ended }, { capacity }⟩

def step (now : Reading) (t : Tap) : Tap :=
  let (watch, pipe) := t.watch.step now t.pipe
  ⟨watch, pipe⟩

def steps (now : Reading) : Nat → Tap → Tap
  | 0, t => t
  | n + 1, t => steps now n (t.step now)

/-- Goes on until the watch waits or has ended. -/
def settle (now : Reading) (t : Tap) : Tap := steps now (t.watch.phase.left + 1) t

def clear (t : Tap) : Tap := { t with watch := t.watch.clear }

def leave (t : Tap) : Tap := { t with pipe := { t.pipe with listening := false, queue := [] } }

def take? (t : Tap) : Option (Sample × Tap) :=
  match t.pipe.take? with
  | some (sample, pipe) => some (sample, { t with pipe })
  | none => none

/-- Whether the reader has seen the end. -/
def isDry (t : Tap) : Bool := t.watch.isEnded && t.pipe.queue.isEmpty

/-- Reads up to `wanted` samples, each with the time it was taken. The watch goes on when there is
nothing to take, and only then; `fuel` bounds the samples and the waits together. -/
def read : Nat → Nat → Reading → Tap → List (Reading × Sample) × Reading × Tap
  | 0, _, now, t => ([], now, t)
  | _, 0, now, t => ([], now, t)
  | fuel + 1, wanted + 1, now, t =>
    match t.take? with
    | some (sample, t) =>
      let (samples, later, t) := read fuel wanted now t
      ((now, sample) :: samples, later, t)
    | none =>
      let t := t.settle now
      if t.pipe.queue.isEmpty then
        match t.watch.due? with
        | some due => read fuel (wanted + 1) (max now due) t
        | none => ([], now, t)
      else read fuel (wanted + 1) now t

/-- Reads up to `wanted` samples, from the time `now`. -/
def readSamples (wanted : Nat) (now : Reading) (t : Tap) :
    List (Reading × Sample) × Reading × Tap :=
  read (3 * (t.pipe.queue.length + t.watch.phase.left) + 1) wanted now t

end Tap

end CourierTrack.Source
