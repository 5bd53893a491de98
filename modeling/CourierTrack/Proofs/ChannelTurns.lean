import CourierTrack.Channel.Run
/-!
What a single signal can make a channel do. A channel at rest shows the state of its machine, waits
in the phase of that state, and keeps no frame while it is live; `Turn` lists what it may do next,
and every invariant of a run is read off that list.
-/

namespace CourierTrack.Proofs.ChannelTurns

open CourierTrack.Time
open CourierTrack.Channel

/-- The state of a machine whose channel waits in a phase. -/
def stateOf : Phase → State
  | .idle => .idle
  | .connecting => .connecting
  | .live => .live
  | .pausing _ => .reconnecting
  | .finished => .closed
  | .gone => .closed

/-- The channel that waits in a phase and shows its machine. -/
def waiting (m : Machine) (phase : Phase) : Channel := ⟨m, phase, m.snapshot⟩

/-- What holds of a channel between two signals. -/
structure Settled (c : Channel) : Prop where
  published : c.published = c.machine.snapshot
  state : c.machine.state = stateOf c.phase
  flushed : c.phase = .live → c.machine.outbox = []

/-- Whether a signal means anything to a channel; one that does not is passed over. -/
def Heeds (now : Reading) (c : Channel) : Signal → Prop
  | .connect => c.phase = .idle
  | .send _ _ => c.phase ≠ .gone
  | .stop => c.phase ≠ .finished ∧ c.phase ≠ .gone
  | .abandoned => True
  | .refused => c.phase = .connecting
  | .accepted _ => c.phase = .connecting
  | .received _ => c.phase = .live
  | .dropped => c.phase = .live
  | .elapsed => ∃ due, c.phase = .pausing due ∧ due ≤ now

def failed (m : Machine) : Machine :=
  { m with
    state := .reconnecting
    retries := min (m.retries + 1) Machine.maxRetries
    scheduled := some (m.backoff.delay m.retries) }

/-- The channel that waits for its next attempt after a failure. -/
def backingOff (now : Reading) (m : Machine) : Channel :=
  waiting (failed m) (.pausing (now + m.backoff.delay m.retries))

def closed (m : Machine) : Machine := { m with state := .closed, scheduled := none }

def opened (m : Machine) : Machine := { m with state := .live, retries := 0, outbox := [] }

@[simp] theorem waiting_machine (m : Machine) (phase : Phase) : (waiting m phase).machine = m := rfl

@[simp] theorem waiting_phase (m : Machine) (phase : Phase) : (waiting m phase).phase = phase := rfl

@[simp] theorem backingOff_phase (now : Reading) (m : Machine) :
    (backingOff now m).phase = .pausing (now + m.backoff.delay m.retries) := rfl

@[simp] theorem backingOff_outbox (now : Reading) (m : Machine) :
    (backingOff now m).machine.outbox = m.outbox := rfl

@[simp] theorem closed_outbox (m : Machine) : (closed m).outbox = m.outbox := rfl

@[simp] theorem opened_outbox (m : Machine) : (opened m).outbox = [] := rfl

/-- The ways in which a channel at rest takes a signal. -/
inductive Turn (now : Reading) : Channel → Signal → List Action → Channel → Prop where
  | ignored {c signal} (h : ¬ Heeds now c signal) : Turn now c signal [] c
  | kept {c frame ok} (hlive : c.phase ≠ .live) (hgone : c.phase ≠ .gone) :
      Turn now c (.send frame ok) []
        (waiting { c.machine with outbox := c.machine.outbox ++ [frame] } c.phase)
  | begun {c signal} (h : Heeds now c signal) (hsignal : signal = .connect ∨ signal = .elapsed) :
      Turn now c signal [.announce (.status .connecting), .attempt]
        (waiting { c.machine with state := .connecting, scheduled := none } .connecting)
  | refused {c} (h : c.phase = .connecting) :
      Turn now c .refused [.announce (.status .reconnecting)] (backingOff now c.machine)
  | entered {c room} (h : c.phase = .connecting)
      (hall : flushed room c.machine.outbox = c.machine.outbox) :
      Turn now c (.accepted room)
        (.announce (.status .live) :: c.machine.outbox.map fun f => .write f.encode)
        (waiting (opened c.machine) .live)
  | broken {c room} (h : c.phase = .connecting) (front rest : List Frame)
      (hfront : flushed room c.machine.outbox = front) (hsplit : c.machine.outbox = front ++ rest)
      (hrest : rest ≠ []) :
      Turn now c (.accepted room)
        (.announce (.status .live) :: (front.map fun f => .write f.encode)
          ++ [.release, .announce (.status .reconnecting)])
        (backingOff now { opened c.machine with outbox := rest })
  | wrote {c frame} (h : c.phase = .live) : Turn now c (.send frame true) [.write frame.encode] c
  | unwritten {c frame} (h : c.phase = .live) :
      Turn now c (.send frame false) [.release, .announce (.status .reconnecting)]
        (backingOff now { c.machine with outbox := [frame] })
  | heard {c text} (h : c.phase = .live) : Turn now c (.received text) (inbound text) c
  | dropped {c} (h : c.phase = .live) :
      Turn now c .dropped [.release, .announce (.status .reconnecting)] (backingOff now c.machine)
  | closedDown {c} (h : c.phase = .live) :
      Turn now c .stop [.announce (.status .closing), .close, .announce (.status .closed)]
        (waiting (closed c.machine) .finished)
  | halted {c} (h : c.phase = .idle ∨ ∃ due, c.phase = .pausing due) :
      Turn now c .stop [.announce (.status .closed)] (waiting (closed c.machine) .finished)
  | cancelled {c} (h : c.phase = .connecting) :
      Turn now c .stop [.announce (.status .closed), .cancel]
        (waiting (closed c.machine) .finished)
  | left {c actions d} (h : Turn now c .stop actions d) :
      Turn now c .abandoned actions { d with phase := .gone }

theorem flushed_append_drop (room : Option Nat) (kept : List Frame) :
    flushed room kept ++ kept.drop (flushed room kept).length = kept := by
  cases room with
  | none => simp [flushed]
  | some n =>
      simp only [flushed, List.length_take]
      rcases Nat.le_total n kept.length with h | h
      · rw [Nat.min_eq_left h, List.take_append_drop]
      · rw [Nat.min_eq_right h, List.take_of_length_le h, List.drop_length, List.append_nil]

/-- Going live writes all kept frames, or some of them and breaks. -/
theorem turn_enter (now : Reading) {c : Channel} (h : Settled c) (hphase : c.phase = .connecting)
    (room : Option Nat) :
    Turn now c (.accepted room) (c.enter now room).1 (c.enter now room).2 := by
  obtain ⟨⟨backoff, state, retries, scheduled, outbox⟩, phase, published⟩ := c
  obtain ⟨hpublished, hstate, -⟩ := h
  simp only at hpublished hstate hphase
  subst hphase
  subst hpublished hstate
  have hsplit := flushed_append_drop room outbox
  cases hrest : outbox.drop (flushed room outbox).length with
  | nil =>
      have hall : flushed room outbox = outbox := by simpa [hrest] using hsplit
      have hlength : outbox.drop outbox.length = [] := List.drop_length
      have henter : enter now
          (waiting ⟨backoff, .connecting, retries, scheduled, outbox⟩ .connecting) room =
          (.announce (.status .live) :: outbox.map fun f => .write f.encode,
            waiting ⟨backoff, .live, 0, scheduled, []⟩ .live) := by
        simp [enter, waiting, Machine.opened, Machine.snapshot, publish, note, andThen, hall]
      rw [waiting] at henter
      exact henter ▸ .entered rfl hall
  | cons first rest =>
      rw [hrest] at hsplit
      have henter : enter now
          (waiting ⟨backoff, .connecting, retries, scheduled, outbox⟩ .connecting) room =
          (.announce (.status .live) :: ((flushed room outbox).map fun f => .write f.encode)
              ++ [.release, .announce (.status .reconnecting)],
            backingOff now ⟨backoff, .live, 0, scheduled, first :: rest⟩) := by
        simp [enter, waiting, Machine.opened, Machine.snapshot, Machine.requeue, Machine.lost,
          publish, note, andThen, retry, resume, backingOff, failed, hrest]
      rw [waiting] at henter
      exact henter ▸ .broken rfl _ _ rfl hsplit.symm (by simp)

theorem turn_step (now : Reading) {c : Channel} (h : Settled c) (signal : Signal) :
    Turn now c signal (c.step now signal).1 (c.step now signal).2 := by
  obtain ⟨⟨backoff, state, retries, scheduled, outbox⟩, phase, published⟩ := c
  obtain ⟨hpublished, hstate, hflushed⟩ := h
  simp only at hpublished hstate hflushed
  subst hpublished hstate
  cases phase with
  | idle =>
      cases signal with
      | connect => exact .begun rfl (.inl rfl)
      | send frame ok => exact .kept (by simp) (by simp)
      | stop => exact .halted (.inl rfl)
      | abandoned => exact .left (.halted (.inl rfl))
      | _ => exact .ignored (by simp [Heeds])
  | connecting =>
      cases signal with
      | send frame ok => exact .kept (by simp) (by simp)
      | stop => exact .cancelled rfl
      | abandoned => exact .left (.cancelled rfl)
      | refused => exact .refused rfl
      | accepted room => exact turn_enter now ⟨rfl, rfl, hflushed⟩ rfl room
      | _ => exact .ignored (by simp [Heeds])
  | live =>
      obtain rfl : outbox = [] := hflushed rfl
      cases signal with
      | send frame ok =>
          cases ok with
          | true => exact .wrote rfl
          | false => exact .unwritten rfl
      | stop => exact .closedDown rfl
      | abandoned => exact .left (.closedDown rfl)
      | received text => exact .heard rfl
      | dropped => exact .dropped rfl
      | _ => exact .ignored (by simp [Heeds])
  | pausing due =>
      cases signal with
      | send frame ok => exact .kept (by simp) (by simp)
      | stop => exact .halted (.inr ⟨due, rfl⟩)
      | abandoned => exact .left (.halted (.inr ⟨due, rfl⟩))
      | elapsed =>
          by_cases hdue : due ≤ now
          · have hstep : step now ⟨⟨backoff, .reconnecting, retries, scheduled, outbox⟩,
                .pausing due, ⟨.reconnecting, retries, outbox.length⟩⟩ .elapsed =
                ([.announce (.status .connecting), .attempt],
                  waiting ⟨backoff, .connecting, retries, none, outbox⟩ .connecting) := by
              simp only [step, stepPausing, if_pos hdue]
              rfl
            exact hstep ▸ .begun ⟨due, rfl, hdue⟩ (.inr rfl)
          · have hstep : step now ⟨⟨backoff, .reconnecting, retries, scheduled, outbox⟩,
                .pausing due, ⟨.reconnecting, retries, outbox.length⟩⟩ .elapsed =
                ([], ⟨⟨backoff, .reconnecting, retries, scheduled, outbox⟩, .pausing due,
                  ⟨.reconnecting, retries, outbox.length⟩⟩) := by
              simp only [step, stepPausing, if_neg hdue]
            exact hstep ▸ .ignored (by simpa [Heeds] using hdue)
      | _ => exact .ignored (by simp [Heeds])
  | finished =>
      cases signal with
      | send frame ok => exact .kept (by simp) (by simp)
      | abandoned => exact .left (.ignored (by simp [Heeds]))
      | _ => exact .ignored (by simp [Heeds])
  | gone =>
      cases signal with
      | abandoned => exact .left (.ignored (by simp [Heeds]))
      | _ => exact .ignored (by simp [Heeds])

theorem settled_ofBackoff (backoff : Backoff) : Settled (ofBackoff backoff) :=
  ⟨rfl, rfl, fun _ => rfl⟩

theorem settled_waiting {m : Machine} {phase : Phase} (hstate : m.state = stateOf phase)
    (hflushed : phase = .live → m.outbox = []) : Settled (waiting m phase) :=
  ⟨rfl, hstate, hflushed⟩

theorem settled_backingOff (now : Reading) (m : Machine) : Settled (backingOff now m) :=
  settled_waiting rfl (by simp)

theorem Settled.live {c : Channel} (h : Settled c) (hphase : c.phase = .live) :
    c.machine.state = .live := by
  rw [h.state, hphase]
  rfl

theorem Settled.phase_of_live {c : Channel} (h : Settled c) (hstate : c.machine.state = .live) :
    c.phase = .live := by
  have hphase : stateOf c.phase = .live := h.state.symm.trans hstate
  cases hc : c.phase <;> simp_all [stateOf]

theorem Turn.closed_of_stop {now : Reading} {c d : Channel} {actions : List Action}
    (h : Settled c) (t : Turn now c .stop actions d) :
    d.machine.state = .closed ∧ (d.phase = .finished ∨ d.phase = .gone) := by
  cases t with
  | ignored hpast =>
      rw [Heeds, Classical.not_and_iff_not_or_not, Classical.not_not, Classical.not_not] at hpast
      rcases hpast with hphase | hphase
      · exact ⟨by rw [h.state, hphase]; rfl, .inl hphase⟩
      · exact ⟨by rw [h.state, hphase]; rfl, .inr hphase⟩
  | begun _ hsignal => simp at hsignal
  | closedDown _ => exact ⟨rfl, .inl rfl⟩
  | halted _ => exact ⟨rfl, .inl rfl⟩
  | cancelled _ => exact ⟨rfl, .inl rfl⟩

theorem Turn.settled {now : Reading} {c d : Channel} {signal : Signal} {actions : List Action}
    (h : Settled c) (t : Turn now c signal actions d) : Settled d := by
  induction t with
  | ignored _ => exact h
  | kept hlive _ => exact settled_waiting h.state fun hphase => absurd hphase hlive
  | begun _ _ => exact settled_waiting rfl (by simp)
  | refused _ => exact settled_backingOff _ _
  | entered _ _ => exact settled_waiting rfl fun _ => rfl
  | broken _ _ _ _ _ _ => exact settled_backingOff _ _
  | wrote _ => exact h
  | unwritten _ => exact settled_backingOff _ _
  | heard _ => exact h
  | dropped _ => exact settled_backingOff _ _
  | closedDown _ => exact settled_waiting rfl (by simp)
  | halted _ => exact settled_waiting rfl (by simp)
  | cancelled _ => exact settled_waiting rfl (by simp)
  | left t ih =>
      exact ⟨ih.published, (t.closed_of_stop h).1, by simp⟩

/-- A property of runs that holds of the empty one and is kept by putting a turn in front. -/
theorem run_induction
    {motive : Channel → List (Reading × Signal) → List Action → Channel → Prop}
    (nil : ∀ c, Settled c → motive c [] [] c)
    (cons : ∀ now c signal actions d rest more e, Settled c → Turn now c signal actions d →
      Settled d → motive d rest more e → motive c ((now, signal) :: rest) (actions ++ more) e)
    {c : Channel} (h : Settled c) (signals : List (Reading × Signal)) :
    motive c signals (c.run signals).1 (c.run signals).2 := by
  induction signals generalizing c with
  | nil => exact nil c h
  | cons head rest ih =>
      obtain ⟨now, signal⟩ := head
      have t := turn_step now h signal
      exact cons now c signal _ _ rest _ _ h t (t.settled h) (ih (t.settled h))

theorem Settled.run {c : Channel} (h : Settled c) (signals : List (Reading × Signal)) :
    Settled (c.run signals).2 :=
  run_induction (motive := fun _ _ _ d => Settled d) (fun _ h => h)
    (fun _ _ _ _ _ _ _ _ _ _ _ ih => ih) h signals

end CourierTrack.Proofs.ChannelTurns
