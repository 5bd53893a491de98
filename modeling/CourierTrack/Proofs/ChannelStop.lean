import CourierTrack.Proofs.ChannelConservation
/-!
Stopping is final: from the stop on a channel attempts and writes nothing, closes the connection
that it has, and keeps its frames and all later ones in order.
-/

namespace CourierTrack.Proofs.ChannelStop

open CourierTrack.Time
open CourierTrack.Channel
open CourierTrack.Proofs.ChannelTurns
open CourierTrack.Proofs.ChannelConservation

/-- What a channel still does when it is stopped. -/
def farewell : State → List Action
  | .idle | .reconnecting => [.announce (.status .closed)]
  | .connecting => [.announce (.status .closed), .cancel]
  | .live => [.announce (.status .closing), .close, .announce (.status .closed)]
  | .closing | .closed => []

/-- A channel that takes nothing but frames to keep. -/
def Over (c : Channel) : Prop := c.phase = .finished ∨ c.phase = .gone

theorem Over.closed {c : Channel} (h : Settled c) (hover : Over c) : c.machine.state = .closed := by
  rcases hover with hphase | hphase
  · rw [h.state, hphase, stateOf]
  · rw [h.state, hphase, stateOf]

theorem farewell_of_over {c : Channel} (h : Settled c) (hover : Over c) :
    farewell c.machine.state = [] := by
  rw [hover.closed h, farewell]

/-- A channel is stopped in the same way when its owner leaves. -/
theorem turn_farewell {now : Reading} {c d : Channel} {signal : Signal} {actions : List Action}
    (h : Settled c) (hsignal : signal = .stop ∨ signal = .abandoned)
    (t : Turn now c signal actions d) :
    actions = farewell c.machine.state ∧ Over d ∧ d.machine.outbox = c.machine.outbox := by
  induction t with
  | ignored hpast =>
      rcases hsignal with rfl | rfl
      · have hover : Over c := by
          rw [Heeds, Classical.not_and_iff_not_or_not, Classical.not_not, Classical.not_not] at hpast
          exact hpast
        exact ⟨(farewell_of_over h hover).symm, hover, rfl⟩
      · exact absurd trivial hpast
  | begun _ hbegun => rcases hsignal with rfl | rfl <;> simp at hbegun
  | closedDown hphase =>
      rw [h.live hphase]
      exact ⟨rfl, .inl rfl, rfl⟩
  | halted hphase =>
      rcases hphase with hphase | ⟨due, hphase⟩
      · rw [h.state, hphase]
        exact ⟨rfl, .inl rfl, rfl⟩
      · rw [h.state, hphase]
        exact ⟨rfl, .inl rfl, rfl⟩
  | cancelled hphase =>
      rw [h.state, hphase]
      exact ⟨rfl, .inl rfl, rfl⟩
  | left _ ih =>
      obtain ⟨hactions, -, houtbox⟩ := ih (.inl rfl)
      exact ⟨hactions, .inr rfl, houtbox⟩
  | _ => simp at hsignal

/-- Once it is over a channel only takes frames, which it keeps behind the others. -/
theorem turn_over {now : Reading} {c d : Channel} {signal : Signal} {actions : List Action}
    (h : Settled c) (hover : Over c) (t : Turn now c signal actions d) :
    actions = [] ∧ Over d ∧ d.machine.outbox = c.machine.outbox ++ taken c [signal] := by
  by_cases hsignal : signal = .stop ∨ signal = .abandoned
  · have hnone : taken c [signal] = [] := by
      rcases hsignal with rfl | rfl <;> simp [taken, handedOver]
    obtain ⟨hactions, hend, houtbox⟩ := turn_farewell h hsignal t
    rw [farewell_of_over h hover] at hactions
    exact ⟨hactions, hend, by rw [hnone, List.append_nil, houtbox]⟩
  · cases t with
    | ignored hpast => exact ⟨rfl, hover, by rw [taken_of_not_heeds hpast, List.append_nil]⟩
    | kept _ hgone =>
        rw [taken_of_not_gone hgone]
        exact ⟨rfl, hover, rfl⟩
    | begun hheeds hbegun =>
        rcases hbegun with rfl | rfl <;> rcases hover with hphase | hphase <;>
          simp [Heeds, hphase] at hheeds
    | halted _ => simp at hsignal
    | left _ => simp at hsignal
    | _ hphase => rcases hover with hover | hover <;> simp [hover] at hphase

theorem run_over {c : Channel} (h : Settled c) (hover : Over c)
    (signals : List (Reading × Signal)) :
    (c.run signals).1 = [] ∧ Over (c.run signals).2 ∧
      (c.run signals).2.machine.outbox =
        c.machine.outbox ++ taken c (signals.map Prod.snd) := by
  refine run_induction (motive := fun c signals actions d => Over c → actions = [] ∧ Over d ∧
    d.machine.outbox = c.machine.outbox ++ taken c (signals.map Prod.snd)) ?_ ?_ h signals hover
  · intro c _ hover
    exact ⟨rfl, hover, by simp [taken, handedOver]⟩
  · intro now c signal actions d rest more e hc t _ ih hover
    obtain ⟨rfl, hd, houtbox⟩ := turn_over hc hover t
    obtain ⟨rfl, he, hrest⟩ := ih hd
    refine ⟨rfl, he, ?_⟩
    rw [hrest, houtbox, List.append_assoc, ← taken_cons t, List.map_cons]

/-- All that a channel does from a stop on is its farewell. -/
theorem run_stop {c : Channel} (h : Settled c) (now : Reading) {stopping : Signal}
    (hstopping : stopping = .stop ∨ stopping = .abandoned) (after : List (Reading × Signal)) :
    (c.run ((now, stopping) :: after)).1 = farewell c.machine.state ∧
      (c.run ((now, stopping) :: after)).2.machine.state = .closed ∧
      (c.run ((now, stopping) :: after)).2.machine.outbox =
        c.machine.outbox ++ taken c (stopping :: after.map Prod.snd) := by
  have t := turn_step now h stopping
  obtain ⟨hactions, hover, houtbox⟩ := turn_farewell h hstopping t
  have hsettled := t.settled h
  obtain ⟨hrest, hend, hkept⟩ := run_over hsettled hover after
  have hnone : taken c [stopping] = [] := by
    rcases hstopping with rfl | rfl <;> simp [taken, handedOver]
  simp only [Channel.run, andThen]
  refine ⟨?_, hend.closed (hsettled.run after), ?_⟩
  · rw [hactions, hrest, List.append_nil]
  · rw [hkept, houtbox, taken_cons t, hnone, List.nil_append]

/-- However a channel ran before, after a stop or its owner's leaving it starts no attempt, writes
no text, closes the connection if it has one and nothing else, passes at most through `closing` to
`closed`, where it stays, and keeps its frames with those handed over later behind them. -/
theorem stop_is_final (backoff : Backoff) (before after : List (Reading × Signal)) (now : Reading)
    {stopping : Signal} (hstopping : stopping = .stop ∨ stopping = .abandoned) :
    let c := ((ofBackoff backoff).run before).2
    let (actions, d) := c.run ((now, stopping) :: after)
    .attempt ∉ actions ∧ .release ∉ actions ∧ written actions = [] ∧
      actions.countP (· matches .close) = (if c.machine.state = .live then 1 else 0) ∧
      statuses (announced actions) =
        (match c.machine.state with
          | .live => [.closing, .closed]
          | .closed => []
          | _ => [.closed]) ∧
      d.machine.state = .closed ∧
      d.machine.outbox = c.machine.outbox ++ taken c (stopping :: after.map Prod.snd) := by
  have h : Settled ((ofBackoff backoff).run before).2 := (settled_ofBackoff backoff).run before
  obtain ⟨hactions, hstate, houtbox⟩ := run_stop h now hstopping after
  have hclosing : ((ofBackoff backoff).run before).2.machine.state ≠ .closing := by
    rw [h.state]
    cases ((ofBackoff backoff).run before).2.phase <;> simp [stateOf]
  simp only
  rw [hactions, hstate, houtbox]
  cases hlast : ((ofBackoff backoff).run before).2.machine.state with
  | closing => exact absurd hlast hclosing
  | _ => simp [farewell, written, statuses, announced, List.filterMap_cons]

theorem stop_is_final_live :
    let c := ((ofBackoff {}).run [(0, .connect), (0, .accepted none)]).2
    let (actions, d) := c.run [(1, .stop), (2, .send .hello true), (3, .connect)]
    .attempt ∉ actions ∧ .release ∉ actions ∧ written actions = [] ∧
      actions.countP (· matches .close) = 1 ∧
      statuses (announced actions) = [.closing, .closed] ∧
      d.machine.state = .closed ∧ d.machine.outbox = [.hello] :=
  stop_is_final {} [(0, .connect), (0, .accepted none)] [(2, .send .hello true), (3, .connect)] 1
    (.inl rfl)

end CourierTrack.Proofs.ChannelStop
