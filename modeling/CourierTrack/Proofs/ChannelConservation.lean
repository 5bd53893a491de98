import CourierTrack.Proofs.ChannelTurns
/-!
A channel neither loses nor repeats nor swaps a frame: what it has written and what it still keeps
are, in this order, what its owner handed over.
-/

namespace CourierTrack.Proofs.ChannelConservation

open CourierTrack.Time
open CourierTrack.Channel
open CourierTrack.Proofs.ChannelTurns

theorem taken_of_gone {c : Channel} (h : c.phase = .gone) (signals : List Signal) :
    taken c signals = [] := if_pos h

theorem taken_of_not_gone {c : Channel} (h : c.phase ≠ .gone) (signals : List Signal) :
    taken c signals = handedOver signals := if_neg h

theorem handedOver_cons {signal : Signal} (h : signal ≠ .abandoned) (rest : List Signal) :
    handedOver (signal :: rest) = handedOver [signal] ++ handedOver rest := by
  cases signal <;> first | rfl | exact absurd rfl h

@[simp] theorem written_writes (frames : List Frame) :
    written (frames.map fun f => .write f.encode) = frames.map Frame.encode := by
  induction frames with
  | nil => rfl
  | cons frame frames ih =>
      change frame.encode :: written (frames.map fun f => .write f.encode) = _
      rw [ih, List.map_cons]

@[simp] theorem written_nil : written [] = [] := rfl

@[simp] theorem written_announce (event : Event) (rest : List Action) :
    written (.announce event :: rest) = written rest := rfl

@[simp] theorem written_release (rest : List Action) :
    written (.release :: rest) = written rest := rfl

@[simp] theorem written_inbound (text : String) : written (inbound text) = [] := by
  unfold inbound
  split <;> rfl

theorem not_gone_of_heeds {now : Reading} {c : Channel} {signal : Signal}
    (h : Heeds now c signal) (hsignal : signal ≠ .abandoned) : c.phase ≠ .gone := by
  intro hgone
  cases signal <;> simp_all [Heeds]

/-- Only the owner's leaving puts a channel where it takes no more frames. -/
theorem gone_iff {now : Reading} {c d : Channel} {signal : Signal} {actions : List Action}
    (t : Turn now c signal actions d) :
    d.phase = .gone ↔ c.phase = .gone ∨ signal = .abandoned := by
  cases t with
  | ignored h =>
      constructor
      · exact .inl
      · rintro (hgone | rfl)
        · exact hgone
        · exact absurd trivial h
  | left _ => simp
  | begun h hsignal =>
      have hne : signal ≠ .abandoned := by rcases hsignal with rfl | rfl <;> simp
      simp [not_gone_of_heeds h hne, hne]
  | kept _ hgone => simp
  | halted h => rcases h with h | ⟨due, h⟩ <;> simp [h]
  | _ => simp_all

theorem taken_cons {now : Reading} {c d : Channel} {signal : Signal} {actions : List Action}
    (t : Turn now c signal actions d) (rest : List Signal) :
    taken c (signal :: rest) = taken c [signal] ++ taken d rest := by
  by_cases hc : c.phase = .gone
  · have hd : d.phase = .gone := (gone_iff t).2 (.inl hc)
    rw [taken_of_gone hc, taken_of_gone hc, taken_of_gone hd, List.append_nil]
  · rw [taken_of_not_gone hc, taken_of_not_gone hc]
    by_cases hsignal : signal = .abandoned
    · have hd : d.phase = .gone := (gone_iff t).2 (.inr hsignal)
      rw [taken_of_gone hd, hsignal]
      rfl
    · have hd : d.phase ≠ .gone := fun hd => ((gone_iff t).1 hd).elim hc hsignal
      rw [taken_of_not_gone hd, handedOver_cons hsignal]

/-- Whether the texts written and the frames kept `after` are, in this order, the frames `due`. -/
def Conserves (actions : List Action) (due after : List Frame) : Prop :=
  ∃ front, written actions = front.map Frame.encode ∧ front ++ after = due

theorem conserves_silent {actions : List Action} {frames : List Frame}
    (h : written actions = []) : Conserves actions frames frames :=
  ⟨[], h, rfl⟩

theorem Conserves.append {first rest : List Action} {due middle after more : List Frame}
    (h : Conserves first due middle) (h' : Conserves rest (middle ++ more) after) :
    Conserves (first ++ rest) (due ++ more) after := by
  obtain ⟨front, hfront, rfl⟩ := h
  obtain ⟨back, hback, hsplit⟩ := h'
  refine ⟨front ++ back, ?_, ?_⟩
  · rw [written_append, hfront, hback, List.map_append]
  · rw [List.append_assoc, hsplit, List.append_assoc]

theorem taken_of_not_heeds {now : Reading} {c : Channel} {signal : Signal}
    (h : ¬ Heeds now c signal) : taken c [signal] = [] := by
  cases signal with
  | send frame ok => exact taken_of_gone (Classical.not_not.1 h) _
  | abandoned => exact absurd trivial h
  | _ => simp [taken, handedOver]

/-- In one turn a channel writes the front of what it kept and took, and keeps the rest. -/
theorem turn_conserves {now : Reading} {c d : Channel} {signal : Signal} {actions : List Action}
    (h : Settled c) (t : Turn now c signal actions d) :
    Conserves actions (c.machine.outbox ++ taken c [signal]) d.machine.outbox := by
  induction t with
  | ignored hpast =>
      rw [taken_of_not_heeds hpast, List.append_nil]
      exact conserves_silent rfl
  | kept _ hgone =>
      rw [taken_of_not_gone hgone]
      exact conserves_silent rfl
  | begun _ hsignal =>
      rcases hsignal with rfl | rfl <;>
        simpa [taken, handedOver] using conserves_silent rfl
  | refused _ => simpa [taken, handedOver] using conserves_silent rfl
  | entered _ _ =>
      refine ⟨_, written_writes _, ?_⟩
      simp [taken, handedOver]
  | broken _ front rest _ hsplit _ =>
      refine ⟨front, ?_, ?_⟩
      · simp [written_append]
      · simp [taken, handedOver, hsplit]
  | wrote hphase =>
      refine ⟨[_], rfl, ?_⟩
      simp [taken, handedOver, hphase, h.flushed hphase]
  | unwritten hphase =>
      refine ⟨[], rfl, ?_⟩
      simp [taken, handedOver, hphase, h.flushed hphase]
  | heard _ => simpa [taken, handedOver] using conserves_silent (written_inbound _)
  | dropped _ => simpa [taken, handedOver] using conserves_silent rfl
  | closedDown _ => simpa [taken, handedOver] using conserves_silent rfl
  | halted _ => simpa [taken, handedOver] using conserves_silent rfl
  | cancelled _ => simpa [taken, handedOver] using conserves_silent rfl
  | left t ih =>
      -- Neither the stop nor the leaving brings a frame.
      simp only [taken, handedOver, ite_self] at ih ⊢
      exact ih

theorem run_conserves {c : Channel} (h : Settled c) (signals : List (Reading × Signal)) :
    Conserves (c.run signals).1 (c.machine.outbox ++ taken c (signals.map Prod.snd))
      (c.run signals).2.machine.outbox := by
  refine run_induction (motive := fun c signals actions d => Conserves actions
    (c.machine.outbox ++ taken c (signals.map Prod.snd)) d.machine.outbox) ?_ ?_ h signals
  · intro c _
    simpa [taken, handedOver] using conserves_silent rfl
  · intro now c signal actions d rest more e hc t _ ih
    rw [List.map_cons, taken_cons t, ← List.append_assoc]
    exact (turn_conserves hc t).append ih

/-- Whatever happens to a channel, the texts written on all its connections and then the frames
that it keeps are the frames handed over so far; and it keeps none while it is live. -/
theorem written_append_outbox (backoff : Backoff) (signals : List (Reading × Signal)) :
    let (actions, c) := (ofBackoff backoff).run signals
    written actions ++ c.machine.outbox.map Frame.encode =
        (handedOver (signals.map Prod.snd)).map Frame.encode ∧
      (c.machine.state = .live → c.machine.outbox = []) := by
  have hstart := settled_ofBackoff backoff
  have hend : Settled ((ofBackoff backoff).run signals).2 := hstart.run signals
  constructor
  · obtain ⟨front, hwritten, hsplit⟩ := run_conserves hstart signals
    rw [hwritten, ← List.map_append, hsplit]
    rfl
  · intro hlive
    exact hend.flushed (hend.phase_of_live hlive)

end CourierTrack.Proofs.ChannelConservation
