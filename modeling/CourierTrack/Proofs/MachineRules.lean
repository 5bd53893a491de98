import CourierTrack.Channel.Machine.Run
/-!
The rules of a machine hold whatever is asked of it and in whatever order: its state changes only
along the table, it has chosen a wait exactly while it waits, it counts its failures, and its frames
leave it only when an attempt succeeds.
-/

namespace CourierTrack.Proofs.MachineRules

open CourierTrack.Time
open CourierTrack.Channel
open CourierTrack.Channel.Machine (Request Answer Move Leads maxRetries)

variable {b : Backoff} {count : Nat} {m m' : Machine} {request : Request} {answer : Answer}
  {requests : List Request} {move : Move} {moves : List Move}

/-- All that a request can make a machine do. -/
inductive Takes : Machine → Request → Answer → Machine → Prop where
  | begun {m : Machine} (h : m.state = .idle ∨ m.state = .reconnecting) :
      Takes m .connect (.begun true) { m with state := .connecting, scheduled := none }
  | notBegun {m : Machine} (hidle : m.state ≠ .idle) (hwaiting : m.state ≠ .reconnecting) :
      Takes m .connect (.begun false) m
  | opened {m : Machine} (h : m.state = .connecting) :
      Takes m .opened (.drained m.outbox) { m with state := .live, retries := 0, outbox := [] }
  | notOpened {m : Machine} (h : m.state ≠ .connecting) : Takes m .opened (.drained []) m
  | failed {m : Machine} (h : m.state = .connecting ∨ m.state = .live) :
      Takes m .lost (.waits (some (m.backoff.delay m.retries)))
        { m with
          state := .reconnecting
          retries := min (m.retries + 1) maxRetries
          scheduled := some (m.backoff.delay m.retries) }
  | closed {m : Machine} (h : m.state = .closing) :
      Takes m .lost (.waits none) { m with state := .closed }
  | notLost {m : Machine} (h : m.state = .idle ∨ m.state = .reconnecting ∨ m.state = .closed) :
      Takes m .lost (.waits none) m
  | closing {m : Machine} (h : m.state = .live ∨ m.state = .closing) :
      Takes m .stop (.stopped .closing) { m with state := .closing, scheduled := none }
  | halted {m : Machine} (hlive : m.state ≠ .live) (hclosing : m.state ≠ .closing) :
      Takes m .stop (.stopped .closed) { m with state := .closed, scheduled := none }
  | offered {m : Machine} {frame : Frame} (h : m.state = .live) :
      Takes m (.send frame) (.offered (some frame)) m
  | kept {m : Machine} {frame : Frame} (h : m.state ≠ .live) :
      Takes m (.send frame) (.offered none) { m with outbox := m.outbox ++ [frame] }
  | requeued {m : Machine} {frames : List Frame} :
      Takes m (.requeue frames) .requeued { m with outbox := frames ++ m.outbox }

theorem takes_respond (m : Machine) (request : Request) :
    Takes m request (m.respond request).1 (m.respond request).2 := by
  cases request with
  | connect =>
      simp only [Machine.respond, Machine.connect]
      split
      · exact .begun (.inl ‹_›)
      · exact .begun (.inr ‹_›)
      · exact .notBegun ‹_› ‹_›
  | opened =>
      simp only [Machine.respond, Machine.opened]
      split
      · exact .opened ‹_›
      · exact .notOpened ‹_›
  | lost =>
      simp only [Machine.respond, Machine.lost]
      split
      · exact .failed (.inl ‹_›)
      · exact .failed (.inr ‹_›)
      · exact .closed ‹_›
      · refine .notLost ?_
        cases hstate : m.state <;> simp_all
  | stop =>
      simp only [Machine.respond, Machine.stop]
      split
      · exact .closing (.inl ‹_›)
      · exact .closing (.inr ‹_›)
      · exact .halted ‹_› ‹_›
  | send frame =>
      simp only [Machine.respond, Machine.send]
      split
      · exact .offered ‹_›
      · exact .kept ‹_›
  | requeue frames => exact .requeued

/-! Single moves -/

theorem opens_iff : move.opens = true ↔ move.request = .opened ∧ move.before.state = .connecting := by
  unfold Move.opens
  cases move.request <;> simp

theorem Takes.leads (t : Takes m request answer m') :
    m'.state = m.state ∨ Leads request m.state m'.state := by
  cases t with
  | begun h =>
      right
      rcases h with h | h
      · exact h ▸ .begun
      · exact h ▸ .again
  | opened h => exact .inr (h ▸ .opened)
  | failed h =>
      right
      rcases h with h | h
      · exact h ▸ .refused
      · exact h ▸ .dropped
  | closed h => exact .inr (h ▸ .closed)
  | closing h =>
      rcases h with h | h
      · exact .inr (h ▸ .closing)
      · exact .inl h.symm
  | halted hlive hclosing => exact .inr (.halted hlive hclosing)
  | _ => exact .inl rfl

/-- The table is followed, not only kept to. -/
theorem Takes.state_of_leads {s : State} (t : Takes m request answer m')
    (h : Leads request m.state s) : m'.state = s := by
  generalize hstate : m.state = old at h
  cases h <;> cases t <;> simp_all

/-- Frames leave a machine all together when an attempt succeeds, and at no other time. -/
theorem Takes.outbox (t : Takes m request answer m') :
    (request = .opened ∧ m.state = .connecting ∧ answer = .drained m.outbox ∧ m'.outbox = []) ∨
      (¬ (request = .opened ∧ m.state = .connecting) ∧ m.outbox <:+: m'.outbox) := by
  cases t with
  | opened h => exact .inl ⟨rfl, h, rfl, rfl⟩
  | notOpened h => exact .inr ⟨fun hopens => h hopens.2, List.infix_rfl⟩
  | kept h => exact .inr ⟨by simp, (List.prefix_append _ _).isInfix⟩
  | requeued => exact .inr ⟨by simp, (List.suffix_append _ _).isInfix⟩
  | _ => exact .inr ⟨by simp, List.infix_rfl⟩

/-- What holds of a machine that has failed some times in a row. -/
structure Sound (b : Backoff) (count : Nat) (m : Machine) : Prop where
  backoff : m.backoff = b
  retries : m.retries = min count maxRetries
  waiting : m.state = .reconnecting →
    0 < m.retries ∧ m.scheduled = some (b.delay (m.retries - 1))
  resting : m.state ≠ .reconnecting → m.scheduled = none

/-- The failures in a row after a move that came after `count` of them. -/
def tally (count : Nat) (move : Move) : Nat :=
  if move.opens then 0 else if move.fails then count + 1 else count

/-- A count that stopped leads to the same wait as one that did not. -/
theorem delay_pred_next (b : Backoff) {retries : Nat} (h : retries ≤ maxRetries) :
    b.delay (min (retries + 1) maxRetries - 1) = b.delay retries := by
  have hbound : 32 ≤ maxRetries - 1 := by decide
  have hpred : min (retries + 1) maxRetries - 1 = min retries (maxRetries - 1) := by
    have : maxRetries ≠ 0 := by decide
    omega
  rw [hpred, b.delay_min hbound]

theorem Takes.sound (t : Takes m request answer m') (h : Sound b count m) :
    Sound b (tally count ⟨m, request, answer, m'⟩) m' := by
  cases t with
  | begun _ => exact ⟨h.backoff, h.retries, by simp, fun _ => rfl⟩
  | opened hstate =>
      have hnone : m.scheduled = none := h.resting (by simp [hstate])
      rw [tally, if_pos (opens_iff.2 ⟨rfl, hstate⟩)]
      exact ⟨h.backoff, by simp, by simp, fun _ => hnone⟩
  | notOpened hstate =>
      rw [tally, if_neg fun hopens => hstate (opens_iff.1 hopens).2]
      exact h
  | failed _ =>
      refine ⟨h.backoff, ?_, fun _ => ⟨?_, ?_⟩, by simp⟩
      · change min (m.retries + 1) maxRetries = min (count + 1) maxRetries
        rw [h.retries]
        omega
      · change 0 < min (m.retries + 1) maxRetries
        have : 0 < maxRetries := by decide
        omega
      · have hcount : m.retries ≤ maxRetries := h.retries ▸ Nat.min_le_right _ _
        change some (m.backoff.delay m.retries) = some (b.delay (min (m.retries + 1) maxRetries - 1))
        rw [h.backoff, delay_pred_next b hcount]
  | closed hstate =>
      have hnone : m.scheduled = none := h.resting (by simp [hstate])
      exact ⟨h.backoff, h.retries, by simp, fun _ => hnone⟩
  | closing _ => exact ⟨h.backoff, h.retries, by simp, fun _ => rfl⟩
  | halted _ _ => exact ⟨h.backoff, h.retries, by simp, fun _ => rfl⟩
  | kept _ => exact ⟨h.backoff, h.retries, h.waiting, h.resting⟩
  | requeued => exact ⟨h.backoff, h.retries, h.waiting, h.resting⟩
  | _ => exact h

/-- A closed machine without a wait stays as it is but for its frames. -/
theorem Takes.of_closed (t : Takes m request answer m') (hclosed : m.state = .closed)
    (hnone : m.scheduled = none) :
    m'.state = .closed ∧ m'.scheduled = none ∧ m'.retries = m.retries ∧
      (request = .opened → answer = .drained []) ∧ (request = .connect → answer = .begun false) := by
  cases t <;> simp_all

/-! Runs -/

theorem after_append_singleton (m : Machine) (requests : List Request) (request : Request) :
    m.after (requests ++ [request]) = ((m.after requests).respond request).2 := by
  rw [Machine.after, List.foldl_append]
  rfl

theorem moves_append_singleton (m : Machine) (requests : List Request) (request : Request) :
    m.moves (requests ++ [request]) = m.moves requests ++ [(m.after requests).move request] := by
  induction requests generalizing m with
  | nil => rfl
  | cons first rest ih =>
      change _ :: (m.move first).after.moves (rest ++ [request]) = _
      rw [ih]
      rfl

theorem failures_append_singleton (moves : List Move) (move : Move) :
    Machine.failures (moves ++ [move]) = tally (Machine.failures moves) move := by
  rw [Machine.failures, List.rtakeWhile_concat]
  cases hopens : move.opens with
  | true => simp [tally, hopens]
  | false => cases hfails : move.fails <;> simp [Machine.failures, tally, hopens, hfails]

theorem takes_of_mem (h : move ∈ m.moves requests) :
    Takes move.before move.request move.answer move.after := by
  induction requests generalizing m with
  | nil => cases h
  | cons request rest ih =>
      rcases List.mem_cons.1 h with rfl | h
      · exact takes_respond m request
      · exact ih h

theorem sound_after (b : Backoff) (requests : List Request) :
    Sound b (Machine.failures (Machine.moves { backoff := b } requests))
      (Machine.after { backoff := b } requests) := by
  induction requests using List.reverseRecOn with
  | nil => exact ⟨rfl, rfl, by rintro ⟨⟩, fun _ => rfl⟩
  | append_singleton rest request ih =>
      rw [moves_append_singleton, failures_append_singleton, after_append_singleton]
      exact (takes_respond _ request).sound ih

theorem after_of_closed (hclosed : m.state = .closed) (hnone : m.scheduled = none)
    (requests : List Request) :
    (m.after requests).state = .closed ∧ (m.after requests).scheduled = none ∧
      (m.after requests).retries = m.retries ∧
      ∀ move ∈ m.moves requests, (move.request = .opened → move.answer = .drained []) ∧
        (move.request = .connect → move.answer = .begun false) := by
  induction requests generalizing m with
  | nil => exact ⟨hclosed, hnone, rfl, by simp [Machine.moves]⟩
  | cons request rest ih =>
      obtain ⟨hstate, hscheduled, hretries, hanswer⟩ :=
        (takes_respond m request).of_closed hclosed hnone
      obtain ⟨hlast, hwait, hcount, hmoves⟩ := ih hstate hscheduled
      exact ⟨hlast, hwait, hcount.trans hretries, List.forall_mem_cons.2 ⟨hanswer, hmoves⟩⟩

/-- Whatever is asked of a new machine, and in whatever order: it has chosen a wait exactly while it
waits, and then the one for the failure before; it counts its failures since the last success; its
state changes along the table only, and wherever the table has a change; its frames stay in order
until an attempt succeeds, which hands all of them out; and once it is closed it stays closed, with
its count, without a wait, without an attempt and without handing out frames. -/
theorem machine_keeps_its_rules (b : Backoff) (requests : List Request) :
    let start : Machine := { backoff := b }
    let m := start.after requests
    (m.scheduled.isSome ↔ m.state = .reconnecting) ∧
      (∀ delay, m.scheduled = some delay → 0 < m.retries ∧ delay = b.delay (m.retries - 1)) ∧
      m.retries = min (Machine.failures (start.moves requests)) maxRetries ∧
      (∀ move ∈ start.moves requests,
        (move.after.state = move.before.state ∨
          Leads move.request move.before.state move.after.state) ∧
        (∀ s, Leads move.request move.before.state s → move.after.state = s) ∧
        (if move.opens then
          move.answer = .drained move.before.outbox ∧ move.after.outbox = []
        else move.before.outbox <:+: move.after.outbox)) ∧
      (m.state = .closed → ∀ more,
        (m.after more).state = .closed ∧ (m.after more).retries = m.retries ∧
          (m.after more).scheduled = m.scheduled ∧
          ∀ move ∈ m.moves more, (move.request = .opened → move.answer = .drained []) ∧
            (move.request = .connect → move.answer = .begun false)) := by
  intro start m
  have hsound : Sound b _ m := sound_after b requests
  refine ⟨?_, ?_, hsound.retries, ?_, ?_⟩
  · by_cases hstate : m.state = .reconnecting
    · simp [hstate, (hsound.waiting hstate).2]
    · simp [hstate, hsound.resting hstate]
  · intro delay hdelay
    by_cases hstate : m.state = .reconnecting
    · obtain ⟨hpos, hscheduled⟩ := hsound.waiting hstate
      exact ⟨hpos, Option.some.inj (hdelay.symm.trans hscheduled)⟩
    · rw [hsound.resting hstate] at hdelay
      cases hdelay
  · intro move hmove
    have t := takes_of_mem hmove
    refine ⟨t.leads, fun _ => t.state_of_leads, ?_⟩
    rcases t.outbox with ⟨hrequest, hstate, hdrained⟩ | ⟨hnot, hkept⟩
    · rw [if_pos (opens_iff.2 ⟨hrequest, hstate⟩)]
      exact hdrained
    · rw [if_neg fun hopens => hnot (opens_iff.1 hopens)]
      exact hkept
  · intro hclosed more
    have hnone : m.scheduled = none := hsound.resting (by simp [hclosed])
    obtain ⟨hstate, hscheduled, hretries, hmoves⟩ := after_of_closed hclosed hnone more
    exact ⟨hstate, hretries, hscheduled.trans hnone.symm, hmoves⟩

/-- A machine that was stopped while it waited takes nothing but frames. -/
theorem machine_keeps_its_rules_stopped :
    let m := Machine.after { backoff := {} } [.send .hello, .connect, .lost, .stop]
    m.state = .closed ∧ m.retries = 1 ∧ (m.after [.connect, .opened, .lost]).state = .closed ∧
      (m.after [.connect, .opened, .lost]).retries = 1 ∧
      ∀ move ∈ m.moves [.connect, .opened, .lost],
        (move.request = .opened → move.answer = .drained []) ∧
          (move.request = .connect → move.answer = .begun false) := by
  obtain ⟨-, -, -, -, hstays⟩ :=
    machine_keeps_its_rules {} [.send .hello, .connect, .lost, .stop]
  obtain ⟨hstate, hretries, -, hmoves⟩ := hstays rfl [.connect, .opened, .lost]
  exact ⟨rfl, rfl, hstate, hretries, hmoves⟩

end CourierTrack.Proofs.MachineRules
