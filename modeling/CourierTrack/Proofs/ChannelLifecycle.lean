import CourierTrack.Proofs.ChannelTurns
import Mathlib.Data.List.Chain
/-!
The states that a channel announces follow its life: from `idle` along the ten steps of `next`, each
change told once and nothing after `closed`. Messages come only between `live` and the next change.
-/

namespace CourierTrack.Proofs.ChannelLifecycle

open CourierTrack.Time
open CourierTrack.Channel
open CourierTrack.Proofs.ChannelTurns

/-- The states that may follow a state. -/
def next : State → List State
  | .idle => [.connecting, .closed]
  | .connecting => [.live, .reconnecting, .closed]
  | .live => [.reconnecting, .closing]
  | .closing => [.closed]
  | .reconnecting => [.connecting, .closed]
  | .closed => []

/-- What a channel may tell on its way from one state to another. -/
inductive Narrates : State → List Event → State → Prop where
  | nil (s : State) : Narrates s [] s
  | change {s t u : State} {rest : List Event} (h : t ∈ next s) (tail : Narrates t rest u) :
      Narrates s (.status t :: rest) u
  | hear {frame : Frame} {u : State} {rest : List Event} (tail : Narrates .live rest u) :
      Narrates .live (.message frame :: rest) u

theorem Narrates.append {s t u : State} {first rest : List Event} (h : Narrates s first t)
    (h' : Narrates t rest u) : Narrates s (first ++ rest) u := by
  induction h with
  | nil _ => exact h'
  | change hnext _ ih => exact .change hnext (ih h')
  | hear _ ih => exact .hear (ih h')

theorem Narrates.single {s t : State} (h : t ∈ next s) : Narrates s [.status t] t :=
  .change h (.nil t)

theorem Narrates.isChain {s u : State} {events : List Event} (h : Narrates s events u) :
    (s :: statuses events).IsChain fun a b => b ∈ next a := by
  induction h with
  | nil s => exact .singleton s
  | change hnext _ ih => exact .cons_cons hnext ih
  | hear _ ih => exact ih

theorem Narrates.last {s u : State} {events : List Event} (h : Narrates s events u) :
    (statuses events).getLastD s = u := by
  induction h with
  | nil s => rfl
  | @change s t u rest _ _ ih =>
      change (t :: statuses rest).getLastD s = u
      rw [List.getLastD_cons, ih]
  | hear _ ih => exact ih

theorem Narrates.live_of_message {s u : State} {events before after : List Event} {frame : Frame}
    (h : Narrates s events u) (hsplit : events = before ++ .message frame :: after) :
    (statuses before).getLastD s = .live := by
  induction h generalizing before with
  | nil s => simp at hsplit
  | @change s t u rest _ _ ih =>
      cases before with
      | nil => simp at hsplit
      | cons event before =>
          obtain ⟨rfl, hrest⟩ := List.cons.inj hsplit
          change (t :: statuses before).getLastD s = .live
          rw [List.getLastD_cons, ih hrest]
  | hear _ ih =>
      cases before with
      | nil => rfl
      | cons event before =>
          obtain ⟨rfl, hrest⟩ := List.cons.inj hsplit
          change (statuses before).getLastD .live = .live
          exact ih hrest

theorem narrates_inbound (text : String) : Narrates .live (announced (inbound text)) .live := by
  unfold inbound
  split
  · exact .hear (.nil _)
  · exact .nil _

theorem turn_narrates {now : Reading} {c d : Channel} {signal : Signal} {actions : List Action}
    (h : Settled c) (t : Turn now c signal actions d) :
    Narrates c.machine.state (announced actions) d.machine.state := by
  induction t with
  | ignored _ => exact .nil _
  | kept _ _ => exact .nil _
  | begun hheeds hsignal =>
      have hnext : .connecting ∈ next (State.idle) ∧ .connecting ∈ next .reconnecting := by decide
      rcases hsignal with rfl | rfl
      · rw [h.state, show _ = Phase.idle from hheeds]
        exact .single hnext.1
      · obtain ⟨due, hphase, -⟩ := hheeds
        rw [h.state, hphase]
        exact .single hnext.2
  | refused hphase =>
      rw [h.state, hphase]
      exact .single (by decide)
  | entered hphase _ =>
      rw [h.state, hphase]
      refine .change (by decide) ?_
      change Narrates _ (announced (c.machine.outbox.map fun f => .write f.encode)) _
      rw [announced_writes]
      exact .nil _
  | broken hphase front _ _ _ _ =>
      rw [h.state, hphase, announced_append]
      refine .change (by decide) ?_
      change Narrates _ (announced (front.map fun f => .write f.encode) ++ _) _
      rw [announced_writes]
      exact .single (by decide)
  | wrote _ => exact .nil _
  | unwritten hphase =>
      rw [h.live hphase]
      exact .single (by decide)
  | heard hphase =>
      rw [h.live hphase]
      exact narrates_inbound _
  | dropped hphase =>
      rw [h.live hphase]
      exact .single (by decide)
  | closedDown hphase =>
      rw [h.live hphase]
      exact .change (by decide) (.single (by decide))
  | halted hphase =>
      rcases hphase with hphase | ⟨due, hphase⟩
      · rw [h.state, hphase]
        exact .single (by decide)
      · rw [h.state, hphase, stateOf]
        exact .single (by decide)
  | cancelled hphase =>
      rw [h.state, hphase]
      exact .single (by decide)
  | left _ ih => exact ih

theorem not_strayed_inbound (text : String) : .strayed ∉ inbound text := by
  unfold inbound
  split <;> simp

theorem turn_not_strayed {now : Reading} {c d : Channel} {signal : Signal} {actions : List Action}
    (t : Turn now c signal actions d) : .strayed ∉ actions := by
  induction t with
  | heard _ => exact not_strayed_inbound _
  | left _ ih => exact ih
  | _ => simp

theorem run_narrates {c : Channel} (h : Settled c) (signals : List (Reading × Signal)) :
    Narrates c.machine.state (announced (c.run signals).1) (c.run signals).2.machine.state := by
  refine run_induction (motive := fun c _ actions d =>
    Narrates c.machine.state (announced actions) d.machine.state) ?_ ?_ h signals
  · intro c _
    exact .nil _
  · intro now c signal actions d rest more e hc t _ ih
    rw [announced_append]
    exact (turn_narrates hc t).append ih

theorem run_not_strayed {c : Channel} (h : Settled c) (signals : List (Reading × Signal)) :
    .strayed ∉ (c.run signals).1 := by
  refine run_induction (motive := fun _ _ actions _ => .strayed ∉ actions) ?_ ?_ h signals
  · intro c _
    exact List.not_mem_nil
  · intro now c signal actions d rest more e _ t _ ih
    rw [List.mem_append]
    exact not_or.2 ⟨turn_not_strayed t, ih⟩

/-- On every run of a channel the announced states are a path of `next` from `idle`, every message
comes while the state announced last is `live`, what is published is what the machine is and what
was announced last, and no phase is resumed in a state that it does not leave behind. -/
theorem announces_a_path (backoff : Backoff) (signals : List (Reading × Signal)) :
    let (actions, c) := (ofBackoff backoff).run signals
    let events := announced actions
    (State.idle :: statuses events).IsChain (fun s t => t ∈ next s) ∧
      (∀ before frame after, events = before ++ .message frame :: after →
        lastStatus before = .live) ∧
      c.published = c.machine.snapshot ∧
      lastStatus events = c.machine.state ∧
      .strayed ∉ actions := by
  have hstart := settled_ofBackoff backoff
  have hstory := run_narrates hstart signals
  refine ⟨hstory.isChain, ?_, (hstart.run signals).published, hstory.last,
    run_not_strayed hstart signals⟩
  intro before frame after hsplit
  exact hstory.live_of_message hsplit

end CourierTrack.Proofs.ChannelLifecycle
