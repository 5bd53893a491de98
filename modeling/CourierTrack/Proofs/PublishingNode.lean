import CourierTrack.Proofs.ChannelConservation
import CourierTrack.Proofs.NodeTurns
/-!
A node whose owner sends and stays: whatever it does by itself, the frames that it passes on are the
next ones that it has to write, and every other seat at the relay gets just their texts.
-/

namespace CourierTrack.Proofs.PublishingNode

open CourierTrack.Time
open CourierTrack.Bench
open CourierTrack.Channel
open CourierTrack.Proofs.ChannelTurns
open CourierTrack.Proofs.ChannelConservation
open CourierTrack.Proofs.NodeTurns

variable {now : Reading} {r : Relay} {n : Node} {turn : Relay × Node}

/-- What holds of such a node at any time. -/
structure Publishing (r : Relay) (n : Node) : Prop where
  settled : Settled n.channel
  present : n.channel.phase ≠ .gone
  relayed : n.relayed = true
  placed : Placed r n
  staying : ∀ order ∈ n.orders, order ≠ .abandon

def orderedFrame? : Order → Option Frame
  | .send frame => some frame
  | _ => none

/-- The frames that a node has still to write. -/
def pending (n : Node) : List Frame :=
  n.channel.machine.outbox ++ n.orders.filterMap orderedFrame?

/-- Whether a turn of a node passed on these frames, as the seats of others see it. -/
structure Passes (r : Relay) (n : Node) (frames : List Frame) (turn : Relay × Node) : Prop where
  silent : turn.2.written = [] → frames = []
  seat : ∀ seat, seat < r.inboxes.length → n.seat ≠ some seat → turn.2.seat ≠ some seat
  seated : ∀ seat, Seated r seat → n.seat ≠ some seat →
    Seated turn.1 seat ∧ waitingAt turn.1 seat = waitingAt r seat ++ frames.map Frame.encode

/-- Whether a turn of such a node passes on the front of what it has to write. -/
def Advances (r : Relay) (n : Node) (turn : Relay × Node) : Prop :=
  Publishing turn.1 turn.2 ∧
    ∃ frames, frames ++ pending turn.2 = pending n ∧ Passes r n frames turn

theorem signal_eq (s : Signal) :
    n.signal now r s =
      Node.actAll now r { n with channel := (n.channel.step now s).2 } (n.channel.step now s).1 :=
  rfl

theorem Publishing.signal (h : Publishing r n) {s : Signal} (hs : s ≠ .abandoned) :
    Publishing (n.signal now r s).1 (n.signal now r s).2 ∧
      (n.signal now r s).2.orders = n.orders ∧
      ∃ frames, frames ++ (n.signal now r s).2.channel.machine.outbox =
          n.channel.machine.outbox ++ handedOver [s] ∧
        Passes r n frames (n.signal now r s) := by
  have t := turn_step now h.settled s
  have hpresent : (n.channel.step now s).2.phase ≠ .gone := fun hgone =>
    ((gone_iff t).1 hgone).elim h.present hs
  obtain ⟨frames, hwritten, hsplit⟩ := turn_conserves h.settled t
  rw [taken_of_not_gone h.present] at hsplit
  rw [signal_eq]
  refine ⟨⟨?_, ?_, actAll_relayed.trans h.relayed, actAll_placed h.placed, ?_⟩, actAll_orders,
    frames, ?_, ?_, ?_, ?_⟩
  · rw [actAll_channel]
    exact t.settled h.settled
  · rw [actAll_channel]
    exact hpresent
  · rw [actAll_orders]
    exact h.staying
  · rw [actAll_channel]
    exact hsplit
  · intro hsilent
    exact List.map_eq_nil_iff.1 (hwritten.symm.trans (actAll_written hsilent).2)
  · intro seat hlt hseat
    exact actAll_seat hlt hseat
  · intro seat hseated hseat
    rw [← hwritten]
    exact actAll_seated h.relayed hseated hseat

theorem handedOver_orderSignal (n : Node) {order : Order} (h : order ≠ .abandon) :
    n.orderSignal order ≠ .abandoned ∧
      handedOver [n.orderSignal order] = (orderedFrame? order).toList := by
  cases order with
  | connect => exact ⟨by simp [Node.orderSignal], rfl⟩
  | send frame => exact ⟨by simp [Node.orderSignal], rfl⟩
  | stop => exact ⟨by simp [Node.orderSignal], rfl⟩
  | abandon => exact absurd rfl h

theorem Publishing.advances (h : Publishing r n) {s : Signal} (hs : s ≠ .abandoned)
    (hnone : handedOver [s] = []) : Advances r n (n.signal now r s) := by
  obtain ⟨hnext, horders, frames, hsplit, hpasses⟩ := h.signal hs
  refine ⟨hnext, frames, ?_, hpasses⟩
  rw [pending, pending, horders, ← List.append_assoc, hsplit, hnone, List.append_nil]

theorem Publishing.order (h : Publishing r n) (hdo : n.order? now r = some turn) :
    Advances r n turn := by
  unfold Node.order? at hdo
  split at hdo
  · simp at hdo
  · rename_i order rest horders
    obtain rfl := Option.some.inj hdo
    have hstaying := h.staying order (horders ▸ List.mem_cons_self)
    obtain ⟨hsignal, hframe⟩ := handedOver_orderSignal n hstaying
    have hrest : Publishing r { n with orders := rest } :=
      ⟨h.settled, h.present, h.relayed, h.placed, fun o ho =>
        h.staying o (horders ▸ List.mem_cons_of_mem order ho)⟩
    obtain ⟨hnext, hleft, frames, hsplit, hpasses⟩ := hrest.signal hsignal
    refine ⟨hnext, frames, ?_, hpasses.silent, hpasses.seat, hpasses.seated⟩
    rw [pending, pending, hleft, ← List.append_assoc, hsplit, hframe, horders, List.append_assoc]
    cases order <;> rfl

theorem Publishing.outcome (h : Publishing r n) (hdo : n.outcome? now r = some turn) :
    Advances r n turn := by
  unfold Node.outcome? at hdo
  split at hdo
  · simp at hdo
  · rename_i due plan _
    split at hdo
    · obtain rfl := Option.some.inj hdo
      unfold Node.conclude
      split
      · have hidle : Publishing r { n with underway := none } :=
          ⟨h.settled, h.present, h.relayed, h.placed, h.staying⟩
        have hsignal : Signal.refused ≠ .abandoned := by simp
        obtain ⟨hnext, frames, hsplit, hpasses⟩ := hidle.advances hsignal rfl
        exact ⟨hnext, frames, hsplit, hpasses.silent, hpasses.seat, hpasses.seated⟩
      · have haccepted : Publishing r (n.accept plan) :=
          ⟨h.settled, h.present, h.relayed, h.placed, h.staying⟩
        have hsignal : Signal.accepted plan.room ≠ .abandoned := by simp
        obtain ⟨hnext, frames, hsplit, hpasses⟩ := haccepted.advances hsignal rfl
        exact ⟨hnext, frames, hsplit, hpasses.silent, hpasses.seat, hpasses.seated⟩
    · simp at hdo

theorem Publishing.retry (h : Publishing r n) (hdo : n.retry? now r = some turn) :
    Advances r n turn := by
  unfold Node.retry? at hdo
  split at hdo
  · simp at hdo
  · split at hdo
    · obtain rfl := Option.some.inj hdo
      exact h.advances (by simp) rfl
    · simp at hdo

theorem Publishing.inbox (h : Publishing r n) (hdo : n.inbox? now r = some turn) :
    Advances r n turn := by
  unfold Node.inbox? at hdo
  split at hdo
  · rename_i seat _ hseat
    split at hdo
    · rename_i text rest htake
      obtain rfl := Option.some.inj hdo
      have hlength := length_take htake
      have hrest : Publishing rest n :=
        ⟨h.settled, h.present, h.relayed, fun k hk => hlength ▸ h.placed k hk, h.staying⟩
      have hsignal : Signal.received text ≠ .abandoned := by simp
      obtain ⟨hnext, frames, hsplit, hpasses⟩ := hrest.advances hsignal rfl
      refine ⟨hnext, frames, hsplit, hpasses.silent, ?_, ?_⟩
      · intro k hk
        exact hpasses.seat k (hlength.symm ▸ hk)
      · intro k hk hother
        have hne : seat ≠ k := fun heq => hother (hseat.trans (congrArg some heq))
        obtain ⟨hkept, hwaiting⟩ := seated_congr (inbox_take hne htake) hk
        rw [← hwaiting]
        exact hpasses.seated k hkept hother
    · split at hdo
      · obtain rfl := Option.some.inj hdo
        exact h.advances (by simp) rfl
      · simp at hdo
  · simp at hdo

/-- Whatever a publishing node does by itself passes on the next frames. -/
theorem Publishing.chore (h : Publishing r n) {chore : Node.Chore}
    (hdo : n.do? now r chore = some turn) : Advances r n turn := by
  cases chore with
  | order => exact h.order hdo
  | outcome => exact h.outcome hdo
  | retry => exact h.retry hdo
  | inbox => exact h.inbox hdo

end CourierTrack.Proofs.PublishingNode
