import CourierTrack.Proofs.NodeTurns
import CourierTrack.Proofs.ChannelTurns
/-!
A node whose owner only listens: it has a seat at the relay from an attempt that will succeed on,
keeps it, and hands every frame of its inbox to its owner in order.
-/

namespace CourierTrack.Proofs.WatchingNode

open CourierTrack.Time
open CourierTrack.Bench
open CourierTrack.Channel
open CourierTrack.Proofs.ChannelTurns
open CourierTrack.Proofs.NodeTurns

variable {now : Reading} {r : Relay} {n : Node} {turn : Relay × Node}

/-- Whether a node has a seat that gets what is passed on. -/
def HasSeat (r : Relay) (n : Node) : Prop := ∃ seat, n.seat = some seat ∧ Seated r seat

/-- Where a node sits while its channel waits in a phase. -/
def Sits (r : Relay) (n : Node) : Phase → Prop
  | .idle | .pausing _ => n.underway = none ∧ n.seat = none
  | .connecting => ∃ due plan, n.underway = some (due, plan) ∧
      (plan.refused = true → n.seat = none) ∧ (plan.refused = false → HasSeat r n)
  | .live => n.underway = none ∧ HasSeat r n
  | .finished | .gone => False

/-- What holds of such a node at any time. -/
structure Watching (r : Relay) (n : Node) : Prop where
  settled : Settled n.channel
  empty : n.channel.machine.outbox = []
  relayed : n.relayed = true
  orders : ∀ order ∈ n.orders, order = .connect
  sits : Sits r n n.channel.phase

/-- The frames that are on their way to the owner of a node. -/
def arriving (r : Relay) (n : Node) : List Frame :=
  messages n.events ++ decoded (n.seat.elim [] (waitingAt r))

/-- Whether a turn of such a node keeps what is arriving, and every seat of another node. -/
structure Keeps (r : Relay) (n : Node) (turn : Relay × Node) : Prop where
  watching : Watching turn.1 turn.2
  arriving : arriving turn.1 turn.2 = arriving r n
  length : r.inboxes.length ≤ turn.1.inboxes.length
  seat : ∀ seat, seat < r.inboxes.length → n.seat ≠ some seat → turn.2.seat ≠ some seat

theorem actAll_inbound (text : String) :
    n.actAll now r (inbound text) =
      (r, { n with events := n.events ++ announced (inbound text) }) := by
  unfold inbound
  split
  · rfl
  · simp [Node.actAll, announced]

theorem signal_of_step {s : Signal} {actions : List Action} {d : Channel}
    (hstep : n.channel.step now s = (actions, d)) :
    n.signal now r s = Node.actAll now r { n with channel := d } actions := by
  rw [Node.signal, hstep]

theorem Watching.keeps_self (h : Watching r n) : Keeps r n (r, n) :=
  ⟨h, rfl, Nat.le_refl _, fun _ _ hseat => hseat⟩

/-- A node right after its channel started an attempt. -/
def attempting (now : Reading) (n : Node) (d : Channel) : Node :=
  { n with channel := d, events := n.events ++ [Event.status .connecting] }.attempt now

theorem actAll_attempt (hrelayed : n.relayed = true) (d : Channel) :
    Node.actAll now r { n with channel := d } [.announce (.status .connecting), .attempt] =
      if n.plan.refused then (r, attempting now n d)
      else (r.join.2, { attempting now n d with seat := some r.join.1 }) := by
  have hjoins : (n.relayed && !n.plan.refused) = !n.plan.refused := by
    rw [hrelayed, Bool.true_and]
  change (if n.relayed && !n.plan.refused then
    (r.join.2, { attempting now n d with seat := some r.join.1 }) else (r, attempting now n d)) = _
  rw [hjoins]
  cases n.plan.refused <;> rfl

theorem messages_status (events : List Event) (state : State) :
    messages (events ++ [Event.status state]) = messages events := by
  rw [messages_append]
  exact List.append_nil _

/-- An attempt takes a new seat, unless it will be refused. -/
theorem Watching.attempt (h : Watching r n) (hseat : n.seat = none) {d : Channel}
    (hd : Settled d) (hphase : d.phase = .connecting) (hempty : d.machine.outbox = []) :
    Keeps r n (Node.actAll now r { n with channel := d }
      [.announce (.status .connecting), .attempt]) := by
  have hbefore : arriving r n = messages n.events := by
    rw [arriving, hseat]
    exact List.append_nil _
  rw [actAll_attempt h.relayed]
  cases hplan : n.plan.refused with
  | false =>
      obtain ⟨hseated, hwaiting⟩ := join_seated r
      refine ⟨⟨hd, hempty, h.relayed, h.orders, ?_⟩, ?_, ?_, ?_⟩
      · change Sits _ _ d.phase
        rw [hphase]
        refine ⟨_, n.plan, rfl, fun hrefused => ?_, fun _ => ⟨_, rfl, hseated⟩⟩
        rw [hplan] at hrefused
        exact absurd hrefused (by simp)
      · change messages (n.events ++ _) ++ decoded (waitingAt r.join.2 r.join.1) = _
        rw [hwaiting, messages_status, hbefore]
        exact List.append_nil _
      · simp [Relay.join]
      · intro seat hlt _ hnew
        obtain rfl : r.inboxes.length = seat := Option.some.inj hnew
        exact Nat.lt_irrefl _ hlt
  | true =>
      refine ⟨⟨hd, hempty, h.relayed, h.orders, ?_⟩, ?_, Nat.le_refl _, fun _ _ hother => hother⟩
      · change Sits _ _ d.phase
        rw [hphase]
        refine ⟨_, n.plan, rfl, fun _ => hseat, fun hrefused => ?_⟩
        rw [hplan] at hrefused
        exact absurd hrefused (by simp)
      · change messages (n.events ++ _) ++ decoded (n.seat.elim [] (waitingAt r)) = _
        rw [hseat, messages_status, hbefore]
        exact List.append_nil _

/-- Orders to connect and the ends of waits start attempts or are passed over. -/
theorem Watching.begin (h : Watching r n) {s : Signal} (hs : s = .connect ∨ s = .elapsed) :
    Keeps r n (n.signal now r s) := by
  have t := turn_step now h.settled s
  have hnext := t.settled h.settled
  have hsits := h.sits
  generalize hstep : n.channel.step now s = next at t hnext
  obtain ⟨actions, d⟩ := next
  rw [signal_of_step hstep]
  simp only at t hnext
  generalize hc : n.channel = c at t
  cases t with
  | ignored _ =>
      rw [← hc]
      exact h.keeps_self
  | begun hheeds _ =>
      have hseat : n.seat = none := by
        rcases hs with rfl | rfl
        · rw [hc, show c.phase = .idle from hheeds] at hsits
          exact hsits.2
        · obtain ⟨due, hphase, -⟩ := hheeds
          rw [hc, hphase] at hsits
          exact hsits.2
      exact h.attempt hseat hnext rfl (hc ▸ h.empty)
  | _ => simp at hs

/-- A refused attempt had no seat, and leaves none. -/
theorem Watching.refuse (h : Watching r n) (hphase : n.channel.phase = .connecting)
    (hseat : n.seat = none) :
    Keeps r n (Node.signal now r { n with underway := none } .refused) := by
  have t := turn_step now h.settled .refused
  have hnext := t.settled h.settled
  rw [Node.signal]
  simp only
  generalize n.channel.step now .refused = next at t hnext ⊢
  obtain ⟨actions, d⟩ := next
  generalize hc : n.channel = c at t
  cases t with
  | ignored hpast => exact absurd (hc ▸ hphase) hpast
  | refused _ =>
      refine ⟨⟨hnext, hc ▸ h.empty, h.relayed, h.orders, rfl, hseat⟩, ?_, Nat.le_refl _,
        fun _ _ hother => hother⟩
      exact congrArg (· ++ _) (messages_status n.events .reconnecting)
  | begun _ hbegun => simp at hbegun

theorem Watching.enter (h : Watching r n) (hphase : n.channel.phase = .connecting)
    (hseat : HasSeat r n) (plan : Plan) :
    Keeps r n ((n.accept plan).signal now r (.accepted plan.room)) := by
  have t := turn_step now h.settled (.accepted plan.room)
  have hnext := t.settled h.settled
  have hempty := h.empty
  rw [Node.signal, Node.accept]
  simp only
  generalize n.channel.step now (.accepted plan.room) = next at t hnext ⊢
  obtain ⟨actions, d⟩ := next
  generalize hc : n.channel = c at t hempty
  cases t with
  | ignored hpast => exact absurd (hc ▸ hphase) hpast
  | entered _ _ =>
      rw [hempty, List.map_nil]
      refine ⟨⟨hnext, rfl, h.relayed, h.orders, rfl, hseat⟩, ?_, Nat.le_refl _,
        fun _ _ hother => hother⟩
      exact congrArg (· ++ _) (messages_status n.events .live)
  | broken _ front rest _ hsplit hrest =>
      -- There is no kept frame whose writing could fail.
      rw [hempty] at hsplit
      exact absurd (List.append_eq_nil_iff.1 hsplit.symm).2 hrest
  | begun _ hbegun => simp at hbegun

/-- A text taken from the inbox comes to the owner, if it is a frame. -/
theorem Watching.hear (h : Watching r n) (hphase : n.channel.phase = .live) {seat : Nat}
    (hseat : n.seat = some seat) (hseated : Seated r seat) {text : String} {r' : Relay}
    (htake : r.take? seat = some (text, r')) :
    Keeps r n (n.signal now r' (.received text)) := by
  have t := turn_step now h.settled (.received text)
  have hsits := h.sits
  obtain ⟨hkept, hwaiting⟩ := take_seated hseated htake
  rw [hphase] at hsits
  generalize hstep : n.channel.step now (.received text) = next at t
  obtain ⟨actions, d⟩ := next
  rw [signal_of_step hstep]
  simp only at t
  generalize hc : n.channel = c at t
  cases t with
  | ignored hpast => exact absurd (hc ▸ hphase) hpast
  | heard _ =>
      rw [actAll_inbound]
      refine ⟨⟨hc ▸ h.settled, hc ▸ h.empty, h.relayed, h.orders, ?_⟩, ?_, ?_,
        fun _ _ hother => hother⟩
      · change Sits _ _ d.phase
        rw [← hc, hphase]
        exact ⟨hsits.1, seat, hseat, hkept⟩
      · change messages (n.events ++ _) ++ decoded (n.seat.elim [] (waitingAt r')) = _
        rw [arriving, messages_append, messages_inbound, hseat, List.append_assoc]
        change _ ++ (_ ++ decoded (waitingAt r' seat)) = _ ++ decoded (waitingAt r seat)
        rw [hwaiting, ← decoded_append]
        rfl
      · exact Nat.le_of_eq (length_take htake).symm
  | begun _ hbegun => simp at hbegun

theorem Watching.order (h : Watching r n) (hdo : n.order? now r = some turn) :
    Keeps r n turn := by
  unfold Node.order? at hdo
  split at hdo
  · simp at hdo
  · rename_i order rest horders
    obtain rfl := Option.some.inj hdo
    obtain rfl : order = .connect := h.orders order (horders ▸ List.mem_cons_self)
    have hrest : Watching r { n with orders := rest } :=
      ⟨h.settled, h.empty, h.relayed, fun o ho =>
        h.orders o (horders ▸ List.mem_cons_of_mem _ ho), h.sits⟩
    obtain ⟨hnext, harriving, hlength, hother⟩ := hrest.begin (.inl rfl)
    exact ⟨hnext, harriving, hlength, hother⟩

theorem Watching.outcome (h : Watching r n) (hdo : n.outcome? now r = some turn) :
    Keeps r n turn := by
  have hsits := h.sits
  unfold Node.outcome? at hdo
  split at hdo
  · simp at hdo
  · rename_i due plan hunderway
    split at hdo
    · obtain rfl := Option.some.inj hdo
      -- Only a connecting channel has an attempt under way.
      have hphase : n.channel.phase = .connecting := by
        cases hphase : n.channel.phase <;> simp_all [Sits]
      rw [hphase] at hsits
      obtain ⟨_, _, hplan, hrefused, haccepted⟩ := hsits
      obtain ⟨rfl, rfl⟩ := Prod.mk.inj (Option.some.inj (hunderway.symm.trans hplan))
      unfold Node.conclude
      split
      · rename_i hplan
        exact h.refuse hphase (hrefused hplan)
      · rename_i hplan
        exact h.enter hphase (haccepted (Bool.eq_false_iff.2 hplan)) plan
    · simp at hdo

theorem Watching.retry (h : Watching r n) (hdo : n.retry? now r = some turn) :
    Keeps r n turn := by
  unfold Node.retry? at hdo
  split at hdo
  · simp at hdo
  · split at hdo
    · obtain rfl := Option.some.inj hdo
      exact h.begin (.inr rfl)
    · simp at hdo

theorem Watching.inbox (h : Watching r n) (hdo : n.inbox? now r = some turn) :
    Keeps r n turn := by
  have hsits := h.sits
  unfold Node.inbox? at hdo
  split at hdo
  · rename_i seat hunderway hseat
    -- A seat without an attempt under way is that of a live channel.
    have hphase : n.channel.phase = .live := by
      cases hphase : n.channel.phase <;> simp_all [Sits]
    rw [hphase] at hsits
    obtain ⟨-, other, hother, hseated⟩ := hsits
    obtain rfl : seat = other := Option.some.inj (hseat.symm.trans hother)
    split at hdo
    · rename_i text r' htake
      obtain rfl := Option.some.inj hdo
      exact h.hear hphase hseat hseated htake
    · obtain ⟨i, hi, hmember⟩ := hseated
      simp [hi, Inbox.isOver, hmember] at hdo
  · simp at hdo

/-- Whatever a watching node does by itself keeps what is arriving. -/
theorem Watching.chore (h : Watching r n) {chore : Node.Chore}
    (hdo : n.do? now r chore = some turn) : Keeps r n turn := by
  cases chore with
  | order => exact h.order hdo
  | outcome => exact h.outcome hdo
  | retry => exact h.retry hdo
  | inbox => exact h.inbox hdo

end CourierTrack.Proofs.WatchingNode
