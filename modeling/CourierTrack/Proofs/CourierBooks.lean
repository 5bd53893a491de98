import CourierTrack.Courier.Desk
import CourierTrack.Proofs.CourierSteps
import CourierTrack.Proofs.TrailCollapse
/-!
The books of a courier balance at any time, whatever it is told and however its channel and its
store fare; and what it sends depends on nothing but what it is given to send.
-/

namespace CourierTrack.Proofs.CourierBooks

open CourierTrack.Time
open CourierTrack.Channel
open CourierTrack.Courier
open CourierTrack.Proofs.CourierSteps
open CourierTrack.Proofs.TrailCollapse

variable {c c' e : Courier} {d d' : Desk} {m : Move} {moves : List Move} {entries : List Entry}
  {sample : Sample} {point : Point} {clock : Instant} {now : Reading} {event : Event}

/-- Whether a waypoint, if the move is one, is in range. -/
def InRange (m : Move) : Prop :=
  ∀ point clock now, m = .hop point clock now → point.isValid = true

/-- The dispatches of `entries` and their rejections are what the books of `c'` have beyond those
of `c`. -/
structure Accounts (c : Courier) (entries : List Entry) (c' : Courier) : Prop where
  id : c'.delivery.id = c.delivery.id
  config : c'.config = c.config
  stores : c'.stores = c.stores
  sent : c'.tally.sent = c.tally.sent + (dispatches entries).length
  rejected : c'.tally.rejected = c.tally.rejected + entries.countP Entry.isRejected
  trail : c'.delivery.trail = c.delivery.trail.extend ((dispatches entries).map (·.sample.point))
  gate : c'.gate = (dispatches entries).foldl (fun g d => g.record d.sample.point d.time) c.gate
  lastSent : c'.delivery.lastSent =
    ((dispatches entries).getLast?.map Dispatch.time).or c.delivery.lastSent
  position : c'.delivery.position =
    ((dispatches entries).getLast?.map Dispatch.sample).or c.delivery.position
  transmissions : ∀ d ∈ dispatches entries, d.transmission =
    ⟨.atPosition d.sample.point (some d.status.text) (some d.sample.captured),
      if c.stores then some ⟨c.delivery.id, d.sample.point, d.status.text⟩ else none⟩

theorem dispatches_append (before after : List Entry) :
    dispatches (before ++ after) = dispatches before ++ dispatches after :=
  List.filterMap_append

namespace Accounts

theorem append {before after : List Entry} (h : Accounts c before c')
    (h' : Accounts c' after e) : Accounts c (before ++ after) e where
  id := h'.id.trans h.id
  config := h'.config.trans h.config
  stores := h'.stores.trans h.stores
  sent := by rw [h'.sent, h.sent, dispatches_append, List.length_append, Nat.add_assoc]
  rejected := by rw [h'.rejected, h.rejected, List.countP_append, Nat.add_assoc]
  trail := by
    rw [h'.trail, h.trail, dispatches_append, List.map_append, Trail.extend_append]
  gate := by rw [h'.gate, h.gate, dispatches_append, List.foldl_append]
  lastSent := by
    rw [h'.lastSent, h.lastSent, dispatches_append, List.getLast?_append, Option.map_or,
      Option.or_assoc]
  position := by
    rw [h'.position, h.position, dispatches_append, List.getLast?_append, Option.map_or,
      Option.or_assoc]
  transmissions := by
    intro d hd
    rw [dispatches_append, List.mem_append] at hd
    rcases hd with hd | hd
    · exact h.transmissions d hd
    · rw [h'.transmissions d hd, h.stores, h.id]

end Accounts

theorem accounts_nil (c : Courier) : Accounts c [] c :=
  ⟨rfl, rfl, rfl, rfl, rfl, rfl, rfl, rfl, rfl, fun _ hd => absurd hd List.not_mem_nil⟩

/-! Single moves -/

theorem accounts_handle (c : Courier) (now : Reading) (event : Event) :
    Accounts c [.handled event] (c.handle now event) := by
  obtain ⟨status, lastAcked, acked, lastError, hhandle⟩ := handle_eq c now event
  rw [hhandle]
  exact ⟨rfl, rfl, rfl, rfl, rfl, rfl, rfl, rfl, rfl, fun _ hd => absurd hd List.not_mem_nil⟩

theorem accounts_offer (d : Desk) (sample : Sample) (now : Reading) :
    Accounts d.courier [(d.offer sample now).1] (d.offer sample now).2.courier := by
  rw [Desk.offer, offer_eq]
  cases Gate.admits d.courier.gate.config d.courier.gate.last sample.point now with
  | true =>
      refine ⟨rfl, rfl, rfl, rfl, rfl, rfl, rfl, rfl, rfl, ?_⟩
      intro dispatch hdispatch
      rw [List.mem_singleton.1 hdispatch]
      rfl
  | false =>
      exact ⟨rfl, rfl, rfl, rfl, rfl, rfl, rfl, rfl, rfl, fun _ hd => absurd hd List.not_mem_nil⟩

theorem accounts_hop (d : Desk) (hpoint : point.isValid = true) (clock : Instant)
    (now : Reading) :
    Accounts d.courier [(d.hop point clock now).1] (d.hop point clock now).2.courier := by
  rw [Desk.hop, hop_eq _ hpoint]
  refine ⟨rfl, rfl, rfl, rfl, rfl, rfl, rfl, rfl, rfl, ?_⟩
  intro dispatch hdispatch
  rw [List.mem_singleton.1 hdispatch]
  rfl

theorem accounts_move (d : Desk) (hm : InRange m) :
    Accounts d.courier (d.move m).1.toList (d.move m).2.courier := by
  cases m with
  | offer sample now => exact accounts_offer d sample now
  | hop point clock now => exact accounts_hop d (hm _ _ _ rfl) clock now
  | handle event now => exact accounts_handle d.courier now event
  | read now =>
      rw [Desk.move]
      cases d.incoming with
      | nil => exact accounts_nil _
      | cons event rest => exact accounts_handle d.courier now event
  | take written now =>
      rw [Desk.move]
      cases d.outgoing <;> exact accounts_nil _
  | signal signal now => exact accounts_nil _
  | echo now =>
      rw [Desk.move]
      split <;> exact accounts_nil _
  | stored index ok =>
      rw [Desk.move]
      split <;> exact accounts_nil _

/-- A move that sends ends in a dispatch or a rejection, any other in neither. -/
theorem length_dispatches_move (d : Desk) (m : Move) :
    (dispatches (d.move m).1.toList).length + (d.move m).1.toList.countP Entry.isRejected =
      if m.sends then 1 else 0 := by
  cases m with
  | offer sample now =>
      rw [Desk.move, Desk.offer, offer_eq]
      cases Gate.admits d.courier.gate.config d.courier.gate.last sample.point now <;> rfl
  | read now =>
      rw [Desk.move]
      cases d.incoming <;> rfl
  | take written now =>
      rw [Desk.move]
      cases d.outgoing <;> rfl
  | echo now =>
      rw [Desk.move]
      split <;> rfl
  | stored index ok =>
      rw [Desk.move]
      split <;> rfl
  | _ => rfl

/-- What decides what a courier sends. -/
structure Agree (c e : Courier) : Prop where
  id : c.delivery.id = e.delivery.id
  config : c.config = e.config
  stores : c.stores = e.stores
  gate : c.gate = e.gate

theorem Agree.accounts {entries' : List Entry} {e' : Courier} (h : Agree c e)
    (hc : Accounts c entries c') (he : Accounts e entries' e')
    (hsame : dispatches entries = dispatches entries') : Agree c' e' where
  id := hc.id.trans (h.id.trans he.id.symm)
  config := hc.config.trans (h.config.trans he.config.symm)
  stores := hc.stores.trans (h.stores.trans he.stores.symm)
  gate := by rw [hc.gate, he.gate, h.gate, hsame]

theorem Agree.move (h : Agree d.courier d'.courier) (hm : m.sends = true) :
    (d.move m).1 = (d'.move m).1 := by
  cases m with
  | offer sample now =>
      simp only [Desk.move, Desk.offer, offer_eq, Courier.transmit, h.gate, h.config, h.stores,
        h.id]
      cases Gate.admits d'.courier.gate.config d'.courier.gate.last sample.point now <;> rfl
  | hop point clock now =>
      simp only [Desk.move, Desk.hop, Courier.hop, Courier.transmit, h.stores, h.id]
  | _ => cases hm

/-- What is sent stays the same if all that is not for sending is left out. -/
theorem Agree.play (h : Agree d.courier d'.courier) (hmoves : ∀ m ∈ moves, InRange m) :
    dispatches (d.play moves).1 = dispatches (d'.play (moves.filter Move.sends)).1 := by
  -- A move that sends is made at both desks and keeps them in agreement; any other is made at the
  -- first desk only, and changes nothing that they agree on.
  induction moves generalizing d d' with
  | nil => rfl
  | cons m moves ih =>
      obtain ⟨hm, hmoves⟩ := List.forall_mem_cons.1 hmoves
      have haccounts := accounts_move d hm
      cases hsends : m.sends with
      | true =>
          have hentry := h.move hsends
          have hafter := h.accounts haccounts (accounts_move d' hm) (by rw [hentry])
          rw [List.filter_cons_of_pos hsends, Desk.play_cons, Desk.play_cons, dispatches_append,
            dispatches_append, hentry, ih hafter hmoves]
      | false =>
          have hlength := length_dispatches_move d m
          rw [hsends] at hlength
          have hnone : dispatches (d.move m).1.toList = [] := by
            apply List.eq_nil_of_length_eq_zero
            exact Nat.eq_zero_of_add_eq_zero_right hlength
          have hafter := h.accounts haccounts (accounts_nil _) hnone
          rw [List.filter_cons_of_neg (by simp [hsends]), Desk.play_cons, dispatches_append, hnone,
            List.nil_append, ih hafter hmoves]

/-- The books beyond `c` depend on the dispatches alone. -/
theorem Accounts.congr {entries' : List Entry} (h : Accounts c entries c')
    (h' : Accounts c entries' e) (hsame : dispatches entries' = dispatches entries) :
    e.gate = c'.gate ∧ e.delivery.trail = c'.delivery.trail ∧
      e.delivery.position = c'.delivery.position ∧ e.delivery.lastSent = c'.delivery.lastSent ∧
      e.tally.sent = c'.tally.sent := by
  rw [h.gate, h'.gate, h.trail, h'.trail, h.position, h'.position, h.lastSent, h'.lastSent,
    h.sent, h'.sent, hsame]
  exact ⟨rfl, rfl, rfl, rfl, rfl⟩

/-! From the start -/

end CourierTrack.Proofs.CourierBooks
