import CourierTrack.Bench.Node
import CourierTrack.Channel.Run
/-!
What the actions of a channel do to its node, and to the seats that other nodes have at the relay:
these get what the node writes, in order, and nothing else.
-/

namespace CourierTrack.Proofs.NodeTurns

open CourierTrack.Time
open CourierTrack.Bench
open CourierTrack.Channel

variable {now : Reading} {r : Relay} {n : Node} {a : Action} {actions : List Action} {seat : Nat}

/-- The texts that wait in the inbox of a seat. -/
def waitingAt (r : Relay) (seat : Nat) : List String := (r.inbox? seat).elim [] Inbox.waiting

/-- Whether a seat gets what is passed on. -/
def Seated (r : Relay) (seat : Nat) : Prop := ∃ i, r.inbox? seat = some i ∧ i.isMember = true

theorem Seated.lt (h : Seated r seat) : seat < r.inboxes.length := by
  obtain ⟨i, hi, -⟩ := h
  exact (List.getElem?_eq_some_iff.1 hi).1

/-! The relay -/

theorem inbox_broadcast (r : Relay) (text : String) (seat : Nat) :
    (r.broadcast text).2.inbox? seat = (r.inbox? seat).map (·.put text) :=
  List.getElem?_map

theorem broadcast_seated (h : Seated r seat) (text : String) :
    Seated (r.broadcast text).2 seat ∧
      waitingAt (r.broadcast text).2 seat = waitingAt r seat ++ [text] := by
  obtain ⟨i, hi, hmember⟩ := h
  have hput : i.put text = { i with waiting := i.waiting ++ [text] } := if_pos hmember
  refine ⟨⟨i.put text, ?_, ?_⟩, ?_⟩
  · rw [inbox_broadcast, hi]
    rfl
  · rw [hput]
    exact hmember
  · rw [waitingAt, waitingAt, inbox_broadcast, hi, Option.map_some, hput]
    rfl

theorem inbox_join (h : seat < r.inboxes.length) : r.join.2.inbox? seat = r.inbox? seat :=
  List.getElem?_append_left h

theorem join_seated (r : Relay) :
    Seated r.join.2 r.join.1 ∧ waitingAt r.join.2 r.join.1 = [] := by
  have hnew : r.join.2.inbox? r.join.1 = some {} := List.getElem?_concat_length
  exact ⟨⟨{}, hnew, rfl⟩, by rw [waitingAt, hnew]; rfl⟩

theorem inbox_leave {other : Nat} (h : other ≠ seat) :
    (r.leave other).inbox? seat = r.inbox? seat := by
  simp [Relay.leave, Relay.inbox?, h]

theorem inbox_take {other : Nat} {text : String} {r' : Relay} (h : other ≠ seat)
    (htake : r.take? other = some (text, r')) : r'.inbox? seat = r.inbox? seat := by
  unfold Relay.take? at htake
  split at htake
  · simp at htake
  · split at htake
    · simp at htake
    · obtain ⟨-, rfl⟩ : _ = text ∧ _ = r' := by simpa using htake
      exact List.getElem?_set_ne h

theorem length_take {other : Nat} {text : String} {r' : Relay}
    (htake : r.take? other = some (text, r')) : r'.inboxes.length = r.inboxes.length := by
  unfold Relay.take? at htake
  split at htake
  · simp at htake
  · split at htake
    · simp at htake
    · obtain ⟨-, rfl⟩ : _ = text ∧ _ = r' := by simpa using htake
      exact List.length_set

theorem take_seated {text : String} {r' : Relay} (h : Seated r seat)
    (htake : r.take? seat = some (text, r')) :
    Seated r' seat ∧ waitingAt r seat = text :: waitingAt r' seat := by
  have hlt := h.lt
  obtain ⟨i, hi, hmember⟩ := h
  unfold Relay.take? at htake
  rw [show r.inboxes[seat]? = some i from hi] at htake
  cases hwaiting : i.waiting with
  | nil => simp [hwaiting] at htake
  | cons first rest =>
      obtain ⟨rfl, rfl⟩ : first = text ∧ _ = r' := by simpa [hwaiting] using htake
      have hset : Relay.inbox? ⟨r.inboxes.set seat { i with waiting := rest }⟩ seat =
          some { i with waiting := rest } := by simp [Relay.inbox?, hlt]
      refine ⟨⟨_, hset, hmember⟩, ?_⟩
      rw [waitingAt, waitingAt, hset, hi]
      exact hwaiting

theorem seated_congr {r' : Relay} (h : r'.inbox? seat = r.inbox? seat) (hseated : Seated r seat) :
    Seated r' seat ∧ waitingAt r' seat = waitingAt r seat := by
  obtain ⟨i, hi, hmember⟩ := hseated
  exact ⟨⟨i, h.trans hi, hmember⟩, by rw [waitingAt, waitingAt, h]⟩

/-! What stays as it is -/

theorem length_letGo : (n.letGo r).1.inboxes.length = r.inboxes.length := by
  unfold Node.letGo
  cases n.seat <;> simp [Relay.leave]

theorem act_channel : (n.act now r a).2.channel = n.channel := by
  cases a <;> simp only [Node.act, Node.wrote, Node.log, Node.letGo]
  split <;> rfl

theorem act_orders : (n.act now r a).2.orders = n.orders := by
  cases a <;> simp only [Node.act, Node.wrote, Node.log, Node.letGo]
  split <;> rfl

theorem act_relayed : (n.act now r a).2.relayed = n.relayed := by
  cases a <;> simp only [Node.act, Node.wrote, Node.log, Node.letGo]
  split <;> rfl

theorem act_events : (n.act now r a).2.events = n.events ++ a.event?.toList := by
  cases a <;> simp [Node.act, Node.wrote, Node.log, Node.letGo]
  split <;> rfl

theorem act_written (h : (n.act now r a).2.written = []) : n.written = [] ∧ a.text? = none := by
  cases a <;> simp [Node.act, Node.wrote, Node.log, Node.letGo] at h ⊢
  case attempt => split at h <;> exact h
  all_goals exact h

theorem length_act : r.inboxes.length ≤ (n.act now r a).1.inboxes.length := by
  cases a with
  | attempt =>
      simp only [Node.act]
      split
      · simp [Relay.join]
      · exact Nat.le_refl _
  | write text =>
      simp only [Node.act]
      split
      · simp
      · exact Nat.le_refl _
  | cancel => exact Nat.le_of_eq length_letGo.symm
  | close => exact Nat.le_of_eq length_letGo.symm
  | release => exact Nat.le_of_eq length_letGo.symm
  | announce event => exact Nat.le_refl _
  | strayed => exact Nat.le_refl _

theorem actAll_cons :
    n.actAll now r (a :: actions) = (n.act now r a).2.actAll now (n.act now r a).1 actions := rfl

theorem actAll_channel : (n.actAll now r actions).2.channel = n.channel := by
  induction actions generalizing r n with
  | nil => rfl
  | cons a actions ih => exact ih.trans act_channel

theorem actAll_orders : (n.actAll now r actions).2.orders = n.orders := by
  induction actions generalizing r n with
  | nil => rfl
  | cons a actions ih => exact ih.trans act_orders

theorem actAll_relayed : (n.actAll now r actions).2.relayed = n.relayed := by
  induction actions generalizing r n with
  | nil => rfl
  | cons a actions ih => exact ih.trans act_relayed

theorem actAll_written (h : (n.actAll now r actions).2.written = []) :
    n.written = [] ∧ written actions = [] := by
  induction actions generalizing r n with
  | nil => exact ⟨h, rfl⟩
  | cons a actions ih =>
      obtain ⟨hact, hrest⟩ := ih h
      obtain ⟨hn, ha⟩ := act_written hact
      refine ⟨hn, ?_⟩
      change List.filterMap Action.text? (a :: actions) = []
      rw [List.filterMap_cons_none ha]
      exact hrest

/-! Seats of others -/

/-- An action takes no seat that was given before. -/
theorem act_seat (hlt : seat < r.inboxes.length) (h : n.seat ≠ some seat) :
    (n.act now r a).2.seat ≠ some seat := by
  cases a with
  | attempt =>
      simp only [Node.act]
      split
      · intro hseat
        obtain rfl : r.inboxes.length = seat := Option.some.inj hseat
        exact Nat.lt_irrefl _ hlt
      · exact h
  | cancel => simp [Node.act, Node.letGo]
  | close => simp [Node.act, Node.letGo]
  | release => simp [Node.act, Node.letGo]
  | write text => exact h
  | announce event => exact h
  | strayed => exact h

theorem actAll_seat (hlt : seat < r.inboxes.length) (h : n.seat ≠ some seat) :
    (n.actAll now r actions).2.seat ≠ some seat := by
  induction actions generalizing r n with
  | nil => exact h
  | cons a actions ih => exact ih (Nat.lt_of_lt_of_le hlt length_act) (act_seat hlt h)

theorem letGo_seated (hseated : Seated r seat) (h : n.seat ≠ some seat) :
    Seated (n.letGo r).1 seat ∧ waitingAt (n.letGo r).1 seat = waitingAt r seat := by
  simp only [Node.letGo]
  cases hn : n.seat with
  | none => exact ⟨hseated, rfl⟩
  | some other =>
      have hother : other ≠ seat := by
        rintro rfl
        exact h hn
      exact seated_congr (inbox_leave hother) hseated

/-- The seat of another node gets what is written. -/
theorem act_seated (hrelayed : n.relayed = true) (hseated : Seated r seat)
    (h : n.seat ≠ some seat) :
    Seated (n.act now r a).1 seat ∧
      waitingAt (n.act now r a).1 seat = waitingAt r seat ++ a.text?.toList := by
  cases a with
  | write text => simpa [Node.act, hrelayed] using broadcast_seated hseated text
  | attempt =>
      simp only [Node.act, Action.text?, Option.toList_none, List.append_nil]
      split
      · exact seated_congr (inbox_join hseated.lt) hseated
      · exact ⟨hseated, rfl⟩
  | cancel =>
      have hcancelled : Node.seat { n with underway := none } ≠ some seat := h
      simpa [Node.act] using letGo_seated hseated hcancelled
  | close =>
      have hlogged : (n.log .closed).seat ≠ some seat := h
      simpa [Node.act] using letGo_seated hseated hlogged
  | release => simpa [Node.act] using letGo_seated hseated h
  | announce event => simpa [Node.act] using hseated
  | strayed => simpa [Node.act] using hseated

theorem actAll_seated (hrelayed : n.relayed = true) (hseated : Seated r seat)
    (h : n.seat ≠ some seat) :
    Seated (n.actAll now r actions).1 seat ∧
      waitingAt (n.actAll now r actions).1 seat = waitingAt r seat ++ written actions := by
  induction actions generalizing r n with
  | nil => exact ⟨hseated, (List.append_nil _).symm⟩
  | cons a actions ih =>
      have hact : Seated (n.act now r a).1 seat ∧
          waitingAt (n.act now r a).1 seat = waitingAt r seat ++ a.text?.toList :=
        act_seated hrelayed hseated h
      obtain ⟨hend, hrest⟩ := ih (act_relayed.trans hrelayed) hact.1 (act_seat hseated.lt h)
      refine ⟨hend, ?_⟩
      rw [actAll_cons, hrest, hact.2, List.append_assoc]
      cases a <;> rfl

/-- A node's own seat is one that the relay has given. -/
def Placed (r : Relay) (n : Node) : Prop := ∀ seat, n.seat = some seat → seat < r.inboxes.length

theorem act_placed (h : Placed r n) : Placed (n.act now r a).1 (n.act now r a).2 := by
  intro seat hseat
  by_cases hold : n.seat = some seat
  · exact Nat.lt_of_lt_of_le (h seat hold) length_act
  · cases a with
    | attempt =>
        simp only [Node.act] at hseat ⊢
        split at hseat
        · obtain rfl : r.inboxes.length = seat := Option.some.inj hseat
          rename_i hjoin
          simp [hjoin, Relay.join]
        · exact absurd hseat hold
    | cancel => simp [Node.act, Node.letGo] at hseat
    | close => simp [Node.act, Node.letGo] at hseat
    | release => simp [Node.act, Node.letGo] at hseat
    | write text => exact absurd hseat hold
    | announce event => exact absurd hseat hold
    | strayed => exact absurd hseat hold

theorem actAll_placed (h : Placed r n) :
    Placed (n.actAll now r actions).1 (n.actAll now r actions).2 := by
  induction actions generalizing r n with
  | nil => exact h
  | cons a actions ih => exact ih (act_placed h)

end CourierTrack.Proofs.NodeTurns
