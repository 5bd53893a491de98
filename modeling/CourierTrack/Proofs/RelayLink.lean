import CourierTrack.Proofs.PublishingNode
import CourierTrack.Proofs.WatchingNode
/-!
A publishing node and a watching node on one relay: what one of them does by itself moves frames
along, from the publisher's outbox over the watcher's inbox to its owner, and loses none.
-/

namespace CourierTrack.Proofs.RelayLink

open CourierTrack.Time
open CourierTrack.Bench
open CourierTrack.Channel
open CourierTrack.Proofs.NodeTurns
open CourierTrack.Proofs.PublishingNode
open CourierTrack.Proofs.WatchingNode

variable {now : Reading} {r : Relay} {wn cn : Node} {turn : Relay × Node}

structure Linked (r : Relay) (wn cn : Node) : Prop where
  watching : Watching r wn
  publishing : Publishing r cn
  apart : ∀ seat, wn.seat = some seat → cn.seat ≠ some seat

/-- The frames on their way from a publisher to a watcher, the first to arrive first. -/
def enRoute (r : Relay) (wn cn : Node) : List Frame := arriving r wn ++ pending cn

def ReadsBack (frame : Frame) : Prop := Frame.decode frame.encode = .ok frame

theorem decoded_encode {frames : List Frame} (h : ∀ frame ∈ frames, ReadsBack frame) :
    decoded (frames.map Frame.encode) = frames := by
  induction frames with
  | nil => rfl
  | cons frame frames ih =>
      have hframe := h frame List.mem_cons_self
      have hrest := ih fun f hf => h f (List.mem_cons_of_mem frame hf)
      simp only [decoded, List.map_cons, List.filterMap_cons] at hrest ⊢
      rw [hframe, hrest]
      rfl

theorem seated_of_watching (h : Watching r wn) {seat : Nat} (hseat : wn.seat = some seat) :
    Seated r seat := by
  have hsits := h.sits
  have hunique : HasSeat r wn → Seated r seat := by
    rintro ⟨other, hother, hseated⟩
    rwa [Option.some.inj (hseat.symm.trans hother)]
  cases hphase : wn.channel.phase with
  | idle => simp [hphase, Sits, hseat] at hsits
  | pausing due => simp [hphase, Sits, hseat] at hsits
  | connecting =>
      rw [hphase] at hsits
      obtain ⟨_, plan, -, hrefused, haccepted⟩ := hsits
      cases hplan : plan.refused with
      | true => simp [hrefused hplan] at hseat
      | false => exact hunique (haccepted hplan)
  | live =>
      rw [hphase] at hsits
      exact hunique hsits.2
  | finished => simp [hphase, Sits] at hsits
  | gone => simp [hphase, Sits] at hsits

/-- A watching node stays one as long as its seat gets what is passed on. -/
theorem watching_congr {r' : Relay} (h : Watching r wn)
    (hseated : ∀ seat, wn.seat = some seat → Seated r' seat) : Watching r' wn := by
  have hsits := h.sits
  have hseat : HasSeat r wn → HasSeat r' wn := by
    rintro ⟨seat, hseat, -⟩
    exact ⟨seat, hseat, hseated seat hseat⟩
  refine ⟨h.settled, h.empty, h.relayed, h.orders, ?_⟩
  cases hphase : wn.channel.phase with
  | connecting =>
      rw [hphase] at hsits
      obtain ⟨due, plan, hunderway, hrefused, haccepted⟩ := hsits
      exact ⟨due, plan, hunderway, hrefused, fun hplan => hseat (haccepted hplan)⟩
  | live =>
      rw [hphase] at hsits
      exact ⟨hsits.1, hseat hsits.2⟩
  | idle => rwa [hphase] at hsits
  | pausing _ => rwa [hphase] at hsits
  | finished => rw [hphase] at hsits; exact hsits.elim
  | gone => rw [hphase] at hsits; exact hsits.elim

theorem Linked.publisher (h : Linked r wn cn)
    (hreads : ∀ frame ∈ pending cn, ReadsBack frame) {chore : Node.Chore}
    (hdo : cn.do? now r chore = some turn)
    (hjoined : turn.2.written = [] ∨ wn.seat.isSome = true) :
    Linked turn.1 wn turn.2 ∧ enRoute turn.1 wn turn.2 = enRoute r wn cn := by
  obtain ⟨hpublishing, frames, hsplit, hpasses⟩ := h.publishing.chore hdo
  have hframes : decoded (frames.map Frame.encode) = frames := by
    apply decoded_encode
    intro frame hframe
    apply hreads
    rw [← hsplit]
    exact List.mem_append_left _ hframe
  have hkept : ∀ seat, wn.seat = some seat → Seated turn.1 seat ∧
      waitingAt turn.1 seat = waitingAt r seat ++ frames.map Frame.encode := by
    intro seat hseat
    exact hpasses.seated seat (seated_of_watching h.watching hseat) (h.apart seat hseat)
  refine ⟨⟨watching_congr h.watching fun seat hseat => (hkept seat hseat).1, hpublishing, ?_⟩, ?_⟩
  · intro seat hseat
    exact hpasses.seat seat (seated_of_watching h.watching hseat).lt (h.apart seat hseat)
  · rw [enRoute, enRoute, ← hsplit, arriving, arriving]
    cases hseat : wn.seat with
    | none =>
        obtain rfl : frames = [] := by
          rcases hjoined with hsilent | hsome
          · exact hpasses.silent hsilent
          · simp [hseat] at hsome
        rfl
    | some seat =>
        change (_ ++ decoded (waitingAt turn.1 seat)) ++ _ =
          (_ ++ decoded (waitingAt r seat)) ++ _
        rw [(hkept seat hseat).2, decoded, List.filterMap_append]
        change _ ++ (_ ++ decoded (frames.map Frame.encode)) ++ _ = _
        rw [hframes]
        simp [decoded]

theorem Linked.watcher (h : Linked r wn cn) {chore : Node.Chore}
    (hdo : wn.do? now r chore = some turn) :
    Linked turn.1 turn.2 cn ∧ enRoute turn.1 turn.2 cn = enRoute r wn cn := by
  obtain ⟨hwatching, harriving, hlength, hother⟩ := h.watching.chore hdo
  have hp := h.publishing
  refine ⟨⟨hwatching, ⟨hp.settled, hp.present, hp.relayed, ?_, hp.staying⟩, ?_⟩, ?_⟩
  · intro seat hseat
    exact Nat.lt_of_lt_of_le (hp.placed seat hseat) hlength
  · intro seat hnew hseat
    refine hother seat (hp.placed seat hseat) ?_ hnew
    exact fun hold => h.apart seat hold hseat
  · rw [enRoute, enRoute, harriving]

end CourierTrack.Proofs.RelayLink
