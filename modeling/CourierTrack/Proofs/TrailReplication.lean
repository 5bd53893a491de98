import CourierTrack.Bench.Schedule
import CourierTrack.Proofs.CourierSteps
import CourierTrack.Proofs.FrameReadback
import CourierTrack.Proofs.RelayLink
import CourierTrack.Proofs.TrailCollapse
import CourierTrack.Proofs.WatcherUpdates
/-!
A watcher that joined the relay before the courier's first frame sees exactly the courier's trail:
in whichever order everything happens, what it has is the front of the trail, and the rest is on
its way.
-/

namespace CourierTrack.Proofs.TrailReplication

open CourierTrack.Time
open CourierTrack.Bench
open CourierTrack.Channel
open CourierTrack.Proofs.CourierSteps
open CourierTrack.Proofs.FrameReadback
open CourierTrack.Proofs.NodeTurns
open CourierTrack.Proofs.PublishingNode
open CourierTrack.Proofs.WatchingNode
open CourierTrack.Proofs.RelayLink
open CourierTrack.Proofs.TrailCollapse
open CourierTrack.Proofs.WatcherUpdates

variable {text : String} {r : Relay} {wn cn : Node} {t : Trip} {v : Viewing} {s : Stage}

/-- A frame as couriers send it, with a status text, for a point that reads back. -/
def IsFix (text : String) (frame : Frame) : Prop :=
  ∃ point captured, frame = .atPosition point (some text) (some captured) ∧ Sound point

theorem IsFix.readsBack {frame : Frame} (h : IsFix text frame) : ReadsBack frame := by
  obtain ⟨point, captured, rfl, hpoint⟩ := h
  exact decode_encode_position hpoint

/-- The point that a frame adds to a trail. -/
def fixPoint? : Frame → Option Point
  | .position update => some update.point
  | _ => none

/-! The two owners -/

theorem handle_trail (c : Courier) (now : Reading) (event : Event) :
    (c.handle now event).delivery.trail = c.delivery.trail ∧
      (c.handle now event).config = c.config := by
  obtain ⟨_, _, _, _, hhandle⟩ := handle_eq c now event
  rw [hhandle]
  exact ⟨rfl, rfl⟩

/-- A courier sends a fix and adds its point to its trail, or does neither. -/
theorem offer_cases (c : Courier) (sample : Sample) (now : Reading) :
    ((c.offer sample now).1 = none ∧
      (c.offer sample now).2.delivery.trail = c.delivery.trail ∧
      (c.offer sample now).2.config = c.config) ∨
    ∃ transmission, (c.offer sample now).1 = some transmission ∧
      transmission.frame =
        .atPosition sample.point (some c.config.status.text) (some sample.captured) ∧
      (c.offer sample now).2.delivery.trail = (c.delivery.trail.push sample.point).2 ∧
      (c.offer sample now).2.config = c.config := by
  rw [offer_eq]
  cases Gate.admits c.gate.config c.gate.last sample.point now with
  | false => exact .inl ⟨rfl, rfl, rfl⟩
  | true => exact .inr ⟨_, rfl, rfl, rfl, rfl⟩

/-- What a frame of a courier does to a watcher. -/
theorem handle_fix (w : Watcher) (clock : Instant) {frame : Frame} (h : IsFix text frame) :
    (w.handle clock (.message frame)).2.delivery.trail =
        w.delivery.trail.extend (fixPoint? frame).toList ∧
      (w.handle clock (.message frame)).2.delivery.status = Status.ofText text := by
  obtain ⟨point, captured, rfl, hpoint⟩ := h
  exact applyPositionAndStatus_delivery hpoint.valid text

/-- A display that is there gets the whole batch, and a terminal status ends the session. -/
theorem step_batch {session next : Watcher.Session} {clock : Instant} {cue : Watcher.Cue}
    {batch : List Watcher.RenderEvent} (hended : session.ended = false)
    (hbatch : session.batch? clock cue = some (batch, next)) :
    (session.step clock none cue).2 =
      if next.watcher.delivery.status.isTerminal then next.finish else next := by
  simp only [Watcher.Session.step, hended, hbatch, Watcher.Session.shown, Nat.lt_irrefl,
    decide_false, Bool.false_or, Bool.false_eq_true, if_false]
  split <;> rfl

/-! Both together -/

/-- How the trails of a courier and a watcher hang together by the frames on their way. -/
structure Books (text : String) (frames : List Frame) (t : Trip) (v : Viewing) : Prop where
  status : t.courier.config.status.text = text
  fixes : ∀ frame ∈ frames, IsFix text frame
  flow : t.courier.delivery.trail =
    v.session.watcher.delivery.trail.extend (frames.filterMap fixPoint?)
  displaying : v.displaying = true
  backfill : ∀ due answer, v.backfill = some (due, answer) → answer = none
  told : v.session.watcher.delivery.status = .pending ∨
    v.session.watcher.delivery.status = Status.ofText text
  going : (Status.ofText text).isTerminal = false → v.session.ended = false

/-- A cue that makes a batch, seen with the frames that are on their way then. -/
theorem Books.cue {frames rest : List Frame} (h : Books text frames t v) {now : Reading}
    {clock : Instant} {cue : Watcher.Cue} {batch : List Watcher.RenderEvent}
    {next : Watcher.Session} (hended : v.session.ended = false)
    (hbatch : v.session.batch? clock cue = some (batch, next)) (hnext : next.ended = false)
    (hrest : ∀ frame ∈ rest, frame ∈ frames)
    (hflow : t.courier.delivery.trail =
      next.watcher.delivery.trail.extend (rest.filterMap fixPoint?))
    (htold : next.watcher.delivery.status = .pending ∨
      next.watcher.delivery.status = Status.ofText text) :
    Books text rest t (v.cue now clock cue) := by
  have hsession : (v.cue now clock cue).session =
      if next.watcher.delivery.status.isTerminal then next.finish else next := by
    rw [← step_batch hended hbatch]
    simp only [Viewing.cue, h.displaying, if_true]
  have hwatcher : (v.cue now clock cue).session.watcher = next.watcher := by
    rw [hsession]
    split <;> rfl
  refine ⟨h.status, ?_, ?_, h.displaying, h.backfill, ?_, ?_⟩
  · intro frame hframe
    exact h.fixes frame (hrest frame hframe)
  · rw [hwatcher]
    exact hflow
  · rw [hwatcher]
    exact htold
  · intro hopen
    have hgoing : next.watcher.delivery.status.isTerminal = false := by
      rcases htold with hstatus | hstatus
      · rw [hstatus]
        rfl
      · rw [hstatus, hopen]
    rw [hsession, hgoing]
    exact hnext

theorem Books.listen {event : Event} {events : List Event} {onward : List Frame}
    (h : Books text (messages (event :: events) ++ onward) t v) {now : Reading}
    {clock : Instant} (hended : v.session.ended = false) :
    Books text (messages events ++ onward) t (v.cue now clock (.event event)) := by
  cases event with
  | status state => exact h.cue hended rfl hended (fun _ hf => hf) h.flow h.told
  | message frame =>
      have hfix : IsFix text frame := h.fixes frame List.mem_cons_self
      obtain ⟨htrail, hstatus⟩ := handle_fix v.session.watcher clock hfix
      refine h.cue hended rfl hended (fun _ hf => List.mem_cons_of_mem _ hf) ?_ (.inr hstatus)
      change _ = (v.session.watcher.handle clock (.message frame)).2.delivery.trail.extend _
      rw [htrail, ← Trail.extend_append, h.flow]
      congr 1
      change (frame :: (messages events ++ onward)).filterMap fixPoint? = _
      rw [List.filterMap_cons]
      cases fixPoint? frame <;> rfl

theorem Books.fill {frames : List Frame} (h : Books text frames t v) {now : Reading}
    {clock : Instant} (hended : v.session.ended = false) :
    Books text frames t ({ v with backfill := none }.cue now clock (.backfill none)) := by
  have hcleared : Books text frames t { v with backfill := none } :=
    ⟨h.status, h.fixes, h.flow, h.displaying, by simp, h.told, h.going⟩
  cases hawaiting : v.session.awaiting with
  | true =>
      have hbatch : v.session.batch? clock (.backfill none) =
          some ([], { v.session with awaiting := false }) := by
        simp [Watcher.Session.batch?, hawaiting]
      exact hcleared.cue hended hbatch hended (fun _ hf => hf) h.flow h.told
  | false =>
      have hbatch : v.session.batch? clock (.backfill none) = some ([], v.session) := by
        simp [Watcher.Session.batch?, hawaiting]
      exact hcleared.cue hended hbatch hended (fun _ hf => hf) h.flow h.told

/-- What holds on a stage at any time. -/
structure Following (text : String) (s : Stage) (wn cn : Node) (t : Trip) (v : Viewing) :
    Prop where
  nodes : s.world.nodes = [wn, cn]
  trip : s.trip = some t
  viewing : s.viewing = some v
  tripNode : t.node = 1
  viewingNode : v.node = 0
  linked : Linked s.world.relay wn cn
  books : Books text (enRoute s.world.relay wn cn) t v

def Follows (text : String) (s : Stage) : Prop := ∃ wn cn t v, Following text s wn cn t v

theorem linked_events (h : Linked r wn cn) (heard read : List Event) :
    Linked r { wn with events := heard } { cn with events := read } :=
  ⟨⟨h.watching.settled, h.watching.empty, h.watching.relayed, h.watching.orders, h.watching.sits⟩,
    ⟨h.publishing.settled, h.publishing.present, h.publishing.relayed, h.publishing.placed,
      h.publishing.staying⟩, h.apart⟩

theorem Following.clocks (h : Following text s wn cn t v) (now : Reading) (clock : Instant) :
    Follows text (s.move (.clocks now clock)) :=
  ⟨wn, cn, t, v, h.nodes, h.trip, h.viewing, h.tripNode, h.viewingNode, h.linked, h.books⟩

/-- Something is done to the node `i`, if there is such a node. -/
theorem Following.modify (h : Following text s wn cn t v) (i : Nat) (f : Node → Node)
    (hw : Linked s.world.relay (f wn) cn ∧
      enRoute s.world.relay (f wn) cn = enRoute s.world.relay wn cn)
    (hc : Linked s.world.relay wn (f cn) ∧
      enRoute s.world.relay wn (f cn) = enRoute s.world.relay wn cn) :
    Follows text { s with world := s.world.modify i f } := by
  have hnodes : (s.world.modify i f).nodes = [wn, cn].modify i f := by
    rw [World.modify, h.nodes]
  match i with
  | 0 =>
      exact ⟨f wn, cn, t, v, hnodes, h.trip, h.viewing, h.tripNode, h.viewingNode, hw.1,
        hw.2 ▸ h.books⟩
  | 1 =>
      exact ⟨wn, f cn, t, v, hnodes, h.trip, h.viewing, h.tripNode, h.viewingNode, hc.1,
        hc.2 ▸ h.books⟩
  | i + 2 =>
      rw [List.modify_eq_self (by simp)] at hnodes
      exact ⟨wn, cn, t, v, hnodes, h.trip, h.viewing, h.tripNode, h.viewingNode, h.linked,
        h.books⟩

theorem Following.connect (h : Following text s wn cn t v) (i : Nat) :
    Follows text (s.move (.connect i)) := by
  have hw := h.linked.watching
  have hp := h.linked.publishing
  refine h.modify i (fun n => { n with orders := n.orders ++ [.connect] }) ⟨⟨?_, hp, ?_⟩, rfl⟩
    ⟨⟨hw, ?_, ?_⟩, ?_⟩
  · refine ⟨hw.settled, hw.empty, hw.relayed, fun order horder => ?_, hw.sits⟩
    rcases List.mem_append.1 horder with hold | hnew
    · exact hw.orders order hold
    · exact List.mem_singleton.1 hnew
  · exact h.linked.apart
  · refine ⟨hp.settled, hp.present, hp.relayed, hp.placed, fun order horder => ?_⟩
    rcases List.mem_append.1 horder with hold | hnew
    · exact hp.staying order hold
    · rw [List.mem_singleton.1 hnew]
      simp
  · exact h.linked.apart
  · simp [enRoute, pending, orderedFrame?]

theorem Following.refuse (h : Following text s wn cn t v) (i : Nat) (refusing : Bool) :
    Follows text (s.move (.refuse i refusing)) := by
  have hw := h.linked.watching
  have hp := h.linked.publishing
  exact h.modify i (fun n => { n with refusing })
    ⟨⟨⟨hw.settled, hw.empty, hw.relayed, hw.orders, hw.sits⟩, hp, h.linked.apart⟩, rfl⟩
    ⟨⟨hw, ⟨hp.settled, hp.present, hp.relayed, hp.placed, hp.staying⟩, h.linked.apart⟩, rfl⟩

theorem Following.chore (h : Following text s wn cn t v) (i : Nat) (chore : Node.Chore)
    (hjoined : (s.move (.chore i chore)).joinedFirst = true) :
    Follows text (s.move (.chore i chore)) := by
  match i with
  | 0 =>
      have hchore : s.world.chore? 0 chore =
          (wn.do? s.world.now s.world.relay chore).map (s.world.put 0) := by
        rw [World.chore?, h.nodes]
        rfl
      simp only [Stage.move, Stage.choreReady?, hchore]
      cases hdo : wn.do? s.world.now s.world.relay chore with
      | none => exact ⟨wn, cn, t, v, h⟩
      | some turn =>
          obtain ⟨hlinked, hroute⟩ := h.linked.watcher hdo
          refine ⟨turn.2, cn, t, v, ?_, h.trip, h.viewing, h.tripNode, h.viewingNode, hlinked, ?_⟩
          · change s.world.nodes.set 0 turn.2 = _
            rw [h.nodes]
            rfl
          · exact hroute ▸ h.books
  | 1 =>
      have hchore : s.world.chore? 1 chore =
          (cn.do? s.world.now s.world.relay chore).map (s.world.put 1) := by
        rw [World.chore?, h.nodes]
        rfl
      simp only [Stage.move, Stage.choreReady?, hchore] at hjoined ⊢
      cases hdo : cn.do? s.world.now s.world.relay chore with
      | none => exact ⟨wn, cn, t, v, h⟩
      | some turn =>
          rw [hdo] at hjoined
          have hnodes : (s.world.put 1 turn).nodes = [wn, turn.2] := by
            rw [World.put, h.nodes]
            rfl
          have hsilent : turn.2.written = [] ∨ wn.seat.isSome = true := by
            have hnew : Stage.joinedFirst { s with world := s.world.put 1 turn } = true := hjoined
            simpa [Stage.joinedFirst, hnodes] using hnew
          have hreads : ∀ frame ∈ pending cn, ReadsBack frame := by
            intro frame hframe
            have hfix := h.books.fixes frame (List.mem_append_right _ hframe)
            exact hfix.readsBack
          obtain ⟨hlinked, hroute⟩ := h.linked.publisher hreads hdo hsilent
          exact ⟨wn, turn.2, t, v, hnodes, h.trip, h.viewing, h.tripNode, h.viewingNode, hlinked,
            hroute ▸ h.books⟩
  | i + 2 =>
      have hchore : s.world.chore? (i + 2) chore = none := by
        rw [World.chore?, h.nodes]
        rfl
      simp only [Stage.move, Stage.choreReady?, hchore]
      exact ⟨wn, cn, t, v, h⟩

/-- The courier's side of the books, while nothing of the watcher's changes. -/
theorem Books.courier {frames more : List Frame} (h : Books text frames t v) {t' : Trip}
    (hconfig : t'.courier.config = t.courier.config)
    (hfixes : ∀ frame ∈ more, IsFix text frame)
    (htrail : t'.courier.delivery.trail =
      t.courier.delivery.trail.extend (more.filterMap fixPoint?)) :
    Books text (frames ++ more) t' v := by
  refine ⟨hconfig ▸ h.status, ?_, ?_, h.displaying, h.backfill, h.told, h.going⟩
  · intro frame hframe
    rcases List.mem_append.1 hframe with hold | hnew
    · exact h.fixes frame hold
    · exact hfixes frame hnew
  · rw [htrail, h.flow, List.filterMap_append, Trail.extend_append]

theorem Following.offer (h : Following text s wn cn t v) {sample : Sample} (now : Reading)
    (hsample : Sound sample.point) : Follows text (s.move (.offer sample now)) := by
  have hp := h.linked.publishing
  simp only [Stage.move, Stage.offer, h.trip, Trip.offer]
  rcases offer_cases t.courier sample now with
    ⟨hnone, htrail, hconfig⟩ | ⟨transmission, hsome, hframe, htrail, hconfig⟩
  · rw [hnone]
    refine ⟨wn, cn, { t with courier := (t.courier.offer sample now).2 }, v, h.nodes, rfl,
      h.viewing, h.tripNode, h.viewingNode, h.linked, ?_⟩
    rw [← List.append_nil (enRoute _ _ _)]
    exact h.books.courier hconfig (fun _ hf => absurd hf List.not_mem_nil) htrail
  · rw [hsome]
    rw [h.books.status] at hframe
    have hfix : IsFix text transmission.frame :=
      ⟨sample.point, sample.captured, hframe, hsample⟩
    let cn' : Node := { cn with orders := cn.orders ++ [.send transmission.frame] }
    have hroute : enRoute s.world.relay wn cn' =
        enRoute s.world.relay wn cn ++ [transmission.frame] := by
      simp [cn', enRoute, pending, orderedFrame?]
    refine ⟨wn, cn', _, v, ?_, rfl, h.viewing, h.tripNode, h.viewingNode,
      ⟨h.linked.watching, ⟨hp.settled, hp.present, hp.relayed, hp.placed, ?_⟩,
        h.linked.apart⟩, ?_⟩
    · change s.world.nodes.modify t.node _ = _
      rw [h.nodes, h.tripNode]
      rfl
    · intro order horder
      rcases List.mem_append.1 horder with hold | hnew
      · exact hp.staying order hold
      · rw [List.mem_singleton.1 hnew]
        simp
    · refine (congrArg (fun frames => Books text frames _ v) hroute).mpr ?_
      refine h.books.courier hconfig (fun frame hf => List.mem_singleton.1 hf ▸ hfix) ?_
      rw [hframe]
      exact htrail

@[simp] theorem now_modify (w : World) (i : Nat) (f : Node → Node) :
    (w.modify i f).now = w.now := rfl

theorem nextEvent_nil {w : World} {i : Nat} {n : Node} (hn : w.nodes[i]? = some n)
    (h : n.events = []) : w.nextEvent? i = none := by
  rw [World.nextEvent?, hn, Option.elim, h]

theorem nextEvent_cons {w : World} {i : Nat} {n : Node} {event : Event} {rest : List Event}
    (hn : w.nodes[i]? = some n) (h : n.events = event :: rest) :
    w.nextEvent? i = some (event, w.modify i fun n => { n with events := rest }) := by
  rw [World.nextEvent?, hn, Option.elim, h]

theorem Following.read (h : Following text s wn cn t v) : Follows text (s.move .read) := by
  have hnode : s.world.nodes[t.node]? = some cn := by
    rw [h.nodes, h.tripNode]
    rfl
  cases hevents : cn.events with
  | nil =>
      have hread : t.read? s.world = none := by rw [Trip.read?, nextEvent_nil hnode hevents]
      simp only [Stage.move, Stage.readReady?, h.trip, Option.bind_eq_bind, Option.bind_some, hread]
      exact ⟨wn, cn, t, v, h⟩
  | cons event rest =>
      have hread : t.read? s.world = some
          (s.world.modify t.node fun n => { n with events := rest }, t.handle s.world.now event) := by
        rw [Trip.read?, nextEvent_cons hnode hevents]
        rfl
      obtain ⟨htrail, hconfig⟩ := handle_trail t.courier s.world.now event
      simp only [Stage.move, Stage.readReady?, h.trip, Option.bind_eq_bind, Option.bind_some, hread]
      refine ⟨wn, { cn with events := rest }, t.handle s.world.now event, v, ?_, rfl, h.viewing,
        h.tripNode, h.viewingNode, linked_events h.linked wn.events rest, ?_⟩
      · change s.world.nodes.modify t.node _ = _
        rw [h.nodes, h.tripNode]
        rfl
      · change Books text (enRoute s.world.relay wn cn) _ v
        rw [← List.append_nil (enRoute _ _ _)]
        exact h.books.courier hconfig (fun _ hf => absurd hf List.not_mem_nil) htrail

theorem Following.store (h : Following text s wn cn t v) : Follows text (s.move .store) := by
  simp only [Stage.move, Stage.storeReady?, h.trip, Trip.storeReady?, Option.bind_eq_bind,
    Option.bind_some]
  split
  · exact ⟨wn, cn, t, v, h⟩
  · have hb := h.books
    exact ⟨wn, cn, _, v, h.nodes, rfl, h.viewing, h.tripNode, h.viewingNode, h.linked,
      ⟨hb.status, hb.fixes, hb.flow, hb.displaying, hb.backfill, hb.told, hb.going⟩⟩

theorem Following.listen (h : Following text s wn cn t v) : Follows text (s.move .listen) := by
  have hnode : s.world.nodes[v.node]? = some wn := by
    rw [h.nodes, h.viewingNode]
    rfl
  cases hlisten : v.listen? s.world s.clock with
  | none =>
      simp only [Stage.move, Stage.listenReady?, h.viewing, Option.bind_eq_bind, Option.bind_some,
        hlisten]
      exact ⟨wn, cn, t, v, h⟩
  | some result =>
      have hended : v.session.ended = false := by
        cases hended : v.session.ended with
        | false => rfl
        | true => simp [Viewing.listen?, hended] at hlisten
      cases hevents : wn.events with
      | nil =>
          -- The channel of a watching node never goes.
          have hgone : s.world.isGone v.node = false := by
            have hsits := h.linked.watching.sits
            rw [World.isGone, hnode, Option.any_some]
            cases hphase : wn.channel.phase <;> simp_all [Sits]
          simp [Viewing.listen?, hended, Viewing.eventReady?, nextEvent_nil hnode hevents,
            hgone] at hlisten
      | cons event rest =>
          obtain rfl : ((s.world.modify v.node fun n => { n with events := rest }),
              v.cue s.world.now s.clock (.event event)) = result := by
            simpa [Viewing.listen?, hended, Viewing.eventReady?, nextEvent_cons hnode hevents]
              using hlisten
          simp only [Stage.move, Stage.listenReady?, h.viewing, Option.bind_eq_bind,
            Option.bind_some, hlisten]
          have hbooks := h.books
          rw [enRoute, arriving, hevents, List.append_assoc] at hbooks
          refine ⟨{ wn with events := rest }, cn, t, _, ?_, h.trip, rfl, h.tripNode, h.viewingNode,
            linked_events h.linked rest cn.events, ?_⟩
          · change s.world.nodes.modify v.node _ = _
            rw [h.nodes, h.viewingNode]
            rfl
          · change Books text (enRoute s.world.relay { wn with events := rest } cn) t _
            rw [enRoute, arriving, List.append_assoc]
            exact hbooks.listen hended

theorem Following.fill (h : Following text s wn cn t v) : Follows text (s.move .fill) := by
  cases hfill : v.fill? s.world s.clock with
  | none =>
      simp only [Stage.move, Stage.fillReady?, h.viewing, Option.bind_eq_bind, Option.bind_some,
        hfill]
      exact ⟨wn, cn, t, v, h⟩
  | some result =>
      have hended : v.session.ended = false := by
        cases hended : v.session.ended with
        | false => rfl
        | true => simp [Viewing.fill?, hended] at hfill
      cases hbackfill : v.backfill with
      | none => simp [Viewing.fill?, hended, hbackfill] at hfill
      | some coming =>
          obtain ⟨due, answer⟩ := coming
          obtain rfl := h.books.backfill due answer hbackfill
          obtain rfl : (s.world, { v with backfill := none }.cue s.world.now s.clock
              (.backfill none)) = result := by
            simp only [Viewing.fill?, hended, hbackfill] at hfill
            split at hfill <;> simp_all
          simp only [Stage.move, Stage.fillReady?, h.viewing, Option.bind_eq_bind,
            Option.bind_some, hfill]
          exact ⟨wn, cn, t, _, h.nodes, h.trip, rfl, h.tripNode, h.viewingNode, h.linked,
            h.books.fill hended⟩

/-! Runs -/

theorem Follows.move (h : Follows text s) {m : Move}
    (hfix : ∀ sample now, m = .offer sample now → Sound sample.point)
    (hjoined : (s.move m).joinedFirst = true) : Follows text (s.move m) := by
  obtain ⟨wn, cn, t, v, h⟩ := h
  cases m with
  | clocks now clock => exact h.clocks now clock
  | connect i => exact h.connect i
  | refuse i refusing => exact h.refuse i refusing
  | chore i chore => exact h.chore i chore hjoined
  | offer sample now => exact h.offer now (hfix sample now rfl)
  | read => exact h.read
  | store => exact h.store
  | listen => exact h.listen
  | fill => exact h.fill

theorem Follows.play (h : Follows text s) {moves : List Move}
    (hfixes : ∀ sample now, .offer sample now ∈ moves → Sound sample.point)
    (hjoined : ∀ stage ∈ s.course moves, stage.joinedFirst = true) :
    Follows text (s.play moves) := by
  induction moves generalizing s with
  | nil => exact h
  | cons m moves ih =>
      have hrest : ∀ stage ∈ (s.move m).course moves, stage.joinedFirst = true := by
        intro stage hstage
        exact hjoined stage (List.mem_cons_of_mem s hstage)
      have hfirst : (s.move m).joinedFirst = true := by
        apply hrest
        cases moves <;> exact List.mem_cons_self
      refine ih (h.move ?_ hfirst) ?_ hrest
      · rintro sample now rfl
        exact hfixes sample now List.mem_cons_self
      · intro sample now hm
        exact hfixes sample now (List.mem_cons_of_mem m hm)

theorem follows_opening (id : DeliveryId) (config : Courier.Config) (stores : Bool)
    (watching : Watcher.Config) (destination : Option Point) (publishing listening : Backoff)
    (clock : Instant) :
    Follows config.status.text (.opening (.ofConfig id config stores)
      (.ofConfig id watching destination) publishing listening clock) := by
  refine ⟨_, _, _, _, rfl, rfl, rfl, rfl, rfl, ⟨?_, ?_, ?_⟩, ?_⟩
  · exact ⟨ChannelTurns.settled_ofBackoff _, rfl, rfl, by simp [Node.ofChannel], rfl, rfl⟩
  · exact ⟨ChannelTurns.settled_ofBackoff _, by simp [Node.ofChannel, Channel.ofBackoff], rfl,
      by simp [Placed, Node.ofChannel], by simp [Node.ofChannel]⟩
  · simp [Node.ofChannel]
  · refine ⟨rfl, ?_, ?_, rfl, ?_, ?_, fun _ => rfl⟩
    · simp [enRoute, arriving, pending, messages, decoded, Node.ofChannel, Channel.ofBackoff]
    · cases destination <;> rfl
    · rintro due answer ⟨⟩
      rfl
    · cases destination <;> exact .inl rfl

theorem enRoute_of_quiet (h : Following text s wn cn t v) (hquiet : s.isQuiet = true) :
    enRoute s.world.relay wn cn = [] := by
  simp only [Stage.isQuiet, h.nodes, Bool.and_eq_true, List.all_eq_true, List.isEmpty_iff,
    List.mem_cons, List.not_mem_nil, or_false] at hquiet
  obtain ⟨hnodes, hinboxes⟩ := hquiet
  obtain ⟨-, hevents⟩ := hnodes wn (.inl rfl)
  obtain ⟨⟨horders, houtbox⟩, -⟩ := hnodes cn (.inr rfl)
  have hwaiting (seat : Nat) : waitingAt s.world.relay seat = [] := by
    unfold waitingAt Relay.inbox?
    cases hi : s.world.relay.inboxes[seat]? with
    | none => rfl
    | some i => exact hinboxes i (List.mem_of_getElem? hi)
  rw [enRoute, arriving, pending, hevents, houtbox, horders]
  cases wn.seat with
  | none => rfl
  | some seat =>
      change [] ++ decoded (waitingAt _ seat) ++ _ = _
      rw [hwaiting]
      rfl

/-- Whatever fixes in range are offered and in whichever order everything happens, if the watcher
has a seat before the courier's first frame is written, then the watcher's trail is the front of
the courier's at any time, and all of it when nothing is on its way; and the watcher stays unless
the status sent along is terminal. Coordinates are assumed to read back from their texts. -/
theorem watcher_sees_the_trail (id : DeliveryId) (config : Courier.Config) (stores : Bool)
    (watching : Watcher.Config) (destination : Option Point) (publishing listening : Backoff)
    (clock : Instant) (moves : List Move)
    (hvalid : ∀ sample now, .offer sample now ∈ moves → sample.point.isValid = true)
    (hrecover : ∀ sample now, .offer sample now ∈ moves →
      JsonNumbers.Recovers sample.point.lat ∧ JsonNumbers.Recovers sample.point.lng)
    (hjoined : ∀ stage ∈ (Stage.opening (.ofConfig id config stores)
      (.ofConfig id watching destination) publishing listening clock).course moves,
      stage.joinedFirst = true) :
    let s := (Stage.opening (.ofConfig id config stores) (.ofConfig id watching destination)
      publishing listening clock).play moves
    s.seenPoints <+: s.sentPoints ∧
      (s.isQuiet = true → s.seenPoints = s.sentPoints) ∧
      ((Status.ofText config.status.text).isTerminal = false →
        ∀ v, s.viewing = some v → v.session.ended = false) := by
  have hstart := follows_opening id config stores watching destination publishing listening clock
  have hsound : ∀ sample now, .offer sample now ∈ moves → Sound sample.point := by
    intro sample now hm
    obtain ⟨hlat, hlng⟩ := hrecover sample now hm
    exact ⟨hvalid sample now hm, hlat, hlng⟩
  obtain ⟨wn, cn, t, v, h⟩ := hstart.play hsound hjoined
  have hflow := h.books.flow
  simp only [Stage.seenPoints, Stage.sentPoints, h.trip, h.viewing, Option.elim]
  refine ⟨?_, fun hquiet => ?_, ?_⟩
  · rw [hflow]
    exact prefix_extend _ _
  · rw [hflow, enRoute_of_quiet h hquiet]
    rfl
  · rintro hopen _ ⟨⟩
    exact h.books.going hopen

/-- A courier whose first attempt is refused, and who keeps a fix until the second one succeeds. -/
def delayedJourney : List Move :=
  let sample : Sample := ⟨⟨52.5, 13.25⟩, none, .epoch⟩
  [.connect 0, .chore 0 .order, .chore 0 .outcome, .refuse 1 true, .offer sample 5, .connect 1,
    .chore 1 .order, .chore 1 .order, .chore 1 .outcome, .refuse 1 false, .offer sample 6,
    .clocks (Span.millis 1000) .epoch, .chore 1 .retry, .chore 1 .outcome, .chore 0 .inbox,
    .chore 1 .inbox, .listen, .fill, .listen, .listen, .read, .read, .read, .read, .read, .store]

theorem watcher_sees_the_trail_delayed :
    let s := (Stage.opening (.ofConfig 7 {} true) (.ofConfig 7 {} none) {} {} .epoch).play
      delayedJourney
    s.isQuiet = true ∧ s.sentPoints = [⟨52.5, 13.25⟩] ∧ s.seenPoints = s.sentPoints := by
  have hsample : ∀ sample now, .offer sample now ∈ delayedJourney → sample.point = ⟨52.5, 13.25⟩ := by
    intro sample now hm
    simp only [delayedJourney, List.mem_cons, List.not_mem_nil, or_false, reduceCtorEq, false_or,
      Move.offer.injEq] at hm
    rcases hm with ⟨rfl, -⟩ | ⟨rfl, -⟩ <;> rfl
  have htrail := watcher_sees_the_trail 7 {} true {} none {} {} .epoch delayedJourney
    (fun sample now hm => by rw [hsample sample now hm]; decide +kernel)
    (fun sample now hm => by rw [hsample sample now hm]; exact ⟨rfl, rfl⟩)
    (List.all_eq_true.1 (by decide +kernel))
  have hquiet : (Stage.isQuiet ((Stage.opening (.ofConfig 7 {} true) (.ofConfig 7 {} none) {} {}
      .epoch).play delayedJourney)) = true := by decide +kernel
  exact ⟨hquiet, by decide +kernel, htrail.2.1 hquiet⟩

end CourierTrack.Proofs.TrailReplication
