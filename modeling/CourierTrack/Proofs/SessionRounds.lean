import CourierTrack.Watcher.Session.Run
/-!
A session is its watcher, called once for every channel event in order and at most once for the
backfill, whatever comes first. It ends with the first batch after which the delivery is over, and a
backfill that brings no points leaves no trace.

Every choice either keeps a session where it is, ends it or adds a round (`follows_choose`); a run
follows by induction on the choices.
-/

namespace CourierTrack.Proofs.SessionRounds

open CourierTrack.Time
open CourierTrack.Watcher
open CourierTrack.Watcher.Round (calls events calls_append events_append backfills_append)

variable {w : Watcher} {room : Option Nat} {coming : List Channel.Event}
  {backfill : Option (Except HistoryError (List Point))} {choice : Choice} {past : List Choice}
  {round : Round} {rounds : List Round} {clock : Instant} {cue : Cue} {s next : Session}
  {batch shown : List RenderEvent} {v : Sitting}

theorem run_append (w : Watcher) (first second : List Call) :
    w.run (first ++ second) =
      ((w.run first).1 ++ ((w.run first).2.run second).1, ((w.run first).2.run second).2) := by
  induction first generalizing w with
  | nil => rfl
  | cons call rest ih =>
      simp only [List.cons_append, Watcher.run, ih, List.append_assoc]

/-! What a display takes of a batch -/

/-- Whether a display takes all of some events. -/
def Fits (room : Option Nat) (shown : List RenderEvent) : Prop :=
  ∀ n, room = some n → shown.length ≤ n

/-- The room of a display that was offered some events. -/
def left (room : Option Nat) (shown : List RenderEvent) : Option Nat :=
  room.map (· - shown.length)

theorem shown_nil (room : Option Nat) : Session.shown room [] = [] := by
  cases room <;> simp [Session.shown]

theorem left_nil (room : Option Nat) : left room [] = room := by
  cases room <;> rfl

theorem shown_of_fits (h : Fits room batch) : Session.shown room batch = batch := by
  cases room with
  | none => rfl
  | some n => exact List.take_of_length_le (h n rfl)

theorem shown_append (room : Option Nat) (first second : List RenderEvent) :
    Session.shown room (first ++ second) =
      Session.shown room first ++ Session.shown (left room first) second := by
  cases room with
  | none => rfl
  | some n => exact List.take_append

theorem left_append (room : Option Nat) (first second : List RenderEvent) :
    left (left room first) (Session.shown (left room first) second) =
      left room (first ++ second) := by
  cases room with
  | none => rfl
  | some n =>
      simp only [left, Session.shown, Option.map_some, List.length_take, List.length_append]
      congr 1
      omega

theorem length_shown_lt_iff (h : Fits room shown) :
    (Session.shown (left room shown) batch).length < batch.length ↔ ¬ Fits room (shown ++ batch) := by
  cases room with
  | none => simp [left, Session.shown, Fits]
  | some n =>
      have hroom : shown.length ≤ n := h n rfl
      simp only [left, Session.shown, Fits, Option.map_some, List.length_take, List.length_append,
        Option.some.injEq, forall_eq']
      omega

/-! Single steps -/

/-- The batch of a channel event is that of its call. -/
theorem batch_event (s : Session) (clock : Instant) (event : Channel.Event) :
    s.batch? clock (.event event) = some ((s.watcher.run (calls [.event clock event])).1,
      { s with watcher := (s.watcher.run (calls [.event clock event])).2 }) := by
  simp [Session.batch?, calls, Watcher.run, Watcher.answer]

/-- The batch of an awaited backfill is that of its call, if it makes one. -/
theorem batch_backfill (hawaiting : s.awaiting = true) :
    s.batch? clock (.backfill backfill) = some ((s.watcher.run (calls [.backfill backfill])).1,
      { s with
        watcher := (s.watcher.run (calls [.backfill backfill])).2
        awaiting := false }) := by
  cases backfill with
  | none => simp [Session.batch?, hawaiting, calls, List.filterMap, Watcher.run]
  | some result => simp [Session.batch?, hawaiting, calls, Watcher.run, Watcher.answer]

theorem step_of_none (hgoing : s.ended = false) (h : s.batch? clock cue = none) :
    s.step clock room cue = ([], s.finish) := by
  simp [Session.step, hgoing, h]

theorem step_of_some (hgoing : s.ended = false) (h : s.batch? clock cue = some (batch, next)) :
    s.step clock room cue =
      (Session.shown room batch,
        if (Session.shown room batch).length < batch.length ∨
          next.watcher.delivery.status.isTerminal = true then next.finish else next) := by
  simp only [Session.step, hgoing, h, Bool.or_eq_true, decide_eq_true_eq, Bool.false_eq_true,
    if_false]
  split <;> rfl

theorem choose_of_ended (hended : v.session.ended = true) :
    v.choose backfill choice = ([], v) := by
  simp [Sitting.choose, hended]

theorem choose_of_none (hgoing : v.session.ended = false) {rest : List Channel.Event}
    (hcue : v.cue backfill choice = (clock, cue, rest))
    (h : v.session.batch? clock cue = none) :
    v.choose backfill choice = ([], { v with session := v.session.finish, coming := rest }) := by
  simp only [Sitting.choose, hgoing, Bool.false_eq_true, if_false, hcue, step_of_none hgoing h]
  rw [← left, left_nil]

/-- How things stand after a batch from which a session came out as `next`. -/
def served (room : Option Nat) (batch : List RenderEvent) (next : Session)
    (rest : List Channel.Event) : Sitting where
  session := if (Session.shown room batch).length < batch.length ∨
    next.watcher.delivery.status.isTerminal = true then next.finish else next
  coming := rest
  room := left room (Session.shown room batch)

theorem served_watcher (rest : List Channel.Event) :
    (served room batch next rest).session.watcher = next.watcher := by
  unfold served
  split <;> rfl

theorem served_awaiting (rest : List Channel.Event) :
    (served room batch next rest).session.awaiting = next.awaiting := by
  unfold served
  split <;> rfl

theorem served_ended_iff (hnext : next.ended = false) (rest : List Channel.Event) :
    (served room batch next rest).session.ended = true ↔
      (Session.shown room batch).length < batch.length ∨
        next.watcher.delivery.status.isTerminal = true := by
  unfold served
  split
  case isTrue hover => exact ⟨fun _ => hover, fun _ => rfl⟩
  case isFalse hover => exact ⟨fun hended => absurd hended (by simp [hnext]), (absurd · hover)⟩

theorem choose_of_some (hgoing : v.session.ended = false) {rest : List Channel.Event}
    (hcue : v.cue backfill choice = (clock, cue, rest))
    (h : v.session.batch? clock cue = some (batch, next)) :
    v.choose backfill choice = (Session.shown v.room batch, served v.room batch next rest) := by
  simp only [Sitting.choose, hgoing, Bool.false_eq_true, if_false, hcue, step_of_some hgoing h]
  rfl

/-- Whether a session goes on after some rounds: the display took all of their events, and the
last of them left the delivery under way. -/
def GoesOn (w : Watcher) (room : Option Nat) (rounds : List Round) : Prop :=
  Fits room (w.run (calls rounds)).1 ∧
    (rounds ≠ [] → (w.run (calls rounds)).2.delivery.status.isTerminal = false)

/-! Sessions that follow their watcher -/

/-- How a session stands that has made some rounds of the choices so far. -/
structure Follows (w : Watcher) (backfill : Option (Except HistoryError (List Point)))
    (coming : List Channel.Event) (room : Option Nat) (past : List Choice) (rounds : List Round)
    (shown : List RenderEvent) (v : Sitting) : Prop where
  knows : v.session.watcher = (w.run (calls rounds)).2
  showed : shown = Session.shown room (w.run (calls rounds)).1
  space : v.room = left room (w.run (calls rounds)).1
  heard : (events rounds).map Prod.snd ++ v.coming = coming
  filled : Round.backfills rounds = if v.session.awaiting then [] else [backfill]
  earlier : ∀ front, front <+: rounds → front ≠ rounds → GoesOn w room front
  going : v.session.ended = false → .cancel ∉ past ∧ GoesOn w room rounds
  ended : v.session.ended = true → .cancel ∈ past ∨ v.coming = [] ∨ ¬ GoesOn w room rounds

theorem follows_start (w : Watcher) (backfill : Option (Except HistoryError (List Point)))
    (coming : List Channel.Event) (room : Option Nat) :
    Follows w backfill coming room [] [] [] (.start w coming room) := by
  refine ⟨rfl, (shown_nil room).symm, (left_nil room).symm, rfl, rfl, ?_,
    fun _ => ⟨List.not_mem_nil, ?_, fun h => absurd rfl h⟩, by rintro ⟨⟩⟩
  · intro front hfront hproper
    exact absurd (List.prefix_nil.1 hfront) hproper
  · intro n _
    exact Nat.zero_le n

/-- A session that ends without a batch has a reason. -/
theorem Follows.quit (h : Follows w backfill coming room past rounds shown v)
    (hreason : choice = .cancel ∨ v.coming = []) :
    Follows w backfill coming room (past ++ [choice]) rounds (shown ++ [])
      { v with session := v.session.finish } := by
  rw [List.append_nil]
  refine ⟨h.knows, h.showed, h.space, h.heard, h.filled, h.earlier, by rintro ⟨⟩, fun _ => ?_⟩
  rcases hreason with rfl | hnone
  · exact .inl (by simp)
  · exact .inr (.inl hnone)

/-- A batch of a session that goes on is a call of its watcher. -/
theorem Follows.serve (h : Follows w backfill coming room past rounds shown v)
    (hgoing : v.session.ended = false) (hchoice : choice ≠ .cancel) (hnext : next.ended = false)
    {rest : List Channel.Event}
    (hrun : v.session.watcher.run (calls [round]) = (batch, next.watcher))
    (hrest : (events [round]).map Prod.snd ++ rest = v.coming)
    (hfilled : (if v.session.awaiting then [] else [backfill]) ++ Round.backfills [round] =
      if next.awaiting then [] else [backfill]) :
    Follows w backfill coming room (past ++ [choice]) (rounds ++ [round])
      (shown ++ Session.shown v.room batch) (served v.room batch next rest) := by
  obtain ⟨hpast, hgoes⟩ := h.going hgoing
  have hall : w.run (calls (rounds ++ [round])) =
      ((w.run (calls rounds)).1 ++ batch, next.watcher) := by
    rw [calls_append, run_append, ← h.knows, hrun]
  have hstops : (served v.room batch next rest).session.ended = true ↔
      ¬ GoesOn w room (rounds ++ [round]) := by
    rw [served_ended_iff hnext, h.space, length_shown_lt_iff hgoes.1, GoesOn, hall]
    by_cases hfits : Fits room ((w.run (calls rounds)).1 ++ batch) <;> simp [hfits]
  refine ⟨?_, ?_, ?_, ?_, ?_, ?_, ?_, ?_⟩
  · rw [hall, served_watcher]
  · rw [hall, shown_append, ← h.showed, ← h.space]
  · rw [hall, ← left_append, ← h.space]
    rfl
  · rw [← h.heard, ← hrest, events_append, List.map_append, List.append_assoc]
    rfl
  · rw [backfills_append, h.filled, hfilled, served_awaiting]
  · intro front hfront hproper
    rcases List.prefix_concat_iff.1 hfront with heq | hfront
    · exact absurd heq hproper
    · by_cases heq : front = rounds
      · exact heq ▸ hgoes
      · exact h.earlier front hfront heq
  · intro hon
    refine ⟨by simp [hpast, hchoice.symm], Classical.not_not.1 fun hnot => ?_⟩
    rw [hstops.2 hnot] at hon
    exact Bool.noConfusion hon
  · exact fun hoff => .inr (.inr (hstops.1 hoff))

/-- A choice that a session does not heed. -/
theorem Follows.stay (h : Follows w backfill coming room past rounds shown v)
    (hchoice : v.session.ended = false → choice ≠ .cancel) :
    Follows w backfill coming room (past ++ [choice]) rounds (shown ++ []) v := by
  rw [List.append_nil]
  refine ⟨h.knows, h.showed, h.space, h.heard, h.filled, h.earlier, fun hgoing => ?_,
    fun hended => ?_⟩
  · obtain ⟨hpast, hgoes⟩ := h.going hgoing
    exact ⟨by simp [hpast, (hchoice hgoing).symm], hgoes⟩
  · exact (h.ended hended).imp_left fun hcancel => List.mem_append_left _ hcancel

theorem follows_choose (h : Follows w backfill coming room past rounds shown v)
    (choice : Choice) :
    ∃ rounds, Follows w backfill coming room (past ++ [choice]) rounds
      (shown ++ (v.choose backfill choice).1) (v.choose backfill choice).2 := by
  cases hended : v.session.ended with
  | true => exact ⟨rounds, by rw [choose_of_ended hended]; exact h.stay (by simp [hended])⟩
  | false =>
    cases choice with
    | cancel =>
        have hcue : v.cue backfill .cancel = (.epoch, .cancelled, v.coming) := rfl
        rw [choose_of_none hended hcue rfl]
        exact ⟨rounds, h.quit (.inl rfl)⟩
    | backfill =>
      have hcue : v.cue backfill .backfill = (.epoch, .backfill backfill, v.coming) := rfl
      cases hawaiting : v.session.awaiting with
      | true =>
          rw [choose_of_some hended hcue (batch_backfill hawaiting)]
          refine ⟨rounds ++ [.backfill backfill], h.serve hended (by simp) ?_ rfl rfl ?_⟩
          · exact hended
          · rw [hawaiting]
            rfl
      | false =>
          have hbatch : v.session.batch? .epoch (.backfill backfill) = some ([], v.session) := by
            simp [Session.batch?, hawaiting]
          -- the backfill was a round, so the end of the delivery would have ended the session
          have hrounds : rounds ≠ [] := by
            rintro rfl
            have hfilled := h.filled
            rw [hawaiting] at hfilled
            cases hfilled
          have hgoing : v.session.watcher.delivery.status.isTerminal = false :=
            h.knows ▸ (h.going hended).2.2 hrounds
          have hserved : served v.room [] v.session v.coming = v := by
            simp [served, shown_nil, left_nil, hgoing]
          rw [choose_of_some hended hcue hbatch, shown_nil, hserved]
          exact ⟨rounds, h.stay (by simp)⟩
    | event clock =>
      cases hcoming : v.coming with
      | nil =>
          have hcue : v.cue backfill (.event clock) = (clock, .gone, []) := by
            simp [Sitting.cue, hcoming]
          rw [choose_of_none hended hcue rfl, ← hcoming]
          exact ⟨rounds, h.quit (.inr hcoming)⟩
      | cons event rest =>
          have hcue : v.cue backfill (.event clock) = (clock, .event event, rest) := by
            simp [Sitting.cue, hcoming]
          rw [choose_of_some hended hcue (batch_event _ _ _)]
          refine ⟨rounds ++ [.event clock event], h.serve hended (by simp) ?_ rfl ?_ ?_⟩
          · exact hended
          · rw [hcoming]
            rfl
          · exact List.append_nil _

theorem follows_run (h : Follows w backfill coming room past rounds shown v)
    (choices : List Choice) :
    ∃ rounds, Follows w backfill coming room (past ++ choices) rounds
      (shown ++ (v.run backfill choices).1) (v.run backfill choices).2 := by
  induction choices generalizing v past rounds shown with
  | nil => exact ⟨rounds, by simpa [Sitting.run] using h⟩
  | cons choice rest ih =>
      obtain ⟨next, hnext⟩ := follows_choose h choice
      obtain ⟨final, hfinal⟩ := ih hnext
      exact ⟨final, by simpa [Sitting.run, List.append_assoc] using hfinal⟩

theorem run_of_ended (hended : v.session.ended = true) (choices : List Choice) :
    v.run backfill choices = ([], v) := by
  induction choices with
  | nil => rfl
  | cons choice rest ih => simp only [Sitting.run, choose_of_ended hended, ih, List.append_nil]

/-! Backfills without points -/

section NoPoints

variable (hnone : ∀ points, backfill ≠ some (.ok points))

include hnone

theorem run_backfill_of_no_points (w : Watcher) : w.run (calls [.backfill backfill]) = ([], w) := by
  rcases backfill with _ | error | points
  · rfl
  · rfl
  · exact absurd rfl (hnone points)

theorem run_calls_of_no_points (w : Watcher) (rounds : List Round)
    (hall : ∀ result ∈ Round.backfills rounds, result = backfill) :
    w.run (calls rounds) =
      w.run ((events rounds).map fun (clock, event) => .event clock event) := by
  induction rounds generalizing w with
  | nil => rfl
  | cons round rest ih =>
    cases round with
    | event clock event =>
        change w.run (.event clock event :: calls rest) = w.run (.event clock event :: _)
        simp only [Watcher.run, ih _ hall]
        rfl
    | backfill result =>
        obtain rfl : result = backfill := hall result List.mem_cons_self
        have hrest : ∀ other ∈ Round.backfills rest, other = result := fun other hother =>
          hall other (List.mem_cons_of_mem _ hother)
        have hcalls := calls_append [.backfill result] rest
        rw [List.singleton_append] at hcalls
        rw [hcalls, run_append, run_backfill_of_no_points hnone, ih _ hrest]
        rfl

/-- A session takes such a backfill as if it had not asked. -/
theorem choose_of_no_points (v : Sitting) (choice : Choice) :
    v.choose backfill choice = v.choose none choice := by
  cases choice with
  | cancel => rfl
  | event clock => rfl
  | backfill =>
      have hbatch (s : Session) :
          s.batch? .epoch (.backfill backfill) = s.batch? .epoch (.backfill none) := by
        rcases backfill with _ | error | points
        · rfl
        · rfl
        · exact absurd rfl (hnone points)
      simp only [Sitting.choose, Sitting.cue, Session.step, hbatch]

theorem run_of_no_points (v : Sitting) (choices : List Choice) :
    v.run backfill choices = v.run none choices := by
  induction choices generalizing v with
  | nil => rfl
  | cons choice rest ih => simp only [Sitting.run, choose_of_no_points hnone, ih]

end NoPoints

/-- A session makes rounds: the channel's events from the first on, and the backfill at most once
among them. Its display gets what the watcher says to these calls one after the other, until it
closes. Only a round that leaves the delivery under way has another after it. Without points from
the backfill the rounds might as well be the events alone. -/
theorem session_is_sequential (w : Watcher) (timeout : Span)
    (source : Option (Option (Span × Except HistoryError (List Point))))
    (coming : List Channel.Event) (room : Option Nat) (choices : List Choice) :
    let backfill := source.map (fetch timeout)
    let (shown, v) := (Sitting.start w coming room).run backfill choices
    ∃ rounds : List Round,
      (events rounds).map Prod.snd ++ v.coming = coming ∧
      (Round.backfills rounds = [] ∨ Round.backfills rounds = [backfill]) ∧
      v.session.watcher = (w.run (calls rounds)).2 ∧
      shown = Session.shown room (w.run (calls rounds)).1 ∧
      (Fits room (w.run (calls rounds)).1 → shown = (w.run (calls rounds)).1) ∧
      (∀ front, front <+: rounds → front ≠ rounds → GoesOn w room front) ∧
      (.cancel ∈ choices ∨ ¬ GoesOn w room rounds → v.session.ended = true) ∧
      (v.session.ended = true →
        (.cancel ∈ choices ∨ v.coming = [] ∨ ¬ GoesOn w room rounds) ∧
          ∀ more, v.run backfill more = ([], v)) ∧
      ((∀ points, backfill ≠ some (.ok points)) →
        w.run (calls rounds) =
            w.run ((events rounds).map fun (clock, event) => .event clock event) ∧
          (Sitting.start w coming room).run none choices = (shown, v)) := by
  intro backfill
  obtain ⟨rounds, h⟩ := follows_run (follows_start w backfill coming room) choices
  rw [List.nil_append, List.nil_append] at h
  have hall : ∀ result ∈ Round.backfills rounds, result = backfill := by
    rw [h.filled]
    split <;> simp
  refine ⟨rounds, h.heard, ?_, h.knows, h.showed, fun hfits => ?_, h.earlier, fun hstop => ?_,
    fun hended => ⟨h.ended hended, run_of_ended hended⟩, fun hnone => ⟨?_, ?_⟩⟩
  · rw [h.filled]
    split <;> simp
  · rw [h.showed, shown_of_fits hfits]
  · refine Classical.not_not.1 fun hnot => ?_
    obtain ⟨hcancel, hgoes⟩ := h.going (Bool.not_eq_true _ ▸ hnot)
    exact hstop.elim hcancel fun hover => hover hgoes
  · exact run_calls_of_no_points hnone w rounds hall
  · rw [← run_of_no_points hnone]

/-- What comes after the news of the delivery stays unheard. -/
example :
    let coming := [.message (.status "delivered"), .message .hello]
    let (shown, v) := (Sitting.start (.ofConfig 1 {} none) coming none).run none
      [.event .epoch, .backfill, .event .epoch]
    shown = [.status .delivered] ∧ v.coming = [.message .hello] :=
  ⟨rfl, rfl⟩

end CourierTrack.Proofs.SessionRounds
