import CourierTrack.Proofs.ChannelConservation
import CourierTrack.Proofs.CourierBooks
import CourierTrack.Proofs.FrameReadback
import CourierTrack.Proofs.InboundTexts
import CourierTrack.Proofs.RelayLink
/-!
What a courier hears of its own positions while nobody else is on the relay. All of them come back,
in the order in which they were sent; but one is acknowledged only if no other point was sent
before it came back.
-/

namespace CourierTrack.Proofs.Acknowledgements

open CourierTrack.Time
open CourierTrack.Channel
open CourierTrack.Courier
open CourierTrack.Proofs.ChannelConservation
open CourierTrack.Proofs.ChannelTurns
open CourierTrack.Proofs.CourierBooks
open CourierTrack.Proofs.CourierSteps
open CourierTrack.Proofs.FrameReadback
open CourierTrack.Proofs.InboundTexts
open CourierTrack.Proofs.RelayLink
open CourierTrack.Proofs.TrailCollapse

variable {d : Desk} {m : Move} {moves : List Move} {entries : List Entry} {last : Option Point}
  {handled sent : List Frame} {signal : Signal} {now : Reading}

/-! Counting -/

/-- Whether `last` is the point that a courier sent last. -/
def EndsWith (c : Courier) (last : Option Point) : Prop :=
  ∀ point, c.delivery.trail.endsAt point = last.any (· == point)

theorem endsWith_handle {c : Courier} (h : EndsWith c last) (now : Reading) (event : Event) :
    EndsWith (c.handle now event) last := by
  intro point
  obtain ⟨_, _, _, _, hhandle⟩ := handle_eq c now event
  rw [hhandle]
  exact h point

theorem acked_handle {c : Courier} (h : EndsWith c last) (now : Reading) (event : Event)
    (rest : List Entry) :
    (c.handle now event).tally.acked + overtaken last (.handled event :: rest) =
      c.tally.acked + [Entry.handled event].countP Entry.isPosition + overtaken last rest := by
  cases event with
  | status _ => rfl
  | message frame =>
      cases frame with
      | position update =>
          simp only [Courier.handle, Courier.acknowledge, overtaken, h update.point]
          split
          · change c.tally.acked + 1 + (0 + overtaken last rest) = _
            rw [Nat.zero_add]
            rfl
          · rw [← Nat.add_assoc]
            rfl
      | _ => rfl

theorem acked_move (h : EndsWith d.courier last) (m : Move) :
    ∃ last', EndsWith (d.move m).2.courier last' ∧ ∀ rest,
      (d.move m).2.courier.tally.acked + overtaken last ((d.move m).1.toList ++ rest) =
        d.courier.tally.acked + (d.move m).1.toList.countP Entry.isPosition +
          overtaken last' rest := by
  have hquiet : ∃ last', EndsWith d.courier last' ∧ ∀ rest,
      d.courier.tally.acked + overtaken last ([] ++ rest) =
        d.courier.tally.acked + [].countP Entry.isPosition + overtaken last' rest :=
    ⟨last, h, fun _ => rfl⟩
  cases m with
  | offer sample now =>
      rw [Desk.move, Desk.offer, offer_eq]
      cases Gate.admits d.courier.gate.config d.courier.gate.last sample.point now with
      | true => exact ⟨some sample.point, fun _ => endsAt_push, fun _ => rfl⟩
      | false => exact ⟨last, h, fun _ => rfl⟩
  | hop point clock now => exact ⟨some point, fun _ => endsAt_push, fun _ => rfl⟩
  | handle event now => exact ⟨last, endsWith_handle h now event, acked_handle h now event⟩
  | read now =>
      rw [Desk.move]
      cases d.incoming with
      | nil => exact hquiet
      | cons event rest => exact ⟨last, endsWith_handle h now event, acked_handle h now event⟩
  | take written now =>
      rw [Desk.move]
      cases d.outgoing <;> exact hquiet
  | signal signal now => exact hquiet
  | echo now =>
      rw [Desk.move]
      split <;> exact hquiet
  | stored index ok =>
      rw [Desk.move]
      split <;> exact hquiet

/-- Every position that is handled is acknowledged or was overtaken. -/
theorem acked_play (h : EndsWith d.courier last) (moves : List Move) :
    (d.play moves).2.courier.tally.acked + overtaken last (d.play moves).1 =
      d.courier.tally.acked + (d.play moves).1.countP Entry.isPosition := by
  induction moves generalizing d last with
  | nil => rfl
  | cons m moves ih =>
      obtain ⟨last', hlast', hmove⟩ := acked_move h m
      have hrest := ih hlast'
      have hfirst := hmove ((d.move m).2.play moves).1
      simp only [Desk.play_cons, List.countP_append]
      omega

/-- The point that was sent last when `entries` had been made. -/
def lastPoint (last : Option Point) (entries : List Entry) : Option Point :=
  ((dispatches entries).getLast?.map (·.sample.point)).or last

theorem lastPoint_sent (last : Option Point) (dispatch : Dispatch) (entries : List Entry) :
    lastPoint last (.sent dispatch :: entries) =
      lastPoint (some dispatch.sample.point) entries := by
  change (((dispatch :: dispatches entries).getLast?).map _).or _ = _
  rw [List.getLast?_cons, lastPoint]
  cases (dispatches entries).getLast? <;> rfl

/-- Whether every position handled in `entries` was that of the point sent last by then. -/
def InTime (last : Option Point) (entries : List Entry) : Prop :=
  ∀ before update after, entries = before ++ .handled (.message (.position update)) :: after →
    (lastPoint last before).any (· == update.point) = true

theorem inTime_cons {entry : Entry} {next : Option Point}
    (hnext : ∀ before, lastPoint last (entry :: before) = lastPoint next before) :
    InTime last (entry :: entries) ↔
      (∀ update, entry = .handled (.message (.position update)) →
        last.any (· == update.point) = true) ∧ InTime next entries := by
  constructor
  · intro h
    constructor
    · rintro update rfl
      exact h [] update entries rfl
    · rintro before update after rfl
      rw [← hnext]
      exact h (entry :: before) update after rfl
  · rintro ⟨hfirst, hrest⟩ before update after hsplit
    cases before with
    | nil => exact hfirst update (List.cons.inj hsplit).1
    | cons head before =>
        obtain ⟨rfl, rfl⟩ := List.cons.inj hsplit
        rw [hnext]
        exact hrest before update after rfl

theorem overtaken_eq_zero_iff : overtaken last entries = 0 ↔ InTime last entries := by
  induction entries generalizing last with
  | nil => simp [overtaken, InTime]
  | cons entry entries ih =>
      have hother (h : ∀ update, entry ≠ .handled (.message (.position update)))
          (hnext : ∀ before, lastPoint last (entry :: before) = lastPoint last before) :
          overtaken last entries = 0 ↔ InTime last (entry :: entries) := by
        rw [inTime_cons hnext, ih]
        simp [h]
      cases entry with
      | sent dispatch =>
          rw [inTime_cons (lastPoint_sent last dispatch), overtaken, ih]
          simp
      | rejected => exact hother (by simp) fun _ => rfl
      | handled event =>
          cases event with
          | status _ => exact hother (by simp) fun _ => rfl
          | message frame =>
              cases frame with
              | position update =>
                  rw [inTime_cons fun _ => rfl, overtaken, Nat.add_eq_zero_iff, ih]
                  simp
              | _ => exact hother (by simp) fun _ => rfl

/-! Conservation -/

/-- Whether a frame carries a position that reads back. -/
def IsSoundPosition (frame : Frame) : Prop :=
  ∃ update, frame = .position update ∧ Sound update.point

theorem isSoundPosition_atPosition {point : Point} (h : Sound point) (status : Option String)
    (captured : Option Instant) : IsSoundPosition (.atPosition point status captured) :=
  ⟨_, rfl, h⟩

theorem IsSoundPosition.readsBack {frame : Frame} (h : IsSoundPosition frame) :
    ReadsBack frame := by
  obtain ⟨update, rfl, hsound⟩ := h
  exact decode_encode_position hsound

/-- Where the frames are that a courier sent: handled in the end, and before that told by the
channel, written, kept by the channel, or handed over to it. -/
structure Underway (handled sent : List Frame) (d : Desk) : Prop where
  settled : Settled d.channel
  present : d.channel.phase ≠ .gone
  positions : ∀ frame ∈ sent, IsSoundPosition frame
  flow : ∃ echoing, d.echoing = echoing.map Frame.encode ∧
    sent = handled ++ (messages d.incoming ++
      (echoing ++ (d.channel.machine.outbox ++ d.outgoing)))

/-- A turn of the channel moves frames on. -/
theorem underway_absorb {echoing : List Frame} (hsettled : Settled d.channel)
    (hpresent : d.channel.phase ≠ .gone) (hpositions : ∀ frame ∈ sent, IsSoundPosition frame)
    (hsignal : signal ≠ .abandoned) (hechoing : d.echoing = echoing.map Frame.encode)
    (hflow : sent = handled ++ (messages d.incoming ++ (decoded (d.channel.hearing signal) ++
      (echoing ++ (d.channel.machine.outbox ++ (taken d.channel [signal] ++ d.outgoing)))))) :
    Underway handled sent (d.absorb (d.channel.step now signal)) := by
  have t := turn_step now hsettled signal
  -- What is written now is a front of what the channel kept and took.
  obtain ⟨front, hwritten, hsplit⟩ := turn_conserves hsettled t
  refine ⟨t.settled hsettled, ?_, hpositions, echoing ++ front, ?_, ?_⟩
  · intro hgone
    rcases (gone_iff t).1 hgone with hphase | habandoned
    · exact hpresent hphase
    · exact hsignal habandoned
  · change d.echoing ++ written (d.channel.step now signal).1 = _
    rw [hwritten, hechoing, List.map_append]
  · change sent = handled ++ (messages (d.incoming ++ announced (d.channel.step now signal).1) ++
      (echoing ++ front ++ ((d.channel.step now signal).2.machine.outbox ++ d.outgoing)))
    rw [hflow, messages_append, turn_messages t]
    simp only [List.append_assoc]
    rw [← List.append_assoc front, hsplit, List.append_assoc]

theorem underway_dispatch (h : Underway handled sent d) (c : Courier) {dispatch : Dispatch}
    (hframe : IsSoundPosition dispatch.transmission.frame) :
    Underway (handled ++ handledFrames [.sent dispatch]) (sent ++ sentFrames [.sent dispatch])
      ({ d with courier := c }.dispatch dispatch.transmission) := by
  obtain ⟨hsettled, hpresent, hpositions, echoing, hechoing, hflow⟩ := h
  refine ⟨hsettled, hpresent, ?_, echoing, hechoing, ?_⟩
  · intro frame hmem
    rcases List.mem_append.1 hmem with hold | hnew
    · exact hpositions frame hold
    · rw [List.mem_singleton.1 hnew]
      exact hframe
  · change _ = handled ++ [] ++ (_ ++ (_ ++ (_ ++ (d.outgoing ++ [dispatch.transmission.frame]))))
    rw [hflow]
    simp only [List.append_assoc, List.nil_append]
    rfl

theorem underway_read {event : Event} {rest : List Event} (h : Underway handled sent d)
    (hincoming : d.incoming = event :: rest) (c : Courier) :
    Underway (handled ++ handledFrames [.handled event]) (sent ++ sentFrames [.handled event])
      { d with courier := c, incoming := rest } := by
  obtain ⟨hsettled, hpresent, hpositions, echoing, hechoing, hflow⟩ := h
  have hsent : sent ++ sentFrames [.handled event] = sent := List.append_nil sent
  rw [hsent]
  refine ⟨hsettled, hpresent, hpositions, echoing, hechoing, ?_⟩
  have hmessages : messages d.incoming = handledFrames [.handled event] ++ messages rest := by
    rw [hincoming]
    cases event <;> rfl
  rw [hflow, hmessages]
  simp only [List.append_assoc]

theorem underway_take {frame : Frame} {rest : List Frame} (h : Underway handled sent d)
    (houtgoing : d.outgoing = frame :: rest) (written : Bool) (now : Reading) :
    Underway handled sent
      ({ d with outgoing := rest }.absorb (d.channel.step now (.send frame written))) := by
  obtain ⟨hsettled, hpresent, hpositions, echoing, hechoing, hflow⟩ := h
  apply underway_absorb (d := { d with outgoing := rest }) hsettled hpresent hpositions (by simp)
    hechoing
  rw [hearing_eq_nil (by simp), taken_of_not_gone hpresent, hflow, houtgoing]
  rfl

theorem underway_signal (h : Underway handled sent d)
    (hm : (Move.signal signal now).keepsToOwn = true) :
    Underway handled sent (d.absorb (d.channel.step now signal)) := by
  obtain ⟨hsettled, hpresent, hpositions, echoing, hechoing, hflow⟩ := h
  have hsignal : signal ≠ .abandoned := by
    rintro rfl
    cases hm
  apply underway_absorb hsettled hpresent hpositions hsignal hechoing
  have htaken : taken d.channel [signal] = [] := by
    rw [taken_of_not_gone hpresent]
    cases signal <;> first | rfl | cases hm
  have hhearing : d.channel.hearing signal = [] := by
    apply hearing_eq_nil
    rintro text rfl
    cases hm
  rw [htaken, hhearing, hflow]
  rfl

theorem underway_echo {text : String} {rest : List String} (h : Underway handled sent d)
    (hlive : d.channel.phase = .live) (htexts : d.echoing = text :: rest) (now : Reading) :
    Underway handled sent
      ({ d with echoing := rest }.absorb (d.channel.step now (.received text))) := by
  obtain ⟨hsettled, hpresent, hpositions, echoing, hechoing, hflow⟩ := h
  rw [htexts] at hechoing
  -- The text is that of a frame that was sent, so it is announced as this frame.
  obtain ⟨frame, echoing, rfl, rfl, rfl⟩ := List.map_eq_cons_iff.1 hechoing.symm
  have hreads : ReadsBack frame := (hpositions frame (by rw [hflow]; simp)).readsBack
  have hdecoded : decoded ([frame].map Frame.encode) = [frame] :=
    decoded_encode (by simpa using hreads)
  apply underway_absorb (d := { d with echoing := echoing.map Frame.encode }) hsettled hpresent
    hpositions (by simp) rfl
  rw [hearing_of_live hlive, taken_of_not_gone hpresent, hflow]
  change _ = handled ++ (_ ++ (decoded ([frame].map Frame.encode) ++ _))
  rw [hdecoded]
  rfl

theorem underway_move (h : Underway handled sent d) (hm : m.keepsToOwn = true)
    (hsound : ∀ sample, m.sample? = some sample → Sound sample.point) :
    Underway (handled ++ handledFrames (d.move m).1.toList)
      (sent ++ sentFrames (d.move m).1.toList) (d.move m).2 := by
  have hsilent {e : Desk} (he : Underway handled sent e) :
      Underway (handled ++ []) (sent ++ []) e := by
    rw [List.append_nil, List.append_nil]
    exact he
  cases m with
  | offer sample now =>
      rw [Desk.move, Desk.offer, offer_eq]
      cases Gate.admits d.courier.gate.config d.courier.gate.last sample.point now with
      | true => exact underway_dispatch h _ (isSoundPosition_atPosition (hsound sample rfl) _ _)
      | false =>
          obtain ⟨hsettled, hpresent, hpositions, hflow⟩ := h
          exact hsilent ⟨hsettled, hpresent, hpositions, hflow⟩
  | hop point clock now =>
      exact underway_dispatch h _ (isSoundPosition_atPosition (hsound _ rfl) _ _)
  | handle event now => cases hm
  | read now =>
      rw [Desk.move]
      cases hincoming : d.incoming with
      | nil => exact hsilent h
      | cons event rest => exact underway_read h hincoming (d.courier.handle now event)
  | take written now =>
      rw [Desk.move]
      cases houtgoing : d.outgoing with
      | nil => exact hsilent h
      | cons frame rest => exact hsilent (underway_take h houtgoing written now)
  | signal signal now => exact hsilent (underway_signal h hm)
  | echo now =>
      rw [Desk.move]
      split
      · rename_i text rest hlive htexts
        exact hsilent (underway_echo h hlive htexts now)
      · exact hsilent h
  | stored index ok =>
      rw [Desk.move]
      split
      · exact hsilent h
      · obtain ⟨hsettled, hpresent, hpositions, hflow⟩ := h
        exact hsilent ⟨hsettled, hpresent, hpositions, hflow⟩

theorem underway_play (h : Underway handled sent d) (hown : ∀ m ∈ moves, m.keepsToOwn = true)
    (hsound : ∀ m ∈ moves, ∀ sample, m.sample? = some sample → Sound sample.point) :
    Underway (handled ++ handledFrames (d.play moves).1) (sent ++ sentFrames (d.play moves).1)
      (d.play moves).2 := by
  induction moves generalizing handled sent d with
  | nil =>
      change Underway (handled ++ []) (sent ++ []) d
      rw [List.append_nil, List.append_nil]
      exact h
  | cons m moves ih =>
      obtain ⟨hm, hown⟩ := List.forall_mem_cons.1 hown
      obtain ⟨hpoint, hsound⟩ := List.forall_mem_cons.1 hsound
      have hrest := ih (underway_move h hm hpoint) hown hsound
      rw [List.append_assoc, List.append_assoc] at hrest
      simp only [Desk.play_cons, handledFrames, sentFrames, dispatches_append,
        List.filterMap_append, List.map_append]
      exact hrest

theorem countP_isPosition (h : ∀ frame ∈ handledFrames entries, IsSoundPosition frame) :
    entries.countP Entry.isPosition = (handledFrames entries).length := by
  rw [handledFrames, List.length_filterMap_eq_countP]
  apply List.countP_congr
  intro entry hentry
  cases entry with
  | handled event =>
      cases event with
      | status _ => simp [Entry.isPosition, Entry.message?, Event.message?]
      | message frame =>
          obtain ⟨update, rfl, -⟩ := h frame (List.mem_filterMap.2 ⟨_, hentry, rfl⟩)
          exact Iff.rfl
  | _ => simp [Entry.isPosition, Entry.message?]

/-- The frames that a courier handles while it is alone on the relay are those that it sent, in
order and from the first on, and all of them when nothing is on its way. Each of them is
acknowledged if the point that was sent last by then is the same, and not otherwise. -/
theorem acknowledges_unless_overtaken (id : DeliveryId) (config : Courier.Config) (stores : Bool)
    (backoff : Backoff) (moves : List Move) (hown : ∀ m ∈ moves, m.keepsToOwn = true)
    (hsound : ∀ m ∈ moves, ∀ sample, m.sample? = some sample → Sound sample.point) :
    let run := (Desk.opening (.ofConfig id config stores) (.ofBackoff backoff)).play moves
    handledFrames run.1 <+: sentFrames run.1 ∧
      (run.2.isQuiet = true → handledFrames run.1 = sentFrames run.1) ∧
      run.2.courier.tally.acked + overtaken none run.1 = (handledFrames run.1).length ∧
      (run.2.courier.tally.acked = (handledFrames run.1).length ↔
        ∀ before update after,
          run.1 = before ++ .handled (.message (.position update)) :: after →
            ∃ dispatch, (dispatches before).getLast? = some dispatch ∧
              (dispatch.sample.point == update.point) = true) := by
  intro run
  let start : Desk := .opening (.ofConfig id config stores) (.ofBackoff backoff)
  have hstart : Underway [] [] start :=
    ⟨settled_ofBackoff backoff, by simp [start, Desk.opening, ofBackoff], by simp, [], rfl, rfl⟩
  have hend : Underway (handledFrames run.1) (sentFrames run.1) run.2 :=
    underway_play hstart hown hsound
  obtain ⟨-, -, hpositions, echoing, hechoing, hflow⟩ := hend
  have hcount : run.2.courier.tally.acked + overtaken none run.1 =
      (handledFrames run.1).length := by
    have hends : EndsWith start.courier none := fun _ => rfl
    have hacked := acked_play hends moves
    rw [← countP_isPosition fun frame hframe => hpositions frame (by rw [hflow]; simp [hframe])]
    exact hacked.trans (Nat.zero_add _)
  refine ⟨⟨_, hflow.symm⟩, ?_, hcount, ?_⟩
  · intro hquiet
    simp only [Desk.isQuiet, Bool.and_eq_true, List.isEmpty_iff] at hquiet
    obtain ⟨⟨⟨houtgoing, houtbox⟩, htexts⟩, hincoming⟩ := hquiet
    rw [htexts] at hechoing
    rw [hflow, hincoming, houtbox, houtgoing, List.map_eq_nil_iff.1 hechoing.symm]
    exact (List.append_nil _).symm
  · have hnone : run.2.courier.tally.acked = (handledFrames run.1).length ↔
        overtaken none run.1 = 0 := by omega
    rw [hnone, overtaken_eq_zero_iff]
    simp only [InTime, lastPoint, Option.or_none, Option.any_map, Option.any_eq_true]

/-- A waypoint is sent before the connection is there to send the fix before it. -/
def hastyJourney : List Move :=
  [.offer ⟨⟨52.5, 13.25⟩, none, .epoch⟩ 5, .hop ⟨52.25, 13.5⟩ .epoch 6, .signal .connect 7,
    .take true 7, .take true 7, .signal (.accepted none) 8, .echo 9, .echo 9, .read 9, .read 9,
    .read 9, .read 9]

theorem hastyJourney_sound :
    ∀ m ∈ hastyJourney, ∀ sample, m.sample? = some sample → Sound sample.point := by
  intro m hm sample hsample
  simp only [hastyJourney, List.mem_cons, List.not_mem_nil, or_false] at hm
  rcases hm with rfl | rfl | rfl | rfl | rfl | rfl | rfl | rfl | rfl | rfl | rfl | rfl <;>
    simp only [Move.sample?, reduceCtorEq, Option.some.injEq] at hsample
  · subst hsample
    exact ⟨by decide +kernel, rfl, rfl⟩
  · subst hsample
    exact ⟨by decide +kernel, rfl, rfl⟩

theorem acknowledges_unless_overtaken_hasty :
    let run := (Desk.opening (.ofConfig 7 {} false) (.ofBackoff {})).play hastyJourney
    run.2.isQuiet = true ∧ handledFrames run.1 = sentFrames run.1 ∧
      run.2.courier.tally.acked + 1 = (handledFrames run.1).length := by
  intro run
  have hquiet : run.2.isQuiet = true := by decide +kernel
  obtain ⟨-, hall, hcount, -⟩ := acknowledges_unless_overtaken 7 {} false {} hastyJourney
    (by decide) hastyJourney_sound
  exact ⟨hquiet, hall hquiet, hcount⟩

/-- The two positions come back one by one, and only the second one is acknowledged. -/
theorem acked_ne_handled_hasty :
    let run := (Desk.opening (.ofConfig 7 {} false) (.ofBackoff {})).play hastyJourney
    (∀ m ∈ hastyJourney, m.keepsToOwn = true) ∧ run.2.isQuiet = true ∧
      (handledFrames run.1).length = 2 ∧ run.2.courier.tally.sent = 2 ∧
      run.2.courier.tally.acked = 1 := by
  decide +kernel

end CourierTrack.Proofs.Acknowledgements
