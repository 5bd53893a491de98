import Mathlib.Data.List.Basic
import Mathlib.Data.List.Forall2
import CourierTrack.Courier.Task.Run
import CourierTrack.Proofs.CourierSteps
/-!
A walk sends the waypoints of its route from the first on, one for each tick, whatever the channel
tells meanwhile. `Takes` is all that a choice can do to a walk that goes on.
-/

namespace CourierTrack.Proofs.WalkedRoutes

open CourierTrack.Time
open CourierTrack.Courier
open CourierTrack.Proofs.CourierSteps

variable {c e : Courier} {o p : Outing} {route ahead : List Point} {start due : Reading}
  {walked : Nat} {choice : Choice} {past : List Choice} {coming : List Channel.Event}
  {sent more : List (Reading × Transmission)}

/-- How a waypoint is sent, at whichever time of day. -/
def Shows (c : Courier) (point : Point) (transmission : Transmission) : Prop :=
  ∃ clock, transmission =
    ⟨.atPosition point (some "demo") (some clock),
      if c.stores then some ⟨c.delivery.id, point, "demo"⟩ else none⟩

/-- What of a courier decides how it sends waypoints. -/
structure SameSender (c e : Courier) : Prop where
  id : e.delivery.id = c.delivery.id
  stores : e.stores = c.stores
  config : e.config = c.config

theorem SameSender.trans {f : Courier} (h : SameSender c e) (h' : SameSender e f) :
    SameSender c f :=
  ⟨h'.id.trans h.id, h'.stores.trans h.stores, h'.config.trans h.config⟩

theorem SameSender.symm (h : SameSender c e) : SameSender e c :=
  ⟨h.id.symm, h.stores.symm, h.config.symm⟩

theorem sameSender_handle (c : Courier) (now : Reading) (event : Channel.Event) :
    SameSender c (c.handle now event) ∧ (c.handle now event).tally.sent = c.tally.sent := by
  obtain ⟨status, lastAcked, acked, lastError, hhandle⟩ := handle_eq c now event
  rw [hhandle]
  exact ⟨⟨rfl, rfl, rfl⟩, rfl⟩

theorem sameSender_hop (c : Courier) (point : Point) (clock : Instant) (now : Reading) :
    SameSender c (c.hop point clock now).2 ∧
      (c.hop point clock now).2.tally.sent = c.tally.sent + 1 :=
  ⟨⟨rfl, rfl, rfl⟩, rfl⟩

theorem hop_of_sameSender (h : SameSender c e) (point : Point) (clock : Instant) (now : Reading) :
    (e.hop point clock now).1 = (c.hop point clock now).1 := by
  simp only [Courier.hop, Courier.transmit, h.id, h.stores]

theorem shows_hop (h : SameSender c e) (point : Point) (clock : Instant) (now : Reading) :
    Shows c point (e.hop point clock now).1 := by
  rw [hop_of_sameSender h]
  exact ⟨clock, rfl⟩

theorem le_nextTick (tick : Span) (due now : Reading) : due + tick ≤ nextTick tick due now := by
  unfold nextTick
  split
  · rename_i hlate
    apply Nat.add_le_add_right
    exact Nat.le_trans (Nat.le_add_right due tickSlack) (Nat.le_of_lt hlate)
  · exact Nat.le_refl _

/-- What a choice does to a walk with some waypoints ahead. -/
inductive Takes (o : Outing) (due : Reading) (walked : Nat) :
    List Point → Choice → List (Reading × Transmission) → Outing → Prop where
  | waits (ahead : List Point) (span : Span) :
      Takes o due walked ahead (.wait span) [] { o with now := o.now + span }
  | early (ahead : List Point) (clock : Instant) (h : o.now < due) :
      Takes o due walked ahead (.tick clock) [] o
  | hears (ahead : List Point) {event : Channel.Event} {rest : List Channel.Event}
      (h : o.coming = event :: rest) :
      Takes o due walked ahead .event []
        { o with courier := o.courier.handle o.now event, coming := rest }
  | strides (point : Point) (ahead : List Point) (clock : Instant) (h : due ≤ o.now) :
      Takes o due walked (point :: ahead) (.tick clock)
        [(o.now, (o.courier.hop point clock o.now).1)]
        { o with
          task := .walking (nextTick o.courier.config.tick due o.now) ahead (walked + 1)
          courier := (o.courier.hop point clock o.now).2 }
  | arrives (clock : Instant) (h : due ≤ o.now) :
      Takes o due walked [] (.tick clock) [] { o with task := .finished walked }
  | cancels (ahead : List Point) :
      Takes o due walked ahead .cancel [] { o with task := .finished walked }
  | deserted (ahead : List Point) (h : o.coming = []) :
      Takes o due walked ahead .event [] { o with task := .finished walked }

theorem choose_tick_of_lt (hnow : o.now < due) (htask : o.task = .walking due ahead walked)
    (clock : Instant) : o.choose (.tick clock) = ([], o) := by
  have hnot : ¬ due ≤ o.now := Nat.not_le_of_lt hnow
  simp [Outing.choose, Outing.cue?, Outing.after, Task.isOver, Task.due?, htask, hnot]

theorem choose_tick_nil (hnow : due ≤ o.now) (htask : o.task = .walking due [] walked)
    (clock : Instant) : o.choose (.tick clock) = ([], { o with task := .finished walked }) := by
  simp [Outing.choose, Outing.cue?, Task.isOver, Task.due?, htask, hnow, Courier.step,
    Courier.elapse]

theorem choose_tick_cons {point : Point} (hnow : due ≤ o.now)
    (htask : o.task = .walking due (point :: ahead) walked) (clock : Instant) :
    o.choose (.tick clock) =
      ([(o.now, (o.courier.hop point clock o.now).1)],
        { o with
          task := .walking (nextTick o.courier.config.tick due o.now) ahead (walked + 1)
          courier := (o.courier.hop point clock o.now).2 }) := by
  simp [Outing.choose, Outing.cue?, Task.isOver, Task.due?, htask, hnow, Courier.step,
    Courier.elapse]
  rfl

theorem takes_choose (htask : o.task = .walking due ahead walked) (choice : Choice) :
    Takes o due walked ahead choice (o.choose choice).1 (o.choose choice).2 := by
  obtain ⟨now, task, courier, coming⟩ := o
  obtain rfl : task = .walking due ahead walked := htask
  cases choice with
  | wait span => exact .waits ahead span
  | cancel => exact .cancels ahead
  | event =>
    cases coming with
    | nil => exact .deserted ahead rfl
    | cons event rest => exact .hears ahead rfl
  | tick clock =>
      by_cases hnow : due ≤ now
      · cases ahead with
        | nil =>
            rw [choose_tick_nil hnow rfl]
            exact .arrives clock hnow
        | cons point ahead =>
            rw [choose_tick_cons hnow rfl]
            exact .strides point ahead clock hnow
      · have hlt : now < due := Nat.lt_of_not_le hnow
        rw [choose_tick_of_lt hlt rfl]
        exact .early ahead clock hlt

theorem choose_of_over (hover : o.task.isOver = true) (choice : Choice) :
    o.choose choice = ([], o) :=
  if_pos hover

theorem run_of_over (hover : o.task.isOver = true) (choices : List Choice) :
    o.run choices = ([], o) := by
  induction choices with
  | nil => rfl
  | cons choice rest ih => simp only [Outing.run, choose_of_over hover, ih, List.append_nil]

/-! Whole runs -/

/-- How far a walk has come: on its way, or over. -/
inductive Stage (route : List Point) (start : Reading) (tick : Span) : Task → Prop where
  | going {due : Reading} {walked : Nat} (hwalked : walked ≤ route.length)
      (hdue : start + walked * tick ≤ due) :
      Stage route start tick (.walking due (route.drop walked) walked)
  | ended {walked : Nat} (hwalked : walked ≤ route.length) :
      Stage route start tick (.finished walked)

/-- Whether a walk was cancelled, or has heard all that the channel had to tell and its end. -/
def Stopped (coming : List Channel.Event) (past : List Choice) : Prop :=
  .cancel ∈ past ∨ coming.length < past.count .event

/-- How an outing stands that made some choices and sent some waypoints. -/
structure Strides (c : Courier) (route : List Point) (start : Reading)
    (coming : List Channel.Event) (past : List Choice) (sent : List (Reading × Transmission))
    (o : Outing) : Prop where
  stage : Stage route start c.config.tick o.task
  sender : SameSender c o.courier
  tally : o.courier.tally.sent = c.tally.sent + o.task.walked
  shown : List.Forall₂ (Shows c) (route.take o.task.walked) (sent.map Prod.snd)
  times : List.Forall₂ (fun i time => start + i * c.config.tick ≤ time)
    (List.range o.task.walked) (sent.map Prod.fst)
  going : o.task.isOver = false →
    ¬ Stopped coming past ∧ o.coming = coming.drop (past.count .event)
  ended : o.task.isOver = true → o.task.walked = route.length ∨ Stopped coming past

theorem stopped_append (coming : List Channel.Event) (past : List Choice) (choice : Choice) :
    Stopped coming (past ++ [choice]) ↔ Stopped coming past ∨ choice = .cancel ∨
      choice = .event ∧ coming.length ≤ past.count .event := by
  unfold Stopped
  cases choice with
  | event =>
      have hcount : coming.length < past.count .event + 1 ↔
          coming.length < past.count .event ∨ coming.length ≤ past.count .event := by omega
      simp [List.count_append, hcount, or_assoc]
  | _ => simp [List.count_append]

theorem Stage.walking {tick : Span} {task : Task} (h : Stage route start tick task)
    (hgoing : task.isOver = false) :
    ∃ due walked, task = .walking due (route.drop walked) walked ∧ walked ≤ route.length ∧
      start + walked * tick ≤ due := by
  cases h with
  | going hwalked hdue => exact ⟨_, _, rfl, hwalked, hdue⟩
  | ended hwalked => cases hgoing

theorem Stage.finished {tick : Span} {task : Task} (h : Stage route start tick task)
    (hover : task.isOver = true) : task = .finished task.walked := by
  cases h with
  | going hwalked hdue => cases hover
  | ended hwalked => rfl

/-- What leaves a walk where it is. -/
theorem Strides.aside (h : Strides c route start coming past sent o)
    (hgoing : o.task.isOver = false) (htask : p.task = o.task)
    (hsender : SameSender o.courier p.courier)
    (htally : p.courier.tally.sent = o.courier.tally.sent)
    (hrest : ¬ Stopped coming (past ++ [choice]) ∧
      p.coming = coming.drop ((past ++ [choice]).count .event)) :
    Strides c route start coming (past ++ [choice]) (sent ++ []) p := by
  rw [List.append_nil]
  constructor
  · exact htask ▸ h.stage
  · exact h.sender.trans hsender
  · rw [htally, htask, h.tally]
  · exact htask ▸ h.shown
  · exact htask ▸ h.times
  · exact fun _ => hrest
  · intro hover
    rw [htask, hgoing] at hover
    cases hover

/-- What ends a walk. -/
theorem Strides.finish (h : Strides c route start coming past sent o)
    (hwalked : o.task.walked = walked) (hlength : walked ≤ route.length)
    (hreason : walked = route.length ∨ Stopped coming (past ++ [choice])) :
    Strides c route start coming (past ++ [choice]) (sent ++ [])
      { o with task := .finished walked } := by
  subst hwalked
  rw [List.append_nil]
  constructor
  · exact .ended hlength
  · exact h.sender
  · exact h.tally
  · exact h.shown
  · exact h.times
  · nofun
  · exact fun _ => hreason

/-- The next waypoint. -/
theorem Strides.stride {point : Point} (h : Strides c route start coming past sent o)
    (htask : o.task = .walking due (route.drop walked) walked)
    (hahead : route.drop walked = point :: ahead) (hdue : start + walked * c.config.tick ≤ due)
    (hnow : due ≤ o.now) (clock : Instant) :
    Strides c route start coming (past ++ [.tick clock])
      (sent ++ [(o.now, (o.courier.hop point clock o.now).1)])
      { o with
        task := .walking (nextTick o.courier.config.tick due o.now) ahead (walked + 1)
        courier := (o.courier.hop point clock o.now).2 } := by
  have hwalked : o.task.walked = walked := by rw [htask]; rfl
  have hgoing : o.task.isOver = false := by rw [htask]; rfl
  have hlength : walked < route.length := by
    apply Nat.lt_of_not_le
    intro hle
    rw [List.drop_eq_nil_of_le hle] at hahead
    cases hahead
  obtain ⟨hpoint, hrest⟩ : route[walked] = point ∧ route.drop (walked + 1) = ahead := by
    rw [List.drop_eq_getElem_cons hlength] at hahead
    exact List.cons.inj hahead
  obtain ⟨hsender, htally⟩ := sameSender_hop o.courier point clock o.now
  obtain ⟨hnot, hcoming⟩ := h.going hgoing
  constructor
  · rw [← hrest, h.sender.config]
    apply Stage.going hlength
    calc start + (walked + 1) * c.config.tick
      _ = start + walked * c.config.tick + c.config.tick := by rw [Nat.succ_mul, Nat.add_assoc]
      _ ≤ due + c.config.tick := Nat.add_le_add_right hdue _
      _ ≤ _ := le_nextTick _ _ _
  · exact h.sender.trans hsender
  · show _ = _ + (walked + 1)
    rw [htally, h.tally, hwalked, Nat.add_assoc]
  · show List.Forall₂ _ (route.take (walked + 1)) _
    rw [List.take_succ_eq_append_getElem hlength, List.map_append]
    rw [hpoint]
    exact List.rel_append (hwalked ▸ h.shown) (.cons (shows_hop h.sender point clock o.now) .nil)
  · show List.Forall₂ _ (List.range (walked + 1)) _
    rw [List.range_succ, List.map_append]
    exact List.rel_append (hwalked ▸ h.times) (.cons (Nat.le_trans hdue hnow) .nil)
  · intro _
    refine ⟨?_, ?_⟩
    · simpa [stopped_append] using hnot
    · simpa [List.count_append] using hcoming
  · nofun

theorem Strides.choose (h : Strides c route start coming past sent o) (choice : Choice) :
    Strides c route start coming (past ++ [choice]) (sent ++ (o.choose choice).1)
      (o.choose choice).2 := by
  cases hover : o.task.isOver with
  | true =>
      rw [choose_of_over hover, List.append_nil]
      refine ⟨h.stage, h.sender, h.tally, h.shown, h.times, ?_, ?_⟩
      · intro hgoing
        rw [hover] at hgoing
        cases hgoing
      · intro _
        exact (h.ended hover).imp_right fun hstopped => (stopped_append ..).2 (.inl hstopped)
  | false =>
      obtain ⟨due, walked, htask, hlength, hdue⟩ := h.stage.walking hover
      obtain ⟨hnot, hcoming⟩ := h.going hover
      have hwalked : o.task.walked = walked := by rw [htask]; rfl
      have hstep := takes_choose htask choice
      have hself : SameSender o.courier o.courier := ⟨rfl, rfl, rfl⟩
      generalize hahead : route.drop walked = ahead at hstep
      generalize o.choose choice = turn at hstep ⊢
      obtain ⟨news, next⟩ := turn
      cases hstep with
      | waits _ span =>
          refine h.aside hover rfl hself rfl ?_
          simpa [stopped_append, List.count_append] using ⟨hnot, hcoming⟩
      | early _ clock =>
          refine h.aside hover rfl hself rfl ?_
          simpa [stopped_append, List.count_append] using ⟨hnot, hcoming⟩
      | @hears _ event rest hheard =>
          obtain ⟨hsender, htally⟩ := sameSender_handle o.courier o.now event
          refine h.aside hover rfl hsender htally ?_
          rw [hheard] at hcoming
          have hlt : past.count .event < coming.length := by
            apply Nat.lt_of_not_le
            intro hle
            rw [List.drop_eq_nil_of_le hle] at hcoming
            cases hcoming
          rw [List.drop_eq_getElem_cons hlt] at hcoming
          simp [stopped_append, List.count_append, hnot, hlt, (List.cons.inj hcoming).2]
      | strides point ahead clock hnow => exact h.stride htask hahead hdue hnow clock
      | arrives clock hnow =>
          refine h.finish hwalked hlength ?_
          exact .inl (Nat.le_antisymm hlength (List.drop_eq_nil_iff.1 hahead))
      | cancels =>
          refine h.finish hwalked hlength ?_
          exact .inr ((stopped_append ..).2 (.inr (.inl rfl)))
      | deserted _ hnone =>
          refine h.finish hwalked hlength ?_
          rw [hnone] at hcoming
          have hle : coming.length ≤ past.count .event := List.drop_eq_nil_iff.1 hcoming.symm
          exact .inr ((stopped_append ..).2 (.inr (.inr ⟨rfl, hle⟩)))

theorem Strides.run (h : Strides c route start coming past sent o) (choices : List Choice) :
    Strides c route start coming (past ++ choices) (sent ++ (o.run choices).1)
      (o.run choices).2 := by
  induction choices generalizing o past sent with
  | nil => simpa [Outing.run] using h
  | cons choice rest ih => simpa [Outing.run] using ih (h.choose choice)

/-! On an exact clock -/

/-- Two outings that differ in what they are told. -/
structure Twins (p o : Outing) : Prop where
  sender : SameSender o.courier p.courier
  now : p.now = o.now
  task : p.task = o.task
  untold : p.coming = []

/-- A choice that is open to both. -/
theorem Twins.choose (h : Twins p o) (hchoice : choice = .event → o.coming = []) :
    (p.choose choice).1 = (o.choose choice).1 ∧ Twins (p.choose choice).2 (o.choose choice).2 := by
  obtain ⟨now, task, courier, coming⟩ := p
  obtain ⟨_, _, courier', coming'⟩ := o
  obtain ⟨hsender, rfl, rfl, rfl⟩ := h
  have hconfig : courier.config = courier'.config := hsender.config
  cases choice with
  | wait span => cases task <;> exact ⟨rfl, hsender, rfl, rfl, rfl⟩
  | cancel => cases task <;> exact ⟨rfl, hsender, rfl, rfl, rfl⟩
  | event =>
      obtain rfl : coming' = [] := hchoice rfl
      cases task <;> exact ⟨rfl, hsender, rfl, rfl, rfl⟩
  | tick clock =>
    cases task with
    | following => exact ⟨rfl, hsender, rfl, rfl, rfl⟩
    | finished walked => exact ⟨rfl, hsender, rfl, rfl, rfl⟩
    | waiting due =>
        by_cases hnow : due ≤ now <;>
          simp [Outing.choose, Outing.cue?, Outing.after, Task.isOver, Task.due?, hnow,
            Courier.step, Courier.elapse] <;>
          exact ⟨hsender, rfl, rfl, rfl⟩
    | walking due ahead walked =>
        by_cases hnow : due ≤ now
        · cases ahead with
          | nil =>
              rw [choose_tick_nil hnow rfl, choose_tick_nil hnow rfl]
              exact ⟨rfl, hsender, rfl, rfl, rfl⟩
          | cons point ahead =>
              rw [choose_tick_cons hnow rfl, choose_tick_cons hnow rfl]
              have hafter := (sameSender_hop courier' point clock now).1.symm
              have hsender' := (hafter.trans hsender).trans
                (sameSender_hop courier point clock now).1
              simp only [hop_of_sameSender hsender, hconfig]
              exact ⟨trivial, hsender', rfl, rfl, rfl⟩
        · have hlt : now < due := Nat.lt_of_not_le hnow
          rw [choose_tick_of_lt hlt rfl, choose_tick_of_lt hlt rfl]
          exact ⟨rfl, hsender, rfl, rfl, rfl⟩

/-- What is heard makes no difference to a twin that does not hear it. -/
theorem Twins.hear {event : Channel.Event} {rest : List Channel.Event} (h : Twins p o)
    (hheard : o.coming = event :: rest) (hgoing : o.task.isOver = false) :
    (o.choose .event).1 = [] ∧ (o.choose .event).2.coming = rest ∧
      Twins p (o.choose .event).2 := by
  obtain ⟨now, task, courier, coming⟩ := o
  obtain rfl : coming = event :: rest := hheard
  have hsender := (sameSender_handle courier now event).1.symm.trans h.sender
  cases task with
  | finished walked => cases hgoing
  | _ => exact ⟨rfl, rfl, hsender, h.now, h.task, h.untold⟩

theorem coming_choose (hchoice : choice ≠ .event) : (o.choose choice).2.coming = o.coming := by
  obtain ⟨now, task, courier, coming⟩ := o
  cases choice with
  | event => exact absurd rfl hchoice
  | wait span => cases task <;> rfl
  | cancel => cases task <;> rfl
  | tick clock =>
      simp only [Outing.choose, Outing.cue?]
      split
      · rfl
      · split
        · rfl
        · rename_i heq
          split at heq
          · cases heq
            rfl
          · cases heq

theorem unheard_zero (choices : List Choice) : unheard 0 choices = choices := by
  cases choices <;> rfl

theorem unheard_cons (hchoice : choice ≠ .event) (count : Nat) (rest : List Choice) :
    unheard count (choice :: rest) = choice :: unheard count rest := by
  cases count with
  | zero => rw [unheard_zero, unheard_zero]
  | succ count =>
    cases choice with
    | event => exact absurd rfl hchoice
    | _ => rfl

theorem coming_choose_nil (hnone : o.coming = []) (choice : Choice) :
    (o.choose choice).2.coming = [] := by
  by_cases hchoice : choice = .event
  · subst hchoice
    obtain ⟨now, task, courier, coming⟩ := o
    obtain rfl : coming = [] := hnone
    cases task <;> rfl
  · rw [coming_choose hchoice, hnone]

theorem Twins.run (h : Twins p o) (choices : List Choice) :
    (p.run (unheard o.coming.length choices)).1 = (o.run choices).1 ∧
      Twins (p.run (unheard o.coming.length choices)).2 (o.run choices).2 := by
  induction choices generalizing o p with
  | nil => exact ⟨rfl, h⟩
  | cons choice rest ih =>
    by_cases hfree : choice = .event → o.coming = []
    · obtain ⟨hsent, hnext⟩ := h.choose hfree
      obtain ⟨hmore, hafter⟩ := ih hnext
      have hunheard : unheard o.coming.length (choice :: rest) =
          choice :: unheard (o.choose choice).2.coming.length rest := by
        by_cases hchoice : choice = .event
        · have hnone : o.coming = [] := hfree hchoice
          rw [coming_choose_nil hnone, hnone, List.length_nil, unheard_zero, unheard_zero]
        · rw [coming_choose hchoice, unheard_cons hchoice]
      rw [hunheard]
      simp only [Outing.run, hsent, hmore]
      exact ⟨trivial, hafter⟩
    · obtain ⟨rfl, hcoming⟩ := Classical.not_imp.1 hfree
      obtain ⟨event, more, hcoming⟩ := List.exists_cons_of_ne_nil hcoming
      cases hover : o.task.isOver with
      | true =>
          have hover' : p.task.isOver = true := h.task ▸ hover
          rw [run_of_over hover, run_of_over hover']
          exact ⟨rfl, h⟩
      | false =>
          obtain ⟨hsent, hrest, hnext⟩ := h.hear hcoming hover
          have hmore := ih hnext
          rw [hrest] at hmore
          rw [hcoming]
          simp only [List.length_cons, unheard, Outing.run, hsent, List.nil_append]
          exact hmore

/-- An event between two ticks, and the end a tick after the last waypoint. -/
example :
    let outing := Outing.start (.ofConfig 7 {} true) [⟨52.5, 13.25⟩, ⟨52.25, 13.5⟩] 100
      [.message (.status "delivered"), .message .hello]
    let (sent, o) := outing.run [.tick .epoch, .wait 400, .event, .wait (Span.millis 900 - 400),
      .tick .epoch, .wait (Span.millis 900), .tick .epoch, .cancel]
    sent.map Prod.fst = [100, 100 + Span.millis 900] ∧ o.task = .finished 2 ∧
      o.coming = [.message .hello] :=
  ⟨rfl, rfl, rfl⟩

end CourierTrack.Proofs.WalkedRoutes
