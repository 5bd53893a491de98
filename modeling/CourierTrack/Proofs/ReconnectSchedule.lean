import CourierTrack.Proofs.ChannelTurns
/-!
A channel that is not stopped tries again after each failure, when the backoff says and not before,
whatever else happens meanwhile. `Scheduled` is the timetable; it is followed turn by turn.
-/

namespace CourierTrack.Proofs.ReconnectSchedule

open CourierTrack.Time
open CourierTrack.Channel
open CourierTrack.Proofs.ChannelTurns

abbrev failure : Action := .announce (.status .reconnecting)

abbrev opening : Action := .announce (.status .live)

/-- What a channel looks forward to: the order to connect, the end of an attempt or a connection,
or its next attempt. -/
inductive Outlook where
  | unordered
  | busy
  | resting (due : Reading)

def Outlook.due? : Outlook → Option Reading
  | .resting due => some due
  | _ => none

def outlook : Phase → Outlook
  | .idle => .unordered
  | .pausing due => .resting due
  | _ => .busy

theorem due_outlook (c : Channel) : (outlook c.phase).due? = c.due? := by
  unfold Channel.due?
  cases c.phase <;> rfl

/-- Whether an action has nothing to do with the timetable. -/
def IsAside (a : Action) : Prop := a ≠ .attempt ∧ a ≠ failure ∧ a ≠ opening

/-- The timetable of a channel that has failed some times in a row. -/
inductive Scheduled (b : Backoff) : Nat → Outlook → List (Reading × Action) → Outlook → Prop where
  | nil (k : Nat) (o : Outlook) : Scheduled b k o [] o
  | first {k : Nat} {now : Reading} {rest : List (Reading × Action)} {p : Outlook}
      (tail : Scheduled b k .busy rest p) : Scheduled b k .unordered ((now, .attempt) :: rest) p
  | again {k : Nat} {due : Reading} {rest : List (Reading × Action)} {p : Outlook}
      (tail : Scheduled b k .busy rest p) :
      Scheduled b k (.resting due) ((due, .attempt) :: rest) p
  | failed {k : Nat} {now : Reading} {rest : List (Reading × Action)} {p : Outlook}
      (tail : Scheduled b (k + 1) (.resting (now + b.delay k)) rest p) :
      Scheduled b k .busy ((now, failure) :: rest) p
  | opened {k : Nat} {now : Reading} {rest : List (Reading × Action)} {p : Outlook}
      (tail : Scheduled b 0 .busy rest p) : Scheduled b k .busy ((now, opening) :: rest) p
  | aside {k : Nat} {o p : Outlook} {now : Reading} {a : Action}
      {rest : List (Reading × Action)} (h : IsAside a) (tail : Scheduled b k o rest p) :
      Scheduled b k o ((now, a) :: rest) p

variable {b : Backoff} {k : Nat} {o p : Outlook} {log before after : List (Reading × Action)}
  {now due : Reading} {a : Action} {actions : List Action}

theorem tally_aside (h : IsAside a) (k : Nat) : tally k a = k := by
  unfold tally
  split
  · exact absurd rfl h.2.2
  · exact absurd rfl h.2.1
  · rfl

theorem failuresFrom_cons_aside (h : IsAside a) :
    failuresFrom k ((now, a) :: log) = failuresFrom k log := by
  change failuresFrom (tally k a) log = _
  rw [tally_aside h]

theorem attempts_cons_aside (h : IsAside a) : attempts ((now, a) :: log) = attempts log := by
  refine List.filterMap_cons_none ?_
  split
  · rename_i heq
    exact absurd (Prod.mk.inj heq).2 h.1
  · rfl

theorem Scheduled.append {m : Outlook} (h : Scheduled b k o before m)
    (h' : Scheduled b (failuresFrom k before) m after p) : Scheduled b k o (before ++ after) p := by
  induction h with
  | nil k o => exact h'
  | first _ ih => exact .first (ih h')
  | again _ ih => exact .again (ih h')
  | failed _ ih => exact .failed (ih h')
  | opened _ ih => exact .opened (ih h')
  | aside haside _ ih =>
      rw [failuresFrom_cons_aside haside] at h'
      exact .aside haside (ih h')

/-- A timetable may be cut anywhere. -/
theorem Scheduled.split (h : Scheduled b k o (before ++ after) p) :
    ∃ m, Scheduled b k o before m ∧ Scheduled b (failuresFrom k before) m after p := by
  induction before generalizing k o with
  | nil => exact ⟨o, .nil k o, h⟩
  | cons entry rest ih =>
      cases h with
      | first tail =>
          obtain ⟨m, hrest, hafter⟩ := ih tail
          exact ⟨m, .first hrest, hafter⟩
      | again tail =>
          obtain ⟨m, hrest, hafter⟩ := ih tail
          exact ⟨m, .again hrest, hafter⟩
      | failed tail =>
          obtain ⟨m, hrest, hafter⟩ := ih tail
          exact ⟨m, .failed hrest, hafter⟩
      | opened tail =>
          obtain ⟨m, hrest, hafter⟩ := ih tail
          exact ⟨m, .opened hrest, hafter⟩
      | aside haside tail =>
          obtain ⟨m, hrest, hafter⟩ := ih tail
          refine ⟨m, .aside haside hrest, ?_⟩
          rw [failuresFrom_cons_aside haside]
          exact hafter

theorem Scheduled.asides (now : Reading) (h : ∀ a ∈ actions, IsAside a)
    (tail : Scheduled b k o log p) : Scheduled b k o (actions.map (now, ·) ++ log) p := by
  induction actions with
  | nil => exact tail
  | cons a rest ih =>
      refine .aside (h a List.mem_cons_self) (ih ?_)
      intro a' ha'
      exact h a' (List.mem_cons_of_mem a ha')

/-! What a timetable says of attempts -/

theorem Scheduled.next (h : Scheduled b k (.resting due) log p) :
    upcoming log p.due? = some due := by
  generalize ho : Outlook.resting due = o at h
  induction h with
  | nil k o =>
      subst ho
      rfl
  | again _ _ =>
      obtain rfl := Outlook.resting.inj ho
      rfl
  | aside haside _ ih =>
      rw [upcoming, attempts_cons_aside haside]
      exact ih ho
  | first _ _ => exact absurd ho (by simp)
  | failed _ _ => exact absurd ho (by simp)
  | opened _ _ => exact absurd ho (by simp)

theorem Scheduled.ordered (h : Scheduled b k o log p) (ho : o ≠ .unordered) : p ≠ .unordered := by
  induction h with
  | nil _ _ => exact ho
  | first _ ih => exact ih (by simp)
  | again _ ih => exact ih (by simp)
  | failed _ ih => exact ih (by simp)
  | opened _ ih => exact ih (by simp)
  | aside _ _ ih => exact ih ho

theorem Scheduled.attempts_of_unordered (h : Scheduled b k o log .unordered) :
    attempts log = [] := by
  generalize hp : Outlook.unordered = p at h
  induction h with
  | nil _ _ => rfl
  | aside haside _ ih =>
      rw [attempts_cons_aside haside]
      exact ih hp
  | first tail _ => exact absurd hp.symm (tail.ordered (by simp))
  | again tail _ => exact absurd hp.symm (tail.ordered (by simp))
  | failed tail _ => exact absurd hp.symm (tail.ordered (by simp))
  | opened tail _ => exact absurd hp.symm (tail.ordered (by simp))

/-- What makes an attempt due: a failure that no attempt has followed yet. -/
def Awaited (b : Backoff) (k : Nat) (log : List (Reading × Action)) (due : Reading) : Prop :=
  ∃ first t rest, log = first ++ (t, failure) :: rest ∧ attempts rest = [] ∧
    due = t + b.delay (failuresFrom k first)

theorem Awaited.cons (h : Awaited b (tally k a) log due) : Awaited b k ((now, a) :: log) due := by
  obtain ⟨first, t, rest, rfl, hnone, hdue⟩ := h
  exact ⟨(now, a) :: first, t, rest, rfl, hnone, hdue⟩

/-- A channel that rests at the end either waits for a failure of its own or has rested all
along. -/
theorem Scheduled.awaited (h : Scheduled b k o log (.resting due)) :
    (o = .resting due ∧ attempts log = []) ∨ Awaited b k log due := by
  generalize hp : Outlook.resting due = p at h
  induction h with
  | nil k o =>
      left
      exact ⟨rfl, rfl⟩
  | first _ ih =>
      rcases ih hp with ⟨hbusy, -⟩ | hawaited
      · cases hbusy.trans hp.symm
      · exact .inr (.cons hawaited)
  | again _ ih =>
      rcases ih hp with ⟨hbusy, -⟩ | hawaited
      · cases hbusy.trans hp.symm
      · exact .inr (.cons hawaited)
  | @failed k now rest p tail ih =>
      right
      rcases ih hp with ⟨hrest, hnone⟩ | hawaited
      · obtain rfl := Outlook.resting.inj (hrest.trans hp.symm)
        exact ⟨[], now, rest, rfl, hnone, rfl⟩
      · exact .cons hawaited
  | opened _ ih =>
      rcases ih hp with ⟨hbusy, -⟩ | hawaited
      · cases hbusy.trans hp.symm
      · exact .inr (.cons hawaited)
  | aside haside _ ih =>
      rw [attempts_cons_aside haside]
      rcases ih hp with hrested | hawaited
      · exact .inl hrested
      · right
        apply Awaited.cons
        rwa [tally_aside haside]

/-! How a channel follows it -/

/-- What a channel remembers of its failures. -/
structure Counts (b : Backoff) (k : Nat) (c : Channel) : Prop where
  backoff : c.machine.backoff = b
  retries : c.machine.retries = min k Machine.maxRetries

theorem failuresFrom_append (k : Nat) (before after : List (Reading × Action)) :
    failuresFrom k (before ++ after) = failuresFrom (failuresFrom k before) after :=
  List.foldl_append

theorem failuresFrom_asides (now : Reading) (h : ∀ a ∈ actions, IsAside a) :
    failuresFrom k (actions.map (now, ·) ++ log) = failuresFrom k log := by
  induction actions with
  | nil => rfl
  | cons a rest ih =>
      rw [List.map_cons, List.cons_append, failuresFrom_cons_aside (h a List.mem_cons_self)]
      apply ih
      intro a' ha'
      exact h a' (List.mem_cons_of_mem a ha')

theorem isAside_connecting : IsAside (.announce (.status .connecting)) := by simp [IsAside]

theorem isAside_write (text : String) : IsAside (.write text) := by simp [IsAside]

theorem isAside_release : IsAside .release := by simp [IsAside]

theorem isAside_inbound (text : String) : ∀ a ∈ inbound text, IsAside a := by
  intro a ha
  unfold inbound at ha
  split at ha
  · obtain rfl := List.mem_singleton.1 ha
    simp [IsAside]
  · cases ha

theorem isAside_writes (frames : List Frame) :
    ∀ a ∈ frames.map fun f => Action.write f.encode, IsAside a := by
  intro a ha
  obtain ⟨f, -, rfl⟩ := List.mem_map.1 ha
  exact isAside_write f.encode

/-- Whether a channel comes by a timetable and has counted the failures on it. -/
structure Keeps (b : Backoff) (k : Nat) (o : Outlook) (log : List (Reading × Action))
    (d : Channel) : Prop where
  scheduled : Scheduled b k o log (outlook d.phase)
  counts : Counts b (failuresFrom k log) d

theorem Keeps.aside {d : Channel} (h : IsAside a) (tail : Keeps b k o log d) :
    Keeps b k o ((now, a) :: log) d := by
  refine ⟨.aside h tail.scheduled, ?_⟩
  rw [failuresFrom_cons_aside h]
  exact tail.counts

theorem Keeps.asides {d : Channel} (now : Reading) (h : ∀ a ∈ actions, IsAside a)
    (tail : Keeps b k o log d) : Keeps b k o (actions.map (now, ·) ++ log) d := by
  refine ⟨tail.scheduled.asides now h, ?_⟩
  rw [failuresFrom_asides now h]
  exact tail.counts

theorem Keeps.opened {d : Channel} (tail : Keeps b 0 .busy log d) :
    Keeps b k .busy ((now, opening) :: log) d :=
  ⟨.opened tail.scheduled, tail.counts⟩

theorem keeps_nil {c : Channel} (h : Counts b k c) (hphase : outlook c.phase = o) :
    Keeps b k o [] c := by
  subst hphase
  exact ⟨.nil _ _, h⟩

theorem keeps_failure {m : Machine} (now : Reading) (hbackoff : m.backoff = b)
    (hretries : m.retries = min k Machine.maxRetries) :
    Keeps b k .busy [(now, failure)] (backingOff now m) := by
  have hbound : 32 ≤ Machine.maxRetries := by decide
  have hdue : outlook (backingOff now m).phase = .resting (now + b.delay k) := by
    change Outlook.resting (now + m.backoff.delay m.retries) = _
    rw [hbackoff, hretries, b.delay_min hbound]
  constructor
  · rw [hdue]
    exact .failed (.nil _ _)
  · refine ⟨hbackoff, ?_⟩
    change min (m.retries + 1) Machine.maxRetries = min (k + 1) Machine.maxRetries
    omega

theorem turn_keeps {c d : Channel} {signal : Signal} (t : Turn now c signal actions d)
    (hstay : signal ≠ .stop ∧ signal ≠ .abandoned) (hdue : ∀ due, c.due? = some due → now ≤ due)
    (h : Counts b k c) : Keeps b k (outlook c.phase) (actions.map (now, ·)) d := by
  cases t with
  | ignored _ => exact keeps_nil h rfl
  | kept _ _ => exact keeps_nil ⟨h.backoff, h.retries⟩ rfl
  | begun hheeds hsignal =>
      refine .aside isAside_connecting ⟨?_, h.backoff, h.retries⟩
      rcases hsignal with rfl | rfl
      · replace hheeds : c.phase = .idle := hheeds
        rw [hheeds]
        exact .first (.nil _ _)
      · -- The timer neither works early nor is it late.
        obtain ⟨due, hphase, hpast⟩ := hheeds
        have hnow : now ≤ due := hdue due (by rw [Channel.due?, hphase])
        obtain rfl : due = now := Nat.le_antisymm hpast hnow
        rw [hphase]
        exact .again (.nil _ _)
  | refused hphase =>
      rw [hphase]
      exact keeps_failure now h.backoff h.retries
  | entered hphase _ =>
      have hstart : Counts b 0 (waiting (opened c.machine) .live) := ⟨h.backoff, rfl⟩
      have hwrites := (keeps_nil hstart rfl).asides now (isAside_writes c.machine.outbox)
      rw [List.append_nil] at hwrites
      rw [hphase]
      exact hwrites.opened
  | broken hphase front rest _ _ _ =>
      -- The failure comes after the opening, so it is the first one again.
      have hfailed : Keeps b 0 .busy [(now, failure)]
          (backingOff now { opened c.machine with outbox := rest }) :=
        keeps_failure now h.backoff rfl
      have hreleased : Keeps b 0 .busy [(now, .release), (now, failure)] _ :=
        hfailed.aside isAside_release
      have hwrites := hreleased.asides now (isAside_writes front)
      rw [hphase, List.cons_append, List.map_cons, List.map_append]
      exact hwrites.opened
  | wrote _ => exact .aside (isAside_write _) (keeps_nil h rfl)
  | unwritten hphase =>
      rw [hphase]
      exact .aside isAside_release (keeps_failure now h.backoff h.retries)
  | @heard text _ =>
      have hinbound := (keeps_nil h rfl).asides now (isAside_inbound text)
      rwa [List.append_nil] at hinbound
  | dropped hphase =>
      rw [hphase]
      exact .aside isAside_release (keeps_failure now h.backoff h.retries)
  | closedDown _ => exact absurd rfl hstay.1
  | halted _ => exact absurd rfl hstay.1
  | cancelled _ => exact absurd rfl hstay.1
  | left _ => exact absurd rfl hstay.2

theorem run_scheduled {c : Channel} {signals : List (Reading × Signal)} (hsettled : Settled c)
    (h : Counts b k c) (hstaying : ∀ s ∈ signals, s.2 ≠ .stop ∧ s.2 ≠ .abandoned)
    (hpunctual : c.isPunctual signals = true) :
    Scheduled b k (outlook c.phase) (c.log signals) (outlook (c.run signals).2.phase) := by
  induction signals generalizing c k with
  | nil => exact .nil _ _
  | cons head rest ih =>
      obtain ⟨now, signal⟩ := head
      obtain ⟨hdue, hrest⟩ := Bool.and_eq_true_iff.1 hpunctual
      have hintime : ∀ due, c.due? = some due → now ≤ due := by
        intro due heq
        rw [heq] at hdue
        exact of_decide_eq_true hdue
      have t := turn_step now hsettled signal
      have hturn := turn_keeps t (hstaying _ List.mem_cons_self) hintime h
      have hlater := ih (t.settled hsettled) hturn.counts
        (fun s hs => hstaying s (List.mem_cons_of_mem _ hs)) hrest
      exact hturn.scheduled.append hlater

theorem turn_idle {c d : Channel} {signal : Signal} (t : Turn now c signal actions d)
    (hidle : c.phase = .idle) (hstay : signal ≠ .stop ∧ signal ≠ .abandoned) :
    (signal = .connect ∧ actions = [.announce (.status .connecting), .attempt]) ∨
      (signal ≠ .connect ∧ actions = [] ∧ d.phase = .idle) := by
  have hnot {phase : Phase} (h : c.phase = phase) (hphase : phase ≠ .idle) : False :=
    hphase (h.symm.trans hidle)
  cases t with
  | ignored hpast =>
      right
      refine ⟨?_, rfl, hidle⟩
      rintro rfl
      exact hpast hidle
  | kept _ _ =>
      right
      exact ⟨by simp, rfl, hidle⟩
  | begun hheeds hsignal =>
      left
      rcases hsignal with rfl | rfl
      · exact ⟨rfl, rfl⟩
      · obtain ⟨due, hphase, -⟩ := hheeds
        exact (hnot hphase (by simp)).elim
  | closedDown _ => exact absurd rfl hstay.1
  | halted _ => exact absurd rfl hstay.1
  | cancelled _ => exact absurd rfl hstay.1
  | left _ => exact absurd rfl hstay.2
  | refused h => exact (hnot h (by simp)).elim
  | entered h _ => exact (hnot h (by simp)).elim
  | broken h _ _ _ _ _ => exact (hnot h (by simp)).elim
  | wrote h => exact (hnot h (by simp)).elim
  | unwritten h => exact (hnot h (by simp)).elim
  | heard h => exact (hnot h (by simp)).elim
  | dropped h => exact (hnot h (by simp)).elim

theorem orders_cons (signal : Signal) (rest : List (Reading × Signal)) (h : signal ≠ .connect) :
    orders ((now, signal) :: rest) = orders rest := by
  refine List.filterMap_cons_none ?_
  split
  · rename_i heq
    exact absurd (Prod.mk.inj heq).2 h
  · rfl

theorem first_attempt {c : Channel} {signals : List (Reading × Signal)} (hsettled : Settled c)
    (hidle : c.phase = .idle) (hstaying : ∀ s ∈ signals, s.2 ≠ .stop ∧ s.2 ≠ .abandoned) :
    (attempts (c.log signals)).head? = (orders signals).head? := by
  induction signals generalizing c with
  | nil => rfl
  | cons head rest ih =>
      obtain ⟨now, signal⟩ := head
      have t := turn_step now hsettled signal
      rcases turn_idle t hidle (hstaying _ List.mem_cons_self) with
        ⟨rfl, hactions⟩ | ⟨hsignal, hactions, hphase⟩
      · rw [Channel.log, hactions]
        rfl
      · rw [Channel.log, hactions, orders_cons signal rest hsignal]
        exact ih (t.settled hsettled) hphase fun s hs => hstaying s (List.mem_cons_of_mem _ hs)

/-- The timetable of the reconnects of a run that began at `idle` and that ends with a channel
that is due at a certain time. -/
structure KeepsSchedule (backoff : Backoff) (signals : List (Reading × Signal))
    (log : List (Reading × Action)) (due : Option Reading) : Prop where
  /-- The first attempt begins at the order to connect. -/
  first : (attempts log).head? = (orders signals).head?
  /-- After a failure the next attempt begins, or is due, when the backoff says. -/
  next : ∀ before t after, log = before ++ (t, failure) :: after →
    upcoming after due = some (t + backoff.delay (failures before))
  /-- Any attempt but the first belongs to the failure before it. -/
  only : ∀ before t after, log = before ++ (t, .attempt) :: after → attempts before ≠ [] →
    ∃ earlier failedAt between, before = earlier ++ (failedAt, failure) :: between ∧
      attempts between = [] ∧ t = failedAt + backoff.delay (failures earlier)
  /-- As long as no connection opens, the waits do not get shorter. -/
  growing : ∀ before t between later after s s',
    log = before ++ (t, failure) :: between ++ (later, failure) :: after →
    (∀ entry ∈ between, entry.2 ≠ opening) →
    upcoming (between ++ (later, failure) :: after) due = some s → upcoming after due = some s' →
    s - t ≤ s' - later
  bounded : ∀ before t after s, log = before ++ (t, failure) :: after →
    upcoming after due = some s → s - t ≤ backoff.limit
  /-- An opening makes the next wait the shortest one. -/
  reset : ∀ before opened between t after,
    log = before ++ (opened, opening) :: between ++ (t, failure) :: after →
    (∀ entry ∈ between, entry.2 ≠ failure) →
    upcoming after due = some (t + backoff.delay 0)

theorem le_failuresFrom (h : ∀ entry ∈ log, entry.2 ≠ opening) : k ≤ failuresFrom k log := by
  induction log generalizing k with
  | nil => exact Nat.le_refl k
  | cons entry rest ih =>
      have hstep : k ≤ tally k entry.2 := by
        unfold tally
        split
        · rename_i heq
          exact absurd heq (h entry List.mem_cons_self)
        · exact Nat.le_succ k
        · exact Nat.le_refl k
      exact Nat.le_trans hstep (ih fun e he => h e (List.mem_cons_of_mem entry he))

theorem failuresFrom_zero (h : ∀ entry ∈ log, entry.2 ≠ failure) : failuresFrom 0 log = 0 := by
  induction log with
  | nil => rfl
  | cons entry rest ih =>
      have hstep : tally 0 entry.2 = 0 := by
        unfold tally
        split
        · rfl
        · rename_i heq
          exact absurd heq (h entry List.mem_cons_self)
        · rfl
      change failuresFrom (tally 0 entry.2) rest = 0
      rw [hstep]
      exact ih fun e he => h e (List.mem_cons_of_mem entry he)

theorem Scheduled.next_failure {due : Option Reading} {t : Reading}
    (h : Scheduled b 0 .unordered (before ++ (t, failure) :: after) p) (hdue : p.due? = due) :
    upcoming after due = some (t + b.delay (failures before)) := by
  obtain ⟨m, -, hafter⟩ := h.split
  cases hafter with
  | failed tail => exact hdue ▸ tail.next
  | aside haside _ => exact absurd rfl haside.2.1

theorem Scheduled.only_awaited {t : Reading}
    (h : Scheduled b 0 .unordered (before ++ (t, .attempt) :: after) p)
    (hsome : attempts before ≠ []) :
    Awaited b 0 before t := by
  obtain ⟨m, hbefore, hafter⟩ := h.split
  cases hafter with
  | first _ => exact absurd hbefore.attempts_of_unordered hsome
  | again _ =>
      rcases hbefore.awaited with ⟨hresting, -⟩ | hawaited
      · cases hresting
      · exact hawaited
  | aside haside _ => exact absurd rfl haside.1

/-- Reconnects follow the backoff, whatever is sent, ordered or received meanwhile, however the
attempts and the connections end, and wherever the run stops. -/
theorem reconnects_on_schedule (backoff : Backoff) (signals : List (Reading × Signal))
    (hstaying : ∀ s ∈ signals, s.2 ≠ .stop ∧ s.2 ≠ .abandoned)
    (hpunctual : (ofBackoff backoff).isPunctual signals = true) :
    KeepsSchedule backoff signals ((ofBackoff backoff).log signals)
      ((ofBackoff backoff).run signals).2.due? := by
  have hsettled := settled_ofBackoff backoff
  have hcounts : Counts backoff 0 (ofBackoff backoff) := ⟨rfl, rfl⟩
  have hrun := run_scheduled hsettled hcounts hstaying hpunctual
  have hdue := due_outlook ((ofBackoff backoff).run signals).2
  constructor
  case first => exact first_attempt hsettled rfl hstaying
  case next =>
    intro before t after hlog
    exact (hlog ▸ hrun).next_failure hdue
  case only =>
    intro before t after hlog hsome
    exact (hlog ▸ hrun).only_awaited hsome
  case growing =>
    intro before t between later after s s' hlog hunopened hs hs'
    have hfirst := (hlog.trans (List.append_assoc _ _ _) ▸ hrun).next_failure hdue
    have hsecond := (hlog ▸ hrun).next_failure hdue
    obtain rfl := Option.some.inj (hfirst.symm.trans hs)
    obtain rfl := Option.some.inj (hsecond.symm.trans hs')
    have hcount : failures before + 1 ≤ failures (before ++ (t, failure) :: between) := by
      rw [failures, failures, failuresFrom_append]
      exact le_failuresFrom hunopened
    rw [Nat.add_sub_cancel_left, Nat.add_sub_cancel_left]
    exact backoff.delay_mono (Nat.le_of_succ_le hcount)
  case bounded =>
    intro before t after s hlog hs
    obtain rfl := Option.some.inj (((hlog ▸ hrun).next_failure hdue).symm.trans hs)
    rw [Nat.add_sub_cancel_left]
    exact backoff.delay_le_limit _
  case reset =>
    intro before opened between t after hlog hunfailed
    have hcount : failures (before ++ (opened, opening) :: between) = 0 := by
      rw [failures, failuresFrom_append]
      exact failuresFrom_zero hunfailed
    rw [← hcount]
    exact (hlog ▸ hrun).next_failure hdue

/-- Two refusals, a connection that breaks under the first frame, and one that is dropped. -/
theorem reconnects_on_schedule_mixed :
    let backoff : Backoff := { base := 10, limit := 25 }
    let signals : List (Reading × Signal) :=
      [(0, .send .hello true), (5, .connect), (7, .refused), (9, .connect), (9, .send .hello true),
        (17, .elapsed), (20, .refused), (40, .elapsed), (41, .accepted (some 0)), (50, .elapsed),
        (51, .elapsed), (52, .accepted none), (60, .dropped), (65, .send .hello true)]
    attempts ((ofBackoff backoff).log signals) = [5, 17, 40, 51] ∧
      ((ofBackoff backoff).run signals).2.due? = some 70 ∧
      KeepsSchedule backoff signals ((ofBackoff backoff).log signals) (some 70) :=
  ⟨rfl, rfl, reconnects_on_schedule _ _ (by simp) rfl⟩

end CourierTrack.Proofs.ReconnectSchedule
