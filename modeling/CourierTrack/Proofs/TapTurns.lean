import Mathlib.Data.List.Forall2
import CourierTrack.Source.Run
/-!
What a turn does to a tap, and what follows for whole runs: samples enter the pipe in the order of
the feed, none before its time, and leave it in the order they entered.
-/

namespace CourierTrack.Proofs.TapTurns

open CourierTrack.Time
open CourierTrack.Source

variable {f g : Flow} {t : Turn} {turns : List Turn} {note : Option Note} {feed rest : List Entry}
  {sample : Sample} {due start now : Reading}

/-- All that a turn can do. -/
inductive Does (f : Flow) : Turn → Option Note → Flow → Prop where
  | idles (t : Turn) : Does f t none f
  | waits (span : Span) : Does f (.wait span) none { f with now := f.now + span }
  | begins {feed : List Entry} (h : f.tap.watch.phase = .fresh feed) :
      Does f .fetch none { f with tap.watch.phase := .onward f.now feed }
  | passes {due : Reading} {rest : List Entry} (h : f.tap.watch.phase = .waiting due none rest)
      (hdue : due ≤ f.now) :
      Does f .fetch none { f with tap.watch.phase := .onward f.now rest }
  | fetches {due : Reading} {sample : Sample} {rest : List Entry}
      (h : f.tap.watch.phase = .waiting due (some sample) rest) (hdue : due ≤ f.now) :
      Does f .fetch (some (.fetched sample)) { f with tap.watch.phase := .handing sample rest }
  | delivers {sample : Sample} {rest : List Entry}
      (h : f.tap.watch.phase = .handing sample rest) (hroom : f.tap.pipe.hasRoom = true) :
      Does f .deliver (some (.entered sample))
        { f with tap := ⟨{ f.tap.watch with phase := .onward f.now rest }, f.tap.pipe.push sample⟩ }
  | deserted (h : f.tap.pipe.listening = false) :
      Does f .deliver none { f with tap.watch.phase := .ended }
  | quits (h : f.tap.watch.cleared = true) (hfree : f.tap.watch.phase.atHand = none) :
      Does f .quit none { f with tap.watch.phase := .ended }
  | clears : Does f .clear none { f with tap := f.tap.clear }
  | takes {sample : Sample} {queue : List Sample} (h : f.tap.pipe.queue = sample :: queue) :
      Does f .take (some (.taken sample)) { f with tap.pipe.queue := queue }
  | leaves : Does f .leave none { f with tap := f.tap.leave }

theorem does_fetch (f : Flow) : Does f .fetch (f.turn .fetch).1 (f.turn .fetch).2 := by
  obtain ⟨now, ⟨⟨phase, cleared⟩, pipe⟩⟩ := f
  cases phase with
  | fresh feed => exact .begins rfl
  | handing sample rest => exact .idles _
  | ended => exact .idles _
  | waiting due sample rest =>
      by_cases hnow : now < due
      · simp only [Flow.turn, Watch.fetch, hnow, if_true]
        exact .idles _
      · have hdue : due ≤ now := Nat.le_of_not_lt hnow
        simp only [Flow.turn, Watch.fetch, hnow, if_false]
        cases sample with
        | none => exact .passes rfl hdue
        | some sample => exact .fetches rfl hdue

theorem does_deliver (f : Flow) : Does f .deliver (f.turn .deliver).1 (f.turn .deliver).2 := by
  obtain ⟨now, ⟨⟨phase, cleared⟩, ⟨capacity, queue, listening⟩⟩⟩ := f
  cases phase with
  | fresh feed => exact .idles _
  | waiting due sample rest => exact .idles _
  | ended => exact .idles _
  | handing sample rest =>
      cases listening with
      | false => exact .deserted rfl
      | true =>
          by_cases hroom : (⟨capacity, queue, true⟩ : Pipe).hasRoom = true
          · simp only [Flow.turn, Watch.deliver, Bool.not_true, Bool.false_eq_true, if_false,
              hroom, if_true]
            exact .delivers rfl hroom
          · simp only [Flow.turn, Watch.deliver, Bool.not_true, Bool.false_eq_true, if_false,
              hroom]
            exact .idles _

theorem does_quit (f : Flow) : Does f .quit (f.turn .quit).1 (f.turn .quit).2 := by
  obtain ⟨now, ⟨⟨phase, cleared⟩, pipe⟩⟩ := f
  cases cleared with
  | false => cases phase <;> exact .idles _
  | true =>
      cases phase with
      | handing sample rest => exact .idles _
      | _ => exact .quits rfl rfl

theorem does_take (f : Flow) : Does f .take (f.turn .take).1 (f.turn .take).2 := by
  obtain ⟨now, ⟨watch, ⟨capacity, queue, listening⟩⟩⟩ := f
  cases queue with
  | nil => exact .idles _
  | cons sample queue => exact .takes rfl

theorem does_turn (f : Flow) (t : Turn) : Does f t (f.turn t).1 (f.turn t).2 := by
  cases t with
  | wait span => exact .waits span
  | fetch => exact does_fetch f
  | deliver => exact does_deliver f
  | quit => exact does_quit f
  | clear => exact .clears
  | take => exact does_take f
  | leave => exact .leaves

@[simp]
theorem atHand_onward (now : Reading) (feed : List Entry) :
    (Phase.onward now feed).atHand = none := by
  cases feed <;> rfl

@[simp]
theorem unfetched_onward (now : Reading) (feed : List Entry) :
    (Phase.onward now feed).unfetched = feed.filterMap Entry.sample := by
  cases feed with
  | nil => rfl
  | cons entry rest => cases h : entry.sample <;> simp [Phase.onward, Phase.unfetched, h]

@[simp]
theorem toCome_onward (now : Reading) (feed : List Entry) :
    (Phase.onward now feed).toCome = feed.filterMap Entry.sample := by
  simp [Phase.toCome]

@[simp]
theorem toCome_fresh (feed : List Entry) :
    (Phase.fresh feed).toCome = feed.filterMap Entry.sample := rfl

@[simp]
theorem toCome_waiting (due : Reading) (sample : Option Sample) (rest : List Entry) :
    (Phase.waiting due sample rest).toCome =
      sample.toList ++ rest.filterMap Entry.sample := rfl

@[simp]
theorem toCome_handing (sample : Sample) (rest : List Entry) :
    (Phase.handing sample rest).toCome = sample :: rest.filterMap Entry.sample := rfl

theorem noted_run_cons (kind : Note → Option Sample) (f : Flow) (t : Turn) (turns : List Turn) :
    noted kind (f.run (t :: turns)).1 =
      noted kind ((f.turn t).1.toList.map (f.now, ·)) ++ noted kind ((f.turn t).2.run turns).1 :=
  List.filterMap_append ..

/-- What a turn keeps of some list, a run keeps of it. -/
theorem run_rel {α : Type} {R : List α → List α → Prop} (hrefl : ∀ l, R l l)
    (htrans : ∀ {l m n}, R l m → R m n → R l n) (happend : ∀ l {m n}, R m n → R (l ++ m) (l ++ n))
    {told : Reading × Note → Option α} (plan : Flow → List α) {P : Flow → List Turn → Prop}
    (hstep : ∀ f t rest, P f (t :: rest) → P (f.turn t).2 rest ∧
      R (plan f) (((f.turn t).1.toList.map (f.now, ·)).filterMap told ++ plan (f.turn t).2))
    (h : P f turns) :
    R (plan f) ((f.run turns).1.filterMap told ++ plan (f.run turns).2) := by
  induction turns generalizing f with
  | nil => exact hrefl _
  | cons t rest ih =>
      obtain ⟨hrest, hturn⟩ := hstep f t rest h
      simp only [Flow.run, List.filterMap_append, List.append_assoc]
      exact htrans hturn (happend _ (ih hrest))

/-- How a tap stands whose watch was not told to stop and whose reader is there. -/
structure Attended (tap : Tap) : Prop where
  running : tap.watch.cleared = false
  listening : tap.pipe.listening = true

theorem Attended.turn (h : Attended f.tap) (hkeeps : t.Keeps) : Attended (f.turn t).2.tap := by
  have hdoes := does_turn f t
  generalize f.turn t = r at hdoes ⊢
  obtain ⟨note, g⟩ := r
  cases hdoes with
  | clears => exact hkeeps.elim
  | leaves => exact hkeeps.elim
  | _ => exact ⟨h.running, h.listening⟩

/-- A run through which a tap stays attended. -/
structure Undisturbed (f : Flow) (turns : List Turn) : Prop where
  start : Attended f.tap
  keeps : ∀ t ∈ turns, t.Keeps

theorem Undisturbed.tail (h : Undisturbed f (t :: turns)) :
    Undisturbed (f.turn t).2 turns :=
  ⟨h.start.turn (h.keeps t (List.mem_cons_self ..)),
    fun u hu => h.keeps u (List.mem_cons_of_mem _ hu)⟩

theorem Undisturbed.attended (h : Undisturbed f turns) : Attended (f.run turns).2.tap := by
  induction turns generalizing f with
  | nil => exact h.start
  | cons t rest ih => exact ih h.tail

/-! Times -/

/-- The same samples, none of them earlier. -/
def Later : List (Reading × Sample) → List (Reading × Sample) → Prop :=
  List.Forall₂ fun planned actual => planned.2 = actual.2 ∧ planned.1 ≤ actual.1

theorem Later.refl (l : List (Reading × Sample)) : Later l l :=
  List.forall₂_same.2 fun _ _ => ⟨rfl, Nat.le_refl _⟩

theorem Later.trans {l m n : List (Reading × Sample)} (h : Later l m) (h' : Later m n) :
    Later l n := by
  induction h generalizing n with
  | nil => exact h'
  | cons hab _ ih =>
    cases h' with
    | cons hbc hrest =>
        exact .cons ⟨hab.1.trans hbc.1, Nat.le_trans hab.2 hbc.2⟩ (ih hrest)

theorem Later.append (l : List (Reading × Sample)) {m n : List (Reading × Sample)}
    (h : Later m n) : Later (l ++ m) (l ++ n) :=
  List.rel_append (Later.refl l) h

theorem Later.samples {l m : List (Reading × Sample)} (h : Later l m) :
    l.map Prod.snd = m.map Prod.snd := by
  induction h with
  | nil => rfl
  | cons hab _ ih => rw [List.map_cons, List.map_cons, hab.1, ih]

theorem timetable_cons (start : Reading) (entry : Entry) (feed : List Entry) :
    timetable start (entry :: feed) =
      (entry.sample.map (start + entry.after, ·)).toList ++
        timetable (start + entry.after) feed := by
  cases h : entry.sample <;> simp [timetable, List.mapIdx_cons, dueAt, h]

theorem samples_timetable (start : Reading) (feed : List Entry) :
    (timetable start feed).map Prod.snd = feed.filterMap Entry.sample := by
  induction feed generalizing start with
  | nil => rfl
  | cons entry feed ih =>
      rw [timetable_cons, List.map_append, ih]
      cases h : entry.sample <;> simp [h]

theorem later_timetable (h : start ≤ now) (feed : List Entry) :
    Later (timetable start feed) (timetable now feed) := by
  induction feed generalizing start now with
  | nil => exact .nil
  | cons entry feed ih =>
      have hnext : start + entry.after ≤ now + entry.after := Nat.add_le_add_right h _
      rw [timetable_cons, timetable_cons]
      cases entry.sample with
      | none => exact ih hnext
      | some sample => exact .cons ⟨rfl, hnext⟩ (ih hnext)

/-- The earliest times for the samples that are not fetched yet. -/
def ahead (now : Reading) : Phase → List (Reading × Sample)
  | .fresh feed => timetable now feed
  | .waiting due sample rest => (sample.map (due, ·)).toList ++ timetable due rest
  | .handing _ rest => timetable now rest
  | .ended => []

/-- The earliest times for the samples that did not enter the pipe yet. -/
def planned (f : Flow) : List (Reading × Sample) :=
  (f.tap.watch.phase.atHand.map (f.now, ·)).toList ++ ahead f.now f.tap.watch.phase

@[simp]
theorem ahead_onward (now : Reading) (feed : List Entry) :
    ahead now (.onward now feed) = timetable now feed := by
  cases feed with
  | nil => rfl
  | cons entry feed => rw [timetable_cons]; rfl

theorem samples_planned (f : Flow) : (planned f).map Prod.snd = f.tap.watch.phase.toCome := by
  obtain ⟨now, ⟨⟨phase, cleared⟩, pipe⟩⟩ := f
  cases phase with
  | fresh feed => exact samples_timetable now feed
  | handing sample rest => exact congrArg (sample :: ·) (samples_timetable now rest)
  | ended => rfl
  | waiting due sample rest =>
      cases sample <;> simp [planned, ahead, Phase.atHand, samples_timetable]

theorem later_ahead (h : start ≤ now) (phase : Phase) :
    Later (ahead start phase) (ahead now phase) := by
  cases phase with
  | fresh feed => exact later_timetable h feed
  | handing sample rest => exact later_timetable h rest
  | _ => exact .refl _

theorem later_planned_wait (f : Flow) (span : Span) :
    Later (planned f) (planned { f with now := f.now + span }) := by
  have hnow : f.now ≤ f.now + span := Nat.le_add_right _ _
  have hahead := later_ahead hnow f.tap.watch.phase
  unfold planned
  cases f.tap.watch.phase.atHand with
  | none => exact hahead
  | some sample => exact .cons ⟨rfl, hnow⟩ hahead

/-- Turn by turn, no sample is fetched before its time. -/
theorem later_ahead_turn (h : Attended f.tap) (hkeeps : t.Keeps) :
    Later (ahead f.now f.tap.watch.phase)
      (fetched ((f.turn t).1.toList.map (f.now, ·)) ++
        ahead (f.turn t).2.now (f.turn t).2.tap.watch.phase) := by
  have hdoes := does_turn f t
  generalize f.turn t = r at hdoes ⊢
  obtain ⟨note, g⟩ := r
  cases hdoes with
  | idles => exact .refl _
  | takes => exact .refl _
  | waits span => exact later_ahead (Nat.le_add_right _ _) _
  | begins hphase =>
      rw [hphase, ahead_onward]
      exact .refl _
  | passes hphase hdue =>
      rw [hphase, ahead_onward]
      exact later_timetable hdue _
  | fetches hphase hdue =>
      rw [hphase]
      exact .cons ⟨rfl, hdue⟩ (later_timetable hdue _)
  | delivers hphase hroom =>
      rw [hphase, ahead_onward]
      exact .refl _
  | deserted hgone => rw [h.listening] at hgone; cases hgone
  | quits hcleared => rw [h.running] at hcleared; cases hcleared
  | clears => exact hkeeps.elim
  | leaves => exact hkeeps.elim

/-- Turn by turn, no sample enters the pipe before its time. -/
theorem later_planned_turn (h : Attended f.tap) (hkeeps : t.Keeps) :
    Later (planned f) (entered ((f.turn t).1.toList.map (f.now, ·)) ++ planned (f.turn t).2) := by
  have hdoes := does_turn f t
  generalize f.turn t = r at hdoes ⊢
  obtain ⟨note, g⟩ := r
  cases hdoes with
  | idles => exact .refl _
  | takes => exact .refl _
  | waits span => exact later_planned_wait f span
  | begins hphase =>
      simp only [planned, hphase, atHand_onward, ahead_onward]
      exact .refl _
  | passes hphase hdue =>
      simp only [planned, hphase, atHand_onward, ahead_onward]
      exact later_timetable hdue _
  | fetches hphase hdue =>
      simp only [planned, hphase]
      exact .cons ⟨rfl, hdue⟩ (later_timetable hdue _)
  | delivers hphase hroom =>
      simp only [planned, hphase, atHand_onward, ahead_onward]
      exact .refl _
  | deserted hgone => rw [h.listening] at hgone; cases hgone
  | quits hcleared => rw [h.running] at hcleared; cases hcleared
  | clears => exact hkeeps.elim
  | leaves => exact hkeeps.elim

theorem Undisturbed.later_fetched (h : Undisturbed f turns) :
    Later (ahead f.now f.tap.watch.phase)
      (fetched (f.run turns).1 ++ ahead (f.run turns).2.now (f.run turns).2.tap.watch.phase) :=
  run_rel .refl .trans Later.append (fun f => ahead f.now f.tap.watch.phase)
    (fun _ t _ h => ⟨h.tail, later_ahead_turn h.start (h.keeps t (List.mem_cons_self ..))⟩) h

theorem Undisturbed.later_entered (h : Undisturbed f turns) :
    Later (planned f) (entered (f.run turns).1 ++ planned (f.run turns).2) :=
  run_rel .refl .trans Later.append planned
    (fun _ t _ h => ⟨h.tail, later_planned_turn h.start (h.keeps t (List.mem_cons_self ..))⟩) h

/-! On an exact clock -/

/-- Whether no entry that has come is still waited for. -/
def InTime (f : Flow) : Prop := ∀ due, f.tap.watch.due? = some due → f.now ≤ due

theorem inTime_onward (f : Flow) (pipe : Pipe) (feed : List Entry) :
    InTime { f with tap := ⟨{ f.tap.watch with phase := .onward f.now feed }, pipe⟩ } := by
  cases feed with
  | nil => exact nofun
  | cons entry feed =>
      rintro _ ⟨⟩
      exact Nat.le_add_right _ _

theorem planned_wait {span : Span} (htime : InTime f) (hkeeps : f.KeepsTime (.wait span))
    (hroom : f.tap.watch.phase.atHand.isSome → f.tap.pipe.hasRoom = true) :
    InTime { f with now := f.now + span } ∧ planned f = planned { f with now := f.now + span } := by
  obtain ⟨now, ⟨⟨phase, cleared⟩, pipe⟩⟩ := f
  cases phase with
  | fresh feed =>
      obtain rfl : span = 0 := hkeeps
      exact ⟨nofun, rfl⟩
  | handing sample rest =>
      obtain rfl : span = 0 := hkeeps (.inl (hroom rfl))
      exact ⟨nofun, rfl⟩
  | ended => exact ⟨nofun, rfl⟩
  | waiting due sample rest =>
      refine ⟨?_, rfl⟩
      rintro _ ⟨⟩
      exact hkeeps.1

theorem planned_turn (h : Attended f.tap) (hkeeps : t.Keeps) (htime : InTime f)
    (hexact : f.KeepsTime t)
    (hroom : f.tap.watch.phase.atHand.isSome → f.tap.pipe.hasRoom = true) :
    InTime (f.turn t).2 ∧
      planned f = entered ((f.turn t).1.toList.map (f.now, ·)) ++ planned (f.turn t).2 := by
  have hdoes := does_turn f t
  generalize f.turn t = r at hdoes ⊢
  obtain ⟨note, g⟩ := r
  cases hdoes with
  | idles => exact ⟨htime, rfl⟩
  | takes => exact ⟨htime, rfl⟩
  | waits span => exact planned_wait htime hexact hroom
  | begins hphase =>
      refine ⟨inTime_onward f _ _, ?_⟩
      simp only [planned, hphase, atHand_onward, ahead_onward]
      rfl
  | @passes due rest hphase hdue =>
      have hnow : due = f.now := Nat.le_antisymm hdue (htime due (by rw [Watch.due?, hphase]))
      refine ⟨inTime_onward f _ _, ?_⟩
      simp only [planned, hphase, atHand_onward, ahead_onward, hnow]
      rfl
  | @fetches due sample rest hphase hdue =>
      have hnow : due = f.now := Nat.le_antisymm hdue (htime due (by rw [Watch.due?, hphase]))
      refine ⟨nofun, ?_⟩
      simp only [planned, hphase, hnow]
      rfl
  | delivers hphase hfits =>
      refine ⟨inTime_onward f _ _, ?_⟩
      simp only [planned, hphase, atHand_onward, ahead_onward]
      rfl
  | deserted hgone => rw [h.listening] at hgone; cases hgone
  | quits hcleared => rw [h.running] at hcleared; cases hcleared
  | clears => exact hkeeps.elim
  | leaves => exact hkeeps.elim

/-- A run in which neither the clock nor the pipe makes a sample late. -/
structure Prompt (f : Flow) (turns : List Turn) : Prop extends Undisturbed f turns where
  inTime : InTime f
  exact : f.Exact turns
  roomy : f.Roomy turns

theorem Prompt.turn (h : Prompt f (t :: turns)) : Prompt (f.turn t).2 turns ∧
    planned f = entered ((f.turn t).1.toList.map (f.now, ·)) ++ planned (f.turn t).2 := by
  obtain ⟨hnext, hplanned⟩ := planned_turn h.start (h.keeps t (List.mem_cons_self ..)) h.inTime
    h.exact.1 h.roomy.1
  exact ⟨⟨h.tail, hnext, h.exact.2, h.roomy.2⟩, hplanned⟩

theorem Prompt.planned_eq (h : Prompt f turns) :
    planned f = entered (f.run turns).1 ++ planned (f.run turns).2 :=
  run_rel (fun _ => rfl) Eq.trans (fun l _ _ h => congrArg (l ++ ·) h) planned
    (fun _ _ _ h => h.turn) h

theorem Prompt.inTime_run (h : Prompt f turns) : InTime (f.run turns).2 := by
  induction turns generalizing f with
  | nil => exact h.inTime
  | cons t rest ih => exact ih h.turn.1

theorem le_of_mem_timetable {p : Reading × Sample} (h : p ∈ timetable start feed) :
    start ≤ p.1 := by
  induction feed generalizing start with
  | nil => cases h
  | cons entry feed ih =>
      rw [timetable_cons, List.mem_append] at h
      rcases h with h | h
      · obtain ⟨sample, -, rfl⟩ := Option.map_eq_some_iff.1 (Option.mem_toList.1 h)
        exact Nat.le_add_right _ _
      · exact Nat.le_trans (Nat.le_add_right _ _) (ih h)

theorem le_of_mem_planned (htime : InTime f) {p : Reading × Sample} (h : p ∈ planned f) :
    f.now ≤ p.1 := by
  obtain ⟨now, ⟨⟨phase, cleared⟩, pipe⟩⟩ := f
  cases phase with
  | fresh feed => exact le_of_mem_timetable h
  | ended => cases h
  | handing sample rest =>
      rcases List.mem_cons.1 h with rfl | h
      · exact Nat.le_refl _
      · exact le_of_mem_timetable h
  | waiting due sample rest =>
      have hdue : now ≤ due := htime due rfl
      change p ∈ (sample.map (due, ·)).toList ++ timetable due rest at h
      rcases List.mem_append.1 h with h | h
      · obtain ⟨sample, -, rfl⟩ := Option.map_eq_some_iff.1 (Option.mem_toList.1 h)
        exact hdue
      · exact Nat.le_trans hdue (le_of_mem_timetable h)

/-! Through the pipe -/

theorem capacity_turn (f : Flow) (t : Turn) :
    (f.turn t).2.tap.pipe.capacity = f.tap.pipe.capacity := by
  have hdoes := does_turn f t
  generalize f.turn t = r at hdoes ⊢
  obtain ⟨note, g⟩ := r
  cases hdoes <;> rfl

theorem capacity_run (f : Flow) (turns : List Turn) :
    (f.run turns).2.tap.pipe.capacity = f.tap.pipe.capacity := by
  induction turns generalizing f with
  | nil => rfl
  | cons t rest ih => exact (ih _).trans (capacity_turn f t)

theorem queue_turn (f : Flow) (hkeeps : t ≠ .leave) :
    f.tap.pipe.queue ++ (entered ((f.turn t).1.toList.map (f.now, ·))).map Prod.snd =
      (taken ((f.turn t).1.toList.map (f.now, ·))).map Prod.snd ++
        (f.turn t).2.tap.pipe.queue := by
  have hdoes := does_turn f t
  generalize f.turn t = r at hdoes ⊢
  obtain ⟨note, g⟩ := r
  cases hdoes with
  | leaves => exact absurd rfl hkeeps
  | takes hqueue =>
      rw [hqueue]
      exact List.append_nil _
  | delivers _ _ => rfl
  | _ => exact List.append_nil _

/-- Samples are taken in the order in which they entered. -/
theorem queue_run (f : Flow) (hkeeps : .leave ∉ turns) :
    f.tap.pipe.queue ++ (entered (f.run turns).1).map Prod.snd =
      (taken (f.run turns).1).map Prod.snd ++ (f.run turns).2.tap.pipe.queue := by
  induction turns generalizing f with
  | nil => exact List.append_nil _
  | cons t rest ih =>
      rw [List.mem_cons, not_or] at hkeeps
      have hturn := queue_turn f (Ne.symm hkeeps.1)
      have hrest := ih (f.turn t).2 hkeeps.2
      simp only [entered, taken, noted_run_cons, List.map_append] at *
      rw [← List.append_assoc, hturn, List.append_assoc]
      rw [hrest, List.append_assoc]
      rfl

end CourierTrack.Proofs.TapTurns
