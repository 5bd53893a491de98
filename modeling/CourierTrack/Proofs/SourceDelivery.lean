import Mathlib.Logic.Function.Iterate
import CourierTrack.Proofs.FixLines
import CourierTrack.Proofs.TapReading
/-!
What a source delivers: the fixes of its lines or of its script, in order and each once, at any
pace of the reader.
-/

namespace CourierTrack.Proofs.SourceDelivery

open CourierTrack.Time
open CourierTrack.Source
open CourierTrack.Proofs.TapTurns
open CourierTrack.Proofs.TapReading

variable {t : Tap} {f : Flow} {turns : List Turn} {start : Reading} {feed : List Entry}
  {capacity : Nat}

/-- Whether a reader gets these samples and no others, whatever its pace: those it took, and the
rest if it goes on taking. -/
def Delivers (t : Tap) (samples : List Sample) : Prop :=
  ∀ start turns, (∀ turn ∈ turns, turn.Keeps) →
    let (log, f) := Flow.run ⟨start, t⟩ turns
    ∃ rest, (taken log).map Prod.snd ++ rest = samples ∧ (f.tap.isDry = true → rest = []) ∧
      ∀ wanted, (f.tap.readSamples wanted f.now).1.map Prod.snd = rest.take wanted

/-- Whether no sample of a feed is fetched or handed over before its time, and none later if
neither the clock nor the pipe makes it late. -/
def KeepsTimes (t : Tap) (feed : List Entry) : Prop :=
  ∀ start turns, (∀ turn ∈ turns, turn.Keeps) →
    let (log, f) := Flow.run ⟨start, t⟩ turns
    (∃ rest, Later (timetable start feed) (fetched log ++ rest)) ∧
      (∃ rest, Later (timetable start feed) (entered log ++ rest)) ∧
      (Flow.Exact ⟨start, t⟩ turns → Flow.Roomy ⟨start, t⟩ turns →
        ∃ rest, entered log ++ rest = timetable start feed ∧ ∀ due ∈ rest, f.now ≤ due.1)

theorem ready_run (h : Ready f.tap) (hkeeps : ∀ turn ∈ turns, turn.Keeps) :
    Ready (f.run turns).2.tap :=
  ⟨Undisturbed.attended ⟨h.toAttended, hkeeps⟩, capacity_run f turns ▸ h.capacity⟩

/-- What is taken and what is left to read are what there was to read. -/
theorem taken_append_toRead (h : Ready f.tap) (hkeeps : ∀ turn ∈ turns, turn.Keeps) :
    (taken (f.run turns).1).map Prod.snd ++ toRead (f.run turns).2.tap = toRead f.tap := by
  have hentered := (Undisturbed.later_entered ⟨h.toAttended, hkeeps⟩).samples
  rw [List.map_append, samples_planned, samples_planned] at hentered
  have hleave : .leave ∉ turns := fun hmem => hkeeps _ hmem
  rw [toRead, toRead, hentered, ← List.append_assoc, ← queue_run f hleave, List.append_assoc]

theorem toRead_of_isDry (h : t.isDry = true) : toRead t = [] := by
  obtain ⟨⟨phase, cleared⟩, ⟨capacity, queue, listening⟩⟩ := t
  obtain ⟨hended, hqueue⟩ := Bool.and_eq_true_iff.1 h
  obtain rfl : queue = [] := List.isEmpty_iff.1 hqueue
  cases phase with
  | ended => rfl
  | _ => cases hended

theorem delivers (h : Ready t) : Delivers t (toRead t) := by
  intro start turns hkeeps
  have hready : Ready (Flow.run ⟨start, t⟩ turns).2.tap := ready_run h hkeeps
  refine ⟨_, taken_append_toRead h hkeeps, toRead_of_isDry, ?_⟩
  intro wanted
  exact samples_readSamples hready wanted _

theorem ready_start (feed : List Entry) (h : 0 < capacity) : Ready (.start feed capacity) :=
  ⟨⟨rfl, rfl⟩, h⟩

theorem delivers_start (feed : List Entry) (h : 0 < capacity) :
    Delivers (.start feed capacity) (feed.filterMap Entry.sample) :=
  delivers (ready_start feed h)

theorem delivers_inert (h : 0 < capacity) : Delivers (.inert capacity) [] :=
  delivers ⟨⟨rfl, rfl⟩, h⟩

theorem keepsTimes_start (feed : List Entry) (capacity : Nat) :
    KeepsTimes (.start feed capacity) feed := by
  intro start turns hkeeps
  have hrun : Undisturbed ⟨start, .start feed capacity⟩ turns := ⟨⟨rfl, rfl⟩, hkeeps⟩
  refine ⟨⟨_, hrun.later_fetched⟩, ⟨_, hrun.later_entered⟩, ?_⟩
  intro hexact hroom
  have hprompt : Prompt ⟨start, .start feed capacity⟩ turns := ⟨hrun, nofun, hexact, hroom⟩
  exact ⟨_, hprompt.planned_eq.symm, fun _ => le_of_mem_planned hprompt.inTime_run⟩

theorem filterMap_mapIdx {α : Type} (entry : Nat → α → Entry) (items : List α) :
    (items.mapIdx entry).filterMap Entry.sample =
      (items.mapIdx fun i item => (entry i item).sample).filterMap id := by
  induction items generalizing entry with
  | nil => rfl
  | cons item items ih =>
      rw [List.mapIdx_cons, List.mapIdx_cons, List.filterMap_cons, List.filterMap_cons, ih]
      rfl

theorem iterate_watched_script (steps : List ScriptStep) (n : Nat) :
    Supply.watched^[n] (.script steps) = .script steps :=
  Function.iterate_fixed rfl n

theorem iterate_watched_text (bytes : List UInt8) (n : Nat) :
    Supply.watched^[n + 1] (.text (some bytes)) = .text none :=
  Function.iterate_fixed rfl n

theorem script_sample_eq_some_iff {clock : Instant} {step : ScriptStep} {s : Sample} :
    step.sample? clock = some s ↔
      InRange step.point.lat step.point.lng step.accuracy ∧
        s = ⟨step.point, step.accuracy, clock⟩ := by
  rw [← FixLines.checked_eq_ok_iff]
  unfold ScriptStep.sample?
  cases Sample.checked step.point.lat step.point.lng step.accuracy clock <;>
    simp [Except.toOption]

/-- A source delivers the fixes of its text or of its script, in order and each once, whatever the
pace and however small the pipe. A text is cut into lines up to the first one that encodes no
text; a line counts if it is no comment and its fields are numbers in range. A script takes its
time, also for the fixes that are out of range. Later watches get the same script again, and
nothing of a text. -/
theorem source_delivers_its_fixes (clocks : Nat → Instant) (capacity : Nat)
    (hcapacity : 0 < capacity) :
    (∀ bytes n, Delivers ((Supply.watched^[n] (.text (some bytes))).tap clocks capacity)
      (if n = 0 then
        ((textLines bytes).mapIdx fun i line => sample? (clocks i) line).filterMap id
      else [])) ∧
    (∀ bytes texts, textLines bytes = texts ↔ AreTexts bytes texts) ∧
    (∀ clock line s, parseLine line clock = .ok s ↔ IsFix line s ∧ s.captured = clock) ∧
    (∀ clock line s, sample? clock line = some s ↔
      Text.trim line ≠ [] ∧ (Text.trim line).head? ≠ some '#' ∧ IsFix (Text.trim line) s ∧
        s.captured = clock) ∧
    (∀ steps n, let t := (Supply.watched^[n] (.script steps)).tap clocks capacity
      Delivers t ((steps.mapIdx fun i step => step.sample? (clocks i)).filterMap id) ∧
        KeepsTimes t (scriptFeedAt clocks steps)) ∧
    (∀ clock (step : ScriptStep) s, step.sample? clock = some s ↔
      InRange step.point.lat step.point.lng step.accuracy ∧
        s = ⟨step.point, step.accuracy, clock⟩) := by
  refine ⟨?_, fun _ _ => FixLines.textLines_iff, fun _ _ _ => FixLines.parseLine_eq_ok_iff,
    fun _ _ _ => FixLines.sample_eq_some_iff, ?_, fun _ _ _ => script_sample_eq_some_iff⟩
  · intro bytes n
    cases n with
    | zero =>
        have hdelivers := delivers_start (lineFeedAt clocks bytes) hcapacity
        rwa [lineFeedAt, filterMap_mapIdx] at hdelivers
    | succ n =>
        rw [iterate_watched_text]
        exact delivers_inert hcapacity
  · intro steps n
    rw [iterate_watched_script]
    have hdelivers := delivers_start (scriptFeedAt clocks steps) hcapacity
    refine ⟨?_, keepsTimes_start _ _⟩
    rwa [scriptFeedAt, filterMap_mapIdx] at hdelivers

/-- A line with a fix and a comment, through a pipe for a single sample. -/
theorem source_delivers_its_fixes_commented :
    0 < 1 ∧ Delivers ((Supply.text (some [49, 44, 50, 10, 35, 10])).tap (fun _ => .epoch) 1)
      [⟨⟨1, 2⟩, none, .epoch⟩] := by
  have hfixes : ((textLines [49, 44, 50, 10, 35, 10]).mapIdx
      fun _ line => sample? .epoch line).filterMap id = [⟨⟨1, 2⟩, none, .epoch⟩] := by
    decide +kernel
  refine ⟨Nat.one_pos, ?_⟩
  rw [← hfixes]
  exact (source_delivers_its_fixes (fun _ => .epoch) 1 Nat.one_pos).1 _ 0

/-- A fix out of range takes its time. -/
example :
    let t := (Supply.script [⟨5, ⟨91, 0⟩, none⟩, ⟨7, ⟨1, 2⟩, none⟩]).tap (fun _ => .epoch) 1
    entered (Flow.run ⟨100, t⟩ [.fetch, .wait 5, .fetch, .wait 7, .fetch, .deliver]).1 =
      [(112, ⟨⟨1, 2⟩, none, .epoch⟩)] := by
  decide +kernel

end CourierTrack.Proofs.SourceDelivery
