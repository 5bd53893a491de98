import CourierTrack.Proofs.TapTurns
import CourierTrack.Source.Feed
import CourierTrack.Source.Rota
/-!
What enters a pipe after its watch was cleared. A sample that was being handed over may enter; no
other does if the watch quits as soon as it can. Nothing makes it, though: as long as there are
entries that come without delay, it may go on with them.
-/

namespace CourierTrack.Proofs.ClearedWatches

open CourierTrack.Time
open CourierTrack.Source
open CourierTrack.Proofs.TapTurns
open scoped List

variable {f g : Flow} {t : Turn} {turns : List Turn} {feed rest : List Entry} {sample : Sample}
  {due now : Reading} {r : Rota} {tap : Tap} {which : Nat} {deeds : List Deed}

/-! What may enter -/

@[simp]
theorem atOnce_fresh (now : Reading) (feed : List Entry) :
    (Phase.fresh feed).atOnce now = undelayed feed := rfl

theorem atOnce_waiting (hdue : due ≤ now) (sample : Option Sample) (rest : List Entry) :
    (Phase.waiting due sample rest).atOnce now = sample.toList ++ undelayed rest :=
  if_pos hdue

@[simp]
theorem atOnce_handing (now : Reading) (sample : Sample) (rest : List Entry) :
    (Phase.handing sample rest).atOnce now = sample :: undelayed rest := rfl

@[simp]
theorem atOnce_onward (now : Reading) (feed : List Entry) :
    (Phase.onward now feed).atOnce now = undelayed feed := by
  cases feed with
  | nil => rfl
  | cons entry feed =>
      by_cases hafter : entry.after = 0
      · cases hsample : entry.sample <;>
          simp [Phase.onward, Phase.atOnce, undelayed, hafter, hsample]
      · have hlater : ¬ now + entry.after ≤ now := by
          intro hle
          exact hafter (Nat.le_zero.1 (Nat.le_of_add_le_add_left hle))
        simp [Phase.onward, Phase.atOnce, undelayed, hafter, hlater]

/-- A run of a cleared watch on an exact clock. -/
structure Stopping (f : Flow) (turns : List Turn) : Prop where
  cleared : f.tap.watch.cleared = true
  exact : f.Exact turns

def toEnter (f : Flow) : List Sample := f.tap.watch.phase.atOnce f.now

theorem toEnter_wait {span : Span} (hcleared : f.tap.watch.cleared = true)
    (hkeeps : f.KeepsTime (.wait span)) : toEnter { f with now := f.now + span } = toEnter f := by
  obtain ⟨now, ⟨⟨phase, cleared⟩, pipe⟩⟩ := f
  cases phase with
  | waiting due sample rest =>
      obtain rfl : span = 0 := hkeeps.2 hcleared
      rfl
  | _ => rfl

theorem Stopping.turn (h : Stopping f (t :: turns)) :
    Stopping (f.turn t).2 turns ∧
      ((f.turn t).1.toList.map (f.now, ·)).filterMap (fun note => note.2.entered?) ++
        toEnter (f.turn t).2 <+ toEnter f := by
  obtain ⟨hcleared, hkeeps, hexact⟩ := h
  have hdoes := does_turn f t
  generalize f.turn t = turned at hdoes hexact ⊢
  obtain ⟨note, g⟩ := turned
  cases hdoes with
  | waits span =>
      refine ⟨⟨hcleared, hexact⟩, ?_⟩
      simp [toEnter_wait hcleared hkeeps]
  | begins hphase => exact ⟨⟨hcleared, hexact⟩, by simp [toEnter, hphase]⟩
  | passes hphase hdue =>
      exact ⟨⟨hcleared, hexact⟩, by simp [toEnter, hphase, atOnce_waiting hdue]⟩
  | fetches hphase hdue =>
      exact ⟨⟨hcleared, hexact⟩, by simp [toEnter, hphase, atOnce_waiting hdue]⟩
  | delivers hphase hroom => exact ⟨⟨hcleared, hexact⟩, by simp [toEnter, hphase]⟩
  | clears => exact ⟨⟨rfl, hexact⟩, List.Sublist.refl _⟩
  | deserted => exact ⟨⟨hcleared, hexact⟩, List.nil_sublist _⟩
  | quits => exact ⟨⟨hcleared, hexact⟩, List.nil_sublist _⟩
  | _ => exact ⟨⟨hcleared, hexact⟩, List.Sublist.refl _⟩

/-- Whether some run on an exact clock hands these samples over. -/
def Hands (f : Flow) (samples : List Sample) (g : Flow) : Prop :=
  ∃ turns, f.Exact turns ∧ (f.run turns).2 = g ∧
    (entered (f.run turns).1).map Prod.snd = samples

theorem run_append (f : Flow) (before after : List Turn) :
    f.run (before ++ after) =
      ((f.run before).1 ++ ((f.run before).2.run after).1, ((f.run before).2.run after).2) := by
  induction before generalizing f with
  | nil => rfl
  | cons t rest ih => simp only [List.cons_append, Flow.run, ih, List.append_assoc]

theorem exact_append (before after : List Turn) :
    f.Exact (before ++ after) ↔ f.Exact before ∧ (f.run before).2.Exact after := by
  induction before generalizing f with
  | nil => exact (iff_of_eq (true_and _)).symm
  | cons t rest ih => exact (and_congr_right fun _ => ih).trans and_assoc.symm

theorem Hands.refl (f : Flow) : Hands f [] f := ⟨[], trivial, rfl, rfl⟩

theorem Hands.trans {k : Flow} {samples more : List Sample} (h : Hands f samples g)
    (h' : Hands g more k) : Hands f (samples ++ more) k := by
  obtain ⟨before, hbefore, rfl, rfl⟩ := h
  obtain ⟨after, hafter, rfl, rfl⟩ := h'
  refine ⟨before ++ after, exact_append _ _ |>.2 ⟨hbefore, hafter⟩, by rw [run_append], ?_⟩
  rw [run_append, entered, noted, List.filterMap_append, List.map_append]
  rfl

theorem Hands.turn {note : Option Note} (hturn : f.turn t = (note, g)) (hkeeps : f.KeepsTime t) :
    Hands f (note.bind Note.entered?).toList g := by
  refine ⟨[t], ⟨hkeeps, trivial⟩, by rw [Flow.run, hturn]; rfl, ?_⟩
  rw [entered, noted_run_cons, hturn]
  rcases note with - | note
  · rfl
  · cases note <;> rfl

/-- Whether what took place is a run of one of the watches. -/
def Plays (r : Rota) (which : Nat) (log : List (Nat × Reading × Note)) (next : Rota) : Prop :=
  ∀ tap, r.taps[which]? = some tap → ∃ turns tap',
    Flow.run ⟨r.now, tap⟩ turns = (Rota.about which log, ⟨next.now, tap'⟩) ∧
      next.taps[which]? = some tap'

theorem about_append (which : Nat) (log more : List (Nat × Reading × Note)) :
    Rota.about which (log ++ more) = Rota.about which log ++ Rota.about which more :=
  List.filterMap_append ..

theorem Plays.trans {middle next : Rota} {log more : List (Nat × Reading × Note)}
    (h : Plays r which log middle) (h' : Plays middle which more next) :
    Plays r which (log ++ more) next := by
  intro tap htap
  obtain ⟨before, tap', hbefore, htap'⟩ := h tap htap
  obtain ⟨after, tap'', hafter, htap''⟩ := h' tap' htap'
  refine ⟨before ++ after, tap'', ?_, htap''⟩
  rw [run_append, hbefore, hafter, about_append]

theorem length_stop (r : Rota) : r.stop.taps.length = r.taps.length := by
  unfold Rota.stop
  split <;> simp

end CourierTrack.Proofs.ClearedWatches
