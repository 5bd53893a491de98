import CourierTrack.Proofs.TapTurns
/-!
A reader that keeps taking gets all that is still to come.
-/

namespace CourierTrack.Proofs.TapReading

open CourierTrack.Time
open CourierTrack.Source
open CourierTrack.Proofs.TapTurns

variable {t u : Tap} {now : Reading} {fuel wanted : Nat}

/-- An attended tap whose pipe can hold something. -/
structure Ready (t : Tap) : Prop extends Attended t where
  capacity : 0 < t.pipe.capacity

/-- What a reader can still get. -/
def toRead (t : Tap) : List Sample := t.pipe.queue ++ t.watch.phase.toCome

def size (t : Tap) : Nat := t.pipe.queue.length + t.watch.phase.left

/-- Whether the watch cannot go on now. -/
def Paused (now : Reading) (t : Tap) : Prop :=
  match t.watch.phase with
  | .fresh _ => False
  | .waiting due _ _ => now < due
  | .handing _ _ => t.pipe.hasRoom = false
  | .ended => True

/-- What no step of an attended watch changes for the reader. -/
structure Carries (t u : Tap) : Prop where
  ready : Ready t → Ready u
  left_le : u.watch.phase.left ≤ t.watch.phase.left
  size_le : size u ≤ size t
  toRead_eq : toRead u = toRead t

theorem Carries.refl (t : Tap) : Carries t t := ⟨id, Nat.le_refl _, Nat.le_refl _, rfl⟩

theorem Carries.trans {v : Tap} (h : Carries t u) (h' : Carries u v) : Carries t v where
  ready hready := h'.ready (h.ready hready)
  left_le := Nat.le_trans h'.left_le h.left_le
  size_le := Nat.le_trans h'.size_le h.size_le
  toRead_eq := h'.toRead_eq.trans h.toRead_eq

/-- All that a step of an attended watch can do. -/
inductive Steps (now : Reading) (t : Tap) : Tap → Prop where
  | rests (h : Paused now t) : Steps now t t
  | advances {u : Tap} (h : Carries t u) (hleft : u.watch.phase.left < t.watch.phase.left) :
      Steps now t u
  /-- The sample that was waited for finds the pipe full. -/
  | blocks {u : Tap} (h : Carries t u) (hpaused : Paused now u) (hqueue : t.pipe.queue ≠ []) :
      Steps now t u

@[simp]
theorem left_fresh (feed : List Entry) : (Phase.fresh feed).left = feed.length + 1 := rfl

@[simp]
theorem left_waiting (due : Reading) (sample : Option Sample) (rest : List Entry) :
    (Phase.waiting due sample rest).left = rest.length + 1 := rfl

@[simp]
theorem left_handing (sample : Sample) (rest : List Entry) :
    (Phase.handing sample rest).left = rest.length + 1 := rfl

@[simp]
theorem left_onward (now : Reading) (feed : List Entry) :
    (Phase.onward now feed).left = feed.length := by
  cases feed <;> rfl

theorem deliver_of_atHand {w : Watch} (h : w.phase.atHand = none) (now : Reading) (pipe : Pipe) :
    w.deliver now pipe = (none, w, pipe) := by
  obtain ⟨phase, cleared⟩ := w
  cases phase with
  | handing sample rest => cases h
  | _ => rfl

theorem queue_ne_nil_of_full (h : Ready t) (hfull : t.pipe.hasRoom = false) :
    t.pipe.queue ≠ [] := by
  intro hqueue
  have hlt : t.pipe.queue.length < t.pipe.capacity := by
    rw [hqueue]
    exact h.capacity
  simp [Pipe.hasRoom, hlt] at hfull

/-- The watch goes past an entry that brings nothing. -/
theorem steps_onward {phase : Phase} {cleared : Bool} {pipe : Pipe} {rest : List Entry}
    (hleft : phase.left = rest.length + 1)
    (hcome : phase.toCome = rest.filterMap Entry.sample) (now : Reading) :
    Steps now ⟨⟨phase, cleared⟩, pipe⟩ ⟨⟨.onward now rest, cleared⟩, pipe⟩ := by
  have hlt : (Phase.onward now rest).left < phase.left := by
    rw [left_onward, hleft]
    exact Nat.lt_succ_self _
  refine .advances ⟨?_, Nat.le_of_lt hlt, ?_, ?_⟩ hlt
  · exact fun h => ⟨⟨h.running, h.listening⟩, h.capacity⟩
  · exact Nat.add_le_add_left (Nat.le_of_lt hlt) _
  · show pipe.queue ++ (Phase.onward now rest).toCome = pipe.queue ++ phase.toCome
    rw [toCome_onward, hcome]

/-- The watch hands a sample over if it can. -/
theorem steps_deliver {phase : Phase} {cleared : Bool} {pipe : Pipe} {sample : Sample}
    {rest : List Entry} (h : Ready ⟨⟨phase, cleared⟩, pipe⟩)
    (hleft : phase.left = rest.length + 1)
    (hcome : phase.toCome = sample :: rest.filterMap Entry.sample) (now : Reading) :
    let next := (Watch.deliver now ⟨.handing sample rest, cleared⟩ pipe).2
    Steps now ⟨⟨phase, cleared⟩, pipe⟩ ⟨next.1, next.2⟩ := by
  have hlistening : pipe.listening = true := h.listening
  cases hroom : pipe.hasRoom with
  | false =>
      simp only [Watch.deliver, hlistening, hroom, Bool.not_true, Bool.false_eq_true, if_false]
      refine .blocks ⟨?_, ?_, ?_, ?_⟩ hroom (queue_ne_nil_of_full h hroom)
      · exact fun h => ⟨⟨h.running, h.listening⟩, h.capacity⟩
      · exact Nat.le_of_eq hleft.symm
      · exact Nat.add_le_add_left (Nat.le_of_eq hleft.symm) _
      · show pipe.queue ++ (Phase.handing sample rest).toCome = pipe.queue ++ phase.toCome
        rw [toCome_handing, hcome]
  | true =>
      simp only [Watch.deliver, hlistening, hroom, Bool.not_true, Bool.false_eq_true, if_false,
        if_true]
      have hlt : (Phase.onward now rest).left < phase.left := by
        rw [left_onward, hleft]
        exact Nat.lt_succ_self _
      refine .advances ⟨?_, Nat.le_of_lt hlt, ?_, ?_⟩ hlt
      · exact fun h => ⟨⟨h.running, h.listening⟩, h.capacity⟩
      · show (pipe.queue ++ [sample]).length + (Phase.onward now rest).left ≤
          pipe.queue.length + phase.left
        rw [left_onward, hleft, List.length_append]
        exact Nat.le_of_eq (Nat.add_right_comm ..)
      · show (pipe.queue ++ [sample]) ++ (Phase.onward now rest).toCome =
          pipe.queue ++ phase.toCome
        rw [toCome_onward, hcome, List.append_assoc]
        rfl

theorem steps_step (h : Ready t) (now : Reading) : Steps now t (t.step now) := by
  obtain ⟨⟨phase, cleared⟩, pipe⟩ := t
  obtain rfl : cleared = false := h.running
  cases phase with
  | ended => exact .rests trivial
  | handing sample rest => exact steps_deliver h rfl rfl now
  | fresh feed =>
      have hdeliver := deliver_of_atHand (w := ⟨.onward now feed, false⟩)
        (atHand_onward now feed) now pipe
      simp only [Tap.step, Watch.step, Watch.waits, Watch.go, Watch.fetch, hdeliver,
        Bool.false_eq_true, if_false]
      exact steps_onward rfl rfl now
  | waiting due sample rest =>
      by_cases hnow : now < due
      · simp only [Tap.step, Watch.step, Watch.waits, hnow, decide_true, if_true]
        exact .rests hnow
      · simp only [Tap.step, Watch.step, Watch.waits, Watch.go, Watch.fetch, hnow, decide_false,
          Bool.false_eq_true, if_false]
        cases sample with
        | some sample => exact steps_deliver h rfl rfl now
        | none =>
            have hdeliver := deliver_of_atHand (w := ⟨.onward now rest, false⟩)
              (atHand_onward now rest) now pipe
            simp only [hdeliver]
            exact steps_onward rfl rfl now

theorem step_of_paused (h : Ready t) (hpaused : Paused now t) : t.step now = t := by
  obtain ⟨⟨phase, cleared⟩, pipe⟩ := t
  obtain rfl : cleared = false := h.running
  have hlistening : pipe.listening = true := h.listening
  cases phase with
  | fresh feed => exact hpaused.elim
  | ended => rfl
  | handing sample rest =>
      have hfull : pipe.hasRoom = false := hpaused
      simp only [Tap.step, Watch.step, Watch.waits, Watch.go, Watch.fetch, Watch.deliver,
        hlistening, hfull, Bool.not_true, Bool.false_eq_true, if_false]
  | waiting due sample rest =>
      have hnow : now < due := hpaused
      simp only [Tap.step, Watch.step, Watch.waits, hnow, decide_true, if_true]
      rfl

theorem steps_of_paused (h : Ready t) (hpaused : Paused now t) (n : Nat) :
    t.steps now n = t := by
  induction n with
  | zero => rfl
  | succ n ih => rw [Tap.steps, step_of_paused h hpaused, ih]

theorem carries_steps (h : Ready t) {n : Nat} (hn : t.watch.phase.left < n) :
    Carries t (t.steps now n) ∧ Paused now (t.steps now n) ∧
      (¬ Paused now t → t.pipe.queue = [] →
        (t.steps now n).watch.phase.left < t.watch.phase.left) := by
  induction n generalizing t with
  | zero => cases hn
  | succ n ih =>
      rw [Tap.steps]
      have hstep := steps_step h now
      generalize t.step now = u at hstep ⊢
      cases hstep with
      | rests hpaused =>
          rw [steps_of_paused h hpaused]
          exact ⟨.refl t, hpaused, fun hnot => absurd hpaused hnot⟩
      | blocks hcarries hpaused hqueue =>
          rw [steps_of_paused (hcarries.ready h) hpaused]
          exact ⟨hcarries, hpaused, fun _ hnil => absurd hnil hqueue⟩
      | advances hcarries hleft =>
          obtain ⟨hcarries', hpaused, -⟩ :=
            ih (hcarries.ready h) (Nat.lt_of_lt_of_le hleft (Nat.le_of_lt_succ hn))
          exact ⟨hcarries.trans hcarries', hpaused,
            fun _ _ => Nat.lt_of_le_of_lt hcarries'.left_le hleft⟩

theorem carries_settle (h : Ready t) (now : Reading) :
    Carries t (t.settle now) ∧ Paused now (t.settle now) ∧
      (¬ Paused now t → t.pipe.queue = [] →
        (t.settle now).watch.phase.left < t.watch.phase.left) :=
  carries_steps h (Nat.lt_succ_self _)

/-- A watch that is paused over an empty pipe waits for an entry, or has ended. -/
theorem due_of_paused (h : Ready t) (hpaused : Paused now t) (hqueue : t.pipe.queue = []) :
    (∃ due, t.watch.due? = some due ∧ now < due) ∨
      t.watch.due? = none ∧ toRead t = [] := by
  obtain ⟨⟨phase, cleared⟩, pipe⟩ := t
  cases phase with
  | fresh feed => exact hpaused.elim
  | waiting due sample rest => exact .inl ⟨due, rfl, hpaused⟩
  | handing sample rest => exact absurd hqueue (queue_ne_nil_of_full h hpaused)
  | ended =>
      refine .inr ⟨rfl, ?_⟩
      rw [toRead, hqueue]
      rfl

theorem toRead_of_size (h : size t = 0) : toRead t = [] := by
  obtain ⟨⟨phase, cleared⟩, ⟨capacity, queue, listening⟩⟩ := t
  obtain ⟨hqueue, hleft⟩ := Nat.add_eq_zero_iff.1 h
  obtain rfl : queue = [] := List.length_eq_zero_iff.1 hqueue
  cases phase with
  | ended => rfl
  | _ => cases hleft

/-- Fuel for a reader: it takes a sample, waits for the watch, or lets time pass before either. -/
def Enough (fuel : Nat) (now : Reading) (t : Tap) : Prop :=
  3 * size t ≤ fuel ∨ 3 * size t ≤ fuel + 1 ∧ ¬ Paused now t ∨
    3 * size t ≤ fuel + 2 ∧ t.pipe.queue ≠ []

theorem not_paused_of_due {due : Reading} (hdue : t.watch.due? = some due)
    (hnow : due ≤ now) : ¬ Paused now t := by
  obtain ⟨⟨phase, cleared⟩, pipe⟩ := t
  cases phase with
  | waiting due sample rest =>
      cases hdue
      exact Nat.not_lt_of_le hnow
  | _ => cases hdue

/-- Fuel that is left once the watch has settled over an empty pipe. -/
theorem Enough.settle (h : Enough (fuel + 1) now t) (hready : Ready t)
    (hqueue : t.pipe.queue = []) :
    ((t.settle now).pipe.queue = [] → 3 * size (t.settle now) ≤ fuel + 1) ∧
      ((t.settle now).pipe.queue ≠ [] → 3 * size (t.settle now) ≤ fuel + 2) := by
  by_cases hpaused : Paused now t
  · have hself : t.settle now = t := steps_of_paused hready hpaused _
    rw [hself]
    rcases h with hsize | ⟨-, hnot⟩ | ⟨-, hnot⟩
    · exact ⟨fun _ => hsize, fun hnot => absurd hqueue hnot⟩
    · exact absurd hpaused hnot
    · exact absurd hqueue hnot
  · obtain ⟨hcarries, -, hprogress⟩ := carries_settle hready now
    have hleft := hprogress hpaused hqueue
    have hsize : 3 * size t ≤ fuel + 2 := by
      rcases h with hsize | ⟨hsize, -⟩ | ⟨-, hnot⟩
      · exact Nat.le_succ_of_le hsize
      · exact hsize
      · exact absurd hqueue hnot
    constructor
    · intro hempty
      simp only [size, hqueue, hempty, List.length_nil] at hsize ⊢
      omega
    · intro _
      exact Nat.le_trans (Nat.mul_le_mul_left 3 hcarries.size_le) hsize

theorem Enough.size_le (h : Enough fuel now t) : 3 * size t ≤ fuel + 2 := by
  unfold Enough at h
  omega

theorem take_of_cons (h : Ready t) {sample : Sample} {queue : List Sample}
    (hqueue : t.pipe.queue = sample :: queue) :
    ∃ u, t.take? = some (sample, u) ∧ Ready u ∧ size t = size u + 1 ∧
      toRead t = sample :: toRead u := by
  refine ⟨{ t with pipe.queue := queue }, ?_, ⟨⟨h.running, h.listening⟩, h.capacity⟩, ?_, ?_⟩
  · simp only [Tap.take?, Pipe.take?, hqueue]
  · simp only [size, hqueue, List.length_cons]
    omega
  · rw [toRead, hqueue]
    rfl

/-- The reader gets what is still to come, as far as it wants. -/
theorem samples_read (h : Ready t) (henough : Enough fuel now t) :
    (t.read fuel wanted now).1.map Prod.snd = (toRead t).take wanted := by
  induction fuel generalizing wanted now t with
  | zero =>
      have hsize : size t = 0 := by
        have hle := henough.size_le
        omega
      rw [toRead_of_size hsize, List.take_nil]
      rfl
  | succ fuel ih =>
    cases wanted with
    | zero => rfl
    | succ wanted =>
      cases hqueue : t.pipe.queue with
      | cons sample queue =>
          obtain ⟨u, htake, hready, hsize, hread⟩ := take_of_cons h hqueue
          have hrest : Enough fuel now u := by
            have hle := henough.size_le
            exact .inl (by omega)
          simp only [Tap.read, htake, List.map_cons, ih hready hrest, hread, List.take_succ_cons]
      | nil =>
          have htake : t.take? = none := by simp only [Tap.take?, Pipe.take?, hqueue]
          obtain ⟨hcarries, hpaused, -⟩ := carries_settle h now
          obtain ⟨hempty, hfilled⟩ := henough.settle h hqueue
          have hready := hcarries.ready h
          simp only [Tap.read, htake]
          rw [← hcarries.toRead_eq]
          generalize t.settle now = u at *
          by_cases hnil : u.pipe.queue = []
          · simp only [hnil, List.isEmpty_nil, if_true]
            rcases due_of_paused hready hpaused hnil with ⟨due, hdue, -⟩ | ⟨hdue, hnone⟩
            · simp only [hdue]
              have hcome := not_paused_of_due hdue (Nat.le_max_right now due)
              exact ih hready (.inr (.inl ⟨hempty hnil, hcome⟩))
            · simp only [hdue, hnone, List.take_nil]
              rfl
          · have hcons : u.pipe.queue.isEmpty = false := by simpa using hnil
            simp only [hcons, Bool.false_eq_true, if_false]
            exact ih hready (.inr (.inr ⟨hfilled hnil, hnil⟩))

theorem samples_readSamples (h : Ready t) (wanted : Nat) (now : Reading) :
    (t.readSamples wanted now).1.map Prod.snd = (toRead t).take wanted :=
  samples_read h (.inl (Nat.le_succ _))

end CourierTrack.Proofs.TapReading
