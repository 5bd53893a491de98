import Mathlib
import CourierTrack.Proofs.ChannelTurns
/-!
What a peer sends reaches the owner of a channel and nothing else: the messages are the frames among
the texts heard, and texts that are no frames leave no trace in a run.
-/

namespace CourierTrack.Proofs.InboundTexts

open CourierTrack.Time
open CourierTrack.Channel
open CourierTrack.Proofs.ChannelTurns

variable {now : Reading} {c d : Channel} {signal : Signal} {actions : List Action}
  {plain noisy : List (Reading × Signal)}

/-! Messages -/

theorem hearing_eq_nil (h : ∀ text, signal ≠ .received text) : c.hearing signal = [] := by
  unfold hearing
  split
  · exact absurd rfl (h _)
  · rfl

theorem hearing_of_live (hphase : c.phase = .live) (text : String) :
    c.hearing (.received text) = [text] := by
  simp only [hearing, hphase]

theorem hearing_of_not_live (hphase : c.phase ≠ .live) : c.hearing signal = [] := by
  unfold hearing
  split
  · rename_i hlive
    exact absurd hlive hphase
  · rfl

theorem messages_of_ne_received (t : Turn now c signal actions d)
    (h : ∀ text, signal ≠ .received text) : messages (announced actions) = [] := by
  induction t with
  | ignored _ => rfl
  | kept _ _ => rfl
  | begun _ _ => rfl
  | refused _ => rfl
  | entered _ _ =>
      change messages (.status .live :: announced (List.map _ _)) = _
      rw [announced_writes]
      rfl
  | broken _ front rest _ _ _ =>
      rw [announced_append]
      change messages (.status .live :: announced (front.map fun f => .write f.encode) ++ _) = _
      rw [announced_writes]
      rfl
  | wrote _ => rfl
  | unwritten _ => rfl
  | heard _ => exact absurd rfl (h _)
  | dropped _ => rfl
  | closedDown _ => rfl
  | halted _ => rfl
  | cancelled _ => rfl
  | left _ ih => exact ih (by simp)

theorem turn_messages (t : Turn now c signal actions d) :
    messages (announced actions) = decoded (c.hearing signal) := by
  cases signal with
  | received text =>
      cases t with
      | ignored hpast =>
          rw [hearing_of_not_live hpast]
          rfl
      | begun _ hsignal => simp at hsignal
      | heard hphase =>
          rw [hearing_of_live hphase]
          exact messages_inbound text
  | _ =>
      rw [messages_of_ne_received t (by simp), hearing_eq_nil (by simp)]
      rfl

theorem run_messages (h : Settled c) (signals : List (Reading × Signal)) :
    messages (announced (c.run signals).1) = decoded (c.heard signals) := by
  induction signals generalizing c with
  | nil => rfl
  | cons head rest ih =>
      obtain ⟨now, signal⟩ := head
      have t := turn_step now h signal
      change messages (announced ((c.step now signal).1 ++ ((c.step now signal).2.run rest).1)) =
        decoded (c.hearing signal ++ (c.step now signal).2.heard rest)
      rw [announced_append, messages_append, decoded_append, turn_messages t, ih (t.settled h)]

/-! Noise -/

/-- The same signals with texts put in between that are no frames. -/
inductive Disturbed : List (Reading × Signal) → List (Reading × Signal) → Prop where
  | nil : Disturbed [] []
  | cons {plain noisy : List (Reading × Signal)} (entry : Reading × Signal)
      (tail : Disturbed plain noisy) : Disturbed (entry :: plain) (entry :: noisy)
  | noise {plain noisy : List (Reading × Signal)} {now : Reading} {text : String}
      {error : FrameError} (h : Frame.decode text = .error error)
      (tail : Disturbed plain noisy) : Disturbed plain ((now, .received text) :: noisy)

/-- Noise does nothing to a channel in any phase. -/
theorem step_noise {text : String} {error : FrameError} (h : Frame.decode text = .error error)
    (now : Reading) (c : Channel) : c.step now (.received text) = ([], c) := by
  have hinbound : inbound text = [] := by rw [inbound, h]
  unfold Channel.step
  cases c.phase with
  | live => exact congrArg (·, c) hinbound
  | _ => rfl

theorem run_disturbed (h : Disturbed plain noisy) (c : Channel) : c.run noisy = c.run plain := by
  induction h generalizing c with
  | nil => rfl
  | cons entry _ ih =>
      obtain ⟨now, signal⟩ := entry
      simp only [run, ih]
  | noise hdecode _ ih =>
      rw [run, step_noise hdecode]
      exact ih c

theorem log_disturbed (h : Disturbed plain noisy) (c : Channel) : c.log noisy = c.log plain := by
  induction h generalizing c with
  | nil => rfl
  | cons entry _ ih =>
      obtain ⟨now, signal⟩ := entry
      rw [Channel.log, Channel.log, ih]
  | noise hdecode _ ih =>
      rw [Channel.log, step_noise hdecode]
      exact ih c

theorem journal_disturbed (h : Disturbed plain noisy) (c : Channel) :
    c.journal noisy = c.journal plain := by
  induction h generalizing c with
  | nil => rfl
  | cons entry _ ih =>
      obtain ⟨now, signal⟩ := entry
      simp only [journal, ih]
  | noise hdecode _ ih =>
      simp only [journal, step_noise hdecode]
      exact ih c

/-- Inbound texts cannot disturb a channel: those that are frames are passed on in their order, each
once, and those that are none change neither what the channel does and when, nor what it publishes,
nor how it goes on. -/
theorem inbound_texts_cannot_disturb (backoff : Backoff) (signals : List (Reading × Signal)) :
    let c := ofBackoff backoff
    messages (announced (c.run signals).1) = decoded (c.heard signals) ∧
      ∀ noisy, Disturbed signals noisy →
        c.log noisy = c.log signals ∧ c.journal noisy = c.journal signals ∧
          (c.run noisy).2 = (c.run signals).2 := by
  intro c
  refine ⟨run_messages (settled_ofBackoff backoff) signals, ?_⟩
  intro noisy h
  exact ⟨log_disturbed h c, journal_disturbed h c, congrArg Prod.snd (run_disturbed h c)⟩

theorem inbound_texts_cannot_disturb_garbled :
    let later := "\x7b\"type\":\"later\"\x7d"
    let signals : List (Reading × Signal) :=
      [(0, .connect), (1, .accepted none), (3, .received later), (5, .dropped)]
    let noisy : List (Reading × Signal) :=
      [(0, .connect), (1, .accepted none), (2, .received "\x7b"), (3, .received later),
        (4, .received "7"), (5, .dropped)]
    messages (announced ((ofBackoff {}).run signals).1) = [.unknown "later"] ∧
      (ofBackoff {}).log noisy = (ofBackoff {}).log signals := by
  intro later signals noisy
  obtain ⟨hmessages, hnoise⟩ := inbound_texts_cannot_disturb {} signals
  have hbrace : Frame.decode "\x7b" = .error .malformed := rfl
  have hseven : Frame.decode "7" = .error .notAnObject := rfl
  have hdisturbed : Disturbed signals noisy :=
    .cons _ (.cons _ (.noise hbrace (.cons _ (.noise hseven (.cons _ .nil)))))
  refine ⟨?_, (hnoise noisy hdisturbed).1⟩
  rw [hmessages]
  cbv

end CourierTrack.Proofs.InboundTexts
