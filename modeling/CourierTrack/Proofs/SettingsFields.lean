import Mathlib.Data.List.DropRight
import CourierTrack.Settings.Reader
/-!
What is known of settings that were read: each value is the default one or comes from a text
without blanks around it, and the longest wait is not shorter than the first one.
-/

namespace CourierTrack.Proofs.SettingsFields

open CourierTrack.Settings

variable {α β ε : Type} {home place key reason : String} {ini : Ini} {s : Settings}
  {text cs : List Char} {fallback a : α} {read : List Char → Except String α}

/-! Texts without blanks around them -/

structure IsTrimmed (cs : List Char) : Prop where
  start : Text.trimStart cs = cs
  finish : Text.trimEnd cs = cs

theorem isTrimmed_trim (cs : List Char) : IsTrimmed (Text.trim cs) where
  start := by
    refine List.dropWhile_eq_self_iff.2 fun hlength => ?_
    have hfront : Text.trim cs <+: Text.trimStart cs := List.rdropWhile_prefix Text.isBlank _
    rw [hfront.getElem hlength]
    exact List.dropWhile_get_zero_not _ cs (hlength.trans_le hfront.length_le)
  finish := List.rdropWhile_idempotent Text.isBlank _

theorem IsTrimmed.trim (h : IsTrimmed cs) : Text.trim cs = cs := by
  rw [Text.trim, h.start, h.finish]

/-! Single values -/

theorem ok_bind (a : α) (f : α → Except ε β) : (Except.ok a >>= f) = f a := rfl

theorem exists_of_bind_eq_ok {x : Except ε α} {f : α → Except ε β} {b : β}
    (h : x >>= f = .ok b) : ∃ a, x = .ok a ∧ f a = .ok b := by
  cases x with
  | error e => cases h
  | ok a => exact ⟨a, rfl, h⟩

theorem exists_of_map_eq_ok {x : Except ε α} {f : α → β} {b : β} (h : x.map f = .ok b) :
    ∃ a, x = .ok a ∧ f a = b := by
  cases x with
  | error e => cases h
  | ok a => exact ⟨a, rfl, Except.ok.inj h⟩

theorem exists_of_any {x : Except ε α} {p : α → Bool}
    (h : x.toOption.any p = true) : ∃ a, x = .ok a ∧ p a = true := by
  cases x with
  | error e => cases h
  | ok a => exact ⟨a, rfl, h⟩

theorem value_eq_some (h : value? ini place key = some text) : text ≠ [] ∧ IsTrimmed text := by
  unfold value? at h
  split at h
  · cases h
  · rename_i hempty
    constructor
    · rintro rfl
      exact hempty h
    · obtain ⟨value, -, rfl⟩ := Option.map_eq_some_iff.1 h
      exact isTrimmed_trim _

theorem field_eq_ok_iff :
    field ini place key fallback read = .ok a ↔
      value? ini place key = none ∧ fallback = a ∨
        ∃ text, value? ini place key = some text ∧ read text = .ok a := by
  unfold field
  cases value? ini place key with
  | none => simp
  | some text =>
      cases hread : read text with
      | error reason => simp [hread]
      | ok b => simp [hread]

/-- A property of the default value and of all values that are read. -/
theorem field_induction {P : α → Prop} (h : field ini place key fallback read = .ok a)
    (hfallback : P fallback)
    (hread : ∀ text b, text ≠ [] → IsTrimmed text → read text = .ok b → P b) : P a := by
  rcases field_eq_ok_iff.1 h with ⟨-, rfl⟩ | ⟨text, hvalue, htext⟩
  · exact hfallback
  · obtain ⟨hne, htrimmed⟩ := value_eq_some hvalue
    exact hread text a hne htrimmed htext

theorem natural_lt {bits n : Nat} (h : Decimal.natural? bits cs = some n) : n < Nat.pow 2 bits := by
  have hread (digits : List Char)
      (hdigits : (if digits.isEmpty || !digits.all Char.isDigit then none
        else if Decimal.digitsValue digits < Nat.pow 2 bits then some (Decimal.digitsValue digits)
        else none) = some n) : n < Nat.pow 2 bits := by
    split at hdigits
    · cases hdigits
    · split at hdigits
      · cases hdigits
        assumption
      · cases hdigits
  exact hread _ h

theorem whole_eq_ok {n : Nat} (h : whole reason text = .ok n) : n < Nat.pow 2 64 := by
  unfold whole at h
  split at h
  · rename_i hm
    cases h
    exact natural_lt hm
  · cases h

theorem tick_eq_ok {n : Nat} (h : tick text = .ok n) : 1 ≤ n ∧ n < Nat.pow 2 64 := by
  unfold tick at h
  split at h
  · cases h
  · rename_i hne
    refine ⟨Nat.one_le_iff_ne_zero.2 ?_, whole_eq_ok h⟩
    rintro rfl
    exact hne h

theorem webOrigin_eq_ok {origin : String} (h : webOrigin text = .ok origin) :
    (startsWith "http://" text = true ∨ startsWith "https://" text = true) ∧
      origin.toList = text.rdropWhile (· = '/') := by
  unfold webOrigin at h
  split at h
  · rename_i hstart
    cases h
    exact ⟨by simpa using hstart, String.toList_ofList⟩
  · cases h

theorem channelUrl_eq_ok {channel : Option String} (h : channelUrl text = .ok channel) :
    (startsWith "ws://" text = true ∨ startsWith "wss://" text = true) ∧
      channel = some (String.ofList text) := by
  unfold channelUrl at h
  split at h
  · rename_i hstart
    cases h
    exact ⟨by simpa using hstart, rfl⟩
  · cases h

theorem metres_eq_ok {x : Float} (h : metres text = .ok x) :
    Decimal.float? text = some x ∧ x.isFinite = true ∧ ¬ x < 0 := by
  unfold metres at h
  split at h
  · cases h
  · rename_i y hy
    split at h
    · cases h
    · rename_i hrange
      cases h
      exact ⟨hy, by simpa using hrange⟩

theorem speed_eq_ok {x : Float} (h : speed text = .ok x) :
    Decimal.float? text = some x ∧ x.isFinite = true ∧ ¬ x ≤ 0 := by
  unfold speed at h
  split at h
  · cases h
  · rename_i y hy
    split at h
    · cases h
    · rename_i hrange
      cases h
      exact ⟨hy, by simpa using hrange⟩

/-! All values -/

/-- Whether settings are what is read from sections and entries, value by value. -/
structure Reads (home : String) (ini : Ini) (s : Settings) : Prop where
  origin : field ini "session" "origin" (default home).origin webOrigin = .ok s.origin
  delivery : field ini "session" "delivery_id" (default home).delivery deliveryNumber =
    .ok s.delivery
  channel : field ini "session" "channel_url" (default home).channel channelUrl = .ok s.channel
  minIntervalSecs : field ini "gate" "min_interval_secs" (default home).minIntervalSecs
    (whole "must be a non-negative integer (seconds)") = .ok s.minIntervalSecs
  minDistance : field ini "gate" "min_distance_m" (default home).minDistance metres =
    .ok s.minDistance
  backoffBaseMs : field ini "transport" "backoff_base_ms" (default home).backoffBaseMs
    (whole "must be a positive integer (milliseconds)") = .ok s.backoffBaseMs
  backoffMaxMs : field ini "transport" "backoff_max_ms" (default home).backoffMaxMs
    (whole "must be a positive integer (milliseconds)") = .ok s.backoffMaxMs
  backoff : s.backoffBaseMs ≤ s.backoffMaxMs
  persist : field ini "producer" "persist" (default home).persist choice = .ok s.persist
  persistPath : field ini "producer" "persist_path" (default home).persistPath words =
    .ok s.persistPath
  status : field ini "producer" "status" (default home).status words = .ok s.status
  tickMs : field ini "producer" "simulate_tick_ms" (default home).tickMs tick = .ok s.tickMs
  historyPath : field ini "consumer" "history_path" (default home).historyPath words =
    .ok s.historyPath
  historyLimit : field ini "consumer" "history_limit" (default home).historyLimit
    (fun text => (whole "must be a positive integer" text).map Watcher.clampLimit) =
      .ok s.historyLimit
  historyTimeoutSecs : field ini "consumer" "history_timeout_secs"
    (default home).historyTimeoutSecs (whole "must be a positive integer (seconds)") =
      .ok s.historyTimeoutSecs
  speedKmph : field ini "consumer" "speed_kmph" (default home).speedKmph speed = .ok s.speedKmph
  logDirectory : field ini "logging" "directory" (default home).logDirectory (homePath home) =
    .ok s.logDirectory
  logFile : field ini "logging" "file" (default home).logFile words = .ok s.logFile

theorem checkBackoff_eq_ok_iff {base limit : Nat} {u : Unit} :
    checkBackoff base limit = .ok u ↔ base ≤ limit := by
  unfold checkBackoff
  split <;> simp_all

theorem ofIni_eq_ok_iff : ofIni home ini = .ok s ↔ Reads home ini s := by
  unfold ofIni
  constructor
  · intro h
    obtain ⟨origin, horigin, h⟩ := exists_of_bind_eq_ok h
    obtain ⟨delivery, hdelivery, h⟩ := exists_of_bind_eq_ok h
    obtain ⟨channel, hchannel, h⟩ := exists_of_bind_eq_ok h
    obtain ⟨minIntervalSecs, hinterval, h⟩ := exists_of_bind_eq_ok h
    obtain ⟨minDistance, hdistance, h⟩ := exists_of_bind_eq_ok h
    obtain ⟨backoffBaseMs, hbase, h⟩ := exists_of_bind_eq_ok h
    obtain ⟨backoffMaxMs, hmax, h⟩ := exists_of_bind_eq_ok h
    obtain ⟨_, hbackoff, h⟩ := exists_of_bind_eq_ok h
    obtain ⟨persist, hpersist, h⟩ := exists_of_bind_eq_ok h
    obtain ⟨persistPath, hpersistPath, h⟩ := exists_of_bind_eq_ok h
    obtain ⟨status, hstatus, h⟩ := exists_of_bind_eq_ok h
    obtain ⟨tickMs, htick, h⟩ := exists_of_bind_eq_ok h
    obtain ⟨historyPath, hhistoryPath, h⟩ := exists_of_bind_eq_ok h
    obtain ⟨historyLimit, hlimit, h⟩ := exists_of_bind_eq_ok h
    obtain ⟨historyTimeoutSecs, htimeout, h⟩ := exists_of_bind_eq_ok h
    obtain ⟨speedKmph, hspeed, h⟩ := exists_of_bind_eq_ok h
    obtain ⟨logDirectory, hdirectory, h⟩ := exists_of_bind_eq_ok h
    obtain ⟨logFile, hfile, h⟩ := exists_of_bind_eq_ok h
    cases h
    exact ⟨horigin, hdelivery, hchannel, hinterval, hdistance, hbase, hmax,
      checkBackoff_eq_ok_iff.1 hbackoff, hpersist, hpersistPath, hstatus, htick, hhistoryPath,
      hlimit, htimeout, hspeed, hdirectory, hfile⟩
  · intro h
    have hbackoff : checkBackoff s.backoffBaseMs s.backoffMaxMs = .ok () :=
      checkBackoff_eq_ok_iff.2 h.backoff
    simp only [h.origin, h.delivery, h.channel, h.minIntervalSecs, h.minDistance, h.backoffBaseMs,
      h.backoffMaxMs, hbackoff, h.persist, h.persistPath, h.status, h.tickMs, h.historyPath,
      h.historyLimit, h.historyTimeoutSecs, h.speedKmph, h.logDirectory, h.logFile, ok_bind]
    rfl

theorem exists_reads {text : String} (h : ofText home text = .ok s) :
    ∃ ini, Ini.ofText? text = some ini ∧ Reads home ini s := by
  unfold ofText at h
  split at h
  · cases h
  · rename_i ini hini
    exact ⟨ini, hini, ofIni_eq_ok_iff.1 h⟩

end CourierTrack.Proofs.SettingsFields
