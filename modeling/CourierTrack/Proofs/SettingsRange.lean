import Mathlib.Data.List.DropRight
import CourierTrack.Proofs.SettingsFields
/-!
The ranges of settings that were read. Where a message asks for a positive number only a tick of
zero is refused, and an origin is looked at before the slashes at its end are dropped.
-/

namespace CourierTrack.Proofs.SettingsRange

open CourierTrack.Settings
open CourierTrack.Proofs.SettingsFields
open Float.Model

variable {home text : String} {ini : Ini} {s : Settings} {scheme cs : List Char} {x : Float}

/-! Floats and zero -/

theorem lt_iff_unpack {x y : Float} : x < y ↔ x.toModel.unpack.lt y.toModel.unpack = true :=
  decide_eq_true_iff

theorem le_iff_unpack {x y : Float} : x ≤ y ↔ x.toModel.unpack.le y.toModel.unpack = true :=
  decide_eq_true_iff

theorem unpack_zero : (0 : Float).toModel.unpack = .zero .positive := by rfl

theorem zero_le_of_not_lt (hfinite : x.isFinite = true) (h : ¬ x < 0) : 0 ≤ x := by
  have hunpack : x.toModel.unpack.isFinite = true := hfinite
  rw [lt_iff_unpack, unpack_zero] at h
  rw [le_iff_unpack, unpack_zero]
  cases hx : x.toModel.unpack with
  | notANumber => rw [hx] at hunpack; cases hunpack
  | infinity sign => rw [hx] at hunpack; cases hunpack
  | zero sign => rfl
  | finite sign m e hm =>
      cases sign with
      | positive => rfl
      | negative => rw [hx] at h; exact absurd rfl h

theorem zero_lt_of_not_le (hfinite : x.isFinite = true) (h : ¬ x ≤ 0) : 0 < x := by
  have hunpack : x.toModel.unpack.isFinite = true := hfinite
  rw [le_iff_unpack, unpack_zero] at h
  rw [lt_iff_unpack, unpack_zero]
  cases hx : x.toModel.unpack with
  | notANumber => rw [hx] at hunpack; cases hunpack
  | infinity sign => rw [hx] at hunpack; cases hunpack
  | zero sign => rw [hx] at h; exact absurd rfl h
  | finite sign m e hm =>
      cases sign with
      | positive => rfl
      | negative => rw [hx] at h; exact absurd rfl h

/-! Origins without slashes at their end -/

theorem rdropWhile_append (p : Char → Bool) (as bs : List Char) :
    (as ++ bs).rdropWhile p =
      if bs.rdropWhile p = [] then as.rdropWhile p else as ++ bs.rdropWhile p := by
  simp only [List.rdropWhile, List.reverse_append, List.dropWhile_append, List.isEmpty_iff,
    List.reverse_eq_nil_iff]
  split
  · rfl
  · rw [List.reverse_append, List.reverse_reverse]

/-- All that follows a scheme may be slashes, and then nothing is left but the scheme. -/
theorem rdropWhile_slash (hscheme : scheme.rdropWhile (· = '/') = scheme)
    (h : scheme ++ ['/', '/'] <+: cs) :
    cs.rdropWhile (· = '/') = scheme ∨
      scheme ++ ['/', '/'] <+: cs.rdropWhile (· = '/') := by
  obtain ⟨rest, rfl⟩ := h
  rw [rdropWhile_append]
  split
  · left
    rw [rdropWhile_append]
    simpa using hscheme
  · right
    exact List.prefix_append _ _

/-! All values -/

/-- What is checked of settings when they are read. -/
structure Checked (s : Settings) : Prop where
  origin : startsWith "http://" s.origin.toList = true ∨
    startsWith "https://" s.origin.toList = true ∨ s.origin = "http:" ∨ s.origin = "https:"
  channel : ∀ url, s.channel = some url →
    startsWith "ws://" url.toList = true ∨ startsWith "wss://" url.toList = true
  backoff : s.backoffBaseMs ≤ s.backoffMaxMs
  tick : 1 ≤ s.tickMs
  distance : s.minDistance.isFinite = true ∧ 0 ≤ s.minDistance
  speed : s.speedKmph.isFinite = true ∧ 0 < s.speedKmph
  limit : 10 ≤ s.historyLimit ∧ s.historyLimit ≤ 1000
  persistPath : s.persistPath ≠ ""
  status : s.status ≠ ""
  historyPath : s.historyPath ≠ ""
  logFile : s.logFile ≠ ""

/-- The ranges that the messages of the reader state. -/
structure InRange (s : Settings) : Prop extends Checked s where
  web : startsWith "http://" s.origin.toList = true ∨ startsWith "https://" s.origin.toList = true
  delivery : ∀ id, s.delivery = some id → 1 ≤ id.toNat
  firstWait : 1 ≤ s.backoffBaseMs
  longestWait : 1 ≤ s.backoffMaxMs
  timeout : 1 ≤ s.historyTimeoutSecs

theorem origin_of_webOrigin {origin : String} (h : webOrigin cs = .ok origin) :
    startsWith "http://" origin.toList = true ∨ startsWith "https://" origin.toList = true ∨
      origin = "http:" ∨ origin = "https:" := by
  obtain ⟨hstart, horigin⟩ := webOrigin_eq_ok h
  simp only [startsWith, List.isPrefixOf_iff_prefix] at hstart ⊢
  rw [← String.toList_inj, ← String.toList_inj, horigin]
  have hhttp : "http:".toList.rdropWhile (· = '/') = "http:".toList := by decide
  have hhttps : "https:".toList.rdropWhile (· = '/') = "https:".toList := by decide
  rcases hstart with hstart | hstart
  · rcases rdropWhile_slash hhttp hstart with heq | hfront
    · exact .inr (.inr (.inl heq))
    · exact .inl hfront
  · rcases rdropWhile_slash hhttps hstart with heq | hfront
    · exact .inr (.inr (.inr heq))
    · exact .inr (.inl hfront)

theorem checked_default (home : String) : Checked (Settings.default home) where
  origin := by simp only [Settings.default]; decide
  channel := nofun
  backoff := by simp [Settings.default]
  tick := by simp [Settings.default]
  distance := by simp only [Settings.default]; decide +kernel
  speed := by simp only [Settings.default]; decide +kernel
  limit := by simp [Settings.default, Watcher.defaultLimit]
  persistPath := by simp [Settings.default]
  status := by simp [Settings.default]
  historyPath := by simp [Settings.default]
  logFile := by simp [Settings.default]

theorem ne_empty_of_words {fallback word place key : String}
    (h : field ini place key fallback words = .ok word) (hfallback : fallback ≠ "") :
    word ≠ "" := by
  refine field_induction (P := (· ≠ "")) h hfallback fun cs _ hcs _ hread hempty => ?_
  cases hread
  exact hcs (by simpa using congrArg String.toList hempty)

theorem reads_checked (h : Reads home ini s) : Checked s :=
  have d := checked_default home
  { origin := field_induction (P := fun origin => startsWith "http://" origin.toList = true ∨
        startsWith "https://" origin.toList = true ∨ origin = "http:" ∨ origin = "https:")
      h.origin d.origin fun _ _ _ _ => origin_of_webOrigin
    channel := by
      refine field_induction (P := fun channel => ∀ url, channel = some url →
        startsWith "ws://" url.toList = true ∨ startsWith "wss://" url.toList = true)
        h.channel d.channel fun cs _ _ _ hread url hurl => ?_
      obtain ⟨hstart, rfl⟩ := channelUrl_eq_ok hread
      cases hurl
      simpa using hstart
    backoff := h.backoff
    tick := field_induction h.tickMs d.tick fun _ _ _ _ hread => (tick_eq_ok hread).1
    distance := by
      refine field_induction (P := fun x => x.isFinite = true ∧ 0 ≤ x) h.minDistance d.distance
        fun _ _ _ _ hread => ?_
      obtain ⟨-, hfinite, hrange⟩ := metres_eq_ok hread
      exact ⟨hfinite, zero_le_of_not_lt hfinite hrange⟩
    speed := by
      refine field_induction (P := fun x => x.isFinite = true ∧ 0 < x) h.speedKmph d.speed
        fun _ _ _ _ hread => ?_
      obtain ⟨-, hfinite, hrange⟩ := speed_eq_ok hread
      exact ⟨hfinite, zero_lt_of_not_le hfinite hrange⟩
    limit := by
      refine field_induction (P := fun n => 10 ≤ n ∧ n ≤ 1000) h.historyLimit d.limit
        fun cs _ _ _ hread => ?_
      obtain ⟨limit, -, rfl⟩ := exists_of_map_eq_ok hread
      exact Watcher.clampLimit_bounds limit
    persistPath := ne_empty_of_words h.persistPath d.persistPath
    status := ne_empty_of_words h.status d.status
    historyPath := ne_empty_of_words h.historyPath d.historyPath
    logFile := ne_empty_of_words h.logFile d.logFile }

theorem Checked.web_iff (h : Checked s) :
    startsWith "http://" s.origin.toList = true ∨ startsWith "https://" s.origin.toList = true ↔
      s.origin ≠ "http:" ∧ s.origin ≠ "https:" := by
  constructor
  · intro hstart
    constructor <;> intro heq <;> rw [heq] at hstart <;> revert hstart <;> decide
  · rintro ⟨hhttp, hhttps⟩
    rcases h.origin with hstart | hstart | heq | heq
    · exact .inl hstart
    · exact .inr hstart
    · exact absurd heq hhttp
    · exact absurd heq hhttps

/-- Settings that were read are in range but for a bare scheme and four zeros that pass. -/
theorem settings_in_range_iff (h : ofText home text = .ok s) :
    Checked s ∧
      (InRange s ↔ s.origin ≠ "http:" ∧ s.origin ≠ "https:" ∧ s.delivery ≠ some 0 ∧
        s.backoffBaseMs ≠ 0 ∧ s.historyTimeoutSecs ≠ 0) := by
  obtain ⟨ini, -, hreads⟩ := exists_reads h
  have hchecked := reads_checked hreads
  refine ⟨hchecked, ?_, ?_⟩
  · intro hrange
    obtain ⟨hhttp, hhttps⟩ := hchecked.web_iff.1 hrange.web
    refine ⟨hhttp, hhttps, ?_, Nat.one_le_iff_ne_zero.1 hrange.firstWait,
      Nat.one_le_iff_ne_zero.1 hrange.timeout⟩
    intro hzero
    exact absurd (hrange.delivery 0 hzero) (by decide)
  · rintro ⟨hhttp, hhttps, hdelivery, hbase, htimeout⟩
    have hfirst := Nat.one_le_iff_ne_zero.2 hbase
    exact
      { hchecked with
        web := hchecked.web_iff.2 ⟨hhttp, hhttps⟩
        delivery := by
          intro id hid
          refine Nat.one_le_iff_ne_zero.2 fun hzero => hdelivery ?_
          rw [hid, ← UInt64.toNat_inj.1 (hzero.trans UInt64.toNat_zero.symm)]
        firstWait := hfirst
        longestWait := hfirst.trans hchecked.backoff
        timeout := Nat.one_le_iff_ne_zero.2 htimeout }

theorem settings_in_range_iff_bare_scheme :
    ∃ s, ofText "/home/rider" "[session]\norigin = https:////\ndelivery_id = 7\n" = .ok s ∧
      s.origin = "https:" ∧ Checked s ∧
        (InRange s ↔ s.origin ≠ "http:" ∧ s.origin ≠ "https:" ∧ s.delivery ≠ some 0 ∧
          s.backoffBaseMs ≠ 0 ∧ s.historyTimeoutSecs ≠ 0) := by
  have hany : (ofText "/home/rider" "[session]\norigin = https:////\ndelivery_id = 7\n")
      |>.toOption.any (·.origin = "https:") := by decide +kernel
  obtain ⟨s, hs, horigin⟩ := exists_of_any hany
  exact ⟨s, hs, of_decide_eq_true horigin, settings_in_range_iff hs⟩

/-- Delivery zero is read although its message asks for a positive number. -/
theorem zero_delivery_read :
    ∃ s, ofText "/home/rider" "[session]\ndelivery_id = 0\n" = .ok s ∧ ¬ InRange s := by
  have hany : (ofText "/home/rider" "[session]\ndelivery_id = 0\n")
      |>.toOption.any (·.delivery = some 0) := by decide +kernel
  obtain ⟨s, hs, hdelivery⟩ := exists_of_any hany
  refine ⟨s, hs, fun hrange => ?_⟩
  exact absurd (hrange.delivery 0 (of_decide_eq_true hdelivery)) (by decide)

end CourierTrack.Proofs.SettingsRange
