import Mathlib
import CourierTrack.Proofs.JsonNumbers
import CourierTrack.Proofs.KnownSettings
import CourierTrack.Proofs.WrittenSettings
/-!
Settings that were read, written and read again. Values are written as they are, so settings come
back if all their values stand for themselves.
-/

namespace CourierTrack.Proofs.SettingsReadback

open CourierTrack.Ini
open CourierTrack.Settings
open CourierTrack.Proofs.IniLines
open CourierTrack.Proofs.IniMisreadings
open CourierTrack.Proofs.IniValues
open CourierTrack.Proofs.JsonNumbers
open CourierTrack.Proofs.KnownSettings
open CourierTrack.Proofs.SettingsFields
open CourierTrack.Proofs.WrittenSettings

variable {α : Type} {home place key value : String} {ini : Ini} {s : Settings} {a fallback : α}
  {cs : List Char} {read : List Char → Except String α} {x : Float}

/-! Texts of numbers and words -/

theorem isPlain_range {c : Char} (h : isPlain c = true) :
    43 ≤ c.toNat ∧ c.toNat ≤ 122 ∧ c.toNat ≠ 92 := by
  simp only [isPlain, Char.isAlphanum, Char.isAlpha, Char.isUpper, Char.isLower, Char.isDigit,
    Bool.or_eq_true, Bool.and_eq_true, decide_eq_true_eq, beq_iff_eq, ge_iff_le,
    UInt32.le_iff_toNat_le] at h
  change (((((65 ≤ c.toNat ∧ c.toNat ≤ 90) ∨ (97 ≤ c.toNat ∧ c.toNat ≤ 122)) ∨
    (48 ≤ c.toNat ∧ c.toNat ≤ 57)) ∨ c = '-') ∨ c = '+') ∨ c = '.' at h
  rcases h with ((((h | h) | h) | rfl) | rfl) | rfl
  · omega
  · omega
  · omega
  · decide
  · decide
  · decide

theorem isBlank_of_isPlain {c : Char} (h : isPlain c = true) : Text.isBlank c = false := by
  have hrange := isPlain_range h
  simp only [Text.isBlank, Bool.or_eq_false_iff, Bool.and_eq_false_iff, decide_eq_false_iff_not,
    beq_eq_false_iff_ne]
  omega

theorem verbatim_of_allPlain (h : AllPlain cs) : Verbatim cs := by
  have hquote {c : Char} (hc : c = '"' ∨ c = '\'') : cs.head? ≠ some c := by
    intro hhead
    have hplain := h c (List.mem_of_mem_head? hhead)
    rcases hc with rfl | rfl <;> exact absurd hplain (by decide)
  refine ⟨⟨hquote (.inl rfl), hquote (.inr rfl)⟩, fun c hc => ⟨?_, ?_⟩⟩
  · cases hbreak : isBreak c with
    | false => rfl
    | true =>
        have hblank := isBlank_of_isPlain (h c hc)
        rw [isBlank_of_isBreak hbreak] at hblank
        cases hblank
  · rintro rfl
    exact absurd (h _ hc) (by decide)

theorem isTrimmed_of_allPlain (h : AllPlain cs) : IsTrimmed cs :=
  have hblank (c : Char) (hc : c ∈ cs) := isBlank_of_isPlain (h c hc)
  ⟨trimStart_of_not_blank hblank, trimEnd_of_not_blank hblank⟩

theorem toList_natural (n : Nat) : (toString n).toList = Decimal.digitText n := Nat.toList_repr

theorem natural_digitText {bits n : Nat} (h : n < Nat.pow 2 bits) :
    Decimal.natural? bits (Decimal.digitText n) = some n := by
  have hdigits : (Decimal.digitText n).all Char.isDigit = true :=
    List.all_eq_true.2 fun c hc => isDigit_of_mem_toDigits hc
  have hvalue : Decimal.digitsValue (Decimal.digitText n) = n := digitsValue_toDigits n
  unfold Decimal.natural?
  cases htext : Decimal.digitText n with
  | nil => exact absurd htext Nat.toDigits_ne_nil
  | cons c cs =>
      have hplus : c ≠ '+' := by
        rintro rfl
        rw [htext] at hdigits
        exact absurd hdigits (by simp [Char.isDigit])
      rw [htext] at hdigits hvalue
      simp only [List.cons.injEq, hplus, false_and, imp_self, implies_true, List.isEmpty_cons,
        hdigits, Bool.not_true, Bool.or_self, Bool.false_eq_true, if_false, hvalue]
      exact if_pos h

theorem whole_natural {n : Nat} (h : n < Nat.pow 2 64) (reason : String) :
    whole reason (toString n).toList = .ok n := by
  rw [whole, toList_natural, natural_digitText h]

theorem allPlain_natural (n : Nat) : AllPlain (toString n).toList := by
  rw [toList_natural]
  exact allPlain_digitText n

theorem allPlain_deliveryText (s : Settings) : AllPlain (deliveryText s).toList := by
  unfold deliveryText
  split
  · exact allPlain_natural _
  · exact fun _ hc => absurd hc List.not_mem_nil

theorem allPlain_yesNo (b : Bool) : AllPlain (yesNo b).toList := by
  cases b <;> exact allPlain_of_all (by decide)

theorem choice_yesNo (b : Bool) : choice (yesNo b).toList = .ok b := by
  cases b <;> decide +kernel

/-! Reading what was written -/

/-- Whether a float is read back from its text. -/
def Reparses (x : Float) : Prop :=
  Decimal.float? (Decimal.Layout.plain.format x).toList = some x

/-- Settings all of whose values stand for themselves. -/
structure Writable (s : Settings) : Prop where
  origin : Verbatim s.origin.toList
  /-- Dropping the slashes at the end left an origin that is read again. -/
  web : startsWith "http://" s.origin.toList = true ∨ startsWith "https://" s.origin.toList = true
  originEnd : Text.trimEnd s.origin.toList = s.origin.toList
  channel : ∀ url, s.channel = some url → Verbatim url.toList
  persistPath : Verbatim s.persistPath.toList
  status : Verbatim s.status.toList
  historyPath : Verbatim s.historyPath.toList
  logDirectory : Verbatim s.logDirectory.toList
  logFile : Verbatim s.logFile.toList

instance (s : Settings) : Decidable (Writable s) :=
  decidable_of_iff (Verbatim s.origin.toList ∧
    (startsWith "http://" s.origin.toList = true ∨ startsWith "https://" s.origin.toList = true) ∧
      Text.trimEnd s.origin.toList = s.origin.toList ∧
        s.channel.all (fun url => decide (Verbatim url.toList)) = true ∧
          Verbatim s.persistPath.toList ∧ Verbatim s.status.toList ∧
            Verbatim s.historyPath.toList ∧ Verbatim s.logDirectory.toList ∧
              Verbatim s.logFile.toList)
    ⟨fun ⟨horigin, hweb, hend, hchannel, hpersist, hstatus, hhistory, hdirectory, hfile⟩ =>
      ⟨horigin, hweb, hend, by simpa [Option.all_eq_true] using hchannel, hpersist, hstatus, hhistory,
        hdirectory, hfile⟩,
    fun w => ⟨w.origin, w.web, w.originEnd, by simpa [Option.all_eq_true] using w.channel,
      w.persistPath, w.status, w.historyPath, w.logDirectory, w.logFile⟩⟩

theorem value_trimmed (hget : ini.get? place key = some (trimmed value))
    (hne : value.toList ≠ []) (htrimmed : IsTrimmed value.toList) :
    value? ini place key = some value.toList := by
  have htrim : Text.trim (trimmed value).toList = value.toList := by
    rw [trimmed, String.toList_ofList, htrimmed.trim, htrimmed.trim]
  rw [value?, hget, Option.map_some, htrim]
  cases hvalue : value.toList with
  | nil => exact absurd hvalue hne
  | cons c cs => rfl

theorem field_trimmed (hget : ini.get? place key = some (trimmed value))
    (hne : value.toList ≠ []) (htrimmed : IsTrimmed value.toList)
    (hread : read value.toList = .ok a) : field ini place key fallback read = .ok a :=
  field_eq_ok_iff.2 (.inr ⟨_, value_trimmed hget hne htrimmed, hread⟩)

theorem field_empty (hget : ini.get? place key = some (trimmed "")) :
    field ini place key fallback read = .ok fallback := by
  refine field_eq_ok_iff.2 (.inl ⟨?_, rfl⟩)
  rw [value?, hget]
  rfl

theorem field_natural {n : Nat} (hget : ini.get? place key = some (trimmed (toString n)))
    (hread : read (toString n).toList = .ok a) : field ini place key fallback read = .ok a := by
  refine field_trimmed hget ?_ (isTrimmed_of_allPlain (allPlain_natural n)) hread
  rw [toList_natural]
  exact Nat.toDigits_ne_nil

theorem field_whole {n fallback : Nat} {reason : String} (h : n < Nat.pow 2 64)
    (hget : ini.get? place key = some (trimmed (toString n))) :
    field ini place key fallback (whole reason) = .ok n :=
  field_natural hget (whole_natural h reason)

theorem field_tick {n fallback : Nat} (hone : 1 ≤ n) (h : n < Nat.pow 2 64)
    (hget : ini.get? place key = some (trimmed (toString n))) :
    field ini place key fallback tick = .ok n := by
  refine field_natural hget ?_
  rw [tick, whole_natural h]
  split
  · rename_i hzero
    cases hzero
    exact absurd hone (by decide)
  · rfl

theorem field_limit {n fallback : Nat} {reason : String} (h : 10 ≤ n ∧ n ≤ 1000)
    (hget : ini.get? place key = some (trimmed (toString n))) :
    field ini place key fallback (fun text => (whole reason text).map Watcher.clampLimit) =
      .ok n := by
  have hclamp : Watcher.clampLimit n = n := by
    unfold Watcher.clampLimit Watcher.minLimit Watcher.maxLimit
    omega
  refine field_natural hget ?_
  rw [whole_natural (Nat.lt_of_le_of_lt h.2 (by decide)), Except.map, hclamp]

theorem field_delivery (hget : ini.get? place key = some (trimmed (deliveryText s))) :
    field ini place key none deliveryNumber = .ok s.delivery := by
  cases hdelivery : s.delivery with
  | none =>
      have htext : deliveryText s = "" := by rw [deliveryText, hdelivery]
      rw [htext] at hget
      exact field_empty hget
  | some id =>
      have htext : deliveryText s = toString id.toNat := by rw [deliveryText, hdelivery]
      rw [htext] at hget
      refine field_natural hget ?_
      rw [deliveryNumber, whole_natural id.toNat_lt, Except.map, UInt64.ofNat_toNat]

theorem field_float {y : Float} (hreparses : Reparses x)
    (hget : ini.get? place key = some (trimmed (Decimal.Layout.plain.format x)))
    {read : List Char → Except String Float}
    (hread : read (Decimal.Layout.plain.format x).toList = .ok x) :
    field ini place key y read = .ok x := by
  refine field_trimmed hget ?_ (isTrimmed_of_allPlain (allPlain_format _ x)) hread
  intro hnil
  have hnone : Decimal.float? [] = none := by decide +kernel
  rw [Reparses, hnil, hnone] at hreparses
  cases hreparses

theorem field_channel (hchannel : ∀ url, s.channel = some url →
      Word url ∧ channelUrl url.toList = .ok (some url))
    (hget : ini.get? place key = some (trimmed (s.channel.getD ""))) :
    field ini place key none channelUrl = .ok s.channel := by
  cases h : s.channel with
  | none =>
      rw [h] at hget
      exact field_empty hget
  | some url =>
      rw [h] at hget
      obtain ⟨⟨hne, htrimmed⟩, hread⟩ := hchannel url h
      exact field_trimmed hget hne htrimmed hread

theorem field_word {fallback word : String} (h : Word word)
    (hget : ini.get? place key = some (trimmed word)) :
    field ini place key fallback words = .ok word :=
  field_trimmed hget h.1 h.2 (by rw [words, String.ofList_toList])

theorem reads_of_holds (k : Known s) (hdistance : Reparses s.minDistance)
    (hspeed : Reparses s.speedKmph) (w : Writable s) (h : Holds ini s) : Reads home ini s where
  origin := by
    refine field_trimmed h.origin ?_ ⟨k.origin.trimStart, w.originEnd⟩ ?_
    · intro hnil
      have hhead := k.origin.head
      rw [hnil] at hhead
      cases hhead
    · have hstart : (startsWith "http://" s.origin.toList || startsWith "https://" s.origin.toList) =
          true := by simpa using w.web
      have hbare : String.ofList (s.origin.toList.reverse.dropWhile (· = '/')).reverse = s.origin := by
        rw [← String.toList_inj, String.toList_ofList]
        exact k.origin.bare
      rw [webOrigin, if_pos hstart, hbare]
  delivery := field_delivery h.delivery
  channel := field_channel k.channel h.channel
  minIntervalSecs := field_whole k.minIntervalSecs h.minIntervalSecs
  minDistance := field_float hdistance h.minDistance (by
    rw [metres, hdistance]
    exact if_neg (by simpa using k.minDistance))
  backoffBaseMs := field_whole k.backoffBaseMs h.backoffBaseMs
  backoffMaxMs := field_whole k.backoffMaxMs h.backoffMaxMs
  backoff := k.backoff
  persist := by
    refine field_trimmed h.persist ?_ (isTrimmed_of_allPlain (allPlain_yesNo _)) (choice_yesNo _)
    cases s.persist <;> decide +kernel
  persistPath := field_word k.persistPath h.persistPath
  status := field_word k.status h.status
  tickMs := field_tick k.tickMs.1 k.tickMs.2 h.tickMs
  historyPath := field_word k.historyPath h.historyPath
  historyLimit := field_limit k.historyLimit h.historyLimit
  historyTimeoutSecs := field_whole k.historyTimeoutSecs h.historyTimeoutSecs
  speedKmph := field_float hspeed h.speedKmph (by
    rw [speed, hspeed]
    exact if_neg (by simpa using k.speedKmph))
  logDirectory := by
    refine field_trimmed h.logDirectory k.logDirectory.1.1 k.logDirectory.1.2 ?_
    rw [homePath_of_not k.logDirectory.2, String.ofList_toList]
  logFile := field_word k.logFile h.logFile

theorem plain_of_allPlain (key : String) (h : AllPlain value.toList) :
    (Line.entry key value).Plain :=
  ⟨(isTrimmed_of_allPlain h).start, verbatim_of_allPlain h⟩

@[simp]
theorem plain_natural (key : String) (n : Nat) : (Line.entry key n.repr).Plain :=
  plain_of_allPlain key (allPlain_natural n)

@[simp]
theorem plain_float (key : String) (x : Float) :
    (Line.entry key (Decimal.Layout.plain.format x)).Plain :=
  plain_of_allPlain key (allPlain_format _ x)

@[simp]
theorem plain_delivery (key : String) (s : Settings) : (Line.entry key (deliveryText s)).Plain :=
  plain_of_allPlain key (allPlain_deliveryText s)

@[simp]
theorem plain_yesNo (key : String) (b : Bool) : (Line.entry key (yesNo b)).Plain :=
  plain_of_allPlain key (allPlain_yesNo b)

theorem plain_channel (k : Known s) (h : ∀ url, s.channel = some url → Verbatim url.toList)
    (key : String) : (Line.entry key (s.channel.getD "")).Plain := by
  cases hchannel : s.channel with
  | none => exact plain_of_allPlain key (fun _ hc => absurd hc List.not_mem_nil)
  | some url => exact ⟨(k.channel url hchannel).1.2.start, h url hchannel⟩

theorem plain_word {word : String} (h : Word word) (hverbatim : Verbatim word.toList)
    (key : String) : (Line.entry key word).Plain := ⟨h.2.start, hverbatim⟩

theorem plain_lines (k : Known s) (w : Writable s) : ∀ l ∈ lines s, l.Plain := by
  have horigin : (Line.entry "origin" s.origin).Plain := ⟨k.origin.trimStart, w.origin⟩
  simp [lines, horigin, plain_channel k w.channel, plain_word k.persistPath w.persistPath,
    plain_word k.status w.status, plain_word k.historyPath w.historyPath,
    plain_word k.logDirectory.1 w.logDirectory, plain_word k.logFile w.logFile]

/-- Settings whose values stand for themselves come back as they are. -/
theorem ofText_toText_of_writable (k : Known s) (hdistance : Reparses s.minDistance)
    (hspeed : Reparses s.speedKmph) (w : Writable s) : ofText home s.toText = .ok s := by
  rw [ofText, ofText_toText (plain_lines k w)]
  exact ofIni_eq_ok_iff.2 (reads_of_holds k hdistance hspeed w (holds_writtenIni s))

end CourierTrack.Proofs.SettingsReadback
