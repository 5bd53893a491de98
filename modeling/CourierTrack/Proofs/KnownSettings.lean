import CourierTrack.Proofs.PathSpelling
import CourierTrack.Proofs.SettingsRange
/-!
What is known of the values of settings that were read from a text, where the home directory is
named by its first character: none of them has blanks around it, and reading a channel, an origin or
the name of a directory once more changes nothing but what was trimmed.
-/

namespace CourierTrack.Proofs.KnownSettings

open CourierTrack.Files
open CourierTrack.Settings
open CourierTrack.Proofs.IniMisreadings
open CourierTrack.Proofs.IniValues
open CourierTrack.Proofs.PathSpelling
open CourierTrack.Proofs.SettingsFields
open CourierTrack.Proofs.SettingsRange

variable {home path place key value : String} {ini : Ini} {s : Settings} {cs as bs : List Char}

/-- Whether a path names a directory by its first character: no blank, and not the home directory's
own sign. -/
structure Rooted (path : String) : Prop where
  start : ∃ c cs, path.toList = c :: cs ∧ Text.isBlank c = false ∧ c ≠ '~'

/-- A home directory whose path can be written as it is. -/
structure PlainHome (home : String) : Prop extends Rooted home where
  verbatim : Verbatim home.toList

theorem Rooted.ne_empty (h : Rooted path) : path ≠ "" := by
  obtain ⟨c, cs, hpath, -⟩ := h.start
  rintro rfl
  cases hpath

theorem Rooted.join (h : Rooted path) (other : String) : Rooted (Path.join path other) := by
  obtain ⟨c, cs, hpath, hblank, htilde⟩ := h.start
  have hhead : ∃ d, (Path.join path other).toList.head? = some d ∧ Text.isBlank d = false ∧ d ≠ '~' := by
    rcases head_join h.ne_empty other with hslash | hsame
    · exact ⟨'/', hslash, by decide, by decide⟩
    · exact ⟨c, by rw [hsame, hpath]; rfl, hblank, htilde⟩
  obtain ⟨d, hd, hstart⟩ := hhead
  obtain ⟨ds, hds⟩ := List.head?_eq_some_iff.1 hd
  exact ⟨d, ds, hds, hstart⟩

theorem Rooted.trimStart (h : Rooted path) : Text.trimStart path.toList = path.toList := by
  obtain ⟨c, cs, hpath, hblank, -⟩ := h.start
  rw [hpath]
  exact trimStart_cons hblank cs

theorem trimEnd_append (h : Text.trimEnd bs = bs) (hne : bs ≠ []) :
    Text.trimEnd (as ++ bs) = as ++ bs := by
  have happend := rdropWhile_append Text.isBlank as bs
  have hbs : bs.rdropWhile Text.isBlank = bs := h
  rw [hbs, if_neg hne] at happend
  exact happend

theorem trimEnd_of_append (h : Text.trimEnd (as ++ bs) = as ++ bs) : Text.trimEnd bs = bs := by
  have happend := rdropWhile_append Text.isBlank as bs
  have hwhole : (as ++ bs).rdropWhile Text.isBlank = as ++ bs := h
  rw [hwhole] at happend
  split at happend
  · have hlength := (List.rdropWhile_prefix Text.isBlank as).length_le
    rw [← happend, List.length_append] at hlength
    obtain rfl := List.length_eq_zero_iff.1 (Nat.le_zero.1 (Nat.le_of_add_le_add_left hlength))
    rfl
  · exact (List.append_cancel_left happend).symm

theorem Rooted.trimEnd_join (h : Rooted path) {other : String}
    (hother : Text.trimEnd other.toList = other.toList) :
    Text.trimEnd (Path.join path other).toList = (Path.join path other).toList := by
  rcases join_cases h.ne_empty other with ⟨-, hjoin⟩ | ⟨gap, hgap, hjoin⟩
  · rw [hjoin, hother]
  · rw [hjoin]
    by_cases hnil : other.toList = []
    · rw [hnil, List.append_nil]
      rcases hgap with ⟨rfl, hslash⟩ | rfl
      · have hlast : path.toList.getLast? = some '/' := of_decide_eq_true hslash
        obtain ⟨front, hfront⟩ := List.getLast?_eq_some_iff.1 hlast
        rw [List.append_nil, hfront]
        exact trimEnd_append (by decide) (List.cons_ne_nil _ _)
      · exact trimEnd_append (by decide) (List.cons_ne_nil _ _)
    · rw [← List.append_assoc]
      exact trimEnd_append hother hnil

/-- A text that is not empty and has no blanks around it. -/
def Word (text : String) : Prop := text.toList ≠ [] ∧ IsTrimmed text.toList

theorem word_of_words {fallback word : String}
    (h : field ini place key fallback words = .ok word) (hfallback : Word fallback) :
    Word word := by
  refine field_induction h hfallback fun cs word hne htrimmed hread => ?_
  cases hread
  rw [Word, String.toList_ofList]
  exact ⟨hne, htrimmed⟩

theorem lt_of_whole {fallback n : Nat} {reason : String}
    (h : field ini place key fallback (whole reason) = .ok n) (hfallback : fallback < Nat.pow 2 64) :
    n < Nat.pow 2 64 :=
  field_induction (P := (· < Nat.pow 2 64)) h hfallback fun _ _ _ _ => whole_eq_ok

/-- What is known of an origin that was read. -/
structure WebOrigin (origin : String) : Prop where
  head : origin.toList.head? = some 'h'
  bare : origin.toList.rdropWhile (· = '/') = origin.toList

theorem WebOrigin.trimStart {origin : String} (h : WebOrigin origin) :
    Text.trimStart origin.toList = origin.toList := by
  obtain ⟨cs, hcs⟩ := List.head?_eq_some_iff.1 h.head
  rw [hcs]
  exact trimStart_cons (by decide) cs

theorem origin_of_read (h : webOrigin cs = .ok value) : WebOrigin value := by
  obtain ⟨hstart, horigin⟩ := webOrigin_eq_ok h
  obtain ⟨tail, rfl⟩ : ∃ tail, cs = 'h' :: tail := by
    rcases hstart with hstart | hstart
    · obtain ⟨more, rfl⟩ := List.isPrefixOf_iff_prefix.1 hstart
      exact ⟨_, rfl⟩
    · obtain ⟨more, rfl⟩ := List.isPrefixOf_iff_prefix.1 hstart
      exact ⟨_, rfl⟩
  constructor
  · rw [horigin]
    exact head_rdropWhile (by decide) tail
  · rw [horigin]
    exact List.rdropWhile_idempotent _ _

theorem homePath_of_not (h : ¬ ['~', '/'] <+: cs) : homePath home cs = .ok (String.ofList cs) := by
  unfold homePath
  split
  · exact absurd (List.prefix_append ['~', '/'] _) h
  · rfl

theorem Rooted.known (h : Rooted path) (hend : Text.trimEnd path.toList = path.toList) :
    Word path ∧ ¬ ['~', '/'] <+: path.toList := by
  refine ⟨⟨fun hnil => h.ne_empty (String.toList_eq_nil_iff.1 hnil), h.trimStart, hend⟩, ?_⟩
  obtain ⟨c, cs, hpath, -, htilde⟩ := h.start
  rw [hpath]
  intro hat
  exact htilde (List.cons_prefix_cons.1 hat).1.symm

theorem directory_known (hhome : Rooted home)
    (h : field ini place key (Settings.default home).logDirectory (homePath home) = .ok path) :
    Word path ∧ ¬ ['~', '/'] <+: path.toList := by
  refine field_induction (P := fun path => Word path ∧ ¬ ['~', '/'] <+: path.toList) h ?_
    fun cs path hne htrimmed hread => ?_
  · exact ((hhome.join ".livetrack").join "logs").known
      ((hhome.join ".livetrack").trimEnd_join (by decide))
  · by_cases hat : ['~', '/'] <+: cs
    · obtain ⟨rest, rfl⟩ := hat
      have hjoin : Path.join home (String.ofList rest) = path := Except.ok.inj hread
      have hrest : Text.trimEnd (String.ofList rest).toList = (String.ofList rest).toList := by
        rw [String.toList_ofList]
        exact trimEnd_of_append htrimmed.finish
      rw [← hjoin]
      exact (hhome.join _).known (hhome.trimEnd_join hrest)
    · rw [homePath_of_not hat] at hread
      cases hread
      rw [Word, String.toList_ofList]
      exact ⟨⟨hne, htrimmed⟩, hat⟩

/-- What is known of the values of settings that were read. -/
structure Known (s : Settings) : Prop where
  origin : WebOrigin s.origin
  channel : ∀ url, s.channel = some url →
    Word url ∧ channelUrl url.toList = .ok (some url)
  minIntervalSecs : s.minIntervalSecs < Nat.pow 2 64
  minDistance : s.minDistance.isFinite = true ∧ ¬ s.minDistance < 0
  backoffBaseMs : s.backoffBaseMs < Nat.pow 2 64
  backoffMaxMs : s.backoffMaxMs < Nat.pow 2 64
  backoff : s.backoffBaseMs ≤ s.backoffMaxMs
  persistPath : Word s.persistPath
  status : Word s.status
  tickMs : 1 ≤ s.tickMs ∧ s.tickMs < Nat.pow 2 64
  historyPath : Word s.historyPath
  historyLimit : 10 ≤ s.historyLimit ∧ s.historyLimit ≤ 1000
  historyTimeoutSecs : s.historyTimeoutSecs < Nat.pow 2 64
  speedKmph : s.speedKmph.isFinite = true ∧ ¬ s.speedKmph ≤ 0
  logDirectory : Word s.logDirectory ∧ ¬ ['~', '/'] <+: s.logDirectory.toList
  logFile : Word s.logFile

theorem known_default (hhome : Rooted home) : Known (Settings.default home) where
  origin := by simp only [Settings.default]; exact ⟨by decide +kernel, by decide +kernel⟩
  channel := nofun
  minIntervalSecs := by simp only [Settings.default]; decide
  minDistance := by simp only [Settings.default]; decide +kernel
  backoffBaseMs := by simp only [Settings.default]; decide
  backoffMaxMs := by simp only [Settings.default]; decide
  backoff := by simp only [Settings.default]; decide
  persistPath := by
    simp only [Settings.default]
    exact ⟨by decide +kernel, by decide +kernel, by decide +kernel⟩
  status := by
    simp only [Settings.default]
    exact ⟨by decide +kernel, by decide +kernel, by decide +kernel⟩
  tickMs := by simp only [Settings.default]; decide
  historyPath := by
    simp only [Settings.default]
    exact ⟨by decide +kernel, by decide +kernel, by decide +kernel⟩
  historyLimit := by simp only [Settings.default]; decide
  historyTimeoutSecs := by simp only [Settings.default]; decide
  speedKmph := by simp only [Settings.default]; decide +kernel
  logDirectory := ((hhome.join ".livetrack").join "logs").known
    ((hhome.join ".livetrack").trimEnd_join (by decide +kernel))
  logFile := by
    simp only [Settings.default]
    exact ⟨by decide +kernel, by decide +kernel, by decide +kernel⟩

theorem known_of_reads (hhome : Rooted home) (h : Reads home ini s) : Known s :=
  have k := known_default hhome
  { origin := field_induction h.origin k.origin fun _ _ _ _ => origin_of_read
    channel := by
      refine field_induction (P := fun channel => ∀ url, channel = some url → Word url ∧
        channelUrl url.toList = .ok (some url)) h.channel k.channel
        fun cs channel hne htrimmed hread => ?_
      obtain ⟨hstart, rfl⟩ := channelUrl_eq_ok hread
      rintro url ⟨⟩
      rw [Word, String.toList_ofList]
      exact ⟨⟨hne, htrimmed⟩, hread⟩
    minIntervalSecs := lt_of_whole h.minIntervalSecs k.minIntervalSecs
    minDistance := field_induction (P := fun x => x.isFinite = true ∧ ¬ x < 0) h.minDistance
      k.minDistance fun _ _ _ _ hread => (metres_eq_ok hread).2
    backoffBaseMs := lt_of_whole h.backoffBaseMs k.backoffBaseMs
    backoffMaxMs := lt_of_whole h.backoffMaxMs k.backoffMaxMs
    backoff := h.backoff
    persistPath := word_of_words h.persistPath k.persistPath
    status := word_of_words h.status k.status
    tickMs := field_induction (P := fun n => 1 ≤ n ∧ n < Nat.pow 2 64) h.tickMs k.tickMs
      fun _ _ _ _ hread => tick_eq_ok hread
    historyPath := word_of_words h.historyPath k.historyPath
    historyLimit := (reads_checked h).limit
    historyTimeoutSecs := lt_of_whole h.historyTimeoutSecs k.historyTimeoutSecs
    speedKmph := field_induction (P := fun x => x.isFinite = true ∧ ¬ x ≤ 0) h.speedKmph
      k.speedKmph fun _ _ _ _ hread => (speed_eq_ok hread).2
    logDirectory := directory_known hhome h.logDirectory
    logFile := word_of_words h.logFile k.logFile }

end CourierTrack.Proofs.KnownSettings
