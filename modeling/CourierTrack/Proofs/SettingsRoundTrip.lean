import CourierTrack.Proofs.PointEquality
import CourierTrack.Proofs.SettingsReadback
/-!
Settings that come back from their own text. The first value of the text that does not stand for
itself is read as another one, so in settings that come back all values do; an origin that lost the
slashes of its scheme, or a blank at its end, is no value that comes back either.
-/

namespace CourierTrack.Proofs.SettingsRoundTrip

open CourierTrack.Files
open CourierTrack.Ini
open CourierTrack.Settings
open CourierTrack.Proofs.IniLines
open CourierTrack.Proofs.IniMisreadings
open CourierTrack.Proofs.IniValues
open CourierTrack.Proofs.KnownSettings
open CourierTrack.Proofs.PathSpelling
open CourierTrack.Proofs.PointEquality
open CourierTrack.Proofs.SettingsFields
open CourierTrack.Proofs.SettingsReadback
open CourierTrack.Proofs.WrittenSettings

variable {α : Type} {home path other text place key value : String} {ini : Ini} {s d : Settings}
  {a fallback : α} {m : Char} {u v : List Char} {before after : List Line}
  {read : List Char → Except String α}

/-! What follows a value -/

theorem marker_note : Marker ';' :=
  ⟨by decide, by decide, by decide, by decide, by decide, by decide⟩

theorem marker_header : Marker '[' :=
  ⟨by decide, by decide, by decide, by decide, by decide, by decide⟩

theorem marker_equals : Marker '=' :=
  ⟨by decide, by decide, by decide, by decide, by decide, by decide⟩

theorem followed_note (text : String) (after : List Line) :
    Followed ';' (written (.note text :: after)) :=
  .inr ⟨[], [], _, rfl, .inl rfl, fun _ hc => absurd hc List.not_mem_nil⟩

theorem followed_gap (name : String) (after : List Line) :
    Followed '[' (written (.gap :: .header name :: after)) :=
  .inr ⟨['\n'], [], _, rfl, .inr rfl, fun _ hc => absurd hc List.not_mem_nil⟩

theorem followed_entry (hkey : key.toList.any isBreak = false) (value : String)
    (after : List Line) : Followed '=' (written (.entry key value :: after)) := by
  refine .inr ⟨[], key.toList ++ [' '], ' ' :: (value.toList ++ '\n' :: written after), ?_, .inl rfl,
    fun c hc => ?_⟩
  · rw [written_cons, Line.chars, List.nil_append, List.append_assoc, List.append_assoc]
    rfl
  · rcases List.mem_append.1 hc with hc | hc
    · exact Bool.eq_false_iff.2 (List.any_eq_false.1 hkey c hc)
    · obtain rfl := List.mem_singleton.1 hc
      decide

theorem followed_nil (m : Char) : Followed m (written []) := .inl rfl

/-! Values that come back -/

/-- Whether a text starts as the value it is read for, if no quote, escape or blank stands there. -/
def KeepsHead (v text : List Char) : Prop :=
  ∀ c cs, v = c :: cs → Text.isBlank c = false → (c ≠ '"' ∧ c ≠ '\'' ∧ c ≠ '\\') →
    text.head? = some c

theorem value_eq {word text : List Char} (hget : ini.get? place key = some (String.ofList word))
    (h : value? ini place key = some text) : text = Text.trim word := by
  rw [value?, hget, Option.map_some, String.toList_ofList] at h
  split at h
  · cases h
  · exact (Option.some.inj h).symm

/-- A value behind values that stand for themselves does so too if what is read for it is the value
again, slashes and dots apart. -/
theorem verbatim_of_read (hm : Marker m) (hini : Ini.ofText? s.toText = some ini)
    (hsplit : lines s = before ++ .entry key value :: after) (hplain : ∀ l ∈ before, l.Plain)
    (hrest : Followed m (written after))
    (hget : ∀ w, ((before.foldl Line.add {}).addEntry key w).get? place key = some w)
    (hstart : Text.trimStart value.toList = value.toList)
    (hfield : field ini place key fallback read = .ok a)
    (hfallback : a = fallback → Verbatim value.toList)
    (hread : ∀ text, KeepsHead value.toList text → read text = .ok a →
      core text = core value.toList) : Verbatim value.toList := by
  by_contra hv
  have htext : s.toText.toList = written (.header "session" :: (lines s).tail) := toList_toText s
  have hlines : Line.header "session" :: (lines s).tail = before ++ .entry key value :: after :=
    hsplit
  obtain ⟨raw, left, word, hinput, hspells, hleft, hextends⟩ :=
    exists_spelling htext hlines (formed_lines s) hplain hstart hini
  have hword := hextends place key _ (hget _)
  rcases field_eq_ok_iff.1 hfield with ⟨-, hdefault⟩ | ⟨text, hvalue, hok⟩
  · exact hv (hfallback hdefault.symm)
  · obtain rfl := value_eq hword hvalue
    refine misread hm hrest hv hspells hinput hleft (hread _ ?_ hok)
    rintro c cs hc hblank hordinary
    rw [hc] at hinput
    exact Spells.head hspells hinput hleft hblank hordinary

theorem verbatim_word {word fallback : String} (hm : Marker m)
    (hini : Ini.ofText? s.toText = some ini)
    (hsplit : lines s = before ++ .entry key word :: after) (hplain : ∀ l ∈ before, l.Plain)
    (hrest : Followed m (written after))
    (hget : ∀ w, ((before.foldl Line.add {}).addEntry key w).get? place key = some w)
    (hword : Word word) (hfield : field ini place key fallback words = .ok word)
    (hfallback : Verbatim fallback.toList) : Verbatim word.toList := by
  refine verbatim_of_read hm hini hsplit hplain hrest hget hword.2.start hfield
    (fun hdefault => hdefault ▸ hfallback) fun text _ hread => ?_
  cases hread
  rw [String.toList_ofList]

/-! Origins -/

theorem core_rdropWhile (cs : List Char) : core (cs.rdropWhile (· = '/')) = core cs := by
  have hsplit : cs.rdropWhile (· = '/') ++ cs.rtakeWhile (· = '/') = cs :=
    List.rdropWhile_append_rtakeWhile
  have hslashes : core (cs.rtakeWhile (· = '/')) = [] := by
    refine List.filter_eq_nil_iff.2 fun c hc => ?_
    have hslash := List.mem_rtakeWhile_imp hc
    rw [of_decide_eq_true hslash]
    decide
  conv_rhs => rw [← hsplit, core_append, hslashes, List.append_nil]

theorem trimmed_trimmed (value : String) : trimmed (trimmed value) = trimmed value := by
  rw [trimmed, trimmed, String.toList_ofList, (isTrimmed_trim _).trim]

/-- An origin that is read again starts as it has to, and ends without a blank. -/
theorem web_of_read (hknown : WebOrigin value) (hget : ini.get? place key = some (trimmed value))
    {fallback : String} (hfield : field ini place key fallback webOrigin = .ok value) :
    (startsWith "http://" value.toList = true ∨ startsWith "https://" value.toList = true) ∧
      Text.trimEnd value.toList = value.toList := by
  have htrimmed : (trimmed value).toList = Text.trimEnd value.toList := by
    rw [trimmed, String.toList_ofList, Text.trim, hknown.trimStart]
  have hne : (trimmed value).toList ≠ [] := by
    obtain ⟨cs, hcs⟩ := List.head?_eq_some_iff.1 hknown.head
    have hstart := head_trim (c := 'h') (by decide) cs
    rw [trimmed, String.toList_ofList, hcs]
    intro hnil
    rw [hnil] at hstart
    cases hstart
  have hvalue : value? ini place key = some (trimmed value).toList := by
    refine value_trimmed (hget.trans (congrArg some (trimmed_trimmed value).symm)) hne ?_
    rw [trimmed, String.toList_ofList]
    exact isTrimmed_trim _
  rcases field_eq_ok_iff.1 hfield with ⟨hnone, -⟩ | ⟨text, htext, hread⟩
  · rw [hvalue] at hnone
    cases hnone
  · obtain rfl := Option.some.inj (hvalue.symm.trans htext)
    obtain ⟨hstart, horigin⟩ := webOrigin_eq_ok hread
    rw [htrimmed] at hstart horigin
    have hshort := isPrefix_trimEnd value.toList
    have hlong : value.toList <+: Text.trimEnd value.toList := by
      conv_lhs => rw [horigin]
      exact List.rdropWhile_prefix _ _
    have hsame := hshort.eq_of_length_le hlong.length_le
    rw [hsame] at hstart
    exact ⟨hstart, hsame⟩

/-! Directories -/

theorem verbatim_of_core (hcore : core v = core u) (hhead : v.head? = u.head?) (hu : Verbatim u) :
    Verbatim v where
  start := by
    rw [hhead]
    exact hu.start
  inside := by
    intro c hc
    cases hcounts : counts c with
    | true =>
        have hmem : c ∈ core u := by
          rw [← hcore]
          exact List.mem_filter.2 ⟨hc, hcounts⟩
        exact hu.inside c (List.mem_filter.1 hmem).1
    | false =>
        have hslash : c = '/' ∨ c = '.' := by
          simpa [counts, or_iff_not_imp_left] using hcounts
        rcases hslash with rfl | rfl <;> decide

theorem verbatim_append (hu : Verbatim u) (hne : u ≠ []) (hv : ∀ c ∈ v, isBreak c = false ∧ c ≠ '\\') :
    Verbatim (u ++ v) where
  start := by
    rw [List.head?_append_of_ne_nil u hne]
    exact hu.start
  inside := by
    intro c hc
    rcases List.mem_append.1 hc with hc | hc
    · exact hu.inside c hc
    · exact hv c hc

theorem verbatim_join (hpath : Verbatim path.toList) (hne : path ≠ "") (hother : Verbatim other.toList) :
    Verbatim (Path.join path other).toList := by
  rcases join_cases hne other with ⟨-, hjoin⟩ | ⟨gap, hgap, hjoin⟩
  · rw [hjoin]
    exact hother
  · rw [hjoin]
    refine verbatim_append hpath (fun hnil => hne (String.toList_eq_nil_iff.1 hnil)) fun c hc => ?_
    rcases List.mem_append.1 hc with hc | hc
    · rcases hgap with ⟨rfl, -⟩ | rfl
      · cases hc
      · obtain rfl := List.mem_singleton.1 hc
        decide
    · exact hother.inside c hc

theorem writable_default (hhome : PlainHome home) : Writable (Settings.default home) where
  origin := by simp only [Settings.default]; decide
  web := by simp only [Settings.default]; decide
  originEnd := by simp only [Settings.default]; decide
  channel := nofun
  persistPath := by simp only [Settings.default]; decide
  status := by simp only [Settings.default]; decide
  historyPath := by simp only [Settings.default]; decide
  logDirectory := by
    have hdirectory : Verbatim (Path.join home ".livetrack").toList :=
      verbatim_join hhome.verbatim hhome.ne_empty (by decide)
    exact verbatim_join hdirectory (hhome.join ".livetrack").ne_empty (by decide)
  logFile := by simp only [Settings.default]; decide

theorem head_home (hhome : PlainHome home) (other : String) :
    ∃ c, (Path.join home other).toList.head? = some c ∧ Text.isBlank c = false ∧ c ≠ '~' ∧
      (c ≠ '"' ∧ c ≠ '\'' ∧ c ≠ '\\') := by
  rcases head_join hhome.ne_empty other with hslash | hsame
  · exact ⟨'/', hslash, by decide, by decide, by decide⟩
  · obtain ⟨c, cs, hpath, hblank, htilde⟩ := hhome.start
    obtain ⟨⟨hdouble, hsingle⟩, hinside⟩ := hhome.verbatim
    rw [hpath] at hsame hdouble hsingle hinside
    refine ⟨c, hsame, hblank, htilde, ?_, ?_, (hinside c List.mem_cons_self).2⟩
    · exact fun hc => hdouble (congrArg some hc)
    · exact fun hc => hsingle (congrArg some hc)

/-- The sign of the home directory is read only where it was written, and it never is. -/
theorem core_of_homePath (hhome : PlainHome home) (hsame : Path.same value path = true)
    {text : List Char} (hkeeps : KeepsHead value.toList text) (hread : homePath home text = .ok path) :
    core text = core value.toList := by
  by_cases hat : ['~', '/'] <+: text
  · obtain ⟨rest, rfl⟩ := hat
    have hjoin : Path.join home (String.ofList rest) = path := Except.ok.inj hread
    obtain ⟨c, hhead, hblank, htilde, hordinary⟩ := head_home hhome (String.ofList rest)
    rw [hjoin, ← head_of_same hsame] at hhead
    obtain ⟨cs, hcs⟩ := List.head?_eq_some_iff.1 hhead
    have hstart := hkeeps c cs hcs hblank hordinary
    exact absurd (Option.some.inj hstart).symm htilde
  · rw [homePath_of_not hat] at hread
    rw [core_of_same hsame, ← Except.ok.inj hread, String.toList_ofList]

/-! All settings -/

/-- Where the texts stand that need not stand for themselves: behind how many lines, and under which
section and key. -/
def places : List (Nat × String × String) := [
  (3, "session", "origin"),
  (7, "session", "channel_url"),
  (24, "producer", "persist_path"),
  (26, "producer", "status"),
  (33, "consumer", "history_path"),
  (41, "logging", "directory"),
  (42, "logging", "file")]

theorem get_addEntry {n : Nat} (h : (n, place, key) ∈ places) (s : Settings) (w : String) :
    ((((lines s).take n).foldl Line.add {}).addEntry key w).get? place key = some w := by
  simp only [places, List.mem_cons, Prod.mk.injEq, List.not_mem_nil, or_false] at h
  rcases h with h | h | h | h | h | h | h
  all_goals
    obtain ⟨rfl, rfl, rfl⟩ := h
    simp [lines, Line.add, Ini.addSection, Ini.addEntry, Ini.get?, Ini.section?, Section.get?]

theorem texts_of_same (h : s.same d = true) :
    s.origin = d.origin ∧ s.channel = d.channel ∧ s.persistPath = d.persistPath ∧
      s.status = d.status ∧ s.historyPath = d.historyPath ∧
        Path.same s.logDirectory d.logDirectory = true ∧ s.logFile = d.logFile := by
  simp only [Settings.same, Bool.and_eq_true, beq_iff_eq] at h
  obtain ⟨⟨⟨⟨⟨⟨⟨⟨⟨⟨⟨⟨⟨⟨⟨⟨horigin, -⟩, hchannel⟩, -⟩, -⟩, -⟩, -⟩, -⟩, hpersist⟩, hstatus⟩, -⟩, hhistory⟩, -⟩, -⟩,
    -⟩, hdirectory⟩, hfile⟩ := h
  exact ⟨horigin, hchannel, hpersist, hstatus, hhistory, hdirectory, hfile⟩

theorem verbatim_origin (hhome : PlainHome home) (k : Known s)
    (hini : Ini.ofText? s.toText = some ini)
    (hfield : field ini "session" "origin" (Settings.default home).origin webOrigin = .ok s.origin) :
    Verbatim s.origin.toList := by
  have hplain : ∀ l ∈ (lines s).take 3, l.Plain := by simp [lines]
  refine verbatim_of_read marker_note hini rfl hplain (followed_note _ _) (get_addEntry (by decide) s)
    k.origin.trimStart hfield (fun h => h ▸ (writable_default hhome).origin) fun text _ hread => ?_
  rw [(webOrigin_eq_ok hread).2, core_rdropWhile]

theorem verbatim_channel (k : Known s) (hini : Ini.ofText? s.toText = some ini)
    (horigin : (Line.entry "origin" s.origin).Plain)
    (hfield : field ini "session" "channel_url" (Settings.default home).channel channelUrl =
      .ok s.channel) {url : String} (hurl : s.channel = some url) : Verbatim url.toList := by
  have hplain : ∀ l ∈ (lines s).take 7, l.Plain := by simp [lines, horigin]
  have hvalue : s.channel.getD "" = url := by rw [hurl, Option.getD_some]
  have hstart : Text.trimStart (s.channel.getD "").toList = (s.channel.getD "").toList := by
    rw [hvalue]
    exact (k.channel url hurl).1.2.start
  rw [hurl] at hfield
  rw [← hvalue]
  refine verbatim_of_read marker_header hini rfl hplain (followed_gap _ _)
    (get_addEntry (by decide) s) hstart hfield (fun hnone => by cases hnone) fun text _ hread => ?_
  have htext := Option.some.inj (channelUrl_eq_ok hread).2
  rw [hvalue, htext, String.toList_ofList]

theorem web_of_same (k : Known s) (hini : Ini.ofText? s.toText = some ini)
    (horigin : (Line.entry "origin" s.origin).Plain) {fallback : String}
    (hfield : field ini "session" "origin" fallback webOrigin = .ok s.origin) :
    (startsWith "http://" s.origin.toList = true ∨ startsWith "https://" s.origin.toList = true) ∧
      Text.trimEnd s.origin.toList = s.origin.toList := by
  have htext : s.toText.toList = written (.header "session" :: (lines s).tail) := toList_toText s
  have hsplit : Line.header "session" :: (lines s).tail = (lines s).take 4 ++ (lines s).drop 4 := rfl
  have hplain : ∀ l ∈ (lines s).take 4, l.Plain := by simp [lines, horigin]
  have hget : (((lines s).take 3).foldl Line.add {}).addEntry "origin" (trimmed s.origin) =
      ((lines s).take 4).foldl Line.add {} := rfl
  have hextends := extends_of_lines htext hsplit (formed_lines s) hplain hini
  rw [← hget] at hextends
  exact web_of_read k.origin (hextends _ _ _ (get_addEntry (by decide) s _)) hfield

/-- Settings that come back have values that stand for themselves. -/
theorem writable_of_same (hhome : PlainHome home) (k : Known s) (h : ofText home s.toText = .ok d)
    (hsame : s.same d = true) : Writable s := by
  obtain ⟨ini, hini, r⟩ := exists_reads h
  obtain ⟨horigin, hchannel, hpersist, hstatus, hhistory, hdirectory, hfile⟩ := texts_of_same hsame
  have hdefault := writable_default hhome
  have hreadOrigin := r.origin.trans (congrArg Except.ok horigin.symm)
  have hreadChannel := r.channel.trans (congrArg Except.ok hchannel.symm)
  have hreadPersist := r.persistPath.trans (congrArg Except.ok hpersist.symm)
  have hreadStatus := r.status.trans (congrArg Except.ok hstatus.symm)
  have hreadHistory := r.historyPath.trans (congrArg Except.ok hhistory.symm)
  have hreadFile := r.logFile.trans (congrArg Except.ok hfile.symm)
  -- In the order of the text: each value needs that all lines before it are read as they are.
  have origin := verbatim_origin hhome k hini hreadOrigin
  have originPlain : (Line.entry "origin" s.origin).Plain := ⟨k.origin.trimStart, origin⟩
  obtain ⟨web, originEnd⟩ := web_of_same k hini originPlain hreadOrigin
  have channel (url : String) (hurl : s.channel = some url) : Verbatim url.toList :=
    verbatim_channel k hini originPlain hreadChannel hurl
  have channelPlain := plain_channel k channel "channel_url"
  have persistPath : Verbatim s.persistPath.toList := by
    have hplain : ∀ l ∈ (lines s).take 24, l.Plain := by
      simp [lines, originPlain, channelPlain]
    exact verbatim_word marker_note hini rfl hplain (followed_note _ _) (get_addEntry (by decide) s)
      k.persistPath hreadPersist hdefault.persistPath
  have persistPlain := plain_word k.persistPath persistPath "persist_path"
  have status : Verbatim s.status.toList := by
    have hplain : ∀ l ∈ (lines s).take 26, l.Plain := by
      simp [lines, originPlain, channelPlain, persistPlain]
    exact verbatim_word marker_note hini rfl hplain (followed_note _ _) (get_addEntry (by decide) s)
      k.status hreadStatus hdefault.status
  have statusPlain := plain_word k.status status "status"
  have historyPath : Verbatim s.historyPath.toList := by
    have hplain : ∀ l ∈ (lines s).take 33, l.Plain := by
      simp [lines, originPlain, channelPlain, persistPlain, statusPlain]
    exact verbatim_word marker_note hini rfl hplain (followed_note _ _) (get_addEntry (by decide) s)
      k.historyPath hreadHistory hdefault.historyPath
  have historyPlain := plain_word k.historyPath historyPath "history_path"
  have logDirectory : Verbatim s.logDirectory.toList := by
    have hplain : ∀ l ∈ (lines s).take 41, l.Plain := by
      simp [lines, originPlain, channelPlain, persistPlain, statusPlain, historyPlain]
    refine verbatim_of_read marker_equals hini rfl hplain (followed_entry (by decide) _ _)
      (get_addEntry (by decide) s) k.logDirectory.1.2.start r.logDirectory ?_ fun text hkeeps hread =>
        core_of_homePath hhome hdirectory hkeeps hread
    intro h
    rw [h] at hdirectory
    exact verbatim_of_core (core_of_same hdirectory) (head_of_same hdirectory) hdefault.logDirectory
  have directoryPlain := plain_word k.logDirectory.1 logDirectory "directory"
  have logFile : Verbatim s.logFile.toList := by
    have hplain : ∀ l ∈ (lines s).take 42, l.Plain := by
      simp [lines, originPlain, channelPlain, persistPlain, statusPlain, historyPlain, directoryPlain]
    exact verbatim_word marker_equals hini rfl hplain (followed_nil _) (get_addEntry (by decide) s)
      k.logFile hreadFile hdefault.logFile
  exact { origin, web, originEnd, channel, persistPath, status, historyPath, logDirectory, logFile }

theorem same_self (k : Known s) : s.same s = true := by
  simp [Settings.same, Path.same, beq_self_of_isFinite k.minDistance.1,
    beq_self_of_isFinite k.speedKmph.1]

/-- Settings that were read come back from their own text if and only if all their texts stand for
themselves, and then as they are. -/
theorem settings_come_back_iff {text : String} (hhome : PlainHome home)
    (h : ofText home text = .ok s) (hdistance : Reparses s.minDistance)
    (hspeed : Reparses s.speedKmph) :
    ((∃ s', ofText home s.toText = .ok s' ∧ s.same s' = true) ↔ Writable s) ∧
      (Writable s → ofText home s.toText = .ok s) := by
  obtain ⟨ini, -, hreads⟩ := exists_reads h
  have k := known_of_reads hhome.toRooted hreads
  have hback (w : Writable s) : ofText home s.toText = .ok s :=
    ofText_toText_of_writable k hdistance hspeed w
  refine ⟨⟨?_, fun w => ⟨s, hback w, same_self k⟩⟩, hback⟩
  rintro ⟨s', hs', hsame⟩
  exact writable_of_same hhome k hs' hsame

theorem plainHome_rider : PlainHome "/home/rider" where
  start := ⟨'/', _, rfl, by decide, by decide⟩
  verbatim := by decide

theorem settings_come_back_iff_rider :
    ∃ s, ofText "/home/rider" "[producer]\nstatus = at the door\n" = .ok s ∧
      PlainHome "/home/rider" ∧ Reparses s.minDistance ∧ Reparses s.speedKmph ∧ Writable s ∧
        (∃ s', ofText "/home/rider" s.toText = .ok s' ∧ s.same s' = true) ∧
          ofText "/home/rider" s.toText = .ok s := by
  have hany : (ofText "/home/rider" "[producer]\nstatus = at the door\n").toOption.any fun s =>
      s.minDistance = 25 && s.speedKmph = 30 && decide (Writable s) := by decide +kernel
  obtain ⟨s, hs, hvalues⟩ := exists_of_any hany
  simp only [Bool.and_eq_true, decide_eq_true_eq] at hvalues
  obtain ⟨⟨hdistance, hspeed⟩, hwritable⟩ := hvalues
  have hmetres : Reparses s.minDistance := by
    rw [hdistance, Reparses]
    decide +kernel
  have hkmph : Reparses s.speedKmph := by
    rw [hspeed, Reparses]
    decide +kernel
  obtain ⟨hiff, hback⟩ := settings_come_back_iff plainHome_rider hs hmetres hkmph
  exact ⟨s, hs, plainHome_rider, hmetres, hkmph, hwritable, hiff.2 hwritable, hback hwritable⟩

/-- A backslash that was read as itself is written as itself, and starts an escape then. -/
theorem status_with_backslash_lost :
    ∃ s, ofText "/home/rider" "[producer]\nstatus = a\\\\tb\n" = .ok s ∧
      ¬ ∃ s', ofText "/home/rider" s.toText = .ok s' ∧ s.same s' = true := by
  have hany : (ofText "/home/rider" "[producer]\nstatus = a\\\\tb\n").toOption.any fun s =>
      s.status = "a\\tb" := by decide +kernel
  obtain ⟨s, hs, hstatus⟩ := exists_of_any hany
  refine ⟨s, hs, ?_⟩
  rintro ⟨s', hs', hsame⟩
  obtain ⟨ini, -, hreads⟩ := exists_reads hs
  have hknown := known_of_reads plainHome_rider.toRooted hreads
  have hverbatim := (writable_of_same plainHome_rider hknown hs' hsame).status
  rw [of_decide_eq_true hstatus] at hverbatim
  exact absurd hverbatim (by decide)

end CourierTrack.Proofs.SettingsRoundTrip
