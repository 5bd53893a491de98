import CourierTrack.Proofs.IniMisreadings
/-!
Texts that are written line by line: comments, empty lines, headers and entries. They are read line
by line as well, as long as the values stand for themselves; of the first one that does not, what is
read is the first value of its key.
-/

namespace CourierTrack.Proofs.IniLines

open CourierTrack.Ini
open CourierTrack.Proofs.IniValues
open CourierTrack.Proofs.IniMisreadings

inductive Line where
  | note (text : String)
  | gap
  | header (name : String)
  | entry (key value : String)

namespace Line

def text : Line → String
  | note text => ";" ++ text
  | gap => ""
  | header name => "[" ++ name ++ "]"
  | entry key value => key ++ " = " ++ value

def chars : Line → List Char
  | note text => ';' :: text.toList
  | gap => []
  | header name => '[' :: (name.toList ++ [']'])
  | entry key value => key.toList ++ ' ' :: '=' :: ' ' :: value.toList

theorem toList_text (l : Line) : l.text.toList = l.chars := by
  cases l with
  | note text => exact String.toList_append
  | gap => rfl
  | header name => simp [text, chars]
  | entry key value => simp [text, chars]

/-- Whether all but the value can be read as what it is. -/
def formed : Line → Bool
  | note text => !text.toList.contains '\n'
  | gap => true
  | header name => name.toList.all fun c => !Text.isBlank c && c ≠ ']' && c ≠ '\\'
  | entry key _ =>
    key.toList.head?.any (fun c => c ≠ ';' && c ≠ '#' && c ≠ '[')
      && key.toList.all fun c => !Text.isBlank c && !endsKey c && c ≠ '\\'

/-- Whether a value stands for itself, and no blanks stand before it. -/
def Plain : Line → Prop
  | entry _ value => Text.trimStart value.toList = value.toList ∧ Verbatim value.toList
  | _ => True

@[simp]
theorem plain_note (text : String) : (note text).Plain := trivial

@[simp]
theorem plain_gap : gap.Plain := trivial

@[simp]
theorem plain_header (name : String) : (header name).Plain := trivial

/-- What a line adds whose value stands for itself. -/
def add (ini : Ini) : Line → Ini
  | note _ => ini
  | gap => ini
  | header name => ini.addSection name
  | entry key value => ini.addEntry key (String.ofList (Text.trim value.toList))

end Line

def written (lines : List Line) : List Char := lines.flatMap fun l => l.chars ++ ['\n']

variable {b : Bool} {c : Char} {cs rest : List Char} {l : Line} {lines before after : List Line}
  {ini final : Ini} {fuel : Nat} {key value place k v : String}

theorem written_cons (l : Line) (lines : List Line) :
    written (l :: lines) = l.chars ++ '\n' :: written lines := by
  simp [written]

theorem written_append (before after : List Line) :
    written (before ++ after) = written before ++ written after := List.flatMap_append

/-! Between the lines -/

theorem isBlank_of_isIndent (h : isIndent c = true) : Text.isBlank c = true := by
  have hindent : c = ' ' ∨ c = '\t' := by simpa [isIndent] using h
  rcases hindent with rfl | rfl <;> rfl

theorem skipGap_of_not_blank (h : Text.isBlank c = false) (b : Bool) (cs : List Char) :
    skipGap (marks b (c :: cs)) = marks b (c :: cs) := by
  have hbreak : isBreak c = false := by
    cases hc : isBreak c with
    | false => rfl
    | true => rw [isBlank_of_isBreak hc] at h; cases h
  simp [marks, skipGap, hbreak, h]

theorem head_of_formed (h : l.formed = true) :
    l = .gap ∨ ∃ c cs, l.chars = c :: cs ∧ Text.isBlank c = false := by
  cases l with
  | note text => exact .inr ⟨';', _, rfl, rfl⟩
  | gap => exact .inl rfl
  | header name => exact .inr ⟨'[', _, rfl, rfl⟩
  | entry key value =>
      simp only [Line.formed, Bool.and_eq_true, Option.any_eq_true, List.all_eq_true] at h
      obtain ⟨⟨c, hc, -⟩, hall⟩ := h
      obtain ⟨cs, hkey⟩ := List.head?_eq_some_iff.1 hc
      have hblank := hall c (List.mem_of_mem_head? hc)
      refine .inr ⟨c, cs ++ ' ' :: '=' :: ' ' :: value.toList, ?_, ?_⟩
      · rw [Line.chars, hkey, List.cons_append]
      · simpa using hblank.1.1

/-- A line break before lines is skipped, for none of them is indented. -/
theorem skipGap_break (h : lines.all Line.formed = true) (b : Bool) :
    skipGap (marks b ('\n' :: written lines)) = skipGap (marks true (written lines)) := by
  cases lines with
  | nil => rfl
  | cons l lines =>
      have hl : l.formed = true := by
        rw [List.all_cons, Bool.and_eq_true] at h
        exact h.1
      have hhead : ∃ c cs, written (l :: lines) = c :: cs ∧ isIndent c = false := by
        rw [written_cons]
        rcases head_of_formed hl with rfl | ⟨c, cs, hchars, hblank⟩
        · exact ⟨'\n', _, rfl, rfl⟩
        · refine ⟨c, cs ++ '\n' :: written lines, by rw [hchars, List.cons_append], ?_⟩
          cases hc : isIndent c with
          | false => rfl
          | true => rw [isBlank_of_isIndent hc] at hblank; cases hblank
      obtain ⟨c, cs, hwritten, hindent⟩ := hhead
      rw [hwritten]
      simp [marks, skipGap, hindent, isBreak]

/-! One line -/

theorem readItems_cons (fuel : Nat) (ini : Ini) (m : Mark) (text : List Mark) :
    readItems (fuel + 1) ini (m :: text) =
      (readItem ini m text).bind fun r => readItems fuel r.1 (skipGap r.2) := rfl

theorem skipLine_marks (h : '\n' ∉ cs) (b : Bool) :
    skipLine (marks b (cs ++ '\n' :: rest)) = marks true rest := by
  induction cs generalizing b with
  | nil => rfl
  | cons c cs ih =>
      have hc : c ≠ '\n' := by
        rintro rfl
        exact h List.mem_cons_self
      rw [← ih (fun hmem => h (List.mem_cons_of_mem c hmem)) (c = '\n')]
      simp [skipLine, marks, hc]

theorem readItem_note (h : '\n' ∉ cs) (b : Bool) :
    readItem ini ⟨';', true⟩ (marks b (cs ++ '\n' :: rest)) = some (ini, marks true rest) := by
  rw [readItem, if_pos (by decide), if_pos rfl, skipLine_marks h]

theorem readItem_header {name : String} (hformed : (Line.header name).formed = true) (b : Bool) :
    ∃ b', readItem ini ⟨'[', true⟩ (marks b (name.toList ++ ']' :: '\n' :: rest)) =
      some (ini.addSection name, marks b' ('\n' :: rest)) := by
  simp only [Line.formed, List.all_eq_true, Bool.and_eq_true, Bool.not_eq_true', decide_eq_true_eq,
    ne_eq] at hformed
  have hblank (c : Char) (hc : c ∈ name.toList) := (hformed c hc).1.1
  have htrim : Text.trim name.toList = name.toList := by
    rw [Text.trim, trimStart_of_not_blank hblank, trimEnd_of_not_blank hblank]
  obtain ⟨b', hread⟩ : ∃ b', readUntil (· = ']') false
      (marks b (name.toList ++ ']' :: '\n' :: rest)) =
        .ok (name.toList, marks b' (']' :: '\n' :: rest)) :=
    readUntil_plain rfl (fun c hc => ⟨decide_eq_false (hformed c hc).1.2, (hformed c hc).2⟩) b
  refine ⟨false, ?_⟩
  rw [readItem, if_neg (by decide), if_pos rfl, hread]
  simp [htrim, marks]

theorem head_of_flush (h : Text.trimStart (c :: cs) = c :: cs) : Text.isBlank c = false := by
  have hhead := List.dropWhile_eq_self_iff.1 h (Nat.zero_lt_succ _)
  simpa using hhead

theorem readValue_marks (h : Text.trimStart cs = cs) (b : Bool) (rest : List Char) :
    readValue (marks b (' ' :: (cs ++ '\n' :: rest))) =
      readParts ((marks false (cs ++ '\n' :: rest)).length + 1) true
        (marks false (cs ++ '\n' :: rest)) := by
  have hdrop : ((marks b (' ' :: (cs ++ '\n' :: rest))).dropWhile fun m =>
      Text.isBlank m.char && !isBreak m.char) = marks false (cs ++ '\n' :: rest) := by
    cases cs with
    | nil => rfl
    | cons c cs =>
        have hblank := head_of_flush h
        have hspace : (Text.isBlank ' ' && !isBreak ' ') = true := by decide
        simp [marks, hblank, hspace]
  rw [readValue, hdrop]

/-- An entry is read up to its value, and then as the value is. -/
theorem readItem_entry {cs : List Char} (hkey : key.toList = c :: cs)
    (hformed : (Line.entry key value).formed = true) (hflush : Text.trimStart value.toList = value.toList) :
    ∃ n b, readItem ini ⟨c, true⟩ (marks (c = '\n')
        (cs ++ ' ' :: '=' :: ' ' :: (value.toList ++ '\n' :: rest))) =
      (readParts (n + 1) true (marks b (value.toList ++ '\n' :: rest))).map fun r =>
        (ini.addEntry key (String.ofList r.1), r.2) := by
  simp only [Line.formed, hkey, List.head?_cons, Option.any_some, Bool.and_eq_true,
    Bool.not_eq_true', decide_eq_true_eq, ne_eq, List.all_eq_true] at hformed
  obtain ⟨⟨⟨hsemicolon, hhash⟩, hbracket⟩, hall⟩ := hformed
  have hblanks (d : Char) (hd : d ∈ c :: cs) := (hall d hd).1.1
  have hblank := hblanks c List.mem_cons_self
  have htrim : Text.trim (c :: cs ++ [' ']) = c :: cs := by
    have hspace : List.rdropWhile Text.isBlank (c :: cs ++ [' ']) = List.rdropWhile Text.isBlank (c :: cs) :=
      List.rdropWhile_concat_pos _ _ _ rfl
    rw [Text.trim, List.cons_append, trimStart_cons hblank]
    exact hspace.trans (trimEnd_of_not_blank hblanks)
  have hindent : isIndent c = false := by
    cases hc : isIndent c with
    | false => rfl
    | true => rw [isBlank_of_isIndent hc] at hblank; cases hblank
  obtain ⟨b', hread⟩ : ∃ b', readUntil endsKey false
      (marks true (c :: cs ++ [' '] ++ '=' :: ' ' :: (value.toList ++ '\n' :: rest))) =
        .ok (c :: cs ++ [' '], marks b' ('=' :: ' ' :: (value.toList ++ '\n' :: rest))) := by
    refine readUntil_plain rfl (fun d hd => ?_) true
    rcases List.mem_append.1 hd with hd | hd
    · exact ⟨(hall d hd).1.2, (hall d hd).2⟩
    · obtain rfl := List.mem_singleton.1 hd
      decide
  have hline : c :: cs ++ [' '] ++ '=' :: ' ' :: (value.toList ++ '\n' :: rest) =
      c :: (cs ++ ' ' :: '=' :: ' ' :: (value.toList ++ '\n' :: rest)) := by simp
  rw [hline, marks] at hread
  have hname : String.ofList (c :: cs) = key := by rw [← hkey, String.ofList_toList]
  have hdrop : (marks b' ('=' :: ' ' :: (value.toList ++ '\n' :: rest))).drop 1 =
      marks false (' ' :: (value.toList ++ '\n' :: rest)) := rfl
  refine ⟨(marks false (value.toList ++ '\n' :: rest)).length, false, ?_⟩
  rw [readItem, if_neg (by simp [hsemicolon, hhash]), if_neg hbracket, if_neg (by simp [hindent]),
    hread]
  simp only [readEntry, htrim, hdrop, hname]
  rw [readValue_marks hflush]
  cases readParts ((marks false (value.toList ++ '\n' :: rest)).length + 1) true
    (marks false (value.toList ++ '\n' :: rest)) <;> rfl

/-! All lines -/

/-- An entry is read up to its value, whether the value stands for itself or not. -/
theorem readItems_entry (hformed : (Line.entry key value).formed = true)
    (hflush : Text.trimStart value.toList = value.toList) (fuel : Nat) (ini : Ini) (lines : List Line) :
    ∃ n b, readItems (fuel + 1) ini (skipGap (marks true (written (.entry key value :: lines)))) =
      (readParts (n + 1) true (marks b (value.toList ++ '\n' :: written lines))).bind fun r =>
        readItems fuel (ini.addEntry key (String.ofList r.1)) (skipGap r.2) := by
  rcases head_of_formed hformed with hgap | ⟨c, cs, hchars, hblank⟩
  · cases hgap
  obtain ⟨tail, hkey⟩ : ∃ tail, key.toList = c :: tail := by
    cases hkey : key.toList with
    | nil => simp [Line.formed, hkey] at hformed
    | cons d tail =>
        rw [Line.chars, hkey, List.cons_append] at hchars
        exact ⟨tail, by rw [(List.cons.inj hchars).1]⟩
  have hwritten : written (.entry key value :: lines) =
      c :: (tail ++ ' ' :: '=' :: ' ' :: (value.toList ++ '\n' :: written lines)) := by
    rw [written_cons, Line.chars, hkey]
    simp
  obtain ⟨n, b, hread⟩ := @readItem_entry c (written lines) ini key value tail hkey hformed hflush
  refine ⟨n, b, ?_⟩
  rw [hwritten, skipGap_of_not_blank hblank, marks, readItems_cons, hread]
  cases readParts (n + 1) true (marks b (value.toList ++ '\n' :: written lines)) <;> rfl

theorem readItems_line (hl : l.formed = true) (hplain : l.Plain)
    (hlines : lines.all Line.formed = true) (hgap : l ≠ .gap) (fuel : Nat) (ini : Ini) :
    readItems (fuel + 1) ini (skipGap (marks true (written (l :: lines)))) =
      readItems fuel (l.add ini) (skipGap (marks true (written lines))) := by
  cases l with
  | gap => exact absurd rfl hgap
  | note text =>
      have htext : '\n' ∉ text.toList := by simpa [Line.formed] using hl
      rw [written_cons, Line.chars, List.cons_append, skipGap_of_not_blank rfl, marks,
        readItems_cons, readItem_note htext]
      rfl
  | header name =>
      have hwritten : written (.header name :: lines) =
          '[' :: (name.toList ++ ']' :: '\n' :: written lines) := by
        simp [written_cons, Line.chars]
      obtain ⟨b, hread⟩ := @readItem_header (written lines) ini name hl ('[' = '\n')
      rw [hwritten, skipGap_of_not_blank rfl, marks, readItems_cons, hread, Option.bind_some,
        skipGap_break hlines b]
      rfl
  | entry key value =>
      obtain ⟨n, b, hread⟩ := readItems_entry hl hplain.1 fuel ini lines
      obtain ⟨b', hvalue⟩ := @readParts_verbatim value.toList (written lines) n hplain.2 b
      rw [hread, hvalue, Option.bind_some, skipGap_break hlines b']
      rfl

/-- Lines are read one by one as long as their values stand for themselves; empty lines take no
step. -/
theorem readItems_append (hformed : (before ++ lines).all Line.formed = true)
    (hplain : ∀ l ∈ before, l.Plain) (ini : Ini) :
    ∃ n, n ≤ before.length ∧ ∀ fuel,
      readItems (fuel + n) ini (skipGap (marks true (written (before ++ lines)))) =
        readItems fuel (before.foldl Line.add ini) (skipGap (marks true (written lines))) := by
  induction before generalizing ini with
  | nil => exact ⟨0, Nat.le_refl 0, fun _ => rfl⟩
  | cons l before ih =>
      rw [List.cons_append, List.all_cons, Bool.and_eq_true] at hformed
      obtain ⟨hl, hrest⟩ := hformed
      obtain ⟨n, hn, hread⟩ := ih hrest (fun l hl => hplain l (List.mem_cons_of_mem _ hl))
        (l.add ini)
      by_cases hgap : l = .gap
      · subst hgap
        refine ⟨n, Nat.le_succ_of_le hn, fun fuel => ?_⟩
        exact (congrArg (readItems (fuel + n) ini) (skipGap_break hrest true)).trans (hread fuel)
      · refine ⟨n + 1, Nat.succ_le_succ hn, fun fuel => ?_⟩
        rw [List.cons_append, ← Nat.add_assoc,
          readItems_line hl (hplain l List.mem_cons_self) hrest hgap]
        exact hread fuel

theorem length_le_written (lines : List Line) : lines.length ≤ (written lines).length := by
  induction lines with
  | nil => exact Nat.le_refl 0
  | cons l lines ih =>
      rw [written_cons]
      simp only [List.length_append, List.length_cons]
      omega

theorem length_marks (b : Bool) (cs : List Char) : (marks b cs).length = cs.length := by
  rw [← List.length_map Mark.char]
  exact congrArg List.length (chars_marks b cs)

theorem ofText_eq {text name : String} (htext : text.toList = written (.header name :: lines)) :
    Ini.ofText? text = readItems ((written (.header name :: lines)).length + 1) {}
      (skipGap (marks true (written (.header name :: lines)))) := by
  have hwritten : written (.header name :: lines) =
      '[' :: (name.toList ++ [']'] ++ '\n' :: written lines) := by
    rw [written_cons]
    rfl
  rw [Ini.ofText?, htext, hwritten, skipGap_of_not_blank rfl]
  have hdrop : (marks true ('[' :: (name.toList ++ [']'] ++ '\n' :: written lines))).dropWhile
      (fun m => isBreak m.char) = marks true ('[' :: (name.toList ++ [']'] ++ '\n' :: written lines)) :=
    List.dropWhile_cons_of_neg (by simp [isBreak])
  simp only [hdrop, length_marks]

theorem ofText_lines {text name : String} (htext : text.toList = written (.header name :: lines))
    (hformed : (Line.header name :: lines).all Line.formed = true)
    (hplain : ∀ l ∈ Line.header name :: lines, l.Plain) :
    Ini.ofText? text = some ((Line.header name :: lines).foldl Line.add {}) := by
  have hall : ((Line.header name :: lines) ++ []).all Line.formed = true := by
    rwa [List.append_nil]
  obtain ⟨n, hn, hread⟩ := readItems_append hall hplain {}
  rw [List.append_nil] at hread
  have hlength := length_le_written (.header name :: lines)
  have hfuel : (written (.header name :: lines)).length + 1 =
      (written (.header name :: lines)).length - n + 1 + n := by omega
  rw [ofText_eq htext, hfuel, hread]
  rfl

/-! What was read stays -/

/-- Whether all that is known of one text is known of another one. -/
def Extends (ini final : Ini) : Prop :=
  ∀ place k v, ini.get? place k = some v → final.get? place k = some v

theorem Extends.refl (ini : Ini) : Extends ini ini := fun _ _ _ h => h

theorem Extends.trans {middle : Ini} (h : Extends ini middle) (h' : Extends middle final) :
    Extends ini final := fun place k v hv => h' place k v (h place k v hv)

theorem extends_addSection (ini : Ini) (name : String) : Extends ini (ini.addSection name) := by
  intro place k v h
  unfold Ini.get? Ini.section? at h ⊢
  obtain ⟨s, hs, hv⟩ := Option.bind_eq_some_iff.1 h
  rw [Ini.addSection, List.find?_append, hs]
  exact hv

theorem find_modify {ss : List Section} {s : Section} {p : Section → Bool}
    {f : Section → Section} (hf : ∀ s, p (f s) = p s) (h : ss.find? p = some s) (i : Nat) :
    (ss.modify i f).find? p = some s ∨ (ss.modify i f).find? p = some (f s) := by
  induction ss generalizing i with
  | nil => cases h
  | cons t ss ih =>
      cases i with
      | zero =>
          rw [List.modify_zero_cons, List.find?_cons, hf]
          rw [List.find?_cons] at h
          cases hp : p t with
          | true =>
              rw [hp] at h
              cases h
              exact .inr rfl
          | false =>
              rw [hp] at h
              exact .inl h
      | succ i =>
          rw [List.modify_succ_cons, List.find?_cons]
          rw [List.find?_cons] at h
          cases hp : p t with
          | true =>
              rw [hp] at h
              exact .inl h
          | false =>
              rw [hp] at h
              exact ih h i

theorem extends_addEntry (ini : Ini) (key value : String) :
    Extends ini (ini.addEntry key value) := by
  intro place k v h
  unfold Ini.get? Ini.section? at h ⊢
  obtain ⟨s, hs, hv⟩ := Option.bind_eq_some_iff.1 h
  obtain ⟨entry, hentry, rfl⟩ := Option.map_eq_some_iff.1 hv
  rcases find_modify (f := fun s => { s with entries := s.entries ++ [(key, value)] })
    (fun _ => rfl) hs (ini.sections.length - 1) with hsame | hmore
  · rw [Ini.addEntry, hsame]
    exact hv
  · rw [Ini.addEntry, hmore, Option.bind_some, Section.get?, List.find?_append, hentry]
    rfl

theorem extends_of_readEntry {cs : List Char} {text left : List Mark}
    (h : readEntry ini cs text = some (final, left)) : Extends ini final := by
  unfold readEntry at h
  split at h
  · cases h
  · obtain ⟨⟨value, rest⟩, -, hvalue⟩ := Option.bind_eq_some_iff.1 h
    cases hvalue
    exact extends_addEntry ini _ _

theorem extends_of_readItem {m : Mark} {text left : List Mark}
    (h : readItem ini m text = some (final, left)) : Extends ini final := by
  unfold readItem at h
  split at h
  · split at h
    · cases h
      exact .refl ini
    · cases h
  · split at h
    · split at h
      · cases h
      · cases h
        exact extends_addSection ini _
    · split at h
      · unfold readIndented at h
        split at h
        · cases h
          exact .refl ini
        · split at h
          · cases h
            exact .refl ini
          · split at h
            · cases h
              exact .refl ini
            · exact extends_of_readEntry h
      · split at h
        · cases h
        · exact extends_of_readEntry h

theorem extends_of_readItems {text : List Mark} (h : readItems fuel ini text = some final) :
    Extends ini final := by
  induction fuel generalizing ini text with
  | zero => cases h
  | succ fuel ih =>
      cases text with
      | nil =>
          cases h
          exact .refl _
      | cons m text =>
          rw [readItems_cons] at h
          obtain ⟨⟨next, left⟩, hnext, hrest⟩ := Option.bind_eq_some_iff.1 h
          exact (extends_of_readItem hnext).trans (ih hrest)

theorem not_slash_suffix (cs : List Char) (lines : List Line) :
    ¬ ['\\'] <:+ cs ++ '\n' :: written lines := by
  have hlast : ∃ front, '\n' :: written lines = front ++ ['\n'] := by
    rcases List.eq_nil_or_concat lines with rfl | ⟨lines, l, rfl⟩
    · exact ⟨[], rfl⟩
    · refine ⟨'\n' :: (written lines ++ l.chars), ?_⟩
      simp [written]
  obtain ⟨front, hfront⟩ := hlast
  rw [hfront, ← List.append_assoc, List.suffix_concat_iff]
  rintro (hnil | ⟨before, hbefore, -⟩)
  · cases hnil
  · have hend := congrArg List.getLast? hbefore
    simp at hend

/-- What is left to read behind lines whose values stand for themselves. -/
theorem exists_left {text name : String} (htext : text.toList = written (.header name :: lines))
    (hsplit : Line.header name :: lines = before ++ after)
    (hformed : (Line.header name :: lines).all Line.formed = true)
    (hplain : ∀ l ∈ before, l.Plain) (h : Ini.ofText? text = some final) :
    ∃ fuel, readItems (fuel + 1) (before.foldl Line.add {})
      (skipGap (marks true (written after))) = some final := by
  have hlength := length_le_written (.header name :: lines)
  rw [ofText_eq htext] at h
  rw [hsplit] at h hformed hlength
  obtain ⟨n, hn, hread⟩ := readItems_append hformed hplain {}
  rw [List.length_append] at hlength
  refine ⟨(written (before ++ after)).length - n, ?_⟩
  rw [← hread, ← h]
  congr 1
  omega

theorem extends_of_lines {text name : String} (htext : text.toList = written (.header name :: lines))
    (hsplit : Line.header name :: lines = before ++ after)
    (hformed : (Line.header name :: lines).all Line.formed = true)
    (hplain : ∀ l ∈ before, l.Plain) (h : Ini.ofText? text = some final) :
    Extends (before.foldl Line.add {}) final := by
  obtain ⟨fuel, hread⟩ := exists_left htext hsplit hformed hplain h
  exact extends_of_readItems hread

/-- What is read of the first value that may not stand for itself. -/
theorem exists_spelling {text name : String} (htext : text.toList = written (.header name :: lines))
    (hsplit : Line.header name :: lines = before ++ .entry key value :: after)
    (hformed : (Line.header name :: lines).all Line.formed = true)
    (hplain : ∀ l ∈ before, l.Plain) (hflush : Text.trimStart value.toList = value.toList)
    (h : Ini.ofText? text = some final) :
    ∃ raw left word, raw ++ left = value.toList ++ '\n' :: written after ∧ Spells true raw word ∧
      (∀ c more, left = c :: more → isBreak c = true) ∧
      Extends ((before.foldl Line.add {}).addEntry key (String.ofList word)) final := by
  obtain ⟨fuel, hread⟩ := exists_left htext hsplit hformed hplain h
  have hentry : (Line.entry key value).formed = true := by
    rw [hsplit, List.all_append, List.all_cons, Bool.and_eq_true, Bool.and_eq_true] at hformed
    exact hformed.2.1
  obtain ⟨n, b, hvalue⟩ := readItems_entry hentry hflush fuel (before.foldl Line.add {}) after
  rw [hvalue] at hread
  obtain ⟨⟨word, left⟩, hword, hrest⟩ := Option.bind_eq_some_iff.1 hread
  have hchars : chars (marks b (value.toList ++ '\n' :: written after)) =
      value.toList ++ '\n' :: written after := chars_marks b _
  have hlast : ¬ ['\\'] <:+ chars (marks b (value.toList ++ '\n' :: written after)) := by
    rw [hchars]
    exact not_slash_suffix _ _
  obtain ⟨raw, hraw, hspells, hleft⟩ := spells_of_readParts hlast hword
  refine ⟨raw, chars left, word, hraw.symm.trans hchars, hspells, ?_, extends_of_readItems hrest⟩
  intro c more hmore
  cases left with
  | nil => cases hmore
  | cons m left =>
      obtain rfl : m.char = c := (List.cons.inj hmore).1
      exact hleft m left rfl

end CourierTrack.Proofs.IniLines
