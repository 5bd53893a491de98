import Mathlib.Data.List.DropRight
import CourierTrack.Proofs.IniValues
/-!
A value that does not stand for itself is never read back, whatever follows its line. Reading ends
within the line, and then the value got shorter; or it runs on into the next line, and then a mark
on that line is read more often than it stands in the value. Neither slashes nor dots count, so the
same is true of names of directories up to their spelling.
-/

namespace CourierTrack.Proofs.IniMisreadings

open CourierTrack.Ini
open CourierTrack.Proofs.IniValues

variable {ends : Char → Bool} {first : Bool} {c m : Char}
  {cs as bs raw out value left rest v : List Char}

/-! Texts without slashes and dots -/

def counts (c : Char) : Bool := c ≠ '/' && c ≠ '.'

def core (cs : List Char) : List Char := cs.filter counts

@[simp]
theorem core_append (as bs : List Char) : core (as ++ bs) = core as ++ core bs :=
  List.filter_append as bs

theorem core_cons (c : Char) (cs : List Char) : core (c :: cs) = core [c] ++ core cs :=
  core_append [c] cs

/-- How many characters of a text count. -/
def size (cs : List Char) : Nat := (core cs).length

theorem size_append (as bs : List Char) : size (as ++ bs) = size as + size bs := by
  simp [size]

theorem size_cons (c : Char) (cs : List Char) : size (c :: cs) = size [c] + size cs :=
  size_append [c] cs

theorem size_of_counts (h : counts c = true) : size [c] = 1 :=
  congrArg List.length (List.filter_cons_of_pos h)

theorem size_singleton_le (c : Char) : size [c] ≤ 1 := List.length_filter_le counts [c]

theorem size_slash : size ['\\'] = 1 := rfl

theorem size_le (h : as.Sublist bs) : size as ≤ size bs := (h.filter counts).length_le

theorem isPrefix_trimEnd (cs : List Char) : Text.trimEnd cs <+: cs :=
  List.rdropWhile_prefix Text.isBlank cs

theorem trim_sublist (cs : List Char) : (Text.trim cs).Sublist cs :=
  (isPrefix_trimEnd _).sublist.trans (List.dropWhile_suffix _).sublist

theorem trimStart_of_not_blank (h : ∀ c ∈ cs, Text.isBlank c = false) : Text.trimStart cs = cs :=
  List.dropWhile_eq_self_iff.2 fun hlength => by simp [h _ (List.getElem_mem hlength)]

theorem trimEnd_of_not_blank (h : ∀ c ∈ cs, Text.isBlank c = false) : Text.trimEnd cs = cs :=
  List.rdropWhile_eq_self_iff.2 fun hne => by simp [h _ (List.getLast_mem hne)]

/-! Marks -/

/-- Whether reading cannot lose a character: it is neither trimmed nor a part of an escape or a
quote. -/
structure Marker (m : Char) : Prop where
  blank : Text.isBlank m = false
  counts : counts m = true
  quote : m ≠ '"' ∧ m ≠ '\''
  slash : m ≠ '\\'
  escape : escape m = m
  code : m ≠ 'x' ∧ m ≠ '+' ∧ hexDigit? m = none

theorem isBlank_of_isBreak (h : isBreak c = true) : Text.isBlank c = true := by
  have hbreak : c = '\n' ∨ c = '\r' := by simpa [isBreak] using h
  rcases hbreak with rfl | rfl <;> rfl

theorem Marker.not_break (h : Marker m) : isBreak m = false := by
  refine Bool.eq_false_iff.2 fun hbreak => ?_
  have hblank := isBlank_of_isBreak hbreak
  rw [h.blank] at hblank
  cases hblank

theorem Marker.ne_break (h : Marker m) : m ≠ '\n' := by
  rintro rfl
  exact absurd h.blank (by decide)

theorem Marker.count_core (h : Marker m) (cs : List Char) : (core cs).count m = cs.count m :=
  List.count_filter h.counts

theorem Marker.count_blanks (h : Marker m) (hcs : ∀ c ∈ cs, Text.isBlank c = true) :
    cs.count m = 0 := by
  refine List.count_eq_zero.2 fun hm => ?_
  have hblank := hcs m hm
  rw [h.blank] at hblank
  cases hblank

theorem Marker.count_trimStart (h : Marker m) (cs : List Char) :
    (Text.trimStart cs).count m = cs.count m := by
  have hsplit : cs.takeWhile Text.isBlank ++ Text.trimStart cs = cs :=
    List.takeWhile_append_dropWhile
  conv_rhs => rw [← hsplit, List.count_append, h.count_blanks fun _ => List.mem_takeWhile_imp]
  exact (Nat.zero_add _).symm

theorem Marker.count_trimEnd (h : Marker m) (cs : List Char) :
    (Text.trimEnd cs).count m = cs.count m := by
  have hsplit : Text.trimEnd cs ++ cs.rtakeWhile Text.isBlank = cs :=
    List.rdropWhile_append_rtakeWhile
  conv_rhs => rw [← hsplit, List.count_append, h.count_blanks fun _ => List.mem_rtakeWhile_imp]
  rfl

theorem Marker.count_trim (h : Marker m) (cs : List Char) :
    (Text.trim cs).count m = cs.count m :=
  (h.count_trimEnd _).trans (h.count_trimStart cs)

/-! What reading does to length and marks -/

theorem size_escape_le (c : Char) : size [escape c] ≤ size [c] := by
  by_cases hslash : c = '/'
  · subst hslash
    exact Nat.le_refl _
  · by_cases hdot : c = '.'
    · subst hdot
      exact Nat.le_refl _
    · have hcounts : counts c = true := by simp [counts, hslash, hdot]
      rw [size_of_counts hcounts]
      exact size_singleton_le _

theorem isSome_of_foldlM {digits : List Char} {n m : Nat}
    (h : digits.foldlM (fun n c => (hexDigit? c).map (16 * n + ·)) n = some m) :
    ∀ d ∈ digits, (hexDigit? d).isSome = true := by
  induction digits generalizing n with
  | nil => exact fun d hd => absurd hd List.not_mem_nil
  | cons e digits ih =>
      rw [List.foldlM_cons] at h
      obtain ⟨k, hk, hrest⟩ := Option.bind_eq_some_iff.1 h
      obtain ⟨x, hx, -⟩ := Option.map_eq_some_iff.1 hk
      intro d hd
      rcases List.mem_cons.1 hd with rfl | hd
      · rw [hx]
        rfl
      · exact ih hrest d hd

theorem digit_of_codePoint {digits : List Char} {c : Char} (h : codePoint? digits = some c) :
    ∀ d ∈ digits, d = '+' ∨ (hexDigit? d).isSome = true := by
  unfold codePoint? at h
  obtain ⟨n, hn, -⟩ := Option.bind_eq_some_iff.1 h
  intro d hd
  split at hn
  · rcases List.mem_cons.1 hd with rfl | hd
    · exact .inl rfl
    · exact .inr (isSome_of_foldlM hn d hd)
  · exact .inr (isSome_of_foldlM hn d hd)

theorem size_coded (d₁ d₂ d₃ d₄ : Char) (raw : List Char) :
    size ('\\' :: 'x' :: d₁ :: d₂ :: d₃ :: d₄ :: raw) =
      2 + size [d₁, d₂, d₃, d₄] + size raw := by
  have hstart : size ['\\', 'x'] = 2 := rfl
  rw [← hstart, ← size_append, ← size_append]
  rfl

/-- Reading never makes a text longer, and shorter if it has an escape or an end inside. -/
theorem Yields.size_le (h : Yields ends raw out) :
    size out ≤ size raw ∧ (size raw ≤ size out → ∀ c ∈ raw, ends c = false ∧ c ≠ '\\') := by
  induction h with
  | done => exact ⟨Nat.le_refl _, fun _ c hc => absurd hc List.not_mem_nil⟩
  | @plain c raw out hends hc h ih =>
      rw [size_cons c out, size_cons c raw]
      refine ⟨by omega, fun hle d hd => ?_⟩
      rcases List.mem_cons.1 hd with rfl | hd
      · exact ⟨hends, hc⟩
      · exact ih.2 (by omega) d hd
  | @joined raw out h ih =>
      rw [size_cons '\\', size_cons '\n', size_slash]
      exact ⟨by omega, fun hle => absurd hle (by omega)⟩
  | @escaped c raw out hbreak hcode h ih =>
      have hescape := size_escape_le c
      rw [size_cons (escape c), size_cons '\\', size_cons c, size_slash]
      exact ⟨by omega, fun hle => absurd hle (by omega)⟩
  | @coded c d₁ d₂ d₃ d₄ raw out hcode h ih =>
      have hone := size_singleton_le c
      rw [size_cons c, size_coded]
      exact ⟨by omega, fun hle => absurd hle (by omega)⟩

/-- A line break that is read although it ends a value was joined, which costs two characters. -/
theorem Yields.size_of_break (h : Yields ends raw out) (hends : ends '\n' = true)
    (hbreak : ['\n'] <:+ raw) : size out + 2 ≤ size raw := by
  have htail {c : Char} {cs : List Char} (hc : c ≠ '\n') (h : ['\n'] <:+ c :: cs) : ['\n'] <:+ cs := by
    rcases List.suffix_cons_iff.1 h with heq | hsuffix
    · exact absurd (List.cons.inj heq).1.symm hc
    · exact hsuffix
  induction h with
  | done => cases List.suffix_nil.1 hbreak
  | @plain c raw out hc _ h ih =>
      have hne : c ≠ '\n' := by
        rintro rfl
        rw [hends] at hc
        cases hc
      have hmore := ih (htail hne hbreak)
      rw [size_cons c out, size_cons c raw]
      omega
  | @joined raw out h ih =>
      have hmore := (Yields.size_le h).1
      have hbreak : size ['\n'] = 1 := rfl
      rw [size_cons '\\', size_cons '\n', size_slash, hbreak]
      omega
  | @escaped c raw out hne hcode h ih =>
      have hmore := ih (htail hne (htail (by decide) hbreak))
      have hescape := size_escape_le c
      rw [size_cons (escape c), size_cons '\\', size_cons c]
      omega
  | @coded c d₁ d₂ d₃ d₄ raw out hcode h ih =>
      have hdigit : ∀ d ∈ [d₁, d₂, d₃, d₄], d ≠ '\n' := by
        rintro d hd rfl
        rcases digit_of_codePoint hcode _ hd with hplus | hhex
        · exact absurd hplus (by decide)
        · exact absurd hhex (by decide)
      simp only [List.forall_mem_cons] at hdigit
      obtain ⟨h₁, h₂, h₃, h₄, -⟩ := hdigit
      have hmore := ih (htail h₄ (htail h₃ (htail h₂ (htail h₁
        (htail (by decide) (htail (by decide) hbreak))))))
      have hone := size_singleton_le c
      rw [size_cons c, size_coded]
      omega

theorem Yields.count_le (hm : Marker m) (h : Yields ends raw out) : raw.count m ≤ out.count m := by
  induction h with
  | done => exact Nat.le_refl _
  | plain hends hslash h ih =>
      rw [List.count_cons, List.count_cons]
      exact Nat.add_le_add_right ih _
  | joined h ih =>
      rw [List.count_cons_of_ne hm.slash.symm, List.count_cons_of_ne hm.ne_break.symm]
      exact ih
  | @escaped c raw out hbreak hcode h ih =>
      rw [List.count_cons_of_ne hm.slash.symm, List.count_cons, List.count_cons]
      by_cases hc : c = m
      · subst hc
        rw [hm.escape]
        exact Nat.add_le_add_right ih _
      · rw [if_neg (by simpa using hc)]
        exact ih.trans (Nat.le_add_right _ _)
  | @coded c d₁ d₂ d₃ d₄ raw out hcode h ih =>
      have hdigits : [d₁, d₂, d₃, d₄].count m = 0 := by
        refine List.count_eq_zero.2 fun hmem => ?_
        rcases digit_of_codePoint hcode m hmem with hplus | hhex
        · exact hm.code.2.1 hplus
        · rw [hm.code.2.2] at hhex
          cases hhex
      have hraw : (d₁ :: d₂ :: d₃ :: d₄ :: raw).count m = raw.count m := by
        have happend : ([d₁, d₂, d₃, d₄] ++ raw).count m =
            [d₁, d₂, d₃, d₄].count m + raw.count m := List.count_append
        rw [hdigits, Nat.zero_add] at happend
        exact happend
      rw [List.count_cons_of_ne hm.slash.symm, List.count_cons_of_ne hm.code.1.symm, hraw]
      exact ih.trans List.count_le_count_cons

theorem size_trim_le (first : Bool) (cs : List Char) :
    size (if first then Text.trim cs else Text.trimEnd cs) ≤ size cs := by
  split
  · exact size_le (trim_sublist cs)
  · exact size_le (isPrefix_trimEnd cs).sublist

theorem size_quoted {q : Char} (hq : q = '"' ∨ q = '\'') (raw more : List Char) :
    size (q :: (raw ++ q :: more)) = size raw + size more + 2 := by
  have hquote : size [q] = 1 := by rcases hq with rfl | rfl <;> rfl
  rw [size_cons q (raw ++ q :: more), size_append, size_cons q more, hquote]
  omega

theorem Spells.size_le (h : Spells first raw value) :
    size value ≤ size raw ∧ (size raw ≤ size value → Verbatim raw) := by
  induction h with
  | @rest first raw out hstart h =>
      obtain ⟨hsize, hplain⟩ := Yields.size_le h
      have htrim := size_trim_le first out
      exact ⟨htrim.trans hsize, fun hle => ⟨hstart, hplain (hle.trans htrim)⟩⟩
  | @quoted first q raw out more value hq h hmore ih =>
      have hquoted := (Yields.size_le h).1
      rw [size_quoted hq, size_append]
      exact ⟨by omega, fun hle => absurd hle (by omega)⟩

theorem Spells.size_of_break (h : Spells first raw value) (hbreak : ['\n'] <:+ raw) :
    size value + 2 ≤ size raw := by
  cases h with
  | @rest _ _ out hstart h =>
      have htrim := size_trim_le first out
      have hsize := Yields.size_of_break h (by decide) hbreak
      omega
  | @quoted _ q raw out more value hq h hmore =>
      have hquoted := (Yields.size_le h).1
      have hrest := (Spells.size_le hmore).1
      rw [size_quoted hq, size_append]
      omega

theorem Spells.count_le (hm : Marker m) (h : Spells first raw value) :
    raw.count m ≤ value.count m := by
  induction h with
  | @rest first raw out hstart h =>
      refine (Yields.count_le hm h).trans (Nat.le_of_eq ?_)
      split
      · exact (hm.count_trim out).symm
      · exact (hm.count_trimEnd out).symm
  | @quoted first q raw out more value hq h hmore ih =>
      have hquote : q ≠ m := by
        rintro rfl
        rcases hq with hq | hq
        · exact hm.quote.1 hq
        · exact hm.quote.2 hq
      rw [List.count_cons_of_ne hquote, List.count_append, List.count_cons_of_ne hquote,
        List.count_append]
      exact Nat.add_le_add (Yields.count_le hm h) ih

/-! Values that are misread -/

/-- What can follow the line of a value: nothing, or a mark that no line break parts from it but the
one that ends an empty line. -/
def Followed (m : Char) (rest : List Char) : Prop :=
  rest = [] ∨ ∃ gap before more, rest = gap ++ (before ++ m :: more) ∧
    (gap = [] ∨ gap = ['\n']) ∧ ∀ c ∈ before, isBreak c = false

/-- Reading that goes on in the line of a mark gets past the mark. -/
theorem Followed.mem {more : List Char} (hm : Marker m) (hrest : Followed m rest)
    (hinput : rest = c :: more ++ left) (hleft : ∀ c more, left = c :: more → isBreak c = true) :
    m ∈ c :: more := by
  rcases hrest with hnil | ⟨gap, before, after, hrest, hgap, hclean⟩
  · rw [hnil] at hinput
    cases hinput
  have hsplit : c :: more ++ left = gap ++ (before ++ [m]) ++ after := by
    rw [← hinput, hrest]
    simp
  rcases List.append_eq_append_iff.1 hsplit with ⟨tail, htail, hafter⟩ | ⟨tail, htail, -⟩
  · cases tail with
    | nil =>
        rw [List.append_nil] at htail
        rw [← htail]
        simp
    | cons d tail =>
        have hd : d ∈ before ++ [m] := by
          rcases hgap with rfl | rfl
          · rw [List.nil_append] at htail
            rw [htail]
            exact List.mem_append_right _ List.mem_cons_self
          · have hline : before ++ [m] = more ++ d :: tail := (List.cons.inj htail).2
            rw [hline]
            exact List.mem_append_right _ List.mem_cons_self
        have hends := hleft d _ hafter
        rcases List.mem_append.1 hd with hd | hd
        · rw [hclean d hd] at hends
          cases hends
        · rw [List.mem_singleton.1 hd, hm.not_break] at hends
          cases hends
  · rw [htail]
    simp

theorem misread (hm : Marker m) (hrest : Followed m rest) (hv : ¬ Verbatim v)
    (h : Spells true raw value) (hinput : raw ++ left = v ++ '\n' :: rest)
    (hleft : ∀ c more, left = c :: more → isBreak c = true) :
    core (Text.trim value) ≠ core v := by
  intro heq
  have hsize : size v ≤ size value := by
    rw [size, ← heq]
    exact size_le (trim_sublist value)
  have hcount : value.count m = v.count m := by
    rw [← hm.count_trim, ← hm.count_core, heq, hm.count_core]
  have hcounts {c : Char} (hc : isBreak c = true) : counts c = true := by
    have hbreak : c = '\n' ∨ c = '\r' := by simpa [isBreak] using hc
    rcases hbreak with rfl | rfl <;> rfl
  obtain ⟨hshort, hplain⟩ := Spells.size_le h
  rcases List.append_eq_append_iff.1 hinput with ⟨tail, rfl, htail⟩ | ⟨tail, rfl, htail⟩
  · -- Reading ended within the value.
    cases tail with
    | nil =>
        rw [List.append_nil] at hsize hv
        exact hv (hplain hsize)
    | cons c tail =>
        rw [size_append, size_cons, size_of_counts (hcounts (hleft c _ htail))] at hsize
        omega
  · cases tail with
    | nil =>
        rw [List.append_nil] at hshort hplain
        exact hv (hplain hsize)
    | cons c tail =>
        obtain ⟨rfl, rfl⟩ := List.cons.inj htail
        cases tail with
        | nil =>
            -- Only the line break was joined.
            have hbreak := Spells.size_of_break h (List.suffix_append v ['\n'])
            have hone : size ['\n'] = 1 := rfl
            rw [size_append] at hbreak
            omega
        | cons d tail =>
            have hmark : 0 < (d :: tail).count m :=
              List.count_pos_iff.2 (Followed.mem hm hrest rfl hleft)
            have hread := Spells.count_le hm h
            rw [List.count_append, List.count_cons_of_ne hm.ne_break.symm] at hread
            omega

theorem head_rdropWhile {p : Char → Bool} (hc : p c = false) (cs : List Char) :
    ((c :: cs).rdropWhile p).head? = some c := by
  have hfront := List.rdropWhile_prefix p (c :: cs)
  cases hdrop : (c :: cs).rdropWhile p with
  | nil =>
      have hall := List.rdropWhile_eq_nil_iff.1 hdrop c List.mem_cons_self
      rw [hc] at hall
      cases hall
  | cons d ds =>
      rw [hdrop] at hfront
      rw [(List.cons_prefix_cons.1 hfront).1, List.head?_cons]

theorem trimStart_cons (hc : Text.isBlank c = false) (cs : List Char) :
    Text.trimStart (c :: cs) = c :: cs := List.dropWhile_cons_of_neg (by simp [hc])

theorem head_trim (hc : Text.isBlank c = false) (cs : List Char) :
    (Text.trim (c :: cs)).head? = some c := by
  rw [Text.trim, trimStart_cons hc]
  exact head_rdropWhile hc cs

/-- A value that starts with neither a quote nor an escape keeps its first character. -/
theorem Spells.head (h : Spells true raw value) (hinput : raw ++ left = c :: v)
    (hleft : ∀ c more, left = c :: more → isBreak c = true) (hblank : Text.isBlank c = false)
    (hc : c ≠ '"' ∧ c ≠ '\'' ∧ c ≠ '\\') : (Text.trim value).head? = some c := by
  cases raw with
  | nil =>
      rw [isBlank_of_isBreak (hleft c v hinput)] at hblank
      cases hblank
  | cons d raw =>
      obtain ⟨rfl, -⟩ := List.cons.inj hinput
      cases h with
      | rest hstart h =>
          cases h with
          | @plain _ _ out hends hslash h =>
              obtain ⟨more, hmore⟩ := List.head?_eq_some_iff.1 (head_trim hblank out)
              rw [if_pos rfl, hmore]
              exact head_trim hblank more
          | joined h => exact absurd rfl hc.2.2
          | escaped hbreak hcode h => exact absurd rfl hc.2.2
          | coded hcode h => exact absurd rfl hc.2.2
      | quoted hq h hmore =>
          rcases hq with rfl | rfl
          · exact absurd rfl hc.1
          · exact absurd rfl hc.2.1

end CourierTrack.Proofs.IniMisreadings
