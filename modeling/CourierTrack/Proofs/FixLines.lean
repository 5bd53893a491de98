import CourierTrack.Proofs.NumberLiterals
import CourierTrack.Proofs.SettingsRange
import CourierTrack.Source.Grammar
/-!
The lines of a text that give a fix, and the fix they give.
-/

namespace CourierTrack.Proofs.FixLines

open CourierTrack.Time
open CourierTrack.Source
open CourierTrack.Proofs.SettingsFields
open CourierTrack.Proofs.SettingsRange
open Float.Model

variable {line first second : List Char} {third : Option (List Char)} {lat lng x bound : Float}
  {accuracy : Option Float} {clock : Instant} {s : Sample}

/-! Ranges -/

theorem le_of_isFinite {u : UnpackedFloat} (h : u.isFinite = true) :
    (UnpackedFloat.infinity .positive).le u = false ∧
      u.le (.infinity .negative) = false := by
  cases u with
  | notANumber => cases h
  | infinity sign => cases h
  | zero sign => exact ⟨rfl, rfl⟩
  | finite sign m e hm => exact ⟨rfl, rfl⟩

theorem isFinite_of_within {low high : Float} (hlow : low.isFinite = true)
    (hhigh : high.isFinite = true) (hge : low ≤ x) (hle : x ≤ high) : x.isFinite = true := by
  rw [le_iff_unpack] at hge hle
  have hbelow := (le_of_isFinite (u := high.toModel.unpack) hhigh).1
  have habove := (le_of_isFinite (u := low.toModel.unpack) hlow).2
  show x.toModel.unpack.isFinite = true
  cases hx : x.toModel.unpack with
  | zero sign => rfl
  | finite sign m e hm => rfl
  | notANumber => rw [hx] at hle; cases hle
  | infinity sign =>
      cases sign with
      | positive => rw [hx, hbelow] at hle; cases hle
      | negative => rw [hx, habove] at hge; cases hge

theorem not_lt_of_zero_le (h : 0 ≤ x) : ¬ x < 0 := by
  rw [le_iff_unpack, unpack_zero] at h
  rw [lt_iff_unpack, unpack_zero]
  cases hx : x.toModel.unpack with
  | notANumber => rw [hx] at h; cases h
  | zero sign => exact Bool.false_ne_true
  | infinity sign =>
      cases sign with
      | positive => exact Bool.false_ne_true
      | negative => rw [hx] at h; cases h
  | finite sign m e hm =>
      cases sign with
      | positive => exact Bool.false_ne_true
      | negative => rw [hx] at h; cases h

theorem within_iff (hbound : bound.isFinite = true) (hneg : (-bound).isFinite = true) :
    Point.within bound x = true ↔ -bound ≤ x ∧ x ≤ bound := by
  simp only [Point.within, Bool.and_eq_true, decide_eq_true_eq]
  constructor
  · rintro ⟨⟨-, hge⟩, hle⟩
    exact ⟨hge, hle⟩
  · rintro ⟨hge, hle⟩
    exact ⟨⟨isFinite_of_within hneg hbound hge hle, hge⟩, hle⟩

theorem isValid_iff (lat lng : Float) :
    Point.isValid ⟨lat, lng⟩ = true ↔ (-90 ≤ lat ∧ lat ≤ 90) ∧ -180 ≤ lng ∧ lng ≤ 180 := by
  rw [Point.isValid, Bool.and_eq_true, within_iff rfl rfl, within_iff rfl rfl]

theorem checkAccuracy_iff :
    Sample.checkAccuracy accuracy = .ok () ↔
      ∀ x, accuracy = some x → x.isFinite = true ∧ 0 ≤ x := by
  cases accuracy with
  | none => exact ⟨fun _ => nofun, fun _ => rfl⟩
  | some x =>
      have hcheck : (x.isFinite && !(x < 0 : Bool)) = true ↔ x.isFinite = true ∧ 0 ≤ x := by
        simp only [Bool.and_eq_true, Bool.not_eq_true', decide_eq_false_iff_not]
        exact and_congr_right fun hfinite => ⟨zero_le_of_not_lt hfinite, not_lt_of_zero_le⟩
      simp only [Sample.checkAccuracy, Option.some.injEq, forall_eq']
      rw [← hcheck]
      split <;> simp_all

theorem checked_eq_ok_iff :
    Sample.checked lat lng accuracy clock = .ok s ↔
      InRange lat lng accuracy ∧ s = ⟨⟨lat, lng⟩, accuracy, clock⟩ := by
  have hpoint := Point.check_eq_ok_iff ⟨lat, lng⟩
  rw [isValid_iff] at hpoint
  constructor
  · intro h
    obtain ⟨point, hp, h⟩ := exists_of_bind_eq_ok h
    obtain ⟨⟨⟩, hcheck, hp⟩ := exists_of_bind_eq_ok hp
    obtain ⟨⟨⟩, hacc, h⟩ := exists_of_bind_eq_ok h
    cases hp
    cases h
    obtain ⟨hlat, hlng⟩ := hpoint.1 hcheck
    exact ⟨⟨hlat, hlng, checkAccuracy_iff.1 hacc⟩, rfl⟩
  · rintro ⟨⟨hlat, hlng, haccuracy⟩, rfl⟩
    simp only [Sample.checked, Point.checked, hpoint.2 ⟨hlat, hlng⟩, checkAccuracy_iff.2 haccuracy]
    rfl

/-! Fields -/

theorem splitAt_eq_splitOn (mark : Char) (cs : List Char) :
    Text.splitAt mark cs = cs.splitOn mark := by
  induction cs with
  | nil => rfl
  | cons c cs ih =>
      rw [Text.splitAt, List.splitOn_cons_eq_if_modifyHead, ← ih]
      by_cases hc : c = mark
      · simp [hc]
      · simp only [hc, if_false, beq_iff_eq]
        split
        · rename_i hnil
          exact absurd hnil (Text.splitAt_ne_nil mark cs)
        · rename_i hcons
          rw [hcons]
          rfl

theorem not_mem_of_splitAt (mark : Char) (cs : List Char) :
    ∀ piece ∈ Text.splitAt mark cs, mark ∉ piece := by
  induction cs with
  | nil => simp [Text.splitAt]
  | cons c cs ih =>
      rw [Text.splitAt]
      by_cases hc : c = mark
      · simpa [hc] using ih
      · simp only [hc, if_false]
        split
        · simpa using Ne.symm hc
        · rename_i piece pieces heq
          rw [heq] at ih
          simp only [List.forall_mem_cons] at ih ⊢
          exact ⟨by simpa [Ne.symm hc] using ih.1, ih.2⟩

theorem isCut_iff {mark : Char} {text : List Char} {pieces : List (List Char)} :
    IsCut mark text pieces ↔ Text.splitAt mark text = pieces := by
  constructor
  · rintro ⟨rfl, hfree, hsome⟩
    rw [splitAt_eq_splitOn, List.splitOn_intercalate mark hfree hsome]
  · rintro rfl
    refine ⟨?_, not_mem_of_splitAt mark text, Text.splitAt_ne_nil mark text⟩
    rw [splitAt_eq_splitOn, List.intercalate_splitOn]

theorem number_eq_ok_iff (field : String) {text : List Char} :
    number field text = .ok x ↔ Denotes text x := by
  have hvalue : number field text = .ok x ↔ Decimal.float? text = some x := by
    unfold number
    split <;> simp_all
  rw [hvalue]
  constructor
  · intro h
    exact ⟨(NumberLiterals.isSome_float text).1 (by rw [h]; rfl), h⟩
  · exact Denotes.value

theorem not_denotes_nil (x : Float) : ¬ Denotes [] x := by
  have hnone : Decimal.float? [] = none := by decide +kernel
  rintro ⟨-, hvalue⟩
  rw [hnone] at hvalue
  cases hvalue

theorem accuracy_eq_ok_iff : Source.accuracy third = .ok accuracy ↔ IsAccuracy third accuracy := by
  constructor
  · intro h
    match third, h with
    | none, h => cases h; exact .missing
    | some [], h => cases h; exact .empty
    | some (c :: cs), h =>
        obtain ⟨x, hx, rfl⟩ := exists_of_map_eq_ok h
        exact .given ((number_eq_ok_iff _).1 hx)
  · intro h
    cases h with
    | missing => rfl
    | empty => rfl
    | @given text x h =>
      cases text with
      | nil => exact absurd h (not_denotes_nil x)
      | cons c cs =>
          have hx := (number_eq_ok_iff "accuracy").2 h
          simp only [Source.accuracy, hx]
          rfl

theorem ofFields_eq_ok_iff :
    ofFields first second third clock = .ok s ↔
      Denotes first s.point.lat ∧ Denotes second s.point.lng ∧ IsAccuracy third s.accuracy ∧
        InRange s.point.lat s.point.lng s.accuracy ∧ s.captured = clock := by
  constructor
  · intro h
    obtain ⟨lat, hlat, h⟩ := exists_of_bind_eq_ok h
    obtain ⟨lng, hlng, h⟩ := exists_of_bind_eq_ok h
    obtain ⟨accuracy, haccuracy, h⟩ := exists_of_bind_eq_ok h
    split at h
    · rename_i hchecked
      cases h
      obtain ⟨hrange, rfl⟩ := checked_eq_ok_iff.1 hchecked
      exact ⟨(number_eq_ok_iff _).1 hlat, (number_eq_ok_iff _).1 hlng, accuracy_eq_ok_iff.1 haccuracy,
        hrange, rfl⟩
    · cases h
  · rintro ⟨hlat, hlng, haccuracy, hrange, rfl⟩
    have hchecked : Sample.checked s.point.lat s.point.lng s.accuracy s.captured = .ok s :=
      checked_eq_ok_iff.2 ⟨hrange, rfl⟩
    rw [← number_eq_ok_iff "lat"] at hlat
    rw [← number_eq_ok_iff "lng"] at hlng
    rw [← accuracy_eq_ok_iff] at haccuracy
    simp only [ofFields, hlat, hlng, haccuracy, ok_bind, hchecked]

theorem hasFields_two_iff :
    HasFields line first second none ↔ Source.fields line = [first, second] := by
  simp only [Source.fields]
  constructor
  · intro h
    cases h with
    | two hcut => rw [isCut_iff.1 hcut]; rfl
  · intro h
    obtain ⟨pieces, hpieces⟩ : ∃ pieces, Text.splitAt ',' line = pieces := ⟨_, rfl⟩
    rw [hpieces] at h
    match pieces, h with
    | [_, _], h =>
      cases h
      exact .two (isCut_iff.2 hpieces)

theorem hasFields_three_iff {last : List Char} :
    HasFields line first second (some last) ↔ Source.fields line = [first, second, last] := by
  simp only [Source.fields]
  constructor
  · intro h
    cases h with
    | three hcut => rw [isCut_iff.1 hcut]; rfl
  · intro h
    obtain ⟨pieces, hpieces⟩ : ∃ pieces, Text.splitAt ',' line = pieces := ⟨_, rfl⟩
    rw [hpieces] at h
    match pieces, h with
    | [_, _, _], h =>
      cases h
      exact .three (isCut_iff.2 hpieces)

theorem parseLine_eq_ok_iff :
    parseLine line clock = .ok s ↔ IsFix line s ∧ s.captured = clock := by
  constructor
  · intro h
    unfold parseLine at h
    split at h
    · rename_i lat lng hfields
      obtain ⟨hlat, hlng, haccuracy, hrange, hclock⟩ := ofFields_eq_ok_iff.1 h
      exact ⟨⟨⟨lat, lng, none, hasFields_two_iff.2 hfields, hlat, hlng, haccuracy⟩, hrange⟩, hclock⟩
    · rename_i lat lng third hfields
      obtain ⟨hlat, hlng, haccuracy, hrange, hclock⟩ := ofFields_eq_ok_iff.1 h
      exact ⟨⟨⟨lat, lng, some third, hasFields_three_iff.2 hfields, hlat, hlng, haccuracy⟩,
        hrange⟩, hclock⟩
    · cases h
  · rintro ⟨⟨⟨lat, lng, third, hfields, hlat, hlng, haccuracy⟩, hrange⟩, hclock⟩
    have hok := ofFields_eq_ok_iff.2 ⟨hlat, hlng, haccuracy, hrange, hclock⟩
    cases third with
    | none => simp only [parseLine, hasFields_two_iff.1 hfields, hok]
    | some last => simp only [parseLine, hasFields_three_iff.1 hfields, hok]

theorem isComment_iff (line : List Char) :
    isComment line = true ↔ Text.trim line = [] ∨ (Text.trim line).head? = some '#' := by
  unfold isComment
  split
  · rename_i hnil
    simp [hnil]
  · rename_i rest hhash
    simp [hhash]
  · rename_i hnil hhash
    cases htrim : Text.trim line with
    | nil => exact absurd htrim hnil
    | cons c rest =>
        have hc : c ≠ '#' := by
          rintro rfl
          exact hhash rest htrim
        simp [hc]

theorem sample_eq_some_iff :
    sample? clock line = some s ↔
      Text.trim line ≠ [] ∧ (Text.trim line).head? ≠ some '#' ∧ IsFix (Text.trim line) s ∧
        s.captured = clock := by
  have hcomment := isComment_iff line
  rw [← parseLine_eq_ok_iff, ← and_assoc, ← not_or, ← hcomment]
  unfold sample?
  split
  · rename_i htrue
    simp [htrue]
  · rename_i hfalse
    simp only [hfalse]
    cases parseLine (Text.trim line) clock <;> simp [Except.toOption]

/-! Lines -/

theorem isLines_cons_feed {bytes : List UInt8} {lines : List (List UInt8)}
    (h : IsLines bytes lines) : IsLines (10 :: bytes) ([] :: lines) := by
  constructor
  · rcases h.joined with hall | ⟨hlast, hsome⟩
    · exact .inl (congrArg (10 :: ·) hall)
    · refine .inr ⟨congrArg (10 :: ·) hlast, ?_⟩
      cases lines with
      | nil => simp at hlast
      | cons line lines => simpa [List.getLast?_cons_cons] using hsome
  · exact List.forall_mem_cons.2 ⟨List.not_mem_nil, h.free⟩

theorem isLines_cons {b : UInt8} (hb : b ≠ 10) {bytes line : List UInt8}
    {lines : List (List UInt8)} (h : IsLines bytes (line :: lines)) :
    IsLines (b :: bytes) ((b :: line) :: lines) := by
  have hfree := List.forall_mem_cons.1 h.free
  constructor
  · rcases h.joined with hall | ⟨hlast, hsome⟩
    · exact .inl (congrArg (b :: ·) hall)
    · refine .inr ⟨congrArg (b :: ·) hlast, ?_⟩
      cases lines with
      | nil => simp
      | cons next lines => simpa [List.getLast?_cons_cons] using hsome
  · exact List.forall_mem_cons.2 ⟨by simpa [Ne.symm hb] using hfree.1, hfree.2⟩

theorem eq_nil_of_isLines_nil {bytes : List UInt8} (h : IsLines bytes []) : bytes = [] := by
  rcases h.joined with hall | ⟨hlast, -⟩
  · exact hall.symm
  · simp at hlast

theorem isLines_byteLines (bytes : List UInt8) : IsLines bytes (byteLines bytes) := by
  induction bytes with
  | nil => exact ⟨.inl rfl, by simp [byteLines]⟩
  | cons b bytes ih =>
      rw [byteLines]
      by_cases hb : b = 10
      · subst hb
        exact isLines_cons_feed ih
      · simp only [hb, if_false]
        split
        · rename_i hnil
          rw [hnil] at ih
          rw [eq_nil_of_isLines_nil ih]
          exact ⟨.inr ⟨rfl, by simp⟩, by simpa using Ne.symm hb⟩
        · rename_i hcons
          rw [hcons] at ih
          exact isLines_cons hb ih

theorem byteLines_append {line : List UInt8} (h : 10 ∉ line) (rest : List UInt8) :
    byteLines (line ++ 10 :: rest) = line :: byteLines rest := by
  induction line with
  | nil => rfl
  | cons b line ih =>
      simp only [List.mem_cons, not_or] at h
      simp only [List.cons_append, byteLines, Ne.symm h.1, if_false, ih h.2]

theorem byteLines_line {line : List UInt8} (h : 10 ∉ line) (hsome : line ≠ []) :
    byteLines line = [line] := by
  induction line with
  | nil => exact absurd rfl hsome
  | cons b line ih =>
      simp only [List.mem_cons, not_or] at h
      cases line with
      | nil => simp [byteLines, Ne.symm h.1]
      | cons c line =>
          rw [byteLines, ih h.2 (List.cons_ne_nil c line)]
          simp [Ne.symm h.1]

theorem byteLines_flatMap {lines : List (List UInt8)} (h : ∀ line ∈ lines, 10 ∉ line)
    (rest : List UInt8) :
    byteLines (lines.flatMap (· ++ [10]) ++ rest) = lines ++ byteLines rest := by
  induction lines with
  | nil => rfl
  | cons line lines ih =>
      have hfree := List.forall_mem_cons.1 h
      simp only [List.flatMap_cons, List.append_assoc, List.cons_append, List.nil_append,
        byteLines_append hfree.1, ih hfree.2]

theorem isLines_iff {bytes : List UInt8} {lines : List (List UInt8)} :
    IsLines bytes lines ↔ byteLines bytes = lines := by
  constructor
  · rintro ⟨hall | ⟨hlast, hsome⟩, hfree⟩
    · have hlines := byteLines_flatMap hfree []
      rwa [hall, List.append_nil, byteLines, List.append_nil] at hlines
    · rcases List.eq_nil_or_concat lines with rfl | ⟨front, line, rfl⟩
      · simp at hlast
      · simp only [List.concat_eq_append] at *
        have hbytes : front.flatMap (· ++ [10]) ++ line = bytes := by
          simpa [← List.append_assoc] using hlast
        have hline : line ≠ [] := by simpa using hsome
        rw [← hbytes, byteLines_flatMap fun l hl => hfree l (List.mem_append_left _ hl),
          byteLines_line (hfree line (by simp)) hline]
  · rintro rfl
    exact isLines_byteLines bytes

theorem decodeLine_eq_some_iff {bytes : List UInt8} {text : List Char} :
    decodeLine? bytes = some text ↔ bytes = encoding text := by
  have hbytes : bytes = encoding text ↔
      (⟨bytes.toArray⟩ : ByteArray) = (String.ofList text).toByteArray := by
    rw [encoding, ByteArray.ext_iff, ← Array.toList_inj]
  rw [hbytes]
  unfold decodeLine? String.fromUTF8?
  generalize (⟨bytes.toArray⟩ : ByteArray) = a
  split
  · rename_i hvalid
    simp only [Option.map_some, Option.some.injEq]
    constructor
    · rintro rfl
      rw [String.ofList_toList]
      rfl
    · rintro rfl
      exact String.toList_ofList
  · rename_i hinvalid
    simp only [Option.map_none, reduceCtorEq, false_iff]
    rintro rfl
    exact hinvalid (String.isValidUTF8 _)

theorem exists_undecoded (lines : List (List UInt8)) :
    ∃ rest, lines =
        (((lines.map decodeLine?).takeWhile Option.isSome).filterMap id).map encoding ++ rest ∧
      ∀ line ∈ rest.head?, ∀ text, line ≠ encoding text := by
  induction lines with
  | nil => exact ⟨[], rfl, nofun⟩
  | cons line lines ih =>
    cases hline : decodeLine? line with
    | none =>
        refine ⟨line :: lines, by simp [hline], ?_⟩
        rintro _ ⟨⟩ text htext
        rw [decodeLine_eq_some_iff.2 htext] at hline
        cases hline
    | some text =>
        obtain ⟨rest, hrest, hhead⟩ := ih
        refine ⟨rest, ?_, hhead⟩
        simp only [List.map_cons, hline, List.takeWhile_cons, Option.isSome_some, if_true]
        show line :: lines = encoding text :: (_ ++ rest)
        rw [← hrest, decodeLine_eq_some_iff.1 hline]

theorem decoded_append (texts : List (List Char)) {rest : List (List UInt8)}
    (h : ∀ line ∈ rest.head?, ∀ text, line ≠ encoding text) :
    (((texts.map encoding ++ rest).map decodeLine?).takeWhile Option.isSome).filterMap id =
      texts := by
  induction texts with
  | nil =>
    cases rest with
    | nil => rfl
    | cons line rest =>
        have hline : decodeLine? line = none := by
          apply Option.eq_none_iff_forall_ne_some.2
          intro text htext
          exact h line rfl text (decodeLine_eq_some_iff.1 htext)
        simp [hline]
  | cons text texts ih =>
      have htext : decodeLine? (encoding text) = some text := decodeLine_eq_some_iff.2 rfl
      simpa [htext] using ih

theorem textLines_iff {bytes : List UInt8} {texts : List (List Char)} :
    textLines bytes = texts ↔ AreTexts bytes texts := by
  constructor
  · rintro rfl
    obtain ⟨rest, hrest, hhead⟩ := exists_undecoded (byteLines bytes)
    exact ⟨rest, isLines_iff.2 hrest, hhead⟩
  · rintro ⟨rest, hlines, hhead⟩
    rw [textLines, isLines_iff.1 hlines, decoded_append texts hhead]

end CourierTrack.Proofs.FixLines
