import CourierTrack.Files.Path
import CourierTrack.Proofs.IniMisreadings
/-!
Paths that are spelled differently but name the same: slashes and dots apart they have the same
characters, and the same first one. A path that is joined to another one starts with it.
-/

namespace CourierTrack.Proofs.PathSpelling

open CourierTrack.Files
open CourierTrack.Proofs.IniMisreadings

variable {a b path other : String} {cs : List Char}

theorem core_splitAt (cs : List Char) : (Text.splitAt '/' cs).flatMap core = core cs := by
  induction cs with
  | nil => rfl
  | cons c cs ih =>
      rw [Text.splitAt]
      split
      · rename_i hc
        subst hc
        exact ih
      · cases hsplit : Text.splitAt '/' cs with
        | nil => exact absurd hsplit (Text.splitAt_ne_nil _ _)
        | cons piece pieces =>
            rw [hsplit] at ih
            rw [List.flatMap_cons] at ih ⊢
            rw [core_cons c piece, core_cons c cs, List.append_assoc, ih]

theorem head_splitAt (cs : List Char) :
    ∃ piece pieces, Text.splitAt '/' cs = piece :: pieces ∧
      (cs.head? ≠ some '/' → piece.head? = cs.head?) := by
  cases cs with
  | nil => exact ⟨[], [], rfl, fun _ => rfl⟩
  | cons c cs =>
      rw [Text.splitAt]
      split
      · rename_i hc
        subst hc
        exact ⟨[], _, rfl, fun hne => absurd rfl hne⟩
      · cases hsplit : Text.splitAt '/' cs with
        | nil => exact absurd hsplit (Text.splitAt_ne_nil _ _)
        | cons piece pieces => exact ⟨c :: piece, pieces, rfl, fun _ => rfl⟩

/-- The pieces that are left out have no characters but dots. -/
theorem core_filter (ps : List String) :
    (ps.filter fun p => !(p.isEmpty || p = ".")).flatMap (fun p => core p.toList) =
      ps.flatMap fun p => core p.toList := by
  induction ps with
  | nil => rfl
  | cons p ps ih =>
      rw [List.filter_cons]
      split
      · rw [List.flatMap_cons, List.flatMap_cons, ih]
      · rename_i hp
        have hempty : p = "" ∨ p = "." := or_iff_not_imp_left.2 (by simpa using hp)
        rw [ih, List.flatMap_cons]
        rcases hempty with rfl | rfl <;> rfl

theorem isAbsolute_iff : Path.isAbsolute path = true ↔ path.toList.head? = some '/' := by
  unfold Path.isAbsolute
  cases path.toList with
  | nil => simp
  | cons c cs =>
      by_cases hc : c = '/'
      · simp [hc]
      · simp [hc]

theorem core_pieces (path : String) :
    (Path.pieces path).flatMap (fun p => core p.toList) = core path.toList := by
  obtain ⟨piece, pieces, hsplit, -⟩ := head_splitAt path.toList
  have hcore := core_splitAt path.toList
  rw [hsplit, List.flatMap_cons] at hcore
  have hrest : ((pieces.map String.ofList).filter fun p => !(p.isEmpty || p = ".")).flatMap
      (fun p => core p.toList) = pieces.flatMap core := by
    rw [core_filter, List.flatMap_map]
    simp only [String.toList_ofList]
  have hpiece {first : String} {tail : List String}
      (h : String.ofList piece :: pieces.map String.ofList = first :: tail) :
      core first.toList ++ pieces.flatMap core = core path.toList := by
    rw [← (List.cons.inj h).1, String.toList_ofList, hcore]
  unfold Path.pieces
  simp only [hsplit, List.map_cons, List.drop_one, List.tail_cons]
  split
  · rename_i hfirst
    exact hrest.trans (hpiece hfirst)
  · rename_i hfirst
    split
    · exact hrest.trans (hpiece hfirst)
    · rw [List.flatMap_cons, hrest]
      exact hpiece hfirst
  · rename_i hfirst
    rw [List.flatMap_cons, hrest]
    exact hpiece hfirst
  · rename_i hnil
    cases hnil

theorem head_pieces (h : Path.isAbsolute path = false) :
    path.toList.head? = (Path.pieces path).head?.bind (·.toList.head?) := by
  have hslash : path.toList.head? ≠ some '/' := by
    rw [Ne, ← isAbsolute_iff, h]
    exact Bool.false_ne_true
  obtain ⟨piece, pieces, hsplit, hhead⟩ := head_splitAt path.toList
  rw [← hhead hslash]
  have hpiece {first : String} {tail : List String}
      (hfirst : String.ofList piece :: pieces.map String.ofList = first :: tail) :
      piece.head? = first.toList.head? := by
    rw [← (List.cons.inj hfirst).1, String.toList_ofList]
  unfold Path.pieces
  simp only [hsplit, List.map_cons, List.drop_one, List.tail_cons, h, Bool.false_eq_true, if_false]
  split
  · -- A path that starts with no piece and no slash is empty.
    rename_i hfirst
    have hnil : piece.head? = none := hpiece hfirst
    have hempty : path.toList = [] := by
      rw [← List.head?_eq_none_iff, ← hhead hslash]
      exact hnil
    rw [hempty] at hsplit
    cases hsplit
    rfl
  · rename_i hfirst
    exact hpiece hfirst
  · rename_i hfirst
    exact hpiece hfirst
  · rename_i hnil
    cases hnil

/-- Paths that name the same, by characters. -/
theorem core_of_same (h : Path.same a b = true) : core a.toList = core b.toList := by
  simp only [Path.same, Bool.and_eq_true, beq_iff_eq] at h
  rw [← core_pieces a, ← core_pieces b, h.2]

theorem head_of_same (h : Path.same a b = true) : a.toList.head? = b.toList.head? := by
  simp only [Path.same, Bool.and_eq_true, beq_iff_eq] at h
  obtain ⟨habsolute, hpieces⟩ := h
  cases ha : Path.isAbsolute a with
  | true => rw [isAbsolute_iff.1 ha, isAbsolute_iff.1 (habsolute ▸ ha)]
  | false => rw [head_pieces ha, head_pieces (habsolute ▸ ha), hpieces]

/-! Joined paths -/

theorem join_cases (hpath : path ≠ "") (other : String) :
    Path.isAbsolute other = true ∧ Path.join path other = other ∨
      ∃ gap, (gap = [] ∧ Path.endsInSlash path = true ∨ gap = ['/']) ∧
        (Path.join path other).toList = path.toList ++ (gap ++ other.toList) := by
  unfold Path.join
  cases habsolute : Path.isAbsolute other with
  | true => exact .inl ⟨rfl, rfl⟩
  | false =>
      right
      rw [if_neg (by simpa using hpath)]
      split
      · rename_i hslash
        exact ⟨[], .inl ⟨rfl, hslash⟩, by simp⟩
      · exact ⟨['/'], .inr rfl, by simp⟩

theorem head_join (hpath : path ≠ "") (other : String) :
    (Path.join path other).toList.head? = some '/' ∨
      (Path.join path other).toList.head? = path.toList.head? := by
  rcases join_cases hpath other with ⟨habsolute, hjoin⟩ | ⟨gap, -, hjoin⟩
  · left
    rw [hjoin]
    exact isAbsolute_iff.1 habsolute
  · right
    rw [hjoin, List.head?_append]
    cases hlist : path.toList with
    | nil => exact absurd (String.toList_eq_nil_iff.1 hlist) hpath
    | cons c cs => rfl

end CourierTrack.Proofs.PathSpelling
