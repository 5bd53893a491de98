import CourierTrack.Ini.Reader
/-!
What the reading of a value takes off the front of a text, and what it makes of it. A value without
backslashes, line breaks and a quote at its start stands for itself.
-/

namespace CourierTrack.Proofs.IniValues

open CourierTrack.Ini

variable {ends : Char → Bool} {run first b : Bool} {cs raw out value rest : List Char}
  {text left : List Mark}

/-- The characters of a text that is being read. -/
def chars (text : List Mark) : List Char := text.map Mark.char

theorem chars_marks (b : Bool) (cs : List Char) : chars (marks b cs) = cs := by
  induction cs generalizing b with
  | nil => rfl
  | cons c cs ih => exact congrArg (c :: ·) (ih _)

/-! Values that stand for themselves -/

/-- Whether a value has no quote at its start, no backslash and no line break. -/
structure Verbatim (cs : List Char) : Prop where
  start : cs.head? ≠ some '"' ∧ cs.head? ≠ some '\''
  inside : ∀ c ∈ cs, isBreak c = false ∧ c ≠ '\\'

instance (cs : List Char) : Decidable (Verbatim cs) :=
  decidable_of_iff ((cs.head? ≠ some '"' ∧ cs.head? ≠ some '\'') ∧
    cs.all (fun c => !isBreak c && c ≠ '\\') = true)
    ⟨fun h => ⟨h.1, by simpa using h.2⟩, fun h => ⟨h.start, by simpa using h.inside⟩⟩

theorem readUntil_stop {m : Mark} {more : List Mark} (h : ends m.char = true) :
    readUntil ends run (m :: more) = .ok ([], m :: more) := by
  rw [readUntil.eq_def]
  exact if_pos h

theorem readUntil_step {m : Mark} {more : List Mark} (hends : ends m.char = false)
    (hslash : m.char ≠ '\\') :
    readUntil ends run (m :: more) = prepend m.char (readUntil ends run more) := by
  rw [readUntil.eq_def]
  simp only [hends, hslash, Bool.false_eq_true, if_false]

theorem readUntil_plain {stop : Char} (hstop : ends stop = true)
    (hcs : ∀ c ∈ cs, ends c = false ∧ c ≠ '\\') (b : Bool) :
    ∃ b', readUntil ends run (marks b (cs ++ stop :: rest)) =
      .ok (cs, marks b' (stop :: rest)) := by
  induction cs generalizing b with
  | nil => exact ⟨b, readUntil_stop hstop⟩
  | cons c cs ih =>
      obtain ⟨hends, hslash⟩ := hcs c List.mem_cons_self
      obtain ⟨b', hread⟩ := ih (fun d hd => hcs d (List.mem_cons_of_mem c hd)) (c = '\n')
      refine ⟨b', ?_⟩
      rw [List.cons_append, marks, readUntil_step hends hslash, hread]
      rfl

theorem readParts_verbatim {fuel : Nat} (h : Verbatim cs) (b : Bool) :
    ∃ b', readParts (fuel + 1) true (marks b (cs ++ '\n' :: rest)) =
      some (Text.trim cs, marks b' ('\n' :: rest)) := by
  have hbreak : isBreak '\n' = true := by decide
  obtain ⟨b', hread⟩ : ∃ b', readUntil isBreak true (marks b (cs ++ '\n' :: rest)) =
      .ok (cs, marks b' ('\n' :: rest)) := readUntil_plain hbreak h.inside b
  refine ⟨b', ?_⟩
  cases cs with
  | nil =>
      have hquote : ¬ ('\n' = '"' || '\n' = '\'') = true := by decide
      rw [List.nil_append, marks] at hread ⊢
      rw [readParts, if_neg hquote, hread]
      rfl
  | cons c cs =>
      have hquote : ¬ (c = '"' || c = '\'') = true := by simpa using h.start
      rw [List.cons_append, marks] at hread ⊢
      rw [readParts, if_neg hquote, hread]
      rfl

/-! What is read in general -/

/-- What a text up to its end is read as, escape by escape. -/
inductive Yields (ends : Char → Bool) : List Char → List Char → Prop where
  | done : Yields ends [] []
  | plain {c : Char} {raw out : List Char} (hends : ends c = false) (hslash : c ≠ '\\')
      (h : Yields ends raw out) : Yields ends (c :: raw) (c :: out)
  | joined {raw out : List Char} (h : Yields ends raw out) : Yields ends ('\\' :: '\n' :: raw) out
  | escaped {c : Char} {raw out : List Char} (hbreak : c ≠ '\n') (hcode : c ≠ 'x')
      (h : Yields ends raw out) : Yields ends ('\\' :: c :: raw) (escape c :: out)
  | coded {c d₁ d₂ d₃ d₄ : Char} {raw out : List Char} (hcode : codePoint? [d₁, d₂, d₃, d₄] = some c)
      (h : Yields ends raw out) :
      Yields ends ('\\' :: 'x' :: d₁ :: d₂ :: d₃ :: d₄ :: raw) (c :: out)

/-- What the parts of a value are read as. -/
inductive Spells : Bool → List Char → List Char → Prop where
  | rest {first : Bool} {raw out : List Char}
      (hstart : raw.head? ≠ some '"' ∧ raw.head? ≠ some '\'') (h : Yields isBreak raw out) :
      Spells first raw (if first then Text.trim out else Text.trimEnd out)
  | quoted {first : Bool} {q : Char} {raw out more value : List Char} (hq : q = '"' ∨ q = '\'')
      (h : Yields (· = q) raw out) (hmore : Spells false more value) :
      Spells first (q :: (raw ++ q :: more)) (out ++ value)

theorem prepend_eq_ok {c : Char} {result : Except (List Mark) (List Char × List Mark)}
    (h : prepend c result = .ok (out, left)) : ∃ tail, result = .ok (tail, left) ∧ out = c :: tail := by
  cases result with
  | error e => cases h
  | ok r =>
      cases h
      exact ⟨r.1, rfl, rfl⟩

/-- A backslash at the very end of a text would stand for itself; elsewhere it is an escape. -/
theorem yields_of_readUntil (hlast : ¬ ['\\'] <:+ chars text)
    (h : readUntil ends run text = .ok (out, left)) :
    ∃ raw, chars text = raw ++ chars left ∧ Yields ends raw out ∧
      (left = [] ∧ run = true ∨ ∃ m more, left = m :: more ∧ ends m.char = true) := by
  fun_induction readUntil ends run text generalizing out with
  | case1 hrun =>
      cases h
      exact ⟨[], rfl, .done, .inl ⟨rfl, hrun⟩⟩
  | case2 => cases h
  | case3 m more hends =>
      cases h
      exact ⟨[], rfl, .done, .inr ⟨m, more, rfl, hends⟩⟩
  | case4 m _ hslash =>
      refine absurd ?_ hlast
      rw [← hslash]
      exact List.suffix_rfl
  | case5 => cases h
  | case6 m _ hslash e more hbreak ih =>
      obtain ⟨raw, hraw, hyields, hleft⟩ := ih (fun hs => hlast (hs.trans ⟨[_, _], rfl⟩)) h
      refine ⟨'\\' :: '\n' :: raw, ?_, .joined hyields, hleft⟩
      rw [← hslash, ← hbreak]
      exact congrArg (fun cs => m.char :: e.char :: cs) hraw
  | case7 m _ hslash e _ hx d₁ d₂ d₃ d₄ more c hcode ih =>
      obtain ⟨tail, htail, rfl⟩ := prepend_eq_ok h
      obtain ⟨raw, hraw, hyields, hleft⟩ :=
        ih (fun hs => hlast (hs.trans ⟨[_, _, _, _, _, _], rfl⟩)) htail
      refine ⟨'\\' :: 'x' :: d₁.char :: d₂.char :: d₃.char :: d₄.char :: raw, ?_,
        .coded hcode hyields, hleft⟩
      rw [← hslash, ← hx]
      exact congrArg (fun cs => m.char :: e.char :: d₁.char :: d₂.char :: d₃.char :: d₄.char :: cs) hraw
  | case8 => cases h
  | case9 => cases h
  | case10 m _ hslash e more hbreak hx ih =>
      obtain ⟨tail, htail, rfl⟩ := prepend_eq_ok h
      obtain ⟨raw, hraw, hyields, hleft⟩ := ih (fun hs => hlast (hs.trans ⟨[_, _], rfl⟩)) htail
      refine ⟨'\\' :: e.char :: raw, ?_, .escaped hbreak hx hyields, hleft⟩
      rw [← hslash]
      exact congrArg (fun cs => m.char :: e.char :: cs) hraw
  | case11 m more hends hslash ih =>
      obtain ⟨tail, htail, rfl⟩ := prepend_eq_ok h
      obtain ⟨raw, hraw, hyields, hleft⟩ := ih (fun hs => hlast (hs.trans ⟨[_], rfl⟩)) htail
      exact ⟨m.char :: raw, congrArg (m.char :: ·) hraw,
        .plain (Bool.eq_false_iff.2 hends) hslash hyields, hleft⟩

theorem spells_of_readParts {fuel : Nat} (hlast : ¬ ['\\'] <:+ chars text)
    (h : readParts fuel first text = some (value, left)) :
    ∃ raw, chars text = raw ++ chars left ∧ Spells first raw value ∧
      ∀ m more, left = m :: more → isBreak m.char = true := by
  induction fuel generalizing first text value with
  | zero => cases h
  | succ fuel ih =>
      cases text with
      | nil =>
          cases h
          have hnothing : Spells first [] (if first then Text.trim [] else Text.trimEnd []) :=
            .rest ⟨nofun, nofun⟩ .done
          refine ⟨[], rfl, ?_, nofun⟩
          simpa [Text.trim, Text.trimStart, Text.trimEnd] using hnothing
      | cons m rest =>
          rw [readParts] at h
          split at h
          · rename_i hquote
            split at h
            · cases h
            · rename_i quoted after hquoted
              obtain ⟨⟨more, left'⟩, hmore, hvalue⟩ := Option.bind_eq_some_iff.1 h
              cases hvalue
              have hrest : ¬ ['\\'] <:+ chars rest := fun hs => hlast (hs.trans ⟨[_], rfl⟩)
              obtain ⟨raw, hraw, hyields, hafter⟩ := yields_of_readUntil hrest hquoted
              obtain ⟨-, hrun⟩ | ⟨q, beyond, rfl, hq⟩ := hafter
              · cases hrun
              have hq : q.char = m.char := of_decide_eq_true hq
              have hbeyond : ¬ ['\\'] <:+ chars beyond := fun hs =>
                hrest (hs.trans ⟨raw ++ [q.char], by rw [hraw]; simp [chars]⟩)
              obtain ⟨raw', hraw', hspells, hleft⟩ := ih hbeyond hmore
              refine ⟨m.char :: (raw ++ m.char :: raw'), ?_, .quoted (by simpa using hquote) ?_ hspells,
                hleft⟩
              · calc chars (m :: rest) = m.char :: chars rest := rfl
                  _ = m.char :: (raw ++ m.char :: chars beyond) := by
                      rw [hraw, ← hq]
                      rfl
                  _ = m.char :: (raw ++ m.char :: raw') ++ chars left := by
                      rw [show chars beyond = _ from hraw']
                      simp
              · exact hyields
          · rename_i hquote
            split at h
            · cases h
            · rename_i out after hout
              cases h
              obtain ⟨raw, hraw, hyields, hafter⟩ := yields_of_readUntil hlast hout
              refine ⟨raw, hraw, .rest ?_ hyields, ?_⟩
              · cases raw with
                | nil => exact ⟨nofun, nofun⟩
                | cons c raw =>
                    obtain rfl : m.char = c := (List.cons.inj hraw).1
                    simpa using hquote
              · rintro m' more rfl
                obtain ⟨hnil, -⟩ | ⟨_, _, heq, hends⟩ := hafter
                · cases hnil
                · cases heq
                  exact hends

end CourierTrack.Proofs.IniValues
