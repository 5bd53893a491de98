import Mathlib
import CourierTrack.Gate.Run
/-!
What a gate lets through, whatever the clock does. Two fixes admitted one after the other are at
least the least interval apart, so no span of time holds more of them than intervals fit in it, and
one.
-/

namespace CourierTrack.Proofs.GateAdmissions

open CourierTrack.Time
open CourierTrack.Gate

variable {g : Gate} {config : GateConfig} {point : Point} {now : Reading} {a b : Fix}
  {request : Request} {requests : List Request} {front middle back : List Outcome}

/-! Single requests -/

theorem respond_config : (g.respond request).2.config = g.config := by
  cases request with
  | offer point now =>
      simp only [respond, Gate.offer]
      split <;> rfl
  | record point now => rfl
  | reset => rfl

theorem respond_last :
    (g.respond request).2.last = ((g.respond request).1.last?).getD g.last := by
  cases request with
  | offer point now =>
      simp only [respond, Gate.offer]
      split <;> rfl
  | record point now => rfl
  | reset => rfl

/-- An offer is admitted, or it is rejected and changes nothing. -/
theorem respond_offer (g : Gate) (point : Point) (now : Reading) :
    (admits g.config g.last point now = true ∧
        g.respond (.offer point now) = (.admitted ⟨point, now⟩, g.record point now)) ∨
      (admits g.config g.last point now = false ∧
        g.respond (.offer point now) = (.rejected, g)) := by
  cases hadmits : admits g.config g.last point now with
  | true => exact .inl ⟨rfl, by simp [respond, Gate.offer, hadmits]⟩
  | false => exact .inr ⟨rfl, by simp [respond, Gate.offer, hadmits]⟩

theorem admits_iff {last : Option Fix} :
    admits config last point now = true ↔
      last = none ∨ ∃ fix, last = some fix ∧ config.minInterval ≤ now - fix.time ∧
        fix.point.distanceM point ≥ config.minDistance := by
  cases last with
  | none => simp [admits]
  | some fix =>
      simp only [admits, Bool.and_eq_true, decide_eq_true_eq, reduceCtorEq, false_or,
        Option.some.injEq, exists_eq_left']
      exact Iff.rfl

theorem respond_offer_eq_admitted_iff :
    (g.respond (.offer point now)).1 = .admitted ⟨point, now⟩ ↔
      g.last = none ∨ ∃ fix, g.last = some fix ∧ g.config.minInterval ≤ now - fix.time ∧
        fix.point.distanceM point ≥ g.config.minDistance := by
  rw [← admits_iff]
  rcases respond_offer g point now with ⟨hadmits, hrespond⟩ | ⟨hadmits, hrespond⟩
  · simp [hadmits, hrespond]
  · simp [hadmits, hrespond]

/-- A fix is admitted after another one only if its reading is late enough. -/
theorem apart_of_admitted (hpos : 0 < g.config.minInterval) (hlast : g.last = some a)
    (h : (g.respond request).1 = .admitted b) : a.time + g.config.minInterval ≤ b.time := by
  cases request with
  | offer point now =>
      rcases respond_offer g point now with ⟨hadmits, hrespond⟩ | ⟨-, hrespond⟩
      · rw [hrespond] at h
        obtain rfl := Outcome.admitted.inj h
        rcases admits_iff.1 hadmits with hnone | ⟨fix, hfix, helapsed, -⟩
        · rw [hnone] at hlast
          cases hlast
        · obtain rfl := Option.some.inj (hfix.symm.trans hlast)
          have hforward : fix.time < now := Nat.lt_of_sub_pos (hpos.trans_le helapsed)
          exact Nat.add_le_of_le_sub' hforward.le helapsed
      · rw [hrespond] at h
        cases h
  | record point now => cases h
  | reset => cases h

/-! Runs -/

theorem run_cons :
    g.run (request :: requests) =
      ((g.respond request).1 :: ((g.respond request).2.run requests).1,
        ((g.respond request).2.run requests).2) :=
  rfl

theorem run_config : (g.run requests).2.config = g.config := by
  induction requests generalizing g with
  | nil => rfl
  | cons request requests ih => exact ih.trans respond_config

theorem run_last :
    (g.run requests).2.last =
      (((g.run requests).1.filterMap Outcome.last?).getLast?).getD g.last := by
  induction requests generalizing g with
  | nil => rfl
  | cons request requests ih =>
      rw [run_cons, ih, respond_last, List.filterMap_cons]
      cases (g.respond request).1.last? with
      | none => rfl
      | some last =>
          rw [List.getLast?_cons]
          cases (List.filterMap _ _).getLast? <;> rfl

/-- The gate that answers a later part of a run has the last fix of the part before. -/
theorem exists_run_of_append (h : (g.run requests).1 = front ++ back) :
    ∃ before after, (g.run before).1 = front ∧ ((g.run before).2.run after).1 = back := by
  induction front generalizing g requests with
  | nil => exact ⟨[], requests, rfl, h⟩
  | cons outcome front ih =>
      cases requests with
      | nil => cases h
      | cons request requests =>
          rw [run_cons, List.cons_append] at h
          obtain ⟨hfirst, hrest⟩ := List.cons.inj h
          obtain ⟨before, after, hbefore, hafter⟩ := ih hrest
          refine ⟨request :: before, after, ?_, hafter⟩
          rw [run_cons, hfirst, hbefore]

theorem apart_of_run (hpos : 0 < g.config.minInterval)
    (h : (g.run requests).1 = front ++ .admitted a :: (middle ++ .admitted b :: back))
    (hmiddle : ∀ outcome ∈ middle, outcome = .rejected) :
    a.time + g.config.minInterval ≤ b.time := by
  have hsplit : (g.run requests).1 =
      (front ++ .admitted a :: middle) ++ (.admitted b :: back) := by
    rw [h, List.append_assoc, List.cons_append]
  obtain ⟨before, after, hbefore, hafter⟩ := exists_run_of_append hsplit
  have hlast : (g.run before).2.last = some a := by
    have hnone : middle.filterMap Outcome.last? = [] := by
      rw [List.filterMap_eq_nil_iff]
      intro outcome houtcome
      rw [hmiddle outcome houtcome]
      rfl
    rw [run_last, hbefore, List.filterMap_append, List.filterMap_cons, hnone]
    simp
  cases after with
  | nil => cases hafter
  | cons request after =>
      rw [run_cons] at hafter
      have hconfig : (g.run before).2.config = g.config := run_config
      rw [← hconfig] at hpos ⊢
      exact apart_of_admitted hpos hlast (List.cons.inj hafter).1

/-! Offers only -/

theorem run_offers (h : ∀ request ∈ requests, request.isOffer = true) :
    ∀ outcome ∈ (g.run requests).1, outcome.admitted? = none → outcome = .rejected := by
  induction requests generalizing g with
  | nil => simp [run]
  | cons request requests ih =>
      obtain ⟨hfirst, hrest⟩ := List.forall_mem_cons.1 h
      rw [run_cons]
      refine List.forall_mem_cons.2 ⟨?_, ih hrest⟩
      cases request with
      | offer point now =>
          rcases respond_offer g point now with ⟨-, hrespond⟩ | ⟨-, hrespond⟩
          · simp [hrespond]
          · simp [hrespond]
      | record point now => cases hfirst
      | reset => cases hfirst

theorem eq_admitted {outcome : Outcome} (h : outcome.admitted? = some a) :
    outcome = .admitted a := by
  cases outcome with
  | admitted fix => exact congrArg Outcome.admitted (Option.some.inj h)
  | rejected => cases h
  | recorded fix => cases h
  | cleared => cases h

theorem isChain_admissions (hpos : 0 < g.config.minInterval)
    (h : ∀ request ∈ requests, request.isOffer = true) :
    (admissions (g.run requests).1).IsChain fun a b => a.time + g.config.minInterval ≤ b.time := by
  rw [List.isChain_iff_forall_rel_of_append_cons_cons]
  intro a b before after hsplit
  obtain ⟨front, rest, hrun, -, hrest⟩ := List.filterMap_eq_append_iff.1 hsplit
  obtain ⟨skipped, first, rest, rfl, -, hfirst, hrest⟩ := List.filterMap_eq_cons_iff.1 hrest
  obtain ⟨middle, second, back, rfl, hmiddle, hsecond, -⟩ := List.filterMap_eq_cons_iff.1 hrest
  obtain rfl := eq_admitted hfirst
  obtain rfl := eq_admitted hsecond
  have hrun : (g.run requests).1 =
      (front ++ skipped) ++ .admitted a :: (middle ++ .admitted b :: back) := by
    rw [hrun, List.append_assoc]
  -- Among offers alone, whatever is no admission is a rejection.
  have hrejected : ∀ outcome ∈ middle, outcome = .rejected := by
    intro outcome houtcome
    apply run_offers h outcome
    · rw [hrun]
      simp [houtcome]
    · exact hmiddle outcome houtcome
  exact apart_of_run hpos hrun hrejected

/-- No more times that are at least `width` apart fit in a span than widths do, and one. -/
theorem length_le_of_spaced {times : List Nat} {width start span : Nat} (hpos : 0 < width)
    (hspaced : times.Pairwise fun a b => a + width ≤ b)
    (hwithin : ∀ time ∈ times, start ≤ time ∧ time ≤ start + span) :
    times.length ≤ 1 + span / width := by
  induction times generalizing start span with
  | nil => simp
  | cons time times ih =>
      obtain ⟨hfirst, hrest⟩ := List.forall_mem_cons.1 hwithin
      obtain ⟨hlate, hspaced⟩ := List.pairwise_cons.1 hspaced
      rcases Nat.lt_or_ge span width with hshort | hlong
      · -- The others are too late for so short a span.
        have hnone : times = [] := by
          apply List.eq_nil_iff_forall_not_mem.2
          intro later hlater
          have := hlate later hlater
          have := hrest later hlater
          omega
        simp [hnone]
      · have hlater : ∀ later ∈ times,
            start + width ≤ later ∧ later ≤ start + width + (span - width) := by
          intro later hlater
          have := hlate later hlater
          have := hrest later hlater
          omega
        have hlength := ih hspaced hlater
        rw [List.length_cons, Nat.div_eq_sub_div hpos hlong]
        omega

theorem countP_admissions_le (hpos : 0 < g.config.minInterval)
    (h : ∀ request ∈ requests, request.isOffer = true) (start : Reading) (span : Span) :
    (admissions (g.run requests).1).countP
        (fun fix => start ≤ fix.time ∧ fix.time ≤ start + span) ≤
      1 + span / g.config.minInterval := by
  have : IsTrans Fix fun a b => a.time + g.config.minInterval ≤ b.time :=
    ⟨fun _ _ _ hab hbc => (Nat.le_add_right _ _).trans (Nat.add_le_add_right hab _ |>.trans hbc)⟩
  have hspaced := (isChain_admissions hpos h).pairwise
  rw [List.countP_eq_length_filter, ← List.length_map Fix.time]
  apply length_le_of_spaced hpos
  · exact List.pairwise_map.2 (hspaced.filter _)
  · intro time htime
    obtain ⟨fix, hfix, rfl⟩ := List.mem_map.1 htime
    exact of_decide_eq_true (List.mem_filter.1 hfix).2

/-- What a gate does in a run from its start: when it admits a fix, which fix is its last, and how
few it admits. The clock readings need not increase. -/
theorem gate_spaces_admissions (config : GateConfig) (requests : List Request) :
    let outcomes := ((ofConfig config).run requests).1
    let g := ((ofConfig config).run requests).2
    g.last = lastFix outcomes ∧
      (∀ point now, (g.respond (.offer point now)).1 = .admitted ⟨point, now⟩ ↔
        lastFix outcomes = none ∨ ∃ fix, lastFix outcomes = some fix ∧
          config.minInterval ≤ now - fix.time ∧
          fix.point.distanceM point ≥ config.minDistance) ∧
      (∀ point now, (g.respond (.offer point now)).1 ≠ .admitted ⟨point, now⟩ →
        g.respond (.offer point now) = (.rejected, g)) ∧
      (0 < config.minInterval →
        (∀ front a middle b back,
          outcomes = front ++ .admitted a :: (middle ++ .admitted b :: back) →
          (∀ outcome ∈ middle, outcome = .rejected) → a.time + config.minInterval ≤ b.time) ∧
        ∀ offers, (∀ request ∈ offers, request.isOffer = true) → ∀ (start : Reading) (span : Span),
          (admissions (g.run offers).1).countP
              (fun fix => start ≤ fix.time ∧ fix.time ≤ start + span) ≤
            1 + span / config.minInterval) := by
  intro outcomes g
  have hconfig : g.config = config := run_config
  have hlast : g.last = lastFix outcomes := by
    rw [run_last, lastFix]
    cases (List.filterMap Outcome.last? outcomes).getLast? <;> rfl
  refine ⟨hlast, ?_, ?_, ?_⟩
  · intro point now
    rw [respond_offer_eq_admitted_iff, hlast, hconfig]
  · intro point now hrejected
    rcases respond_offer g point now with ⟨-, hrespond⟩ | ⟨-, hrespond⟩
    · exact absurd (by rw [hrespond]) hrejected
    · exact hrespond
  · intro hpos
    constructor
    · intro front a middle b back hrun hmiddle
      exact apart_of_run hpos hrun hmiddle
    · intro offers hoffers start span
      have hbound := countP_admissions_le (g := g) (hconfig ▸ hpos) hoffers start span
      rwa [hconfig] at hbound

theorem gate_spaces_admissions_again_after_reset :
    let p : Point := ⟨45, 9⟩
    let q : Point := ⟨46, 9⟩
    let run := (ofConfig {}).run
      [.offer p (Span.seconds 5), .offer q (Span.seconds 3), .reset, .offer q (Span.seconds 3)]
    run.1 = [.admitted ⟨p, Span.seconds 5⟩, .rejected, .cleared, .admitted ⟨q, Span.seconds 3⟩] ∧
      run.2.last = some ⟨q, Span.seconds 3⟩ ∧
      ¬ (run.2.respond (.offer p (Span.seconds 10))).1 = .admitted ⟨p, Span.seconds 10⟩ ∧
      (admissions (run.2.run [.offer p (Span.seconds 10), .offer p (Span.seconds 30)]).1).countP
        (fun fix => Span.seconds 20 ≤ fix.time ∧ fix.time ≤ Span.seconds 20 + Span.seconds 17) ≤
          3 := by
  intro p q run
  have hrun : run.1 =
      [.admitted ⟨p, Span.seconds 5⟩, .rejected, .cleared, .admitted ⟨q, Span.seconds 3⟩] := rfl
  obtain ⟨hlast, hadmitted, -, hpositive⟩ := gate_spaces_admissions {}
    [.offer p (Span.seconds 5), .offer q (Span.seconds 3), .reset, .offer q (Span.seconds 3)]
  refine ⟨hrun, hlast, ?_, ?_⟩
  · rw [hadmitted]
    rintro (hnone | ⟨fix, hfix, hinterval, -⟩)
    · cases hnone
    · obtain rfl : ⟨q, Span.seconds 3⟩ = fix := Option.some.inj hfix
      revert hinterval
      decide
  · exact (hpositive (by decide)).2 _ (by simp [Request.isOffer]) _ _

end CourierTrack.Proofs.GateAdmissions
