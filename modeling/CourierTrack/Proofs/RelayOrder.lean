import Mathlib.Data.List.TakeWhile
import CourierTrack.Proofs.NodeTurns
import CourierTrack.Relay.Run
/-!
What the members of a relay hear. All texts passed on stand in one order, and each member hears the
part of it from its joining to its leaving, its own texts included, neither more nor less.
-/

namespace CourierTrack.Proofs.RelayOrder

open CourierTrack.Relay
open CourierTrack.Proofs.NodeTurns

variable {r r' : Relay} {request : Request} {requests : List Request} {outcome : Outcome}
  {outcomes front back : List Outcome} {m : Nat} {i : Inbox} {text : String}

/-! Single requests -/

/-- An inbox before and after one request: what is taken comes off its front, and what is passed
on goes to its end as long as its owner is a member. -/
structure Moves (m : Nat) (i i' : Inbox) (outcome : Outcome) : Prop where
  texts : takenBy m [outcome] ++ i'.waiting =
    i.waiting ++ if i.isMember then passed [outcome] else []
  member : i'.isMember = (i.isMember && outcome.keeps m)

theorem moves_silent {i' : Inbox} (htaken : outcome.takenBy? m = none)
    (hpassed : outcome.text? = none) (hwaiting : i'.waiting = i.waiting)
    (hmember : i'.isMember = (i.isMember && outcome.keeps m)) : Moves m i i' outcome where
  texts := by
    rw [takenBy, passed, List.filterMap_cons_none htaken, List.filterMap_cons_none hpassed]
    simp [hwaiting]
  member := hmember

theorem moves_self (htaken : outcome.takenBy? m = none) (hpassed : outcome.text? = none)
    (hkeeps : outcome.keeps m = true) : Moves m i i outcome :=
  moves_silent htaken hpassed rfl (by rw [hkeeps, Bool.and_true])

theorem moves_put (i : Inbox) (text : String) (count : Nat) :
    Moves m i (i.put text) (.passed text count) where
  texts := by
    unfold Inbox.put
    cases hmember : i.isMember <;> simp [takenBy, passed]
  member := by
    unfold Inbox.put
    split <;> simp [Inbox.isMember]

theorem take_eq (r : Relay) (m : Nat) :
    r.take? m = (r.inbox? m).bind fun i => match i.waiting with
      | [] => none
      | text :: rest => some (text, ⟨r.inboxes.set m { i with waiting := rest }⟩) := by
  unfold Relay.take? Relay.inbox?
  cases r.inboxes[m]? with
  | none => rfl
  | some i => cases h : i.waiting <;> simp [h]

theorem inbox_of_take {k : Nat} (htake : r.take? k = some (text, r'))
    (hi : r.inbox? m = some i) :
    ∃ i', r'.inbox? m = some i' ∧ Moves m i i' (.took k text) := by
  by_cases hk : k = m
  · subst hk
    have hlt : k < r.inboxes.length := (List.getElem?_eq_some_iff.1 hi).1
    rw [take_eq, hi, Option.bind_some] at htake
    split at htake
    · cases htake
    · rename_i first rest hwaiting
      obtain ⟨rfl, rfl⟩ : first = text ∧ _ = r' := by simpa using htake
      refine ⟨{ i with waiting := rest }, by simp [Relay.inbox?, hlt], ?_, ?_⟩
      · rw [hwaiting]
        simp [takenBy, passed]
      · simp [Inbox.isMember]
  · exact ⟨i, (inbox_take hk htake).trans hi, moves_self (by simp [hk]) rfl rfl⟩

theorem inbox_left (hi : r.inbox? m = some i) :
    (r.leave m).inbox? m = some { i with listening := false } := by
  rw [Relay.inbox?] at hi ⊢
  simp [Relay.leave, hi]

/-- All that can come of a request. -/
inductive Responds (r : Relay) : Outcome → Relay → Prop where
  | joins : Responds r (.joined r.inboxes.length) r.join.2
  | passes (text : String) : Responds r (.passed text r.memberCount) (r.broadcast text).2
  | leaves (member : Nat) : Responds r (.left member) (r.leave member)
  | dismisses : Responds r .dismissed r.disconnectAll
  | takes {member : Nat} {text : String} {r' : Relay} (h : r.take? member = some (text, r')) :
      Responds r (.took member text) r'
  | refuses : Responds r .refused r
  | ends (member : Nat) : Responds r (.ended member) r
  | waits (member : Nat) : Responds r (.waits member) r

theorem respond_responds (r : Relay) (request : Request) :
    Responds r (r.respond request).1 (r.respond request).2 := by
  cases request with
  | join => exact .joins
  | write member text =>
      rw [Relay.respond]
      split
      · exact .passes text
      · exact .refuses
  | broadcast text => exact .passes text
  | publish frame => exact .passes frame.encode
  | leave member => exact .leaves member
  | disconnectAll => exact .dismisses
  | take member =>
      rw [Relay.respond]
      split
      · rename_i htake
        exact .takes htake
      · dsimp only
        split
        · exact .ends member
        · exact .waits member

theorem Responds.moves (h : Responds r outcome r') (hi : r.inbox? m = some i) :
    ∃ i', r'.inbox? m = some i' ∧ Moves m i i' outcome := by
  cases h with
  | joins =>
      have hlt : m < r.inboxes.length := (List.getElem?_eq_some_iff.1 hi).1
      exact ⟨i, (inbox_join hlt).trans hi, moves_self rfl rfl rfl⟩
  | passes text =>
      exact ⟨i.put text, by rw [inbox_broadcast, hi, Option.map_some], moves_put i text _⟩
  | leaves member =>
      by_cases hmember : member = m
      · subst hmember
        refine ⟨{ i with listening := false }, inbox_left hi, moves_silent rfl rfl rfl ?_⟩
        simp [Inbox.isMember]
      · refine ⟨i, (inbox_leave hmember).trans hi, moves_self rfl rfl ?_⟩
        simp [hmember]
  | dismisses =>
      refine ⟨{ i with fed := false }, ?_, moves_silent rfl rfl rfl ?_⟩
      · exact List.getElem?_map.trans (congrArg _ hi)
      · simp [Inbox.isMember]
  | takes htake => exact inbox_of_take htake hi
  | refuses => exact ⟨i, hi, moves_self rfl rfl rfl⟩
  | ends member => exact ⟨i, hi, moves_self rfl rfl rfl⟩
  | waits member => exact ⟨i, hi, moves_self rfl rfl rfl⟩

theorem Responds.length (h : Responds r outcome r') :
    r'.inboxes.length = r.inboxes.length + (joined [outcome]).length := by
  cases h with
  | joins => simp [Relay.join, joined]
  | passes text => simp [joined]
  | leaves member => simp [Relay.leave, joined]
  | dismisses => simp [Relay.disconnectAll, joined]
  | takes htake => exact length_take htake
  | _ => rfl

/-- A member that joins has the next number, and an empty inbox. -/
theorem Responds.fresh (h : Responds r (.joined m) r') :
    m = r.inboxes.length ∧ r'.inbox? m = some {} := by
  cases h
  exact ⟨rfl, List.getElem?_concat_length⟩

/-- Whoever passes a text on is told how many members there are. -/
theorem Responds.count {count : Nat} (h : Responds r (.passed text count) r') :
    count = r.memberCount := by
  cases h
  rfl

theorem Responds.lt (h : Responds r (.took m text) r') : m < r.inboxes.length := by
  cases h with
  | takes htake =>
      rw [take_eq] at htake
      obtain ⟨i, hi, -⟩ := Option.bind_eq_some_iff.1 htake
      exact (List.getElem?_eq_some_iff.1 hi).1

/-! Runs -/

theorem run_cons :
    r.run (request :: requests) =
      ((r.respond request).1 :: ((r.respond request).2.run requests).1,
        ((r.respond request).2.run requests).2) :=
  rfl

theorem takenBy_cons : takenBy m (outcome :: outcomes) = takenBy m [outcome] ++ takenBy m outcomes :=
  List.filterMap_append (l := [outcome])

theorem passed_cons : passed (outcome :: outcomes) = passed [outcome] ++ passed outcomes :=
  List.filterMap_append (l := [outcome])

theorem joined_cons : joined (outcome :: outcomes) = joined [outcome] ++ joined outcomes :=
  List.filterMap_append (l := [outcome])

theorem passed_of_not_keeps (h : outcome.keeps m = false) : passed [outcome] = [] := by
  cases outcome with
  | left member => rfl
  | dismissed => rfl
  | _ => cases h

/-- What a member has when a run begins, and then what is passed on while it is one. -/
theorem run_moves (requests : List Request) (hi : r.inbox? m = some i) :
    ∃ i', (r.run requests).2.inbox? m = some i' ∧
      takenBy m (r.run requests).1 ++ i'.waiting = i.waiting ++
        (if i.isMember then passed ((r.run requests).1.takeWhile (·.keeps m)) else []) ∧
      i'.isMember = (i.isMember && (r.run requests).1.all (·.keeps m)) := by
  induction requests generalizing r i with
  | nil => exact ⟨i, hi, by simp [Relay.run, takenBy, passed], by simp [Relay.run]⟩
  | cons request requests ih =>
      obtain ⟨i₁, hi₁, hmoves⟩ := (respond_responds r request).moves hi
      obtain ⟨i', hi', htexts, hmember⟩ := ih hi₁
      have hfirst := hmoves.texts
      refine ⟨i', hi', ?_, ?_⟩
      · rw [run_cons, takenBy_cons, List.append_assoc, htexts, ← List.append_assoc, hfirst,
          hmoves.member, List.takeWhile_cons]
        cases i.isMember with
        | false => simp
        | true =>
            cases hkeeps : (r.respond request).1.keeps m with
            | true => simp only [if_true, Bool.and_self, List.append_assoc, ← passed_cons]
            | false =>
                have hnone := passed_of_not_keeps hkeeps
                simp only [hnone, if_true, Bool.and_false, Bool.false_eq_true, if_false]
                exact List.append_nil _
      · rw [run_cons, hmember, hmoves.member, List.all_cons, Bool.and_assoc]

theorem run_joined (r : Relay) (requests : List Request) :
    joined (r.run requests).1 =
      List.range' r.inboxes.length (joined (r.run requests).1).length := by
  induction requests generalizing r with
  | nil => rfl
  | cons request requests ih =>
      have hlength := (respond_responds r request).length
      have hrest := ih (r.respond request).2
      rw [run_cons]
      cases houtcome : (r.respond request).1 with
      | joined m =>
          have hresponds := respond_responds r request
          rw [houtcome] at hlength hresponds
          obtain ⟨rfl, -⟩ := hresponds.fresh
          simp only [joined, List.filterMap_cons, Outcome.joined?, List.filterMap_nil,
            List.length_cons, List.length_nil, List.range'_succ] at hlength hrest ⊢
          rw [hrest, hlength]
          simp
      | _ =>
          rw [houtcome] at hlength
          simp only [joined, List.filterMap_cons, Outcome.joined?, List.filterMap_nil,
            List.length_nil, Nat.add_zero] at hlength hrest ⊢
          rw [hrest, hlength]
          simp

theorem run_length (r : Relay) (requests : List Request) :
    (r.run requests).2.inboxes.length =
      r.inboxes.length + (joined (r.run requests).1).length := by
  induction requests generalizing r with
  | nil => rfl
  | cons request requests ih =>
      rw [run_cons, ih, (respond_responds r request).length, Nat.add_assoc, ← List.length_append, ← joined_cons]

/-- The members of a relay that starts empty are numbered in the order of their joining. -/
theorem joined_eq_range (requests : List Request) :
    joined (({} : Relay).run requests).1 =
      List.range (({} : Relay).run requests).2.inboxes.length := by
  rw [run_length, run_joined, List.range_eq_range', List.length_range']
  simp

theorem Responds.takenBy_eq_nil (h : Responds r outcome r') (hm : r.inboxes.length ≤ m) :
    takenBy m [outcome] = [] := by
  cases outcome with
  | took k text =>
      have hk : k ≠ m := by
        have hlt := h.lt
        omega
      simp [takenBy, hk]
  | _ => rfl

theorem Responds.length_le (h : Responds r outcome r') (hm : r.inboxes.length ≤ m)
    (hjoined : outcome ≠ .joined m) : r'.inboxes.length ≤ m := by
  rw [h.length]
  cases outcome with
  | joined k =>
      obtain ⟨rfl, -⟩ := h.fresh
      have hne : r.inboxes.length ≠ m := by
        rintro rfl
        exact hjoined rfl
      simp only [joined, List.filterMap_cons, Outcome.joined?, List.filterMap_nil,
        List.length_cons, List.length_nil]
      omega
  | _ => exact hm

/-- Of a member that joins in the course of a run: what it took and what still waits for it are
what it heard, and it is a member at the end if it attends. -/
theorem run_heard (requests : List Request) (hm : r.inboxes.length ≤ m) :
    takenBy m (r.run requests).1 ++ waitingAt (r.run requests).2 m = heard m (r.run requests).1 ∧
      ((r.run requests).2.inbox? m).any Inbox.isMember = attends m (r.run requests).1 := by
  induction requests generalizing r with
  | nil =>
      have hnone : r.inbox? m = none := List.getElem?_eq_none hm
      simp [Relay.run, waitingAt, hnone, takenBy, heard, attends]
  | cons request requests ih =>
      have hresponds := respond_responds r request
      rw [run_cons, takenBy_cons, hresponds.takenBy_eq_nil hm, List.nil_append, heard, attends]
      by_cases hjoined : (r.respond request).1 = .joined m
      · obtain ⟨-, hnew⟩ := (hjoined ▸ hresponds).fresh
        obtain ⟨i', hi', htexts, hmember⟩ := run_moves requests hnew
        rw [if_pos hjoined, if_pos hjoined, waitingAt, hi']
        exact ⟨htexts, hmember⟩
      · rw [if_neg hjoined, if_neg hjoined]
        exact ih (hresponds.length_le hm hjoined)

theorem exists_run_of_append (h : (r.run requests).1 = front ++ back) :
    ∃ before after, (r.run before).1 = front ∧ ((r.run before).2.run after).1 = back := by
  induction front generalizing r requests with
  | nil => exact ⟨[], requests, rfl, h⟩
  | cons outcome front ih =>
      cases requests with
      | nil => cases h
      | cons request requests =>
          rw [run_cons, List.cons_append] at h
          obtain ⟨hfirst, hrest⟩ := List.cons.inj h
          obtain ⟨before, after, hbefore, hafter⟩ := ih hrest
          exact ⟨request :: before, after, by rw [run_cons, hfirst, hbefore], hafter⟩

/-! What is heard -/

theorem heard_infix (m : Nat) (outcomes : List Outcome) : heard m outcomes <:+: passed outcomes := by
  induction outcomes with
  | nil => exact List.infix_rfl
  | cons outcome after ih =>
      rw [heard, passed_cons]
      split
      · have hkept : after.takeWhile (·.keeps m) <+: after := List.takeWhile_prefix _
        exact (hkept.filterMap _).isInfix.trans (List.suffix_append _ _).isInfix
      · exact ih.trans (List.suffix_append _ _).isInfix

/-- Those who attend hear what is passed on next. -/
theorem heard_append_passed (m : Nat) (outcomes : List Outcome) (text : String) (count : Nat) :
    heard m (outcomes ++ [.passed text count]) =
      heard m outcomes ++ if attends m outcomes then [text] else [] := by
  induction outcomes with
  | nil => rfl
  | cons outcome after ih =>
      rw [List.cons_append, heard, heard, attends]
      split
      · by_cases hall : ∀ o ∈ after, o.keeps m = true
        · rw [List.takeWhile_append_of_pos hall, List.takeWhile_eq_self_iff.2 hall,
            if_pos (List.all_eq_true.2 hall)]
          exact List.filterMap_append
        · have hshort : (after.takeWhile (·.keeps m)).length ≠ after.length := by
            intro hlength
            have hself := (List.takeWhile_prefix _).eq_of_length hlength
            exact hall (List.takeWhile_eq_self_iff.1 hself)
          rw [List.takeWhile_append, if_neg hshort, if_neg (fun h => hall (List.all_eq_true.1 h)),
            List.append_nil]
      · exact ih

/-- What a connection gets that asks for its next text. -/
theorem respond_take_eq (hi : r.inbox? m = some i) :
    (r.respond (.take m)).1 =
      match i.waiting with
      | text :: _ => .took m text
      | [] => if i.isMember then .waits m else .ended m := by
  rw [Relay.respond, take_eq, hi, Option.bind_some]
  cases hwaiting : i.waiting with
  | nil => cases hmember : i.isMember <;> simp [Inbox.isOver, hwaiting, hmember]
  | cons text rest => rfl

theorem countP_eq_length_range {α : Type} (p : α → Bool) (l : List α) :
    l.countP p = ((List.range l.length).filter fun k => (l[k]?).any p).length := by
  induction l with
  | nil => rfl
  | cons a l ih =>
      rw [List.countP_cons, ih, List.length_cons, List.range_succ_eq_map, List.filter_cons,
        List.filter_map]
      cases h : p a <;> simp [h, Function.comp_def]

theorem memberCount_eq (r : Relay) :
    r.memberCount =
      ((List.range r.inboxes.length).filter fun m => (r.inbox? m).any Inbox.isMember).length :=
  countP_eq_length_range _ _

/-- At any time of a run each member heard, taken and waiting texts together, the part of all that
was passed on that lies between its joining and its leaving; when it asks for its next text it gets
the first of them that it did not take yet, and is told the end when there is none and it is no
member any more; and whoever passes a text on is told how many members hear it. -/
theorem members_hear_one_order (requests : List Request) :
    let outcomes := (({} : Relay).run requests).1
    let r := (({} : Relay).run requests).2
    (∀ m, takenBy m outcomes ++ waitingAt r m = heard m outcomes ∧
        heard m outcomes <:+: passed outcomes) ∧
      (∀ m ∈ joined outcomes, (r.respond (.take m)).1 =
        match (heard m outcomes).drop (takenBy m outcomes).length with
        | text :: _ => .took m text
        | [] => if attends m outcomes then .waits m else .ended m) ∧
      ∀ before text count after, outcomes = before ++ .passed text count :: after →
        count = ((joined before).filter fun m =>
          heard m (before ++ [.passed text count]) = heard m before ++ [text]).length := by
  intro outcomes r
  have hstart (m : Nat) : (Relay.inboxes {}).length ≤ m := Nat.zero_le m
  refine ⟨?_, ?_, ?_⟩
  · intro m
    exact ⟨(run_heard requests (hstart m)).1, heard_infix m outcomes⟩
  · intro m hm
    obtain ⟨htexts, hmember⟩ := run_heard requests (hstart m)
    obtain ⟨i, hi⟩ : ∃ i, r.inbox? m = some i := by
      rw [joined_eq_range, List.mem_range] at hm
      exact ⟨_, List.getElem?_eq_getElem hm⟩
    rw [waitingAt, hi] at htexts
    rw [hi, Option.any_some] at hmember
    rw [respond_take_eq hi, hmember, ← htexts, List.drop_left]
    rfl
  · intro before text count after hsplit
    obtain ⟨first, rest, hfirst, hrest⟩ := exists_run_of_append hsplit
    obtain ⟨request, requests', rfl⟩ : ∃ request requests', rest = request :: requests' := by
      cases rest with
      | nil => cases hrest
      | cons request requests' => exact ⟨request, requests', rfl⟩
    have hresponds := respond_responds (({} : Relay).run first).2 request
    have houtcome : ((({} : Relay).run first).2.respond request).1 = .passed text count :=
      (List.cons.inj hrest).1
    rw [houtcome] at hresponds
    have hpassed := hresponds.count
    rw [hpassed, memberCount_eq, ← joined_eq_range, hfirst]
    congr 1
    apply List.filter_congr
    intro m _
    rw [(run_heard first (hstart m)).2, hfirst, heard_append_passed]
    cases attends m before <;> simp

theorem members_hear_one_order_until_let_go :
    let requests : List Request := [.join, .join, .write 0 "a", .take 1, .leave 0, .broadcast "b",
      .write 0 "c", .disconnectAll, .broadcast "d", .take 1]
    let outcomes := (({} : Relay).run requests).1
    let r := (({} : Relay).run requests).2
    let before : List Outcome := [.joined 0, .joined 1, .passed "a" 2, .took 1 "a", .left 0]
    let after : List Outcome := [.refused, .dismissed, .passed "d" 0, .took 1 "b"]
    takenBy 1 outcomes ++ waitingAt r 1 = ["a", "b"] ∧
      1 ∈ joined outcomes ∧ (r.respond (.take 1)).1 = .ended 1 ∧
      outcomes = before ++ .passed "b" 1 :: after ∧
      1 = ((joined before).filter fun m =>
        heard m (before ++ [.passed "b" 1]) = heard m before ++ ["b"]).length := by
  intro requests outcomes r before after
  have horder := members_hear_one_order requests
  have hjoined : 1 ∈ joined outcomes := by decide
  have hsplit : outcomes = before ++ .passed "b" 1 :: after := by decide
  refine ⟨(horder.1 1).1, hjoined, horder.2.1 1 hjoined, hsplit, horder.2.2 _ _ _ _ hsplit⟩

end CourierTrack.Proofs.RelayOrder
