import CourierTrack.Frame.Grammar
import CourierTrack.Proofs.FrameReadback
/-!
Decoding accepts exactly the frames that the grammar describes. What a frame reads as depends on its
type and on the fields of that type alone.
-/

namespace CourierTrack.Proofs.FrameGrammar

open CourierTrack.Json
open CourierTrack.Frame
open CourierTrack.Proofs.FrameReadback

variable {ms other : List (String × Json)} {kind name : String} {f : Frame} {value : Json}
  {p : Point}

/-! Values -/

theorem number_eq_some_iff {x : Float} : value.number? = some x ↔ IsNumber value x := by
  constructor
  · intro h
    cases value with
    | integer n =>
        obtain rfl := Option.some.inj h
        exact .integer n
    | float y =>
        obtain rfl := Option.some.inj h
        exact .float y
    | _ => cases h
  · rintro (_ | _) <;> rfl

theorem text_eq_some_iff {s : String} : value.text? = some s ↔ value = .text s := by
  constructor
  · intro h
    cases value with
    | text t =>
        obtain rfl := Option.some.inj h
        rfl
    | _ => cases h
  · rintro rfl
    rfl

theorem point_eq_some_iff : value.point? = some p ↔ IsPair value p := by
  constructor
  · intro h
    unfold Json.point? at h
    split at h
    · obtain ⟨x, hx, h⟩ := Option.bind_eq_some_iff.1 h
      obtain ⟨y, hy, h⟩ := Option.bind_eq_some_iff.1 h
      obtain rfl := Option.some.inj h
      exact .pair (number_eq_some_iff.1 hx) (number_eq_some_iff.1 hy)
    · cases h
  · rintro ⟨hlat, hlng⟩
    simp [Json.point?, number_eq_some_iff.2 hlat, number_eq_some_iff.2 hlng]

theorem mapM_point_eq_some_iff {items : List Json} {points : List Point} :
    items.mapM Json.point? = some points ↔ List.Forall₂ IsPair items points := by
  induction items generalizing points with
  | nil => simp [eq_comm]
  | cons item items ih =>
      rw [List.mapM_cons, List.forall₂_cons_left_iff]
      constructor
      · intro h
        obtain ⟨p, hp, h⟩ := Option.bind_eq_some_iff.1 h
        obtain ⟨rest, hrest, h⟩ := Option.bind_eq_some_iff.1 h
        exact ⟨p, rest, point_eq_some_iff.1 hp, ih.1 hrest, (Option.some.inj h).symm⟩
      · rintro ⟨p, rest, hp, hrest, rfl⟩
        simp [point_eq_some_iff.2 hp, ih.2 hrest]

/-! Fields -/

theorem required_number_iff {x : Float} :
    required Json.number? name ms = some x ↔ HasNumber ms name x := by
  simp only [required, Option.bind_eq_some_iff, number_eq_some_iff, HasNumber]

theorem holds_number_iff {x : Float} :
    Holds .number (lookup name ms) x ↔ HasNumber ms name x := by
  unfold HasNumber
  generalize lookup name ms = given
  constructor
  · rintro ⟨hx⟩
    exact ⟨_, rfl, hx⟩
  · rintro ⟨value, rfl, hx⟩
    exact .number hx

theorem required_text_iff {s : String} :
    required Json.text? name ms = some s ↔ Holds .text (lookup name ms) s := by
  rw [required, Option.bind_eq_some_iff]
  constructor
  · rintro ⟨value, hvalue, hs⟩
    obtain rfl := text_eq_some_iff.1 hs
    rw [hvalue]
    exact .text s
  · intro h
    generalize lookup name ms = given at h ⊢
    obtain ⟨⟩ := h
    exact ⟨_, rfl, rfl⟩

theorem optionally_eq_some_iff {α : Type} {read : Json → Option α} {v : Option α} :
    optionally read name ms = some v ↔
      (IsBlank (lookup name ms) ∧ v = none) ∨
        ∃ value a, lookup name ms = some value ∧ value ≠ .null ∧ read value = some a ∧
          v = some a := by
  unfold optionally
  constructor
  · intro h
    split at h
    · rename_i hnone
      exact .inl ⟨.inl hnone, (Option.some.inj h).symm⟩
    · rename_i hnull
      exact .inl ⟨.inr hnull, (Option.some.inj h).symm⟩
    · rename_i value hnull hvalue
      obtain ⟨a, ha, rfl⟩ := Option.map_eq_some_iff.1 h
      exact .inr ⟨value, a, hvalue, hnull, ha, rfl⟩
  · rintro (⟨hnone | hnull, rfl⟩ | ⟨value, a, hvalue, hnull, ha, rfl⟩)
    · rw [hnone]
    · rw [hnull]
    · rw [hvalue]
      simp [ha]

theorem optionally_number_iff {v : Option Float} :
    optionally Json.number? name ms = some v ↔ Holds .optionalNumber (lookup name ms) v := by
  rw [optionally_eq_some_iff]
  generalize lookup name ms = given
  constructor
  · rintro (⟨hblank, rfl⟩ | ⟨value, x, rfl, -, hx, rfl⟩)
    · exact .noNumber hblank
    · exact .someNumber (number_eq_some_iff.1 hx)
  · intro h
    cases h with
    | noNumber hblank => exact .inl ⟨hblank, rfl⟩
    | someNumber hx =>
        refine .inr ⟨_, _, rfl, ?_, number_eq_some_iff.2 hx, rfl⟩
        rintro rfl
        cases hx

theorem optionally_text_iff {v : Option String} :
    optionally Json.text? name ms = some v ↔ Holds .optionalText (lookup name ms) v := by
  rw [optionally_eq_some_iff]
  generalize lookup name ms = given
  constructor
  · rintro (⟨hblank, rfl⟩ | ⟨value, s, rfl, -, hs, rfl⟩)
    · exact .noText hblank
    · obtain rfl := text_eq_some_iff.1 hs
      exact .someText s
  · intro h
    cases h with
    | noText hblank => exact .inl ⟨hblank, rfl⟩
    | someText s => exact .inr ⟨_, s, rfl, by simp, rfl, rfl⟩

theorem optionally_code_iff {v : Option Json} :
    optionally some name ms = some v ↔ Holds .code (lookup name ms) v := by
  rw [optionally_eq_some_iff]
  generalize lookup name ms = given
  constructor
  · rintro (⟨hblank, rfl⟩ | ⟨value, _, rfl, hnull, ⟨⟩, rfl⟩)
    · exact .noCode hblank
    · exact .someCode hnull
  · intro h
    cases h with
    | noCode hblank => exact .inl ⟨hblank, rfl⟩
    | someCode hnull => exact .inr ⟨_, _, rfl, hnull, rfl, rfl⟩

theorem defaulting_points_iff {points : List Point} :
    defaulting Json.points? [] name ms = some points ↔ Holds .points (lookup name ms) points := by
  unfold defaulting
  generalize lookup name ms = given
  constructor
  · intro h
    split at h
    · obtain rfl := Option.some.inj h
      exact .noPoints
    · unfold Json.points? at h
      split at h
      · exact .somePoints (mapM_point_eq_some_iff.1 h)
      · cases h
  · intro h
    cases h with
    | noPoints => rfl
    | somePoints hitems => exact mapM_point_eq_some_iff.2 hitems

theorem pointFields_eq_some_iff :
    pointFields ms = some p ↔ HasNumber ms "lat" p.lat ∧ HasNumber ms "lng" p.lng := by
  constructor
  · intro h
    obtain ⟨lat, hlat, h⟩ := Option.bind_eq_some_iff.1 h
    obtain ⟨lng, hlng, h⟩ := Option.bind_eq_some_iff.1 h
    obtain rfl := Option.some.inj h
    exact ⟨required_number_iff.1 hlat, required_number_iff.1 hlng⟩
  · rintro ⟨hlat, hlng⟩
    simp [pointFields, required_number_iff.2 hlat, required_number_iff.2 hlng]

theorem place_eq_some_iff : place? value = some p ↔ IsPlace value p := by
  constructor
  · intro h
    unfold place? at h
    split at h
    · obtain ⟨hlat, hlng⟩ := pointFields_eq_some_iff.1 h
      exact .object hlat hlng
    · exact .pair (point_eq_some_iff.1 h)
  · intro h
    cases h with
    | object hlat hlng => exact pointFields_eq_some_iff.2 ⟨hlat, hlng⟩
    | pair hpair =>
        obtain ⟨hlat, hlng⟩ := hpair
        exact point_eq_some_iff.2 (.pair hlat hlng)

theorem optionally_place_iff {v : Option Point} :
    optionally place? name ms = some v ↔ Holds .optionalPlace (lookup name ms) v := by
  rw [optionally_eq_some_iff]
  generalize lookup name ms = given
  constructor
  · rintro (⟨hblank, rfl⟩ | ⟨value, p, rfl, -, hp, rfl⟩)
    · exact .noPlace hblank
    · exact .somePlace (place_eq_some_iff.1 hp)
  · intro h
    cases h with
    | noPlace hblank => exact .inl ⟨hblank, rfl⟩
    | somePlace hp =>
        refine .inr ⟨_, _, rfl, ?_, place_eq_some_iff.2 hp, rfl⟩
        rintro rfl
        cases hp with
        | pair hpair => cases hpair

theorem time_iff {v : Option Timestamp} :
    (lookup name ms).bind Timestamp.ofJson? = v ↔ Holds .time (lookup name ms) v := by
  generalize lookup name ms = given
  constructor
  · rintro rfl
    exact .time given
  · intro h
    cases h
    rfl

/-! Payloads -/

/-- Whether a field of a frame holds what the members give. -/
def Given (ms : List (String × Json)) (field : String × Shape) (content : Content) : Prop :=
  content.shape = field.2 ∧ Holds content.shape (lookup field.1 ms) content.value

/-- Whether the grammar describes a frame of a type by its members. -/
structure Describes (kind : String) (ms : List (String × Json)) (f : Frame) : Prop where
  kind_eq : f.kind = kind
  unknown : ∀ k, f = .unknown k → k ∉ knownKinds
  contents : List.Forall₂ (Given ms) (fields kind) f.contents

theorem positionPayload_eq_some_iff :
    positionPayload ms = some f ↔ ∃ u, f = .position u ∧
      List.Forall₂ (Given ms) (fields "position_update") (contents (.position u)) := by
  simp only [fields, contents, List.forall₂_cons, List.Forall₂.nil, Given, true_and, and_true]
  constructor
  · intro h
    obtain ⟨point, hpoint, h⟩ := Option.bind_eq_some_iff.1 h
    obtain ⟨status, hstatus, h⟩ := Option.bind_eq_some_iff.1 h
    obtain rfl := Option.some.inj h
    obtain ⟨hlat, hlng⟩ := pointFields_eq_some_iff.1 hpoint
    exact ⟨_, rfl, holds_number_iff.2 hlat, holds_number_iff.2 hlng,
      optionally_text_iff.1 hstatus, time_iff.1 rfl⟩
  · rintro ⟨u, rfl, hlat, hlng, hstatus, htime⟩
    have hpoint := pointFields_eq_some_iff.2 ⟨holds_number_iff.1 hlat, holds_number_iff.1 hlng⟩
    simp [positionPayload, hpoint, optionally_text_iff.2 hstatus, time_iff.2 htime]

theorem statusPayload_eq_some_iff (wrap : String → Frame) :
    (required Json.text? "status" ms).map wrap = some f ↔
      ∃ text, f = wrap text ∧ Holds .text (lookup "status" ms) text := by
  simp only [Option.map_eq_some_iff, required_text_iff]
  constructor
  · rintro ⟨text, htext, rfl⟩
    exact ⟨text, rfl, htext⟩
  · rintro ⟨text, rfl, htext⟩
    exact ⟨text, htext, rfl⟩

theorem errorPayload_eq_some_iff :
    errorPayload ms = some f ↔ ∃ r, f = .error r ∧
      List.Forall₂ (Given ms) (fields "error") (contents (.error r)) := by
  simp only [fields, contents, List.forall₂_cons, List.Forall₂.nil, Given, true_and, and_true]
  constructor
  · intro h
    obtain ⟨error, herror, h⟩ := Option.bind_eq_some_iff.1 h
    obtain ⟨message, hmessage, h⟩ := Option.bind_eq_some_iff.1 h
    obtain ⟨code, hcode, h⟩ := Option.bind_eq_some_iff.1 h
    obtain rfl := Option.some.inj h
    exact ⟨_, rfl, optionally_text_iff.1 herror, optionally_text_iff.1 hmessage,
      optionally_code_iff.1 hcode⟩
  · rintro ⟨r, rfl, herror, hmessage, hcode⟩
    simp [errorPayload, optionally_text_iff.2 herror, optionally_text_iff.2 hmessage,
      optionally_code_iff.2 hcode]

theorem routePayload_eq_some_iff :
    routePayload ms = some f ↔ ∃ r, f = .route r ∧
      List.Forall₂ (Given ms) (fields "route") (contents (.route r)) := by
  simp only [fields, contents, List.forall₂_cons, List.Forall₂.nil, Given, true_and, and_true]
  constructor
  · intro h
    obtain ⟨points, hpoints, h⟩ := Option.bind_eq_some_iff.1 h
    obtain ⟨distance, hdistance, h⟩ := Option.bind_eq_some_iff.1 h
    obtain ⟨duration, hduration, h⟩ := Option.bind_eq_some_iff.1 h
    obtain rfl := Option.some.inj h
    exact ⟨_, rfl, defaulting_points_iff.1 hpoints, optionally_number_iff.1 hdistance,
      optionally_number_iff.1 hduration⟩
  · rintro ⟨r, rfl, hpoints, hdistance, hduration⟩
    simp [routePayload, defaulting_points_iff.2 hpoints, optionally_number_iff.2 hdistance,
      optionally_number_iff.2 hduration]

theorem initPayload_eq_some_iff :
    initPayload ms = some f ↔ ∃ i, f = .init i ∧
      List.Forall₂ (Given ms) (fields "init") (contents (.init i)) := by
  simp only [fields, contents, List.forall₂_cons, List.Forall₂.nil, Given, true_and, and_true]
  constructor
  · intro h
    obtain ⟨destination, hdestination, h⟩ := Option.bind_eq_some_iff.1 h
    obtain ⟨status, hstatus, h⟩ := Option.bind_eq_some_iff.1 h
    obtain rfl := Option.some.inj h
    exact ⟨_, rfl, optionally_place_iff.1 hdestination, optionally_text_iff.1 hstatus⟩
  · rintro ⟨i, rfl, hdestination, hstatus⟩
    simp [initPayload, optionally_place_iff.2 hdestination, optionally_text_iff.2 hstatus]

theorem tickPayload_eq_some_iff :
    tickPayload ms = some f ↔ ∃ t, f = .tick t ∧
      List.Forall₂ (Given ms) (fields "tick") (contents (.tick t)) := by
  simp only [fields, contents, List.forall₂_cons, List.Forall₂.nil, Given, true_and, and_true]
  constructor
  · intro h
    obtain ⟨point, hpoint, h⟩ := Option.bind_eq_some_iff.1 h
    obtain ⟨status, hstatus, h⟩ := Option.bind_eq_some_iff.1 h
    obtain ⟨progress, hprogress, h⟩ := Option.bind_eq_some_iff.1 h
    obtain rfl := Option.some.inj h
    obtain ⟨hlat, hlng⟩ := pointFields_eq_some_iff.1 hpoint
    exact ⟨_, rfl, holds_number_iff.2 hlat, holds_number_iff.2 hlng,
      optionally_text_iff.1 hstatus, optionally_number_iff.1 hprogress⟩
  · rintro ⟨t, rfl, hlat, hlng, hstatus, hprogress⟩
    have hpoint := pointFields_eq_some_iff.2 ⟨holds_number_iff.1 hlat, holds_number_iff.1 hlng⟩
    simp [tickPayload, hpoint, optionally_text_iff.2 hstatus, optionally_number_iff.2 hprogress]

theorem completePayload_eq_some_iff :
    completePayload ms = some f ↔ ∃ c, f = .complete c ∧
      List.Forall₂ (Given ms) (fields "complete") (contents (.complete c)) := by
  simp only [fields, contents, List.forall₂_cons, List.Forall₂.nil, Given, true_and, and_true]
  constructor
  · intro h
    obtain ⟨lat, hlat, h⟩ := Option.bind_eq_some_iff.1 h
    obtain ⟨lng, hlng, h⟩ := Option.bind_eq_some_iff.1 h
    obtain ⟨status, hstatus, h⟩ := Option.bind_eq_some_iff.1 h
    obtain rfl := Option.some.inj h
    exact ⟨_, rfl, optionally_number_iff.1 hlat, optionally_number_iff.1 hlng,
      optionally_text_iff.1 hstatus⟩
  · rintro ⟨c, rfl, hlat, hlng, hstatus⟩
    simp [completePayload, optionally_number_iff.2 hlat, optionally_number_iff.2 hlng,
      optionally_text_iff.2 hstatus]

/-! Frames -/

theorem fields_unknown (h : kind ∉ knownKinds) : fields kind = [] := by
  simp only [knownKinds, List.mem_cons, List.not_mem_nil, or_false, not_or] at h
  unfold fields
  split <;> simp_all

theorem ofPayload_eq_some_iff : ofPayload? kind ms = some f ↔ Describes kind ms f := by
  constructor
  · intro h
    unfold ofPayload? at h
    split at h
    · obtain ⟨u, rfl, hu⟩ := positionPayload_eq_some_iff.1 h
      exact ⟨rfl, by simp, hu⟩
    · obtain ⟨text, rfl, htext⟩ := (statusPayload_eq_some_iff _).1 h
      exact ⟨rfl, by simp, .cons ⟨rfl, htext⟩ .nil⟩
    · obtain ⟨text, rfl, htext⟩ := (statusPayload_eq_some_iff _).1 h
      exact ⟨rfl, by simp, .cons ⟨rfl, htext⟩ .nil⟩
    · obtain ⟨r, rfl, hr⟩ := errorPayload_eq_some_iff.1 h
      exact ⟨rfl, by simp, hr⟩
    · obtain rfl := Option.some.inj h
      exact ⟨rfl, by simp, .nil⟩
    · obtain rfl := Option.some.inj h
      exact ⟨rfl, by simp, .nil⟩
    · obtain ⟨r, rfl, hr⟩ := routePayload_eq_some_iff.1 h
      exact ⟨rfl, by simp, hr⟩
    · obtain ⟨i, rfl, hi⟩ := initPayload_eq_some_iff.1 h
      exact ⟨rfl, by simp, hi⟩
    · obtain ⟨t, rfl, ht⟩ := tickPayload_eq_some_iff.1 h
      exact ⟨rfl, by simp, ht⟩
    · obtain ⟨c, rfl, hc⟩ := completePayload_eq_some_iff.1 h
      exact ⟨rfl, by simp, hc⟩
    · obtain rfl := Option.some.inj h
      have hunknown : kind ∉ knownKinds := by simp_all [knownKinds]
      refine ⟨rfl, ?_, ?_⟩
      · rintro _ ⟨⟩
        exact hunknown
      · rw [fields_unknown hunknown]
        exact .nil
  · rintro ⟨rfl, hunknown, hcontents⟩
    cases f with
    | position u => exact positionPayload_eq_some_iff.2 ⟨u, rfl, hcontents⟩
    | status text =>
        obtain ⟨⟨-, htext⟩, -⟩ := List.forall₂_cons.1 hcontents
        exact (statusPayload_eq_some_iff _).2 ⟨text, rfl, htext⟩
    | statusUpdate text =>
        obtain ⟨⟨-, htext⟩, -⟩ := List.forall₂_cons.1 hcontents
        exact (statusPayload_eq_some_iff _).2 ⟨text, rfl, htext⟩
    | error r => exact errorPayload_eq_some_iff.2 ⟨r, rfl, hcontents⟩
    | hello => rfl
    | probeAck => rfl
    | route r => exact routePayload_eq_some_iff.2 ⟨r, rfl, hcontents⟩
    | init i => exact initPayload_eq_some_iff.2 ⟨i, rfl, hcontents⟩
    | tick t => exact tickPayload_eq_some_iff.2 ⟨t, rfl, hcontents⟩
    | complete c => exact completePayload_eq_some_iff.2 ⟨c, rfl, hcontents⟩
    | unknown kind => exact ofPayload_unknown (hunknown kind rfl)

theorem Describes.admits (h : Describes kind ms f) :
    ∀ field ∈ fields kind, field.2.Admits (lookup field.1 ms) := by
  have hcontents := h.contents
  generalize fields kind = l at hcontents
  generalize f.contents = cs at hcontents
  induction hcontents with
  | nil => simp
  | @cons field content l cs hgiven _ ih =>
      obtain ⟨name, shape⟩ := field
      obtain ⟨_, value⟩ := content
      obtain ⟨rfl, hholds⟩ := hgiven
      rintro field (_ | ⟨_, hfield⟩)
      · exact ⟨value, hholds⟩
      · exact ih field hfield

theorem exists_describes (h : ∀ field ∈ fields kind, field.2.Admits (lookup field.1 ms)) :
    ∃ f, Describes kind ms f := by
  by_cases hkind : kind ∈ knownKinds
  · simp only [knownKinds, List.mem_cons, List.not_mem_nil, or_false] at hkind
    rcases hkind with rfl | rfl | rfl | rfl | rfl | rfl | rfl | rfl | rfl | rfl
    all_goals simp only [fields, List.forall_mem_cons] at h
    · obtain ⟨⟨lat, hlat⟩, ⟨lng, hlng⟩, ⟨status, hstatus⟩, ⟨time, htime⟩, -⟩ := h
      exact ⟨.position ⟨⟨lat, lng⟩, status, time⟩, rfl, by simp, .cons ⟨rfl, hlat⟩ <|
        .cons ⟨rfl, hlng⟩ <| .cons ⟨rfl, hstatus⟩ <| .cons ⟨rfl, htime⟩ .nil⟩
    · obtain ⟨⟨text, htext⟩, -⟩ := h
      exact ⟨.status text, rfl, by simp, .cons ⟨rfl, htext⟩ .nil⟩
    · obtain ⟨⟨text, htext⟩, -⟩ := h
      exact ⟨.statusUpdate text, rfl, by simp, .cons ⟨rfl, htext⟩ .nil⟩
    · obtain ⟨⟨error, herror⟩, ⟨message, hmessage⟩, ⟨code, hcode⟩, -⟩ := h
      exact ⟨.error ⟨error, message, code⟩, rfl, by simp, .cons ⟨rfl, herror⟩ <|
        .cons ⟨rfl, hmessage⟩ <| .cons ⟨rfl, hcode⟩ .nil⟩
    · exact ⟨.hello, rfl, by simp, .nil⟩
    · exact ⟨.probeAck, rfl, by simp, .nil⟩
    · obtain ⟨⟨points, hpoints⟩, ⟨distance, hdistance⟩, ⟨duration, hduration⟩, -⟩ := h
      exact ⟨.route ⟨points, distance, duration⟩, rfl, by simp, .cons ⟨rfl, hpoints⟩ <|
        .cons ⟨rfl, hdistance⟩ <| .cons ⟨rfl, hduration⟩ .nil⟩
    · obtain ⟨⟨destination, hdestination⟩, ⟨status, hstatus⟩, -⟩ := h
      exact ⟨.init ⟨destination, status⟩, rfl, by simp, .cons ⟨rfl, hdestination⟩ <|
        .cons ⟨rfl, hstatus⟩ .nil⟩
    · obtain ⟨⟨lat, hlat⟩, ⟨lng, hlng⟩, ⟨status, hstatus⟩, ⟨progress, hprogress⟩, -⟩ := h
      exact ⟨.tick ⟨⟨lat, lng⟩, status, progress⟩, rfl, by simp, .cons ⟨rfl, hlat⟩ <|
        .cons ⟨rfl, hlng⟩ <| .cons ⟨rfl, hstatus⟩ <| .cons ⟨rfl, hprogress⟩ .nil⟩
    · obtain ⟨⟨lat, hlat⟩, ⟨lng, hlng⟩, ⟨status, hstatus⟩, -⟩ := h
      exact ⟨.complete ⟨lat, lng, status⟩, rfl, by simp, .cons ⟨rfl, hlat⟩ <|
        .cons ⟨rfl, hlng⟩ <| .cons ⟨rfl, hstatus⟩ .nil⟩
  · exact ⟨.unknown kind, ofPayload_eq_some_iff.1 (ofPayload_unknown hkind)⟩

theorem exists_describes_iff :
    (∃ f, Describes kind ms f) ↔ ∀ field ∈ fields kind, field.2.Admits (lookup field.1 ms) :=
  ⟨fun ⟨_, hf⟩ => hf.admits, exists_describes⟩

theorem Describes.congr (h : Describes kind ms f)
    (hother : ∀ field ∈ fields kind, lookup field.1 other = lookup field.1 ms) :
    Describes kind other f := by
  obtain ⟨hlength, hgiven⟩ := List.forall₂_iff_zip.1 h.contents
  refine ⟨h.kind_eq, h.unknown, List.forall₂_iff_zip.2 ⟨hlength, ?_⟩⟩
  intro field content hmem
  rw [Given, hother field (List.of_mem_zip hmem).1]
  exact hgiven hmem

/-! Objects with a type -/

section Typed

variable (htype : lookup "type" ms = some (.text kind))

include htype

theorem ofJson_eq_ok_iff : ofJson (.object ms) = .ok f ↔ Describes kind ms f := by
  rw [← ofPayload_eq_some_iff]
  simp only [ofJson, htype]
  cases ofPayload? kind ms <;> simp

theorem ofJson_eq_invalidPayload_iff :
    ofJson (.object ms) = .error (.invalidPayload kind) ↔ ∀ f, ¬ Describes kind ms f := by
  simp only [← ofPayload_eq_some_iff, ofJson, htype]
  cases ofPayload? kind ms <;> simp

end Typed

theorem ofJson_eq_notAnObject_iff :
    ofJson value = .error .notAnObject ↔ ∀ ms, value ≠ .object ms := by
  constructor
  · rintro h ms rfl
    simp only [ofJson] at h
    split at h
    · split at h <;> cases h
    · cases h
  · intro h
    cases value with
    | object ms => exact absurd rfl (h ms)
    | _ => rfl

theorem ofJson_eq_missingType_iff :
    ofJson value = .error .missingType ↔
      ∃ ms, value = .object ms ∧ ∀ kind, lookup "type" ms ≠ some (.text kind) := by
  constructor
  · intro h
    cases value with
    | object ms =>
        refine ⟨ms, rfl, fun kind htype => ?_⟩
        simp only [ofJson, htype] at h
        split at h <;> cases h
    | _ => cases h
  · rintro ⟨ms, rfl, htype⟩
    simp only [ofJson]

theorem ofJson_congr (htype : lookup "type" other = lookup "type" ms)
    (hfields : ∀ kind, lookup "type" ms = some (.text kind) →
      ∀ field ∈ fields kind, lookup field.1 other = lookup field.1 ms) :
    ofJson (.object other) = ofJson (.object ms) := by
  simp only [ofJson, htype]
  split
  · rename_i kind hkind
    have hpayload : ofPayload? kind other = ofPayload? kind ms := by
      ext f
      rw [ofPayload_eq_some_iff, ofPayload_eq_some_iff]
      constructor
      · intro h
        exact h.congr fun field hfield => (hfields kind hkind field hfield).symm
      · intro h
        exact h.congr (hfields kind hkind)
    rw [hpayload]
  · rfl

/-- A value is a frame exactly if it is an object with a text `type` and, for a known type, all of
its fields are given as the grammar admits; the frame then has this type and holds what they give.
A value that is no object, one without a text `type` and one with a field out of shape are told
apart, and members that are no fields of the type make no difference. -/
theorem ofJson_follows_the_grammar (value : Json) :
    (ofJson value = .error .notAnObject ↔ ∀ ms, value ≠ .object ms) ∧
      (ofJson value = .error .missingType ↔
        ∃ ms, value = .object ms ∧ ∀ kind, lookup "type" ms ≠ some (.text kind)) ∧
      (∀ ms kind, value = .object ms → lookup "type" ms = some (.text kind) →
        (∀ f, ofJson value = .ok f ↔ Describes kind ms f) ∧
        ((∃ f, ofJson value = .ok f) ↔
          ∀ field ∈ fields kind, field.2.Admits (lookup field.1 ms)) ∧
        (ofJson value = .error (.invalidPayload kind) ↔
          ¬ ∀ field ∈ fields kind, field.2.Admits (lookup field.1 ms)) ∧
        (kind ∉ knownKinds → ofJson value = .ok (.unknown kind)) ∧
        (kind = "hello" → ofJson value = .ok .hello) ∧
        (kind = "probe_ack" → ofJson value = .ok .probeAck)) ∧
      ∀ ms other, value = .object ms → lookup "type" other = lookup "type" ms →
        (∀ kind, lookup "type" ms = some (.text kind) →
          ∀ field ∈ fields kind, lookup field.1 other = lookup field.1 ms) →
        ofJson (.object other) = ofJson value := by
  refine ⟨ofJson_eq_notAnObject_iff, ofJson_eq_missingType_iff, ?_, ?_⟩
  · rintro ms kind rfl htype
    have hok (f : Frame) : ofJson (.object ms) = .ok f ↔ Describes kind ms f :=
      ofJson_eq_ok_iff htype
    refine ⟨hok, ?_, ?_, ?_, ?_, ?_⟩
    · simp only [hok]
      exact exists_describes_iff
    · rw [ofJson_eq_invalidPayload_iff htype, ← exists_describes_iff, not_exists]
    · intro hkind
      exact (hok _).2 (ofPayload_eq_some_iff.1 (ofPayload_unknown hkind))
    · rintro rfl
      exact (hok _).2 ⟨rfl, by simp, .nil⟩
    · rintro rfl
      exact (hok _).2 ⟨rfl, by simp, .nil⟩
  · rintro ms other rfl htype hfields
    exact ofJson_congr htype hfields

theorem ofJson_follows_the_grammar_tick :
    let ms := [("lat", .float 1.5), ("lng", .float (-2.5)), ("type", Json.text "tick")]
    let spare := [("lat", .float 1.5), ("lng", .float (-2.5)), ("note", .null),
      ("type", Json.text "tick")]
    ofJson (.object ms) = .ok (.tick { point := ⟨1.5, -2.5⟩ }) ∧
      ofJson (.object spare) = ofJson (.object ms) ∧
      ofJson (.object [("type", .text "tick")]) = .error (.invalidPayload "tick") := by
  intro ms spare
  obtain ⟨-, -, htyped, hcongr⟩ := ofJson_follows_the_grammar (.object ms)
  obtain ⟨-, -, hbare, -⟩ := ofJson_follows_the_grammar (.object [("type", .text "tick")])
  obtain ⟨hok, -⟩ := htyped ms "tick" rfl rfl
  obtain ⟨-, -, hinvalid, -⟩ := hbare _ "tick" rfl rfl
  refine ⟨(hok _).2 ⟨rfl, by simp, ?_⟩, ?_, hinvalid.2 ?_⟩
  · exact .cons ⟨rfl, .number (.float 1.5)⟩ <| .cons ⟨rfl, .number (.float (-2.5))⟩ <|
      .cons ⟨rfl, .noText (.inl rfl)⟩ <| .cons ⟨rfl, .noNumber (.inl rfl)⟩ .nil
  · refine hcongr ms spare rfl rfl ?_
    rintro _ ⟨⟩ field hfield
    simp only [fields, List.mem_cons, List.not_mem_nil, or_false] at hfield
    rcases hfield with rfl | rfl | rfl | rfl <;> rfl
  · intro h
    obtain ⟨_, hlat⟩ := h ("lat", .number) List.mem_cons_self
    obtain ⟨_, hnone, -⟩ := holds_number_iff.1 hlat
    cases hnone

end CourierTrack.Proofs.FrameGrammar
