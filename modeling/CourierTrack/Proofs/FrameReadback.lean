import CourierTrack.Frame.Decode
import CourierTrack.Frame.Encode
import CourierTrack.Proofs.JsonValues
/-!
A frame reads back from its JSON form, and from its text if its floats do.
-/

namespace CourierTrack.Proofs.FrameReadback

open CourierTrack.Json
open CourierTrack.Proofs.JsonNumbers
open CourierTrack.Proofs.JsonReadback
open CourierTrack.Proofs.JsonValues

def pointFloats (p : Point) : List Float := [p.lat, p.lng]

def frameFloats : Frame → List Float
  | .position u => pointFloats u.point
  | .error r => r.code.toList.flatMap floats
  | .route r => r.points.flatMap pointFloats ++ r.distanceKm.toList ++ r.durationMin.toList
  | .init i => i.destination.toList.flatMap pointFloats
  | .tick t => pointFloats t.point ++ t.progress.toList
  | .complete c => c.lat.toList ++ c.lng.toList
  | _ => []

/-- The types that are known. -/
def knownKinds : List String :=
  ["position_update", "status", "status_update", "error", "hello", "probe_ack", "route", "init",
    "tick", "complete"]

/-- Whether a frame can be told from its JSON form: all floats are finite, an error has a code that
is not `null` and leaves room for the container around it, and a type is unknown only if it is. -/
structure Sendable (f : Frame) : Prop where
  finite : ∀ x ∈ frameFloats f, IsFinite x
  code : ∀ report code, f = .error report → report.code = some code →
    code ≠ .null ∧ Orderly (maxDepth - 1) code
  kind : ∀ kind, f = .unknown kind → kind ∉ knownKinds

variable {f : Frame} {ms front : List (String × Json)} {name other : String} {x : Float} {p : Point}

theorem Sendable.of_finite (hfinite : ∀ x ∈ frameFloats f, IsFinite x)
    (herror : ∀ r, f ≠ .error r) (hunknown : ∀ kind, f ≠ .unknown kind) : Sendable f :=
  ⟨hfinite, fun r _ hr _ => absurd hr (herror r), fun kind hkind => absurd hkind (hunknown kind)⟩

theorem finite_point (hlat : IsFinite p.lat) (hlng : IsFinite p.lng) :
    ∀ x ∈ pointFloats p, IsFinite x := by
  simp only [pointFloats, List.mem_cons, List.not_mem_nil, or_false]
  rintro x (rfl | rfl)
  · exact hlat
  · exact hlng

/-! Reading what was written -/

/-- The members of the JSON form of a frame. -/
def sent (f : Frame) : List (String × Json) :=
  (f.payload ++ [("type", Json.text f.kind)]).foldl (fun sorted m => Json.insert m.1 m.2 sorted) []

theorem toJson_eq (f : Frame) : f.toJson = .object (sent f) := rfl

theorem lookup_type (f : Frame) : lookup "type" (sent f) = some (.text f.kind) := by
  simp [sent, List.foldl_append]

@[simp] theorem lookup_optional (value : Option Json) :
    lookup other
        ((Frame.optional name value).foldl (fun sorted m => Json.insert m.1 m.2 sorted) front) =
      if other = name then value.or (lookup other front) else lookup other front := by
  cases value with
  | none => simp [Frame.optional]
  | some value => simp [Frame.optional]

theorem optionally_of_lookup {α : Type} {read : Json → Option α} (write : α → Json)
    {value : Option α} (hread : ∀ a ∈ value, read (write a) = some a ∧ write a ≠ .null)
    (h : lookup name ms = value.map write) : Frame.optionally read name ms = some value := by
  cases value with
  | none =>
      rw [Frame.optionally, h]
      rfl
  | some a =>
      obtain ⟨ha, hnull⟩ := hread a rfl
      rw [Frame.optionally, h]
      simp [ha]

theorem optionally_text {value : Option String} (h : lookup name ms = value.map .text) :
    Frame.optionally Json.text? name ms = some value :=
  optionally_of_lookup .text (fun _ _ => ⟨rfl, by simp⟩) h

theorem ofFloat_of_isFinite (h : IsFinite x) : Json.ofFloat x = .float x := if_pos h

theorem optionally_number {value : Option Float} (hfinite : ∀ x ∈ value, IsFinite x)
    (h : lookup name ms = value.map .ofFloat) :
    Frame.optionally Json.number? name ms = some value := by
  refine optionally_of_lookup .ofFloat ?_ h
  intro x hx
  rw [ofFloat_of_isFinite (hfinite x hx)]
  exact ⟨rfl, by simp⟩

theorem optionally_nullable {value : Option Float} (hfinite : ∀ x ∈ value, IsFinite x)
    (h : lookup name ms = some ((value.map .ofFloat).getD .null)) :
    Frame.optionally Json.number? name ms = some value := by
  cases value with
  | none =>
      rw [Frame.optionally, h]
      rfl
  | some x => exact optionally_number hfinite h

theorem pointFields_of_lookup (hfinite : ∀ x ∈ pointFloats p, IsFinite x)
    (hlat : lookup "lat" ms = some (.ofFloat p.lat))
    (hlng : lookup "lng" ms = some (.ofFloat p.lng)) : Frame.pointFields ms = some p := by
  rw [ofFloat_of_isFinite (hfinite _ (by simp [pointFloats]))] at hlat hlng
  simp [Frame.pointFields, Frame.required, hlat, hlng, Json.number?]

theorem place_toObject (hfinite : ∀ x ∈ pointFloats p, IsFinite x) :
    Frame.place? p.toObject = some p := by
  apply pointFields_of_lookup hfinite
  · simp
  · simp

theorem points_toJson {points : List Point}
    (hfinite : ∀ x ∈ points.flatMap pointFloats, IsFinite x) :
    Json.points? (.array (points.map Point.toJson)) = some points := by
  induction points with
  | nil => rfl
  | cons p points ih =>
      have hlat := ofFloat_of_isFinite (hfinite p.lat (by simp [pointFloats]))
      have hlng := ofFloat_of_isFinite (hfinite p.lng (by simp [pointFloats]))
      have hrest := ih fun x hx => hfinite x (List.mem_append_right _ hx)
      simp only [Json.points?, List.map_cons, List.mapM_cons] at hrest ⊢
      simp [hrest, Point.toJson, Json.point?, hlat, hlng, Json.number?]

/-- No 64-bit count of milliseconds is cut off. -/
theorem clampMillis_toInt (n : Int64) : Timestamp.clampMillis n.toInt = n := by
  have hlower := Int64.le_toInt n
  have hupper := Int64.toInt_lt n
  rw [Timestamp.clampMillis, if_neg, if_neg, Int64.ofInt_toInt]
  · rw [show Int64.maxValue.toInt = 2 ^ 63 - 1 from rfl]
    omega
  · rw [show Int64.minValue.toInt = -2 ^ 63 from rfl]
    omega

@[simp] theorem ofJson_toJson (t : Timestamp) : Timestamp.ofJson? t.toJson = some t := by
  cases t with
  | millis n => simp [Timestamp.toJson, Timestamp.ofJson?, clampMillis_toInt]
  | text s => rfl

theorem positionPayload_sent {u : PositionUpdate}
    (hfinite : ∀ x ∈ frameFloats (.position u), IsFinite x) :
    Frame.positionPayload (sent (.position u)) = some (.position u) := by
  have hpoint : Frame.pointFields (sent (.position u)) = some u.point := by
    apply pointFields_of_lookup hfinite
    · simp [sent, Frame.payload]
    · simp [sent, Frame.payload]
  have hstatus : Frame.optionally Json.text? "status" (sent (.position u)) = some u.status := by
    apply optionally_text
    simp [sent, Frame.payload, lookup]
  have htime : (lookup "ts" (sent (.position u))).bind Timestamp.ofJson? = u.time := by
    have hlookup : lookup "ts" (sent (.position u)) = u.time.map Timestamp.toJson := by
      simp [sent, Frame.payload, lookup]
    rw [hlookup]
    cases u.time with
    | none => rfl
    | some t => exact ofJson_toJson t
  simp [Frame.positionPayload, hpoint, hstatus, htime]

theorem errorPayload_sent {r : ErrorReport} (hcode : r.code ≠ some .null) :
    Frame.errorPayload (sent (.error r)) = some (.error r) := by
  have herror : Frame.optionally Json.text? "error" (sent (.error r)) = some r.error := by
    apply optionally_text
    simp [sent, Frame.payload, lookup]
  have hmessage : Frame.optionally Json.text? "message" (sent (.error r)) = some r.message := by
    apply optionally_text
    simp [sent, Frame.payload, lookup]
  have hread : Frame.optionally some "code" (sent (.error r)) = some r.code := by
    refine optionally_of_lookup id ?_ ?_
    · -- A code that is `null` would read back as none.
      intro j hj
      refine ⟨rfl, ?_⟩
      rintro rfl
      exact hcode hj
    · simp [sent, Frame.payload, lookup]
  simp [Frame.errorPayload, herror, hmessage, hread]

theorem routePayload_sent {r : Route} (hfinite : ∀ x ∈ frameFloats (.route r), IsFinite x) :
    Frame.routePayload (sent (.route r)) = some (.route r) := by
  simp only [frameFloats, List.mem_append, Option.mem_toList] at hfinite
  have hpoints : Frame.defaulting Json.points? [] "coords" (sent (.route r)) = some r.points := by
    have hlookup : lookup "coords" (sent (.route r)) =
        some (.array (r.points.map Point.toJson)) := by
      simp [sent, Frame.payload, Frame.nullable]
    rw [Frame.defaulting, hlookup]
    exact points_toJson fun x hx => hfinite x (.inl (.inl hx))
  have hdistance : Frame.optionally Json.number? "distance_km" (sent (.route r)) =
      some r.distanceKm := by
    apply optionally_nullable fun x hx => hfinite x (.inl (.inr hx))
    simp [sent, Frame.payload, Frame.nullable]
  have hduration : Frame.optionally Json.number? "duration_min" (sent (.route r)) =
      some r.durationMin := by
    apply optionally_nullable fun x hx => hfinite x (.inr hx)
    simp [sent, Frame.payload, Frame.nullable]
  simp [Frame.routePayload, hpoints, hdistance, hduration]

theorem initPayload_sent {i : InitFrame} (hfinite : ∀ x ∈ frameFloats (.init i), IsFinite x) :
    Frame.initPayload (sent (.init i)) = some (.init i) := by
  have hdestination : Frame.optionally Frame.place? "destination" (sent (.init i)) =
      some i.destination := by
    refine optionally_of_lookup Point.toObject ?_ ?_
    · intro p hp
      refine ⟨place_toObject fun x hx => hfinite x ?_, by simp [Point.toObject, ofMembers]⟩
      simp only [frameFloats, List.mem_flatMap, Option.mem_toList]
      exact ⟨p, hp, hx⟩
    · simp [sent, Frame.payload, lookup]
  have hstatus : Frame.optionally Json.text? "status" (sent (.init i)) = some i.status := by
    apply optionally_text
    simp [sent, Frame.payload, lookup]
  simp [Frame.initPayload, hdestination, hstatus]

theorem tickPayload_sent {t : TickFrame} (hfinite : ∀ x ∈ frameFloats (.tick t), IsFinite x) :
    Frame.tickPayload (sent (.tick t)) = some (.tick t) := by
  simp only [frameFloats, List.mem_append, Option.mem_toList] at hfinite
  have hpoint : Frame.pointFields (sent (.tick t)) = some t.point := by
    apply pointFields_of_lookup fun x hx => hfinite x (.inl hx)
    · simp [sent, Frame.payload]
    · simp [sent, Frame.payload]
  have hstatus : Frame.optionally Json.text? "status" (sent (.tick t)) = some t.status := by
    apply optionally_text
    simp [sent, Frame.payload, lookup]
  have hprogress : Frame.optionally Json.number? "progress" (sent (.tick t)) =
      some t.progress := by
    apply optionally_number fun x hx => hfinite x (.inr hx)
    simp [sent, Frame.payload, lookup]
  simp [Frame.tickPayload, hpoint, hstatus, hprogress]

theorem completePayload_sent {c : CompleteFrame}
    (hfinite : ∀ x ∈ frameFloats (.complete c), IsFinite x) :
    Frame.completePayload (sent (.complete c)) = some (.complete c) := by
  simp only [frameFloats, List.mem_append, Option.mem_toList] at hfinite
  have hlat : Frame.optionally Json.number? "lat" (sent (.complete c)) = some c.lat := by
    apply optionally_number fun x hx => hfinite x (.inl hx)
    simp [sent, Frame.payload, lookup]
  have hlng : Frame.optionally Json.number? "lng" (sent (.complete c)) = some c.lng := by
    apply optionally_number fun x hx => hfinite x (.inr hx)
    simp [sent, Frame.payload, lookup]
  have hstatus : Frame.optionally Json.text? "status" (sent (.complete c)) = some c.status := by
    apply optionally_text
    simp [sent, Frame.payload, lookup]
  simp [Frame.completePayload, hlat, hlng, hstatus]

theorem ofPayload_unknown {kind : String} (h : kind ∉ knownKinds) :
    Frame.ofPayload? kind ms = some (.unknown kind) := by
  simp only [knownKinds, List.mem_cons, List.not_mem_nil, or_false, not_or] at h
  unfold Frame.ofPayload?
  split <;> simp_all

theorem ofPayload_sent (h : Sendable f) : Frame.ofPayload? f.kind (sent f) = some f := by
  cases f with
  | position u => exact positionPayload_sent h.finite
  | status text =>
      simp [Frame.ofPayload?, Frame.kind, Frame.required, sent, Frame.payload, Json.text?]
  | statusUpdate text =>
      simp [Frame.ofPayload?, Frame.kind, Frame.required, sent, Frame.payload, Json.text?]
  | error r => exact errorPayload_sent fun hnull => (h.code r .null rfl hnull).1 rfl
  | hello => rfl
  | probeAck => rfl
  | route r => exact routePayload_sent h.finite
  | init i => exact initPayload_sent h.finite
  | tick t => exact tickPayload_sent h.finite
  | complete c => exact completePayload_sent h.finite
  | unknown kind => exact ofPayload_unknown (h.kind kind rfl)

theorem Sendable.ofJson_toJson (h : Sendable f) : Frame.ofJson f.toJson = .ok f := by
  rw [toJson_eq]
  simp only [Frame.ofJson, lookup_type, ofPayload_sent h]

/-! The JSON form -/

section Kinds

variable {P : Float → Prop} {depth : Nat} {m : String × Json}

theorem admitted_ofFloat (h : P x) : Admitted P depth (.ofFloat x) := by
  unfold Json.ofFloat
  split
  · exact admitted_float h
  · exact admitted_null

theorem admitted_timestamp (t : Timestamp) : Admitted P depth t.toJson := by
  cases t with
  | millis n => exact admitted_integer _
  | text s => exact admitted_text s

theorem admitted_pointJson (h : ∀ x ∈ pointFloats p, P x) : Admitted P (depth + 1) p.toJson := by
  apply admitted_array
  simp only [List.mem_cons, List.not_mem_nil, or_false]
  rintro j (rfl | rfl)
  · exact admitted_ofFloat (h p.lat (by simp [pointFloats]))
  · exact admitted_ofFloat (h p.lng (by simp [pointFloats]))

theorem admitted_pointMembers (h : ∀ x ∈ pointFloats p, P x)
    (hm : m ∈ [("lat", Json.ofFloat p.lat), ("lng", Json.ofFloat p.lng)]) :
    Admitted P depth m.2 := by
  simp only [List.mem_cons, List.not_mem_nil, or_false] at hm
  rcases hm with rfl | rfl
  · exact admitted_ofFloat (h p.lat (by simp [pointFloats]))
  · exact admitted_ofFloat (h p.lng (by simp [pointFloats]))

theorem admitted_optional {value : Option Json} (h : ∀ j ∈ value, Admitted P depth j)
    (hm : m ∈ Frame.optional name value) : Admitted P depth m.2 := by
  cases value with
  | none => exact absurd hm List.not_mem_nil
  | some j =>
      obtain rfl := List.mem_singleton.1 hm
      exact h j rfl

theorem admitted_optional_text {value : Option String}
    (hm : m ∈ Frame.optional name (value.map .text)) : Admitted P depth m.2 := by
  refine admitted_optional ?_ hm
  intro j hj
  obtain ⟨s, -, rfl⟩ := Option.map_eq_some_iff.1 hj
  exact admitted_text s

theorem admitted_optional_number {value : Option Float} (h : ∀ x ∈ value, P x)
    (hm : m ∈ Frame.optional name (value.map .ofFloat)) : Admitted P depth m.2 := by
  refine admitted_optional ?_ hm
  intro j hj
  obtain ⟨x, hx, rfl⟩ := Option.map_eq_some_iff.1 hj
  exact admitted_ofFloat (h x hx)

theorem admitted_nullable {value : Option Float} (h : ∀ x ∈ value, P x)
    (hm : m ∈ Frame.nullable name (value.map .ofFloat)) : Admitted P depth m.2 := by
  obtain rfl := List.mem_singleton.1 hm
  cases value with
  | none => exact admitted_null
  | some x => exact admitted_ofFloat (h x rfl)

theorem admitted_payload (h : Sendable f) (hall : ∀ x ∈ frameFloats f, P x) (hm : m ∈ f.payload) :
    Admitted P (maxDepth - 1) m.2 := by
  cases f with
  | position u =>
      rcases List.mem_append.1 hm with hm | hm
      · rcases List.mem_append.1 hm with hm | hm
        · exact admitted_pointMembers hall hm
        · exact admitted_optional_text hm
      · refine admitted_optional ?_ hm
        intro j hj
        obtain ⟨t, -, rfl⟩ := Option.map_eq_some_iff.1 hj
        exact admitted_timestamp t
  | status text =>
      obtain rfl := List.mem_singleton.1 hm
      exact admitted_text text
  | statusUpdate text =>
      obtain rfl := List.mem_singleton.1 hm
      exact admitted_text text
  | error r =>
      rcases List.mem_append.1 hm with hm | hm
      · rcases List.mem_append.1 hm with hm | hm
        · exact admitted_optional_text hm
        · exact admitted_optional_text hm
      · refine admitted_optional ?_ hm
        intro j hj
        refine ⟨(h.code r j rfl hj).2, ?_⟩
        intro x hx
        apply hall x
        simp only [frameFloats, List.mem_flatMap, Option.mem_toList]
        exact ⟨j, hj, hx⟩
  | hello => exact absurd hm List.not_mem_nil
  | probeAck => exact absurd hm List.not_mem_nil
  | route r =>
      simp only [frameFloats, List.mem_append, Option.mem_toList] at hall
      rcases List.mem_append.1 hm with hm | hm
      · rcases List.mem_append.1 hm with hm | hm
        · obtain rfl := List.mem_singleton.1 hm
          apply admitted_array
          intro j hj
          obtain ⟨p, hp, rfl⟩ := List.mem_map.1 hj
          apply admitted_pointJson
          intro x hx
          exact hall x (.inl (.inl (List.mem_flatMap.2 ⟨p, hp, hx⟩)))
        · exact admitted_nullable (fun x hx => hall x (.inl (.inr hx))) hm
      · exact admitted_nullable (fun x hx => hall x (.inr hx)) hm
  | init i =>
      rcases List.mem_append.1 hm with hm | hm
      · refine admitted_optional ?_ hm
        intro j hj
        obtain ⟨p, hp, rfl⟩ := Option.map_eq_some_iff.1 hj
        apply admitted_ofMembers
        intro m hm
        refine admitted_pointMembers (fun x hx => hall x ?_) hm
        simp only [frameFloats, List.mem_flatMap, Option.mem_toList]
        exact ⟨p, hp, hx⟩
      · exact admitted_optional_text hm
  | tick t =>
      simp only [frameFloats, List.mem_append, Option.mem_toList] at hall
      rcases List.mem_append.1 hm with hm | hm
      · rcases List.mem_append.1 hm with hm | hm
        · exact admitted_pointMembers (fun x hx => hall x (.inl hx)) hm
        · exact admitted_optional_text hm
      · exact admitted_optional_number (fun x hx => hall x (.inr hx)) hm
  | complete c =>
      simp only [frameFloats, List.mem_append, Option.mem_toList] at hall
      rcases List.mem_append.1 hm with hm | hm
      · rcases List.mem_append.1 hm with hm | hm
        · exact admitted_optional_number (fun x hx => hall x (.inl hx)) hm
        · exact admitted_optional_number (fun x hx => hall x (.inr hx)) hm
      · exact admitted_optional_text hm
  | unknown kind => exact absurd hm List.not_mem_nil

theorem admitted_toJson (h : Sendable f) (hall : ∀ x ∈ frameFloats f, P x) :
    Admitted P maxDepth f.toJson := by
  refine admitted_ofMembers ?_
  intro m hm
  rcases List.mem_append.1 hm with hm | hm
  · exact admitted_payload h hall hm
  · obtain rfl := List.mem_singleton.1 hm
    exact admitted_text _

end Kinds

theorem Sendable.decode_encode (h : Sendable f) (hrecover : ∀ x ∈ frameFloats f, Recovers x) :
    Frame.decode f.encode = .ok f := by
  have hread := parse_render (admitted_toJson h hrecover).readable
  rw [Frame.decode, Frame.encode, hread]
  exact h.ofJson_toJson

/-! Position frames -/

/-- Whether a point is in range and its coordinates read back from their texts. -/
structure Sound (p : Point) : Prop where
  valid : p.isValid = true
  lat : Recovers p.lat
  lng : Recovers p.lng

theorem isFinite_of_within {bound x : Float} (h : Point.within bound x = true) : IsFinite x := by
  simp only [Point.within, Bool.and_eq_true] at h
  exact h.1.1

theorem finite_of_isValid (h : p.isValid = true) : ∀ x ∈ pointFloats p, IsFinite x := by
  rw [Point.isValid, Bool.and_eq_true] at h
  exact finite_point (isFinite_of_within h.1) (isFinite_of_within h.2)

theorem decode_encode_position {u : PositionUpdate} (h : Sound u.point) :
    Frame.decode (Frame.position u).encode = .ok (.position u) := by
  have hsendable : Sendable (.position u) :=
    .of_finite (finite_of_isValid h.valid) (by simp) (by simp)
  apply hsendable.decode_encode
  simp only [frameFloats, pointFloats, List.mem_cons, List.not_mem_nil, or_false]
  rintro x (rfl | rfl)
  · exact h.lat
  · exact h.lng

end CourierTrack.Proofs.FrameReadback
