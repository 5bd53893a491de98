import CourierTrack.Proofs.FloatRange
import CourierTrack.Proofs.FrameReadback
/-!
Every frame that is decoded can be sent on: its floats are finite, also those that were written as
whole numbers, and the code of an error came out of a container. So it decodes to itself again.
-/

namespace CourierTrack.Proofs.DecodedFrames

open CourierTrack.Json
open CourierTrack.Proofs.JsonNumbers
open CourierTrack.Proofs.JsonValues
open CourierTrack.Proofs.FrameReadback

variable {f : Frame} {ms : List (String × Json)} {name : String} {p : Point}

/-! Fields -/

theorem mem_of_lookup {j : Json} (h : lookup name ms = some j) : (name, j) ∈ ms := by
  induction ms with
  | nil => cases h
  | cons m ms ih =>
      obtain ⟨k, v⟩ := m
      unfold lookup at h
      split at h
      · rename_i heq
        obtain rfl := Option.some.inj h
        rw [heq]
        exact List.mem_cons_self
      · exact List.mem_cons_of_mem _ (ih h)

section Readers

variable {α : Type} {read : Json → Option α} {P : α → Prop} {j : Json} {a : α}

theorem finite_of_lookup (hms : ∀ x ∈ memberFloats ms, IsFinite x) (h : lookup name ms = some j) :
    ∀ x ∈ floats j, IsFinite x := by
  intro x hx
  exact hms x (mem_memberFloats.2 ⟨_, mem_of_lookup h, hx⟩)

theorem required_all (hread : ∀ j a, (∀ x ∈ floats j, IsFinite x) → read j = some a → P a)
    (hms : ∀ x ∈ memberFloats ms, IsFinite x) (h : Frame.required read name ms = some a) : P a := by
  obtain ⟨j, hj, ha⟩ := Option.bind_eq_some_iff.1 h
  exact hread j a (finite_of_lookup hms hj) ha

theorem optionally_all (hread : ∀ j a, (∀ x ∈ floats j, IsFinite x) → read j = some a → P a)
    (hms : ∀ x ∈ memberFloats ms, IsFinite x) {value : Option α}
    (h : Frame.optionally read name ms = some value) : ∀ a ∈ value, P a := by
  unfold Frame.optionally at h
  split at h
  · obtain rfl := Option.some.inj h
    simp
  · obtain rfl := Option.some.inj h
    simp
  · rename_i hj
    obtain ⟨a, ha, rfl⟩ := Option.map_eq_some_iff.1 h
    rintro _ ⟨⟩
    exact hread _ a (finite_of_lookup hms hj) ha

theorem finite_number (j : Json) (x : Float) (hj : ∀ x ∈ floats j, IsFinite x)
    (h : j.number? = some x) : IsFinite x := by
  cases j with
  | integer n =>
      obtain rfl := Option.some.inj h
      exact FloatRange.isFinite_ofInt n
  | float y =>
      obtain rfl := Option.some.inj h
      exact hj y List.mem_cons_self
  | _ => cases h

theorem finite_pointFields (hms : ∀ x ∈ memberFloats ms, IsFinite x)
    (h : Frame.pointFields ms = some p) : ∀ x ∈ pointFloats p, IsFinite x := by
  obtain ⟨lat, hlat, h⟩ := Option.bind_eq_some_iff.1 h
  obtain ⟨lng, hlng, h⟩ := Option.bind_eq_some_iff.1 h
  obtain rfl := Option.some.inj h
  exact finite_point (required_all finite_number hms hlat) (required_all finite_number hms hlng)

theorem finite_pair (j : Json) (p : Point) (hj : ∀ x ∈ floats j, IsFinite x)
    (h : j.point? = some p) : ∀ x ∈ pointFloats p, IsFinite x := by
  unfold Json.point? at h
  split at h
  · rename_i lat lng
    obtain ⟨x, hx, h⟩ := Option.bind_eq_some_iff.1 h
    obtain ⟨y, hy, h⟩ := Option.bind_eq_some_iff.1 h
    obtain rfl := Option.some.inj h
    apply finite_point
    · apply finite_number lat x _ hx
      intro z hz
      exact hj z (mem_itemFloats.2 ⟨lat, List.mem_cons_self, hz⟩)
    · apply finite_number lng y _ hy
      intro z hz
      exact hj z (mem_itemFloats.2 ⟨lng, by simp, hz⟩)
  · cases h

theorem finite_place (j : Json) (p : Point) (hj : ∀ x ∈ floats j, IsFinite x)
    (h : Frame.place? j = some p) : ∀ x ∈ pointFloats p, IsFinite x := by
  unfold Frame.place? at h
  split at h
  · exact finite_pointFields hj h
  · exact finite_pair _ p hj h

theorem finite_points (j : Json) (points : List Point) (hj : ∀ x ∈ floats j, IsFinite x)
    (h : j.points? = some points) : ∀ x ∈ points.flatMap pointFloats, IsFinite x := by
  unfold Json.points? at h
  split at h
  · rename_i items
    induction items generalizing points with
    | nil =>
        obtain rfl := Option.some.inj h
        simp
    | cons item items ih =>
        rw [List.mapM_cons] at h
        obtain ⟨p, hp, h⟩ := Option.bind_eq_some_iff.1 h
        obtain ⟨more, hmore, h⟩ := Option.bind_eq_some_iff.1 h
        obtain rfl := Option.some.inj h
        intro x hx
        rcases List.mem_append.1 hx with hx | hx
        · refine finite_pair item p ?_ hp x hx
          intro y hy
          exact hj y (List.mem_append_left _ hy)
        · refine ih more ?_ hmore x hx
          intro y hy
          exact hj y (List.mem_append_right _ hy)
  · cases h

end Readers

/-! Frames -/

theorem sendable_position (hms : ∀ x ∈ memberFloats ms, IsFinite x)
    (h : Frame.positionPayload ms = some f) : Sendable f := by
  obtain ⟨point, hpoint, h⟩ := Option.bind_eq_some_iff.1 h
  obtain ⟨status, -, h⟩ := Option.bind_eq_some_iff.1 h
  obtain rfl := Option.some.inj h
  exact .of_finite (finite_pointFields hms hpoint) (by simp) (by simp)

theorem sendable_error (hms : Admitted IsFinite maxDepth (.object ms))
    (h : Frame.errorPayload ms = some f) : Sendable f := by
  obtain ⟨error, -, h⟩ := Option.bind_eq_some_iff.1 h
  obtain ⟨message, -, h⟩ := Option.bind_eq_some_iff.1 h
  obtain ⟨code, hcode, h⟩ := Option.bind_eq_some_iff.1 h
  obtain rfl := Option.some.inj h
  -- The code stood inside the object, which is one of the containers that the reader counts.
  have hadmitted : ∀ j ∈ code, j ≠ .null ∧ Admitted IsFinite (maxDepth - 1) j := by
    unfold Frame.optionally at hcode
    split at hcode
    · obtain rfl := Option.some.inj hcode
      simp
    · obtain rfl := Option.some.inj hcode
      simp
    · rename_i hnull hj
      obtain rfl := Option.some.inj hcode
      rintro _ ⟨⟩
      exact ⟨hnull, hms.of_mem_object (mem_of_lookup hj)⟩
  constructor
  · intro x hx
    simp only [frameFloats, List.mem_flatMap, Option.mem_toList] at hx
    obtain ⟨j, hj, hx⟩ := hx
    exact (hadmitted j hj).2.all x hx
  · rintro _ j ⟨⟩ hj
    exact ⟨(hadmitted j hj).1, (hadmitted j hj).2.orderly⟩
  · simp

theorem sendable_route (hms : ∀ x ∈ memberFloats ms, IsFinite x)
    (h : Frame.routePayload ms = some f) : Sendable f := by
  obtain ⟨points, hpoints, h⟩ := Option.bind_eq_some_iff.1 h
  obtain ⟨distance, hdistance, h⟩ := Option.bind_eq_some_iff.1 h
  obtain ⟨duration, hduration, h⟩ := Option.bind_eq_some_iff.1 h
  obtain rfl := Option.some.inj h
  have hroute : ∀ x ∈ points.flatMap pointFloats, IsFinite x := by
    unfold Frame.defaulting at hpoints
    split at hpoints
    · obtain rfl := Option.some.inj hpoints
      simp
    · rename_i hj
      exact finite_points _ points (finite_of_lookup hms hj) hpoints
  refine .of_finite ?_ (by simp) (by simp)
  simp only [frameFloats, List.mem_append, Option.mem_toList]
  rintro x ((hx | hx) | hx)
  · exact hroute x hx
  · exact optionally_all finite_number hms hdistance x hx
  · exact optionally_all finite_number hms hduration x hx

theorem sendable_init (hms : ∀ x ∈ memberFloats ms, IsFinite x)
    (h : Frame.initPayload ms = some f) : Sendable f := by
  obtain ⟨destination, hdestination, h⟩ := Option.bind_eq_some_iff.1 h
  obtain ⟨status, -, h⟩ := Option.bind_eq_some_iff.1 h
  obtain rfl := Option.some.inj h
  refine .of_finite ?_ (by simp) (by simp)
  intro x hx
  simp only [frameFloats, List.mem_flatMap, Option.mem_toList] at hx
  obtain ⟨p, hp, hx⟩ := hx
  exact optionally_all finite_place hms hdestination p hp x hx

theorem sendable_tick (hms : ∀ x ∈ memberFloats ms, IsFinite x)
    (h : Frame.tickPayload ms = some f) : Sendable f := by
  obtain ⟨point, hpoint, h⟩ := Option.bind_eq_some_iff.1 h
  obtain ⟨status, -, h⟩ := Option.bind_eq_some_iff.1 h
  obtain ⟨progress, hprogress, h⟩ := Option.bind_eq_some_iff.1 h
  obtain rfl := Option.some.inj h
  refine .of_finite ?_ (by simp) (by simp)
  simp only [frameFloats, List.mem_append, Option.mem_toList]
  rintro x (hx | hx)
  · exact finite_pointFields hms hpoint x hx
  · exact optionally_all finite_number hms hprogress x hx

theorem sendable_complete (hms : ∀ x ∈ memberFloats ms, IsFinite x)
    (h : Frame.completePayload ms = some f) : Sendable f := by
  obtain ⟨lat, hlat, h⟩ := Option.bind_eq_some_iff.1 h
  obtain ⟨lng, hlng, h⟩ := Option.bind_eq_some_iff.1 h
  obtain ⟨status, -, h⟩ := Option.bind_eq_some_iff.1 h
  obtain rfl := Option.some.inj h
  refine .of_finite ?_ (by simp) (by simp)
  simp only [frameFloats, List.mem_append, Option.mem_toList]
  rintro x (hx | hx)
  · exact optionally_all finite_number hms hlat x hx
  · exact optionally_all finite_number hms hlng x hx

theorem sendable_ofPayload {kind : String} (hms : Admitted IsFinite maxDepth (.object ms))
    (h : Frame.ofPayload? kind ms = some f) : Sendable f := by
  have hplain {g : Frame} (hfloats : frameFloats g = []) (herror : ∀ r, g ≠ .error r)
      (hunknown : ∀ kind, g ≠ .unknown kind) (hg : g = f) : Sendable f := by
    subst hg
    refine .of_finite ?_ herror hunknown
    rw [hfloats]
    simp
  unfold Frame.ofPayload? at h
  split at h
  · exact sendable_position hms.all h
  · obtain ⟨text, -, heq⟩ := Option.map_eq_some_iff.1 h
    exact hplain rfl (by simp) (by simp) heq
  · obtain ⟨text, -, heq⟩ := Option.map_eq_some_iff.1 h
    exact hplain rfl (by simp) (by simp) heq
  · exact sendable_error hms h
  · exact hplain rfl (by simp) (by simp) (Option.some.inj h)
  · exact hplain rfl (by simp) (by simp) (Option.some.inj h)
  · exact sendable_route hms.all h
  · exact sendable_init hms.all h
  · exact sendable_tick hms.all h
  · exact sendable_complete hms.all h
  · obtain rfl := Option.some.inj h
    refine ⟨by simp [frameFloats], by simp, ?_⟩
    rintro _ ⟨⟩
    simp_all [knownKinds]

theorem sendable_of_decode {text : String} (h : Frame.decode text = .ok f) : Sendable f := by
  unfold Frame.decode at h
  split at h
  · cases h
  · rename_i j hj
    have hadmitted := admitted_parse hj
    unfold Frame.ofJson at h
    split at h
    · split at h
      · split at h
        · rename_i hpayload
          obtain rfl := Except.ok.inj h
          exact sendable_ofPayload hadmitted hpayload
        · cases h
      · cases h
    · cases h

/-- A frame reads back from its JSON form, and from its text if its floats do; and every frame that
is decoded from a text is such a frame. -/
theorem decode_undoes_encode :
    (∀ f, Sendable f → Frame.ofJson f.toJson = .ok f ∧
      ((∀ x ∈ frameFloats f, Recovers x) → Frame.decode f.encode = .ok f)) ∧
    ∀ text f, Frame.decode text = .ok f → Sendable f ∧
      ((∀ x ∈ frameFloats f, Recovers x) → Frame.decode f.encode = .ok f) := by
  constructor
  · intro f h
    exact ⟨h.ofJson_toJson, h.decode_encode⟩
  · intro text f h
    have hsendable := sendable_of_decode h
    exact ⟨hsendable, hsendable.decode_encode⟩

theorem decode_undoes_encode_nested :
    let report : ErrorReport :=
      { message := some "late", code := some (.array [.float 1.5, .object [("at", .null)]]) }
    let tick : Frame := .tick { point := ⟨1.0, -2.5⟩ }
    Frame.decode (Frame.error report).encode = .ok (.error report) ∧
      Frame.decode tick.encode = .ok tick := by
  intro report tick
  have hreport : Sendable (.error report) := by
    refine ⟨?_, ?_, by simp⟩
    · rintro x hx
      obtain rfl := List.mem_singleton.1 hx
      rfl
    · rintro _ code ⟨⟩ ⟨⟩
      refine ⟨by simp, .array ?_⟩
      simp only [List.mem_cons, List.not_mem_nil, or_false]
      rintro j (rfl | rfl)
      · exact .float _
      · refine .object (List.pairwise_singleton _ _) ?_
        intro m hm
        obtain rfl := List.mem_singleton.1 hm
        exact .null
  have htick : Frame.decode "\x7b\"type\":\"tick\",\"lat\":1,\"lng\":-2.5\x7d" = .ok tick := rfl
  constructor
  · refine (decode_undoes_encode.1 (.error report) hreport).2 ?_
    intro x hx
    obtain rfl := List.mem_singleton.1 hx
    rfl
  · refine (decode_undoes_encode.2 _ tick htick).2 ?_
    simp only [tick, frameFloats, pointFloats, Option.toList_none, List.append_nil, List.mem_cons,
      List.not_mem_nil, or_false]
    rintro x (rfl | rfl)
    · rfl
    · rfl

end CourierTrack.Proofs.DecodedFrames
