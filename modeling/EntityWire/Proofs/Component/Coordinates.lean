import EntityWire.Proofs.Component.Domain
import EntityWire.Proofs.Component.Settles
import EntityWire.Proofs.Wire.Written

namespace EntityWire

open Wire

namespace Spatial

/-- What is wrong first with coordinates that are not proper: one that is not finite, in the order in
which they are listed; of finite ones the latitude, then the longitude, by the numbers that they
stand for. -/
inductive Coordinates.FirstFault (c : Coordinates) : CoordinateError → Prop
  | notFinite {before after : List Coordinate} {which : Coordinate}
      (ho : [.latitude, .longitude, .elevation, .heading] = before ++ which :: after)
      (hb : ∀ w ∈ before, (c.get w).isFinite = true) (hw : (c.get which).isFinite = false) :
      FirstFault c (.notFinite which)
  | latitude (hf : ∀ which, (c.get which).isFinite = true)
      (hlat : ¬(-90 ≤ c.latitude.value ∧ c.latitude.value ≤ 90)) :
      FirstFault c (.latitude c.latitude)
  | longitude (hf : ∀ which, (c.get which).isFinite = true)
      (hlat : -90 ≤ c.latitude.value ∧ c.latitude.value ≤ 90)
      (hlong : ¬(-180 ≤ c.longitude.value ∧ c.longitude.value ≤ 180)) :
      FirstFault c (.longitude c.longitude)

namespace Coordinates

variable {c : Coordinates} {e : CoordinateError} {s : Octets}

theorem notFinite?_eq_some_iff {which : Coordinate} : c.notFinite? = some which ↔
    (c.get which).isFinite = false ∧ ∃ before after,
      [Coordinate.latitude, .longitude, .elevation, .heading] = before ++ which :: after ∧
        ∀ w ∈ before, (c.get w).isFinite = true := by
  rw [notFinite?, List.find?_eq_some_iff_append]
  simp only [Bool.not_eq_true', Bool.not_not]

theorem fault?_of_firstFault (h : c.FirstFault e) : c.fault? = some e := by
  cases h with
  | notFinite ho hb hw => rw [fault?, notFinite?_eq_some_iff.2 ⟨hw, _, _, ho, hb⟩]
  | latitude hf hlat =>
    rw [← latitudeInRange_iff (hf .latitude), Bool.not_eq_true] at hlat
    rw [fault?, notFinite?_eq_none_iff.2 hf, hlat]
    rfl
  | longitude hf hlat hlong =>
    rw [← latitudeInRange_iff (hf .latitude)] at hlat
    rw [← longitudeInRange_iff (hf .longitude), Bool.not_eq_true] at hlong
    rw [fault?, notFinite?_eq_none_iff.2 hf, hlat, hlong]
    rfl

theorem firstFault_of_fault? (h : c.fault? = some e) : c.FirstFault e := by
  unfold fault? at h
  split at h
  · next hf =>
    obtain rfl := Option.some.inj h
    obtain ⟨hw, before, after, ho, hb⟩ := notFinite?_eq_some_iff.1 hf
    exact .notFinite ho hb hw
  next hf =>
  have finite := notFinite?_eq_none_iff.1 hf
  split at h
  · next hlat =>
    obtain rfl := Option.some.inj h
    rw [Bool.not_eq_true', ← Bool.not_eq_true, latitudeInRange_iff (finite .latitude)] at hlat
    exact .latitude finite hlat
  next hlat =>
  rw [Bool.not_eq_true', Bool.not_eq_false, latitudeInRange_iff (finite .latitude)] at hlat
  split at h
  · next hlong =>
    obtain rfl := Option.some.inj h
    rw [Bool.not_eq_true', ← Bool.not_eq_true, longitudeInRange_iff (finite .longitude)] at hlong
    exact .longitude finite hlat hlong
  · nomatch h

theorem ofCoordinates_error_iff : Origin.ofCoordinates c = .error e ↔ c.FirstFault e := by
  unfold Origin.ofCoordinates
  split
  · next fault h =>
    constructor
    · intro he
      exact Except.error.inj he ▸ firstFault_of_fault? h
    · intro he
      exact congrArg _ (Option.some.inj (h.symm.trans (fault?_of_firstFault he)))
  · next h => exact iff_of_false nofun fun he ↦ nomatch h.symm.trans (fault?_of_firstFault he)

theorem ofCoordinates_isOk_iff : (∃ o, Origin.ofCoordinates c = .ok o) ↔ c.Proper := by
  rw [← fault?_eq_none_iff]
  unfold Origin.ofCoordinates
  split
  · next fault h => exact iff_of_false nofun fun hn ↦ nomatch h.symm.trans hn
  · next h => exact iff_of_true ⟨_, rfl⟩ h

theorem coordinates_of_ofCoordinates {o : Origin} (h : Origin.ofCoordinates c = .ok o) :
    o.coordinates = c := by
  unfold Origin.ofCoordinates at h
  split at h
  · nomatch h
  · exact congrArg Origin.coordinates (Except.ok.inj h).symm

def payloadEntries (c : Coordinates) : List (Octets × Octets) :=
  [(writeText "surface", writeText c.surface.name),
    (writeText "latitude_deg", writeDouble c.latitude),
    (writeText "longitude_deg", writeDouble c.longitude),
    (writeText "elevation", writeDouble c.elevation),
    (writeText "heading_deg", writeDouble c.heading)]

def messageEntries (c : Coordinates) : List (Octets × Octets) :=
  [(writeText "surface_model", writeText (Message.SurfaceModel.ofSurface c.surface).wireName),
    (writeText "latitude", writeDouble c.latitude),
    (writeText "longitude", writeDouble c.longitude),
    (writeText "elevation", writeDouble c.elevation),
    (writeText "heading", writeDouble c.heading)]

theorem wellFormed_payloadEntries (c : Coordinates) :
    ∀ e ∈ c.payloadEntries, WellFormed .bounded (levelLimit - 1) e.2 := by
  have surface : WellFormed .bounded (levelLimit - 1) (writeText c.surface.name) := by
    cases c.surface <;> exact wellFormed_writeText (by decide) trivial
  simp only [payloadEntries, List.forall_mem_cons, List.not_mem_nil, false_imp_iff, implies_true,
    and_true]
  exact ⟨surface, wellFormed_writeDouble _, wellFormed_writeDouble _, wellFormed_writeDouble _,
    wellFormed_writeDouble _⟩

theorem wellFormed_messageEntries (c : Coordinates) :
    ∀ e ∈ c.messageEntries, WellFormed .bounded (levelLimit - 1) e.2 := by
  have surface : WellFormed .bounded (levelLimit - 1)
      (writeText (Message.SurfaceModel.ofSurface c.surface).wireName) := by
    cases c.surface <;> exact wellFormed_writeText (by decide) trivial
  simp only [messageEntries, List.forall_mem_cons, List.not_mem_nil, false_imp_iff, implies_true,
    and_true]
  exact ⟨surface, wellFormed_writeDouble _, wellFormed_writeDouble _, wellFormed_writeDouble _,
    wellFormed_writeDouble _⟩

theorem decode_payload (hs : Arranges c.payloadEntries s) : (Carriage.direct .origin).decode s =
    (Origin.ofCoordinates c).mapError fun e ↦
      .decode (.refused (.content (.rejected e.message))) := by
  have hreturns : Origin.fields.Returns (levelLimit - 1)
      (c.surface, c.latitude, c.longitude, c.elevation, c.heading, ()) :=
    ⟨Field.returns_required (returns_surface c.surface),
      Field.returns_required (Form.returns_double c.latitude),
      Field.returns_required (Form.returns_double c.longitude),
      Field.returns_required (Form.returns_double c.elevation),
      Field.returns_required (Form.returns_double c.heading), trivial⟩
  have hd : decode Origin s = ((Origin.ofCoordinates c).mapError fun e ↦
      Complaint.rejected e.message).mapError fun x ↦ .refused (.content x) :=
    Fields.outcome_arranged_checked resolve_origin (by decide) hreturns c.wellFormed_payloadEntries
      hs ..
  have hc : (Carriage.direct .origin).decode s = (decode Origin s).mapError .decode := rfl
  rw [hc, hd]
  cases Origin.ofCoordinates c <;> rfl

theorem decode_message (hs : Arranges c.messageEntries s) :
    Carriage.coordinatesMessage.decode s =
      (Origin.ofCoordinates c).mapError fun e ↦ .outOfDomain e.which.name e.message := by
  have hreturns : Message.Coordinates.fields.Returns (levelLimit - 1)
      (some (.ofSurface c.surface), some c.latitude, some c.longitude, some c.elevation,
        some c.heading, ()) := Message.returns_coordinates_fields ..
  have hd : decode Message.Coordinates s = .ok ⟨some (.ofSurface c.surface), some c.latitude,
      some c.longitude, some c.elevation, some c.heading⟩ :=
    Fields.outcome_arranged_via Message.resolve_coordinates (by decide) hreturns
      c.wellFormed_messageEntries hs ..
  have hc : Carriage.coordinatesMessage.decode s =
      ((decode Message.Coordinates s).mapError Message.MessageError.decode).bind fun m ↦
        m.complete.bind fun c ↦ (Origin.ofCoordinates c).mapError Message.Coordinates.outOfDomain :=
    rfl
  rw [hc, hd]
  dsimp only [Except.mapError, Except.bind, Message.Coordinates.complete, Option.getD_some]
  rw [Message.toSurface_ofSurface]
  rfl

/-- The ways to an origin from these coordinates. Made directly, as a payload or as a message, in
whichever order their entries come, all take the coordinates as they are, or all refuse them for the
same fault. -/
structure Validated (c : Coordinates) : Prop where
  accepted : (∃ o, Origin.ofCoordinates c = .ok o) ↔ c.Proper
  unchanged {o : Origin} (h : Origin.ofCoordinates c = .ok o) : o.coordinates = c
  refused (e : CoordinateError) : Origin.ofCoordinates c = .error e ↔ c.FirstFault e
  payload {s : Octets} (hs : Arranges c.payloadEntries s) : (Carriage.direct .origin).decode s =
    (Origin.ofCoordinates c).mapError fun e ↦
      .decode (.refused (.content (.rejected e.message)))
  message {s : Octets} (hs : Arranges c.messageEntries s) : Carriage.coordinatesMessage.decode s =
    (Origin.ofCoordinates c).mapError fun e ↦ .outOfDomain e.which.name e.message

theorem validated_alike (c : Coordinates) : c.Validated where
  accepted := ofCoordinates_isOk_iff
  unchanged := coordinates_of_ofCoordinates
  refused _ := ofCoordinates_error_iff
  payload := decode_payload
  message := decode_message

/-- On the Moon, beyond its pole, and at a longitude that is no number. -/
def strayed : Coordinates :=
  ⟨.moonScs, ⟨0x4056c00000000000⟩, ⟨0x7ff8000000000000⟩, .zero, .zero⟩

theorem strayed_is_refused_alike :
    Origin.ofCoordinates strayed = .error (.notFinite .longitude) ∧ ¬strayed.Proper ∧
      (Carriage.direct .origin).decode (writeMapping strayed.payloadEntries) =
        .error (.decode (.refused (.content (.rejected "`longitude` is not finite")))) ∧
      Carriage.coordinatesMessage.decode (writeMapping strayed.messageEntries) =
        .error (.outOfDomain "longitude" "`longitude` is not finite") := by
  have hv := validated_alike strayed
  have first : strayed.FirstFault (.notFinite .longitude) :=
    .notFinite rfl (List.forall_mem_singleton.2 rfl) rfl
  have he := (hv.refused _).2 first
  have hp : ¬strayed.Proper := fun h ↦ by
    obtain ⟨o, ho⟩ := hv.accepted.2 h
    cases he.symm.trans ho
  refine ⟨he, hp, ?_, ?_⟩
  · rw [hv.payload (arranges_writeMapping (by decide)), he]
    rfl
  · rw [hv.message (arranges_writeMapping (by decide)), he]
    rfl

end Coordinates

end Spatial

end EntityWire
