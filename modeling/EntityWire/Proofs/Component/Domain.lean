import EntityWire.Proofs.Component.Carriage
import EntityWire.Proofs.Number.NotNaN
import EntityWire.Proofs.Number.Value
import EntityWire.Proofs.Wire.Length

namespace EntityWire

open Wire

namespace Spatial

structure Coordinates.Proper (c : Coordinates) : Prop where
  finite (which : Coordinate) : (c.get which).isFinite = true
  latitude : -90 ≤ c.latitude.value ∧ c.latitude.value ≤ 90
  longitude : -180 ≤ c.longitude.value ∧ c.longitude.value ≤ 180

theorem value_ninety : (Binary64.ofDecimal 90 0).value = 90 :=
  Binary64.value_eq_of_units (by decide +kernel)

theorem value_minus_ninety : (Binary64.ofDecimal 90 0).negated.value = -90 :=
  Binary64.value_eq_of_units (by decide +kernel)

theorem value_half_turn : (Binary64.ofDecimal 180 0).value = 180 :=
  Binary64.value_eq_of_units (by decide +kernel)

theorem value_minus_half_turn : (Binary64.ofDecimal 180 0).negated.value = -180 :=
  Binary64.value_eq_of_units (by decide +kernel)

namespace Coordinates

variable {c : Coordinates}

theorem latitudeInRange_iff (h : c.latitude.isFinite = true) :
    c.latitudeInRange = true ↔ -90 ≤ c.latitude.value ∧ c.latitude.value ≤ 90 := by
  have hn := Binary64.isNaN_of_isFinite h
  rw [latitudeInRange, Bool.and_eq_true, Binary64.le_iff_value_le (by decide +kernel) hn,
    Binary64.le_iff_value_le hn (by decide +kernel), value_minus_ninety, value_ninety]

theorem longitudeInRange_iff (h : c.longitude.isFinite = true) :
    c.longitudeInRange = true ↔ -180 ≤ c.longitude.value ∧ c.longitude.value ≤ 180 := by
  have hn := Binary64.isNaN_of_isFinite h
  rw [longitudeInRange, Bool.and_eq_true, Binary64.le_iff_value_le (by decide +kernel) hn,
    Binary64.le_iff_value_le hn (by decide +kernel), value_minus_half_turn, value_half_turn]

theorem notFinite?_eq_none_iff :
    c.notFinite? = none ↔ ∀ which, (c.get which).isFinite = true := by
  rw [notFinite?, List.find?_eq_none]
  constructor
  · intro h which
    have hw : which ∈ [Coordinate.latitude, .longitude, .elevation, .heading] := by
      cases which <;> decide
    simpa using h which hw
  · intro h which _
    rw [h which]
    exact Bool.false_ne_true

theorem fault?_eq_none_iff : c.fault? = none ↔ c.Proper := by
  constructor
  · intro h
    unfold fault? at h
    split at h
    · nomatch h
    next hf =>
    have finite := notFinite?_eq_none_iff.1 hf
    split at h
    · nomatch h
    next hlat =>
    split at h
    · nomatch h
    next hlong =>
    rw [Bool.not_eq_true', Bool.not_eq_false] at hlat hlong
    exact ⟨finite, (latitudeInRange_iff (finite .latitude)).1 hlat,
      (longitudeInRange_iff (finite .longitude)).1 hlong⟩
  · rintro ⟨finite, hlat, hlong⟩
    rw [fault?, notFinite?_eq_none_iff.2 finite, (latitudeInRange_iff (finite .latitude)).2 hlat,
      (longitudeInRange_iff (finite .longitude)).2 hlong]
    rfl

theorem proper_of_faultless (h : c.fault? = none) : c.Proper := fault?_eq_none_iff.1 h

end Coordinates

end Spatial

namespace Carriage

/-- The payloads in the domain of what they are made for. -/
def Domain : (c : Carriage) → c.Value → Prop
  | .vectorMessage, v => v.Finite
  | .poseMessage, p => p.Proper
  | .coordinatesMessage, o | .direct .origin, o => o.coordinates.Proper
  | _, _ => True

theorem Accepts.domain {c : Carriage} {v : c.Value} (h : c.Accepts v) : c.Domain v := by
  cases c with
  | vectorMessage | poseMessage => exact h
  | coordinatesMessage => exact Spatial.Coordinates.proper_of_faultless v.faultless
  | textMessage | flagMessage => trivial
  | direct p =>
    cases p with
    | origin => exact Spatial.Coordinates.proper_of_faultless v.faultless
    | single | double | text | flag | entity | vector | pose => trivial

theorem gives_textMessage : (Codec.form (α := Message.Text)).Gives anything fun m ↦
    (Utf8.encode m.data).length < 0x100000000 := by
  have h : Message.Text.fields.Gives anything
      (.cons (fun s ↦ (Utf8.encode s).length < 0x100000000) .nil) :=
    .cons gives_text_anything (fun _ hs ↦ nomatch hs) .nil
  exact (Form.gives_record _ h).via fun row hr ↦ hr.1

/-- A carriage takes no octets for a payload that it does not deliver. -/
theorem accepts_of_decode {c : Carriage} {s : Octets} {v : c.Value} (h : c.decode s = .ok v) :
    c.Accepts v := by
  cases c with
  | vectorMessage =>
    obtain ⟨m, -, hm⟩ := of_bind_ok h
    exact Message.finite_of_ofMessage_vector hm
  | poseMessage =>
    obtain ⟨m, -, hm⟩ := of_bind_ok h
    exact Message.proper_of_ofMessage_pose hm
  | coordinatesMessage | flagMessage => trivial
  | textMessage =>
    obtain ⟨m, hd, hm⟩ := of_bind_ok h
    obtain rfl := Except.ok.inj hm
    exact gives_textMessage.of_decode trivial (of_mapError_ok hd)
  | direct p =>
    cases p with
    | text => exact gives_text_anything.of_decode trivial (of_mapError_ok h)
    | single | double | flag | entity | vector | pose | origin => trivial

end Carriage

end EntityWire
