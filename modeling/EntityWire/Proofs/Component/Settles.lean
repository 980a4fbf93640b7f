import EntityWire.Component.Kind
import EntityWire.Proofs.Json.WellFormed
import EntityWire.Proofs.Message.Resolves

namespace EntityWire

open Wire

variable {D : Dialect}

section Payloads

open Form

theorem resolves_spatialVector : (Codec.form (α := Spatial.Vector3)).Resolves D := by
  refine Resolves.via (resolves_tuple _ ?_)
  exact ⟨resolves_double, resolves_double, resolves_double, trivial⟩

theorem resolves_spatialQuaternion : (Codec.form (α := Spatial.Quaternion)).Resolves D := by
  refine Resolves.via (resolves_tuple _ ?_)
  exact ⟨resolves_double, resolves_double, resolves_double, resolves_double, trivial⟩

def Spatial.Pose.fields : Fields [Spatial.Vector3, Spatial.Quaternion] :=
  .cons (.required "position" Codec.form) <| .cons (.required "rotation" Codec.form) .nil

theorem resolve_spatialPose : Spatial.Pose.fields.Resolve D :=
  ⟨resolves_spatialVector, resolves_spatialQuaternion, trivial⟩

theorem resolves_spatialPose : (Codec.form (α := Spatial.Pose)).Resolves D :=
  (resolves_record _ resolve_spatialPose).via

def Spatial.Origin.fields : Fields [Spatial.Surface, Binary64, Binary64, Binary64, Binary64] :=
  .cons (.required "surface" Codec.form) <| .cons (.required "latitude_deg" .double) <|
    .cons (.required "longitude_deg" .double) <| .cons (.required "elevation" .double) <|
    .cons (.required "heading_deg" .double) .nil

theorem resolve_origin : Spatial.Origin.fields.Resolve D :=
  ⟨resolves_names _ _ _, resolves_double, resolves_double, resolves_double, resolves_double, trivial⟩

theorem resolves_origin : (Codec.form (α := Spatial.Origin)).Resolves D :=
  (resolves_record _ resolve_origin).checked

theorem Payload.resolves_form (p : Payload) : p.form.Resolves D := by
  cases p with
  | single => exact resolves_ofScalar _ _
  | double => exact resolves_double
  | text => exact resolves_text
  | flag => exact resolves_bool
  | entity => exact resolves_entity
  | vector => exact resolves_spatialVector
  | pose => exact resolves_spatialPose
  | origin => exact resolves_origin

end Payloads

namespace Message

/-- Making a payload of a message finds no fault with the octets that it was read from. -/
def Blameless (M P : Type) [Carries M P] : Prop :=
  ∀ (m : M) (e : DecodeError), (ofMessage m : Except MessageError P) ≠ .error (.decode e)

theorem finite_ne (field : String) (x : Binary64) (e : DecodeError) :
    finite field x ≠ .error (.decode e) := by
  unfold finite
  split <;> exact nofun

theorem blameless_vector : Blameless Vector3 Spatial.Vector3 := by
  intro m e
  refine bind_ne_error (finite_ne _ _ e) fun x ↦ ?_
  refine bind_ne_error (finite_ne _ _ e) fun y ↦ ?_
  refine bind_ne_error (finite_ne _ _ e) fun z ↦ ?_
  exact nofun

theorem blameless_quaternion : Blameless Quaternion Spatial.Quaternion := by
  intro m e
  refine bind_ne_error (finite_ne _ _ e) fun x ↦ ?_
  refine bind_ne_error (finite_ne _ _ e) fun y ↦ ?_
  refine bind_ne_error (finite_ne _ _ e) fun z ↦ ?_
  refine bind_ne_error (finite_ne _ _ e) fun w ↦ ?_
  dsimp only
  split <;> exact nofun

theorem ofMessageOr_ne {M P : Type} [Carries M P] (hb : Blameless M P) (absent : P) (m : Option M)
    (e : DecodeError) : ofMessageOr absent m ≠ .error (.decode e) := by
  cases m with
  | none => exact nofun
  | some m => exact hb m e

theorem blameless_pose : Blameless Pose Spatial.Pose := by
  intro m e
  refine bind_ne_error (ofMessageOr_ne blameless_vector _ _ e) fun position ↦ ?_
  refine bind_ne_error (ofMessageOr_ne blameless_quaternion _ _ e) fun rotation ↦ ?_
  exact nofun

theorem blameless_of_ok {M P : Type} [Carries M P] {payload : M → P}
    (h : ∀ m : M, ofMessage m = .ok (payload m)) : Blameless M P := by
  intro m e he
  rw [h] at he
  nomatch he

theorem blameless_coordinates : Blameless Coordinates Spatial.Origin := by
  intro m e
  refine bind_ne_error ?_ fun c ↦ ?_
  · unfold Coordinates.complete
    split <;> exact nofun
  · intro h
    obtain ⟨fault, -, he⟩ := mapError_error_iff.1 h
    nomatch he

end Message

namespace Carriage

def leaves {α : Type} (f : Form α) (s : Octets) : Except DecodeError Octets :=
  ((f.value levelLimit).run s).map Prod.snd

def unread : Carriage → Octets → Except DecodeError Octets
  | .direct p => leaves p.form
  | .vectorMessage => leaves (Codec.form (α := Message.Vector3))
  | .poseMessage => leaves (Codec.form (α := Message.Pose))
  | .coordinatesMessage => leaves (Codec.form (α := Message.Coordinates))
  | .textMessage => leaves (Codec.form (α := Message.Text))
  | .flagMessage => leaves (Codec.form (α := Message.Flag))

theorem leaves_of_resolves {α : Type} {f : Form α} {j : Json} (h : f.Resolves Json.dialect)
    (hj : j.Portable levelLimit) : leaves f j.pack = .ok [] ∨
      ∃ r : Refusal, r.OfContent ∧ leaves f j.pack = .error (.refused r) := by
  rcases h hj.wellFormed with ⟨a, ha⟩ | ⟨r, hr, he⟩
  · exact .inl (congrArg (Except.map Prod.snd) ha)
  · exact .inr ⟨r, Json.ofContent_of_ofValue hr, congrArg (Except.map Prod.snd) he⟩

theorem unread_pack (c : Carriage) {j : Json} (hj : j.Portable levelLimit) :
    c.unread j.pack = .ok [] ∨
      ∃ r : Refusal, r.OfContent ∧ c.unread j.pack = .error (.refused r) := by
  cases c with
  | direct p => exact leaves_of_resolves p.resolves_form hj
  | vectorMessage =>
    exact leaves_of_resolves (Form.resolves_record _ Message.resolve_vector).via hj
  | poseMessage => exact leaves_of_resolves (Form.resolves_record _ Message.resolve_pose).via hj
  | coordinatesMessage =>
    exact leaves_of_resolves (Form.resolves_record _ Message.resolve_coordinates).via hj
  | textMessage => exact leaves_of_resolves (Form.resolves_record _ Message.resolve_text).via hj
  | flagMessage => exact leaves_of_resolves (Form.resolves_record _ Message.resolve_flag).via hj

theorem leaves_eq_error_iff {α : Type} {f : Form α} {s : Octets} {e : DecodeError} :
    leaves f s = .error e ↔ f.decode s = .error e := by
  rw [leaves, Form.decode, map_error_iff, map_error_iff]

theorem mapError_decode_eq_error_iff {α : Type} {x : Except DecodeError α} {e : DecodeError} :
    x.mapError Message.MessageError.decode = .error (.decode e) ↔ x = .error e := by
  rw [mapError_error_iff]
  constructor
  · rintro ⟨e', hx, he⟩
    exact hx.trans (congrArg _ (Message.MessageError.decode.inj he).symm)
  · exact fun h ↦ ⟨e, h, rfl⟩

theorem decodeAs_eq_error_iff {M P : Type} [Message.Carries M P] [Codec M]
    (hb : Message.Blameless M P) {s : Octets} {e : DecodeError} :
    (decodeAs M s : Except Message.MessageError P) = .error (.decode e) ↔
      leaves (Codec.form (α := M)) s = .error e := by
  rw [leaves_eq_error_iff]
  constructor
  · intro h
    rcases of_bind_error h with h | ⟨m, -, h⟩
    · exact mapError_decode_eq_error_iff.1 h
    · exact absurd h (hb m e)
  · intro h
    rw [decodeAs, Wire.decode, h]
    rfl

/-- A component's octets are at fault exactly when reading them stops short of a payload. -/
theorem decode_eq_error_iff {c : Carriage} {s : Octets} {e : DecodeError} :
    c.decode s = .error (.decode e) ↔ c.unread s = .error e := by
  cases c with
  | direct p => exact mapError_decode_eq_error_iff.trans leaves_eq_error_iff.symm
  | vectorMessage => exact decodeAs_eq_error_iff Message.blameless_vector
  | poseMessage => exact decodeAs_eq_error_iff Message.blameless_pose
  | coordinatesMessage => exact decodeAs_eq_error_iff Message.blameless_coordinates
  | textMessage => exact decodeAs_eq_error_iff (Message.blameless_of_ok fun _ ↦ rfl)
  | flagMessage => exact decodeAs_eq_error_iff (Message.blameless_of_ok fun _ ↦ rfl)

end Carriage

end EntityWire
