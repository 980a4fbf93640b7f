import EntityWire.Proofs.Component.Carriage
import EntityWire.Proofs.Message.Resolves
import EntityWire.Proofs.Wire.Foreign

namespace EntityWire

open Wire

namespace Message

open Fields

variable {levels : Nat}

theorem mapped_vector (v : Vector3) : Mapped Vector3.fields.names levels (encode v) :=
  mapped_entries Vector3.fields (by decide) <|
    entries_cons (wellFormed_writeDouble v.x) <| entries_cons (wellFormed_writeDouble v.y) <|
      entries_cons (wellFormed_writeDouble v.z) entries_nil

theorem mapped_quaternion (q : Quaternion) : Mapped Quaternion.fields.names levels (encode q) :=
  mapped_entries Quaternion.fields (by decide) <|
    entries_cons (wellFormed_writeDouble q.x) <| entries_cons (wellFormed_writeDouble q.y) <|
      entries_cons (wellFormed_writeDouble q.z) <|
        entries_cons (wellFormed_writeDouble q.w) entries_nil

theorem mapped_pose (p : Pose) (h : ∀ name ∈ p.name, (Utf8.encode name).length < 0x100000000) :
    Mapped Pose.fields.names (levels + 1) (encode p) :=
  mapped_entries Pose.fields (by decide) <|
    entries_cons (wellFormed_option fun name hn ↦ wellFormed_writeText (h name hn) trivial) <|
      entries_cons (wellFormed_option fun v _ ↦ (mapped_vector v).wellFormed) <|
        entries_cons (wellFormed_option fun q _ ↦ (mapped_quaternion q).wellFormed) entries_nil

theorem mapped_coordinates (c : Coordinates) :
    Mapped Coordinates.fields.names levels (encode c) := by
  have number (o : Option Binary64) : WellFormed .bounded levels (Form.double.option.write o) :=
    wellFormed_option fun x _ ↦ wellFormed_writeDouble x
  have surface : WellFormed .bounded levels
      ((Codec.form (α := SurfaceModel)).option.write c.surfaceModel) :=
    wellFormed_option fun s _ ↦ by cases s <;> exact wellFormed_writeText (by decide) trivial
  exact mapped_entries Coordinates.fields (by decide) <|
    entries_cons surface <| entries_cons (number c.latitude) <| entries_cons (number c.longitude) <|
      entries_cons (number c.elevation) <| entries_cons (number c.heading) entries_nil

theorem mapped_text {t : Text} (h : (Utf8.encode t.data).length < 0x100000000) :
    Mapped Text.fields.names levels (encode t) :=
  mapped_entries Text.fields (by decide) <|
    entries_cons (wellFormed_writeText h trivial) entries_nil

theorem mapped_flag (f : Flag) : Mapped Flag.fields.names levels (encode f) :=
  mapped_entries Flag.fields (by decide) <|
    entries_cons (.scalar (begins_bool f.data)) entries_nil

end Message

namespace Carriage

open Message (MessageError)

variable {c : Carriage} {v : c.Value} {s : Octets}

def fieldNames : Carriage → List String
  | .direct _ => []
  | .vectorMessage => Message.Vector3.fields.names
  | .poseMessage => Message.Pose.fields.names
  | .coordinatesMessage => Message.Coordinates.fields.names
  | .textMessage => Message.Text.fields.names
  | .flagMessage => Message.Flag.fields.names

theorem mapped_encode (hc : c.messageName? ≠ none) (hv : c.Accepts v) :
    Mapped c.fieldNames (levelLimit - 1) (c.encode v) := by
  cases c with
  | direct p => exact absurd rfl hc
  | vectorMessage => exact Message.mapped_vector _
  | poseMessage => exact Message.mapped_pose _ nofun
  | coordinatesMessage => exact Message.mapped_coordinates _
  | textMessage => exact Message.mapped_text hv
  | flagMessage => exact Message.mapped_flag _

theorem decodeAs_of_error {P : Type} (M : Type) [Message.Carries M P] [Codec M] {e : DecodeError}
    (h : Wire.decode M s = .error e) :
    (decodeAs M s : Except MessageError P) = .error (.decode e) := by
  rw [decodeAs, h]
  rfl

theorem decodeAs_scalar (M : Type) {P : Type} [Message.Carries M P] [Codec M] {Γ : List Type}
    {fields : Fields Γ} {name : String} {make : Row Γ → M} {back : M → Row Γ}
    (hf : Codec.form (α := M) = (Form.record name fields).via make back) {x : Scalar}
    (hb : Begins s (.scalar x)) : ∃ e, (decodeAs M s : Except MessageError P) = .error e := by
  obtain ⟨e, he⟩ := decode_record_scalar hf hb
  exact ⟨_, decodeAs_of_error M he⟩

theorem decode_entity_of_message (hc : c.messageName? ≠ none) (hv : c.Accepts v) :
    ∃ e, (direct .entity).decode (c.encode v) = .error e := by
  obtain ⟨m, hm⟩ : ∃ m, (Form.word.value levelLimit).run (c.encode v) =
      .error (.refused (.marker m)) := (mapped_encode hc hv).run_ofScalar _ _ levelLimit
  have hw : (Codec.form (α := Entity)).value levelLimit =
      (Form.word.value levelLimit).bind fun n ↦ .done ⟨n⟩ := (Scan.bind_assoc _ _ _).symm
  have hd : Wire.decode Entity (c.encode v) = .error (.refused (.marker m)) := by
    rw [Wire.decode, Form.decode, hw, Scan.run_bind_error hm]
    rfl
  exact ⟨_, congrArg (Except.mapError MessageError.decode) hd⟩

theorem decode_message_of_entity (hc : c.messageName? ≠ none) (entity : Entity) :
    ∃ e, c.decode ((direct .entity).encode entity) = .error e := by
  have hb : Begins ((direct .entity).encode entity) (.scalar (.unsigned _)) :=
    begins_unsigned entity.id.toNat_lt
  cases c with
  | direct p => exact absurd rfl hc
  | vectorMessage => exact decodeAs_scalar Message.Vector3 rfl hb
  | poseMessage => exact decodeAs_scalar Message.Pose rfl hb
  | coordinatesMessage => exact decodeAs_scalar Message.Coordinates rfl hb
  | textMessage => exact decodeAs_scalar Message.Text rfl hb
  | flagMessage => exact decodeAs_scalar Message.Flag rfl hb

theorem decode_coordinates_of_foreign (hc : c.messageName? ≠ none) (hn : c ≠ .coordinatesMessage)
    (hv : c.Accepts v) :
    coordinatesMessage.decode (c.encode v) = .error (.missingField "latitude") := by
  have hd : ∀ name ∈ c.fieldNames, name ∉ Message.Coordinates.fields.names := by
    cases c with
    | direct p => exact absurd rfl hc
    | coordinatesMessage => exact absurd rfl hn
    | vectorMessage | poseMessage | textMessage | flagMessage => decide
  have hm := (mapped_encode hc hv).decode (M := Message.Coordinates) rfl
    Message.resolve_coordinates hd
  have hcoord : coordinatesMessage.decode (c.encode v) =
      ((Wire.decode Message.Coordinates (c.encode v)).mapError MessageError.decode).bind fun m ↦
        m.complete.bind fun c ↦
          (Spatial.Origin.ofCoordinates c).mapError Message.Coordinates.outOfDomain := rfl
  rw [hcoord, hm]
  rfl

theorem decode_text_of_flag (b : Bool) :
    ∃ e, textMessage.decode (flagMessage.encode b) = .error e := by
  cases b <;> exact ⟨_, rfl⟩

theorem decode_text_of_foreign (hc : c.messageName? ≠ none) (hn : c ≠ .textMessage)
    (hv : c.Accepts v) : ∃ e, textMessage.decode (c.encode v) = .error e := by
  by_cases hf : c = .flagMessage
  · subst hf
    exact decode_text_of_flag v
  · have hd : ∀ name ∈ c.fieldNames, name ∉ Message.Text.fields.names := by
      cases c with
      | direct p => exact absurd rfl hc
      | textMessage => exact absurd rfl hn
      | flagMessage => exact absurd rfl hf
      | vectorMessage | poseMessage | coordinatesMessage => decide
    exact ⟨_, decodeAs_of_error _ ((mapped_encode hc hv).decode rfl Message.resolve_text hd)⟩

theorem decode_flag_of_text {s : String} (h : (Utf8.encode s).length < 0x100000000) :
    ∃ e, flagMessage.decode (textMessage.encode s) = .error e := by
  obtain ⟨m, -, hm⟩ : ∃ m ≠ Marker.reserved, (Form.bool.value (levelLimit - 1)).run (writeText s) =
      .error (.refused (.marker m)) := Form.run_ofScalar_of_other (begins_textHead h) nofun _ _ _
  have hl : Lists .bounded (levelLimit - 1) [(writeText "data", writeText s)]
      (textMessage.encode s) :=
    Message.Text.fields.lists_entries (s, ()) (by decide) <|
      Fields.entries_cons (wellFormed_writeText h trivial) Fields.entries_nil
  have hkey : Message.Flag.fields.Names (levelLimit - 1) (writeText "data") .here :=
    Fields.names_writeText (by decide) rfl
  have hg : Message.Flag.fields.gather (levelLimit - 1) [(writeText "data", writeText s)] =
      .error (.refused (.marker m)) :=
    Fields.gather_of_refused hkey (congrArg (Except.map Prod.fst) hm)
  have hd : Wire.decode Message.Flag (textMessage.encode s) = .error (.refused (.marker m)) := by
    rw [Message.resolve_flag.decode_record rfl hl, hg]
    rfl
  exact ⟨_, decodeAs_of_error _ hd⟩

end Carriage

end EntityWire
