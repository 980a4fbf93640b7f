import EntityWire.Proofs.Message.Domain
import EntityWire.Proofs.Wire.Collection
import EntityWire.Proofs.Wire.Record

namespace EntityWire

open Wire

variable {levels : Nat}

theorem returns_entity (e : Entity) : (Codec.form (α := Entity)).Returns levels e :=
  Form.returns_wrapped (Form.returns_word e.id) rfl

theorem returns_wireId (id : WireId) : (Codec.form (α := WireId)).Returns levels id :=
  Form.returns_wrapped (Form.returns_word id.value) rfl

section Payloads

open Form

theorem returns_spatialVector (v : Spatial.Vector3) :
    (Codec.form (α := Spatial.Vector3)).Returns (levels + 1) v := by
  refine returns_via (returns_tuple (by decide) ?_) rfl
  exact ⟨returns_double v.x, returns_double v.y, returns_double v.z, trivial⟩

theorem returns_spatialQuaternion (q : Spatial.Quaternion) :
    (Codec.form (α := Spatial.Quaternion)).Returns (levels + 1) q := by
  refine returns_via (returns_tuple (by decide) ?_) rfl
  exact ⟨returns_double q.x, returns_double q.y, returns_double q.z, returns_double q.w, trivial⟩

theorem returns_spatialPose (p : Spatial.Pose) :
    (Codec.form (α := Spatial.Pose)).Returns (levels + 2) p := by
  refine returns_via (returns_record (by decide) ?_) rfl
  exact ⟨Field.returns_required (returns_spatialVector p.position),
    Field.returns_required (returns_spatialQuaternion p.rotation), trivial⟩

theorem returns_surface (s : Spatial.Surface) :
    (Codec.form (α := Spatial.Surface)).Returns levels s := by
  cases s <;> exact returns_names (by decide) (by decide)

theorem returns_origin (o : Spatial.Origin) :
    (Codec.form (α := Spatial.Origin)).Returns (levels + 1) o := by
  obtain ⟨c, hc⟩ := o
  refine returns_checked (returns_record (by decide) ?_) ?_
  · exact ⟨Field.returns_required (returns_surface c.surface),
      Field.returns_required (returns_double c.latitude),
      Field.returns_required (returns_double c.longitude),
      Field.returns_required (returns_double c.elevation),
      Field.returns_required (returns_double c.heading), trivial⟩
  · exact congrArg (Except.mapError _) (Spatial.Origin.ofCoordinates_coordinates ⟨c, hc⟩)

end Payloads

namespace Message

open Form

theorem solid_double (x : Binary64) : Solid (Form.double.write x) :=
  List.append_nil (Form.double.write x) ▸ (begins_double x).solid (by simp) []

theorem returns_vector (v : Vector3) : (Codec.form (α := Vector3)).Returns (levels + 1) v := by
  refine returns_via (returns_record (by decide) ?_) rfl
  exact ⟨Field.returns_defaulted (returns_double v.x), Field.returns_defaulted (returns_double v.y),
    Field.returns_defaulted (returns_double v.z), trivial⟩

theorem returns_quaternion (q : Quaternion) :
    (Codec.form (α := Quaternion)).Returns (levels + 1) q := by
  refine returns_via (returns_record (by decide) ?_) rfl
  exact ⟨Field.returns_defaulted (returns_double q.x), Field.returns_defaulted (returns_double q.y),
    Field.returns_defaulted (returns_double q.z), Field.returns_defaulted (returns_double q.w),
    trivial⟩

theorem returns_pose (p : Pose) (h : ∀ name ∈ p.name, (Utf8.encode name).length < 0x100000000) :
    (Codec.form (α := Pose)).Returns (levels + 2) p := by
  refine returns_via (returns_record (by decide) ?_) rfl
  refine ⟨Field.returns_optional ?_ ?_, Field.returns_optional ?_ ?_,
    Field.returns_optional ?_ ?_, trivial⟩
  · exact fun name hn ↦ returns_text (h name hn)
  · exact fun name hn ↦ (begins_textHead (h name hn)).solid (by simp) _
  · exact fun position _ ↦ returns_vector position
  · exact fun _ _ ↦ solid_record "Vector3d" (by decide)
  · exact fun orientation _ ↦ returns_quaternion orientation
  · exact fun _ _ ↦ solid_record "Quaternion" (by decide)

theorem returns_surfaceModel (s : SurfaceModel) :
    (Codec.form (α := SurfaceModel)).Returns levels s := by
  cases s <;> exact returns_names (by decide) (by decide)

theorem solid_surfaceModel (s : SurfaceModel) :
    Solid ((Codec.form (α := SurfaceModel)).write s) := by
  cases s <;> exact (begins_textHead (by decide)).solid (by simp) _

theorem returns_coordinates_fields (surface : Option SurfaceModel)
    (latitude longitude elevation heading : Option Binary64) :
    Coordinates.fields.Returns levels (surface, latitude, longitude, elevation, heading, ()) := by
  have number : ∀ name (x : Option Binary64), (Field.optional name .double).Returns levels x :=
    fun _ _ ↦ Field.returns_optional (fun x _ ↦ returns_double x) fun x _ ↦ solid_double x
  have surface : (Field.optional "surface_model" Codec.form).Returns levels surface :=
    Field.returns_optional (fun s _ ↦ returns_surfaceModel s) fun s _ ↦ solid_surfaceModel s
  exact ⟨surface, number _ latitude, number _ longitude, number _ elevation, number _ heading,
    trivial⟩

theorem returns_coordinates (c : Coordinates) :
    (Codec.form (α := Coordinates)).Returns (levels + 1) c :=
  returns_via (returns_record (by decide) (returns_coordinates_fields ..)) rfl

theorem returns_textMessage {s : String} (h : (Utf8.encode s).length < 0x100000000) :
    (Codec.form (α := Text)).Returns (levels + 1) ⟨s⟩ := by
  refine returns_via (returns_record (by decide) ?_) rfl
  exact ⟨Field.returns_required (returns_text h), trivial⟩

theorem returns_flag (b : Bool) : (Codec.form (α := Flag)).Returns (levels + 1) ⟨b⟩ := by
  refine returns_via (returns_record (by decide) ?_) rfl
  exact ⟨Field.returns_defaulted (returns_bool b), trivial⟩

theorem returns_record {r : Record} (h : r.data.length < 0x100000000) :
    (Codec.form (α := Record)).Returns (levels + 2) r := by
  refine returns_via (Form.returns_record (by decide) ?_) rfl
  exact ⟨Field.returns_required (returns_entity r.entity),
    Field.returns_required (returns_wireId r.component),
    Field.returns_required (returns_list h fun b _ ↦ returns_octet b), trivial⟩

end Message

end EntityWire
