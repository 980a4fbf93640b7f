import EntityWire.Message.Conversion
import EntityWire.Proofs.Wire.Head

namespace EntityWire

namespace Spatial

def Vector3.Finite (v : Vector3) : Prop :=
  v.x.isFinite = true ∧ v.y.isFinite = true ∧ v.z.isFinite = true

def Quaternion.Finite (q : Quaternion) : Prop :=
  q.x.isFinite = true ∧ q.y.isFinite = true ∧ q.z.isFinite = true ∧ q.w.isFinite = true

/-- A pose in its domain: finite, and of a rotation that is not refused for its norm. -/
structure Pose.Proper (p : Pose) : Prop where
  position : p.position.Finite
  rotation : p.rotation.Finite
  unit : p.rotation.isOffUnit = false

end Spatial

theorem Spatial.Origin.ofCoordinates_coordinates (o : Spatial.Origin) :
    ofCoordinates o.coordinates = .ok o := by
  unfold ofCoordinates
  split
  · next fault h => exact absurd (h.symm.trans o.faultless) (by simp)
  · rfl

namespace Message

theorem finite_of_isFinite {field : String} {x : Binary64} (h : x.isFinite = true) :
    finite field x = .ok x :=
  if_pos h

theorem of_finite {field : String} {x y : Binary64} (h : finite field x = .ok y) :
    y = x ∧ y.isFinite = true := by
  unfold finite at h
  split at h
  · next hx =>
    obtain rfl := Except.ok.inj h
    exact ⟨rfl, hx⟩
  · nomatch h

theorem ofMessage_toMessage_vector {v : Spatial.Vector3} (h : v.Finite) :
    ofMessage (toMessage v : Vector3) = .ok v := by
  obtain ⟨hx, hy, hz⟩ := h
  simp only [ofMessage, toMessage, finite_of_isFinite hx, finite_of_isFinite hy,
    finite_of_isFinite hz]
  rfl

theorem finite_of_ofMessage_vector {m : Vector3} {v : Spatial.Vector3}
    (h : ofMessage m = .ok v) : v.Finite := by
  obtain ⟨x, hx, h⟩ := of_bind_ok h
  obtain ⟨y, hy, h⟩ := of_bind_ok h
  obtain ⟨z, hz, h⟩ := of_bind_ok h
  obtain rfl := Except.ok.inj h
  exact ⟨(of_finite hx).2, (of_finite hy).2, (of_finite hz).2⟩

theorem ofMessage_toMessage_quaternion {q : Spatial.Quaternion} (h : q.Finite)
    (hu : q.isOffUnit = false) : ofMessage (toMessage q : Quaternion) = .ok q := by
  obtain ⟨hx, hy, hz, hw⟩ := h
  simp only [ofMessage, toMessage, finite_of_isFinite hx, finite_of_isFinite hy,
    finite_of_isFinite hz, finite_of_isFinite hw]
  exact if_neg (by rw [hu]; exact Bool.false_ne_true)

theorem proper_of_ofMessage_quaternion {m : Quaternion} {q : Spatial.Quaternion}
    (h : ofMessage m = .ok q) : q.Finite ∧ q.isOffUnit = false := by
  obtain ⟨x, hx, h⟩ := of_bind_ok h
  obtain ⟨y, hy, h⟩ := of_bind_ok h
  obtain ⟨z, hz, h⟩ := of_bind_ok h
  obtain ⟨w, hw, h⟩ := of_bind_ok h
  dsimp only at h
  split at h
  · nomatch h
  · next hu =>
    obtain rfl := Except.ok.inj h
    exact ⟨⟨(of_finite hx).2, (of_finite hy).2, (of_finite hz).2, (of_finite hw).2⟩,
      Bool.eq_false_iff.2 hu⟩

theorem of_ofMessageOr {M P : Type} [Carries M P] {absent p : P} {m : Option M}
    (h : ofMessageOr absent m = .ok p) : p = absent ∨ ∃ m' : M, ofMessage m' = .ok p := by
  cases m with
  | none => exact .inl (Except.ok.inj h).symm
  | some m => exact .inr ⟨m, h⟩

theorem ofMessage_toMessage_pose {p : Spatial.Pose} (h : p.Proper) :
    ofMessage (toMessage p : Pose) = .ok p := by
  have hp := ofMessage_toMessage_vector h.position
  have hr := ofMessage_toMessage_quaternion h.rotation h.unit
  simp only [ofMessage, toMessage, ofMessageOr] at hp hr ⊢
  rw [hp, hr]
  rfl

theorem finite_zero : Spatial.Vector3.zero.Finite := ⟨by decide, by decide, by decide⟩

theorem finite_identity : Spatial.Quaternion.identity.Finite :=
  ⟨by decide, by decide, by decide, by decide⟩

theorem isOffUnit_identity : Spatial.Quaternion.identity.isOffUnit = false := by decide

theorem proper_of_ofMessage_pose {m : Pose} {p : Spatial.Pose} (h : ofMessage m = .ok p) :
    p.Proper := by
  obtain ⟨position, hp, h⟩ := of_bind_ok h
  obtain ⟨rotation, hr, h⟩ := of_bind_ok h
  obtain rfl := Except.ok.inj h
  have hf : position.Finite := by
    obtain rfl | ⟨m', hm⟩ := of_ofMessageOr hp
    · exact finite_zero
    · exact finite_of_ofMessage_vector hm
  have hq : rotation.Finite ∧ rotation.isOffUnit = false := by
    obtain rfl | ⟨m', hm⟩ := of_ofMessageOr hr
    · exact ⟨finite_identity, isOffUnit_identity⟩
    · exact proper_of_ofMessage_quaternion hm
  exact ⟨hf, hq.1, hq.2⟩

theorem toSurface_ofSurface (s : Spatial.Surface) : (SurfaceModel.ofSurface s).toSurface = s := by
  cases s <;> rfl

theorem ofMessage_toMessage_coordinates (o : Spatial.Origin) :
    ofMessage (toMessage o : Coordinates) = .ok o := by
  have hc : (toMessage o : Coordinates).complete = .ok o.coordinates := by
    simp only [Coordinates.complete, toMessage, Option.getD_some, toSurface_ofSurface]
  simp only [ofMessage, hc]
  exact congrArg (Except.mapError _) o.ofCoordinates_coordinates

end Message

end EntityWire
