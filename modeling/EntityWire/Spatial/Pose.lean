import EntityWire.Text.Display
import EntityWire.Wire.Record

namespace EntityWire.Spatial

structure Vector3 where
  x : Binary64
  y : Binary64
  z : Binary64
  deriving DecidableEq, Repr

structure Quaternion where
  x : Binary64
  y : Binary64
  z : Binary64
  w : Binary64
  deriving DecidableEq, Repr

structure Pose where
  position : Vector3
  rotation : Quaternion
  deriving DecidableEq, Repr

namespace Vector3

def zero : Vector3 := ⟨.zero, .zero, .zero⟩

def same (a b : Vector3) : Bool := a.x.same b.x && a.y.same b.y && a.z.same b.z

instance : Display Vector3 :=
  ⟨fun v ↦ Display.applied "DVec3" [display v.x, display v.y, display v.z]⟩

open Wire in
instance : Codec Vector3 where
  form := (Form.tuple "a sequence of 3 f64 values"
      (.cons (.required "x" .double) <| .cons (.required "y" .double) <|
        .cons (.required "z" .double) .nil)).via
    (fun (x, y, z, _) ↦ ⟨x, y, z⟩) (fun v ↦ (v.x, v.y, v.z, ()))

end Vector3

namespace Quaternion

def identity : Quaternion := ⟨.zero, .zero, .zero, .one⟩

def same (a b : Quaternion) : Bool :=
  a.x.same b.x && a.y.same b.y && a.z.same b.z && a.w.same b.w

def normSquared (q : Quaternion) : Binary64 := q.x * q.x + q.y * q.y + q.z * q.z + q.w * q.w

def tolerance : Binary64 := .ofDecimal 1 (-6)

/-- Whether the squared norm is too far from one; a norm that is no number is not. -/
def isOffUnit (q : Quaternion) : Bool :=
  let distance := (q.normSquared - .one).abs
  tolerance.le distance && !tolerance.same distance

/-- The rotation by a roll, then a pitch, then a yaw about fixed axes, in radians. -/
def ofRollPitchYaw (roll pitch yaw : Binary64) : Quaternion :=
  let half (x : Binary64) : Float := x.toFloat * 0.5
  let sr := (half roll).sin
  let cr := (half roll).cos
  let sp := (half pitch).sin
  let cp := (half pitch).cos
  let sy := (half yaw).sin
  let cy := (half yaw).cos
  ⟨.ofFloat (sr * cp * cy - cr * sp * sy), .ofFloat (cr * sp * cy + sr * cp * sy),
    .ofFloat (cr * cp * sy - sr * sp * cy), .ofFloat (cr * cp * cy + sr * sp * sy)⟩

instance : Display Quaternion :=
  ⟨fun q ↦ Display.applied "DQuat" [display q.x, display q.y, display q.z, display q.w]⟩

open Wire in
instance : Codec Quaternion where
  form := (Form.tuple "a sequence of 4 f64 values"
      (.cons (.required "x" .double) <| .cons (.required "y" .double) <|
        .cons (.required "z" .double) <| .cons (.required "w" .double) .nil)).via
    (fun (x, y, z, w, _) ↦ ⟨x, y, z, w⟩) (fun q ↦ (q.x, q.y, q.z, q.w, ()))

end Quaternion

namespace Pose

def identity : Pose := ⟨.zero, .identity⟩

def atPosition (position : Vector3) : Pose := ⟨position, .identity⟩

def same (a b : Pose) : Bool := a.position.same b.position && a.rotation.same b.rotation

instance : Display Pose :=
  ⟨fun p ↦ Display.record "Pose3"
    [("position", display p.position), ("rotation", display p.rotation)]⟩

open Wire in
instance : Codec Pose where
  form := (Form.record "Pose3"
      (.cons (.required "position" Codec.form) <|
        .cons (.required "rotation" Codec.form) .nil)).via
    (fun (position, rotation, _) ↦ ⟨position, rotation⟩) (fun p ↦ (p.position, p.rotation, ()))

end Pose

end EntityWire.Spatial
