import EntityWire.Message.Basic
import EntityWire.Spatial.Origin
import EntityWire.Spatial.Pose

namespace EntityWire.Message

/-- Why a message has no octets or no payload, or octets no message. -/
inductive MessageError
  | encode (e : Wire.EncodeError)
  | decode (e : Wire.DecodeError)
  | missingField (name : String)
  | outOfDomain (field reason : String)
  deriving DecidableEq

namespace MessageError

def message : MessageError → String
  | .encode e => "failed to encode message: " ++ e.message
  | .decode e => "failed to decode message: " ++ e.message
  | .missingField name => "missing required field `" ++ name ++ "`"
  | .outOfDomain field reason => "field `" ++ field ++ "` out of domain: " ++ reason

def causes : MessageError → List String
  | .encode e => e.message :: e.causes
  | .decode e => e.message :: e.cause.toList
  | .missingField _ | .outOfDomain .. => []

end MessageError

/-- A payload `P` that travels as the message `M`. -/
class Carries (M P : Type) where
  toMessage : P → M
  ofMessage : M → Except MessageError P

export Carries (toMessage ofMessage)

def finite (field : String) (x : Binary64) : Except MessageError Binary64 :=
  if x.isFinite then .ok x else .error (.outOfDomain field "not finite")

instance : Carries Vector3 Spatial.Vector3 where
  toMessage v := ⟨v.x, v.y, v.z⟩
  ofMessage m := do
    let x ← finite "x" m.x
    let y ← finite "y" m.y
    let z ← finite "z" m.z
    return ⟨x, y, z⟩

instance : Carries Quaternion Spatial.Quaternion where
  toMessage q := ⟨q.x, q.y, q.z, q.w⟩
  ofMessage m := do
    let x ← finite "x" m.x
    let y ← finite "y" m.y
    let z ← finite "z" m.z
    let w ← finite "w" m.w
    let q : Spatial.Quaternion := ⟨x, y, z, w⟩
    if q.isOffUnit then
      .error (.outOfDomain "orientation"
        ("not a unit quaternion (squared norm " ++ q.normSquared.write .plain ++ ")"))
    else return q

def ofMessageOr {M P : Type} [Carries M P] (absent : P) : Option M → Except MessageError P
  | none => .ok absent
  | some m => ofMessage m

instance : Carries Pose Spatial.Pose where
  toMessage p := ⟨none, some (toMessage p.position), some (toMessage p.rotation)⟩
  ofMessage m := do
    let position ← ofMessageOr Spatial.Vector3.zero m.position
    let rotation ← ofMessageOr Spatial.Quaternion.identity m.orientation
    return ⟨position, rotation⟩

namespace SurfaceModel

def ofSurface : Spatial.Surface → SurfaceModel
  | .earthWgs84 => .earthWgs84
  | .moonScs => .moonScs

def toSurface : SurfaceModel → Spatial.Surface
  | .earthWgs84 => .earthWgs84
  | .moonScs => .moonScs

end SurfaceModel

namespace Coordinates

/-- The five values that a message stands for; the latitude and the longitude have no default. -/
def complete (m : Coordinates) : Except MessageError Spatial.Coordinates :=
  match m.latitude, m.longitude with
  | none, _ => .error (.missingField "latitude")
  | _, none => .error (.missingField "longitude")
  | some latitude, some longitude =>
    .ok ⟨(m.surfaceModel.getD .default).toSurface, latitude, longitude,
      m.elevation.getD .zero, m.heading.getD .zero⟩

def outOfDomain (e : Spatial.CoordinateError) : MessageError :=
  .outOfDomain e.which.name e.message

end Coordinates

instance : Carries Coordinates Spatial.Origin where
  toMessage o :=
    let c := o.coordinates
    ⟨some (.ofSurface c.surface), some c.latitude, some c.longitude, some c.elevation,
      some c.heading⟩
  ofMessage m := do
    let c ← m.complete
    (Spatial.Origin.ofCoordinates c).mapError Coordinates.outOfDomain

instance : Carries Text String where
  toMessage s := ⟨s⟩
  ofMessage m := .ok m.data

instance : Carries Flag Bool where
  toMessage b := ⟨b⟩
  ofMessage m := .ok m.data

end EntityWire.Message
