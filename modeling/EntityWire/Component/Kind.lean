import EntityWire.Component.Kinds

namespace EntityWire

inductive Payload
  | single
  | double
  | text
  | flag
  | entity
  | vector
  | pose
  | origin
  deriving DecidableEq, Repr

namespace Payload

abbrev Value : Payload → Type
  | .single => Binary32
  | .double => Binary64
  | .text => String
  | .flag => Bool
  | .entity => Entity
  | .vector => Spatial.Vector3
  | .pose => Spatial.Pose
  | .origin => Spatial.Origin

def default : (p : Payload) → p.Value
  | .single => .zero
  | .double => .zero
  | .text => ""
  | .flag => false
  | .entity => .invalid
  | .vector => .zero
  | .pose => .identity
  | .origin => .default

/-- Equality of payloads, where numbers are equal as numbers. -/
def same : (p : Payload) → p.Value → p.Value → Bool
  | .single, a, b => Binary32.same a b
  | .double, a, b => Binary64.same a b
  | .text, a, b => decide (a = b)
  | .flag, a, b => decide (a = b)
  | .entity, a, b => decide (a = b)
  | .vector, a, b => Spatial.Vector3.same a b
  | .pose, a, b => Spatial.Pose.same a b
  | .origin, a, b => Spatial.Origin.same a b

def describe : (p : Payload) → p.Value → String
  | .single, a => display (α := Binary32) a
  | .double, a => display (α := Binary64) a
  | .text, a => display (α := String) a
  | .flag, a => display (α := Bool) a
  | .entity, a => display (α := Entity) a
  | .vector, a => display (α := Spatial.Vector3) a
  | .pose, a => display (α := Spatial.Pose) a
  | .origin, a => display (α := Spatial.Origin) a

def form : (p : Payload) → Wire.Form p.Value
  | .single => Wire.Codec.form (α := Binary32)
  | .double => Wire.Codec.form (α := Binary64)
  | .text => Wire.Codec.form (α := String)
  | .flag => Wire.Codec.form (α := Bool)
  | .entity => Wire.Codec.form (α := Entity)
  | .vector => Wire.Codec.form (α := Spatial.Vector3)
  | .pose => Wire.Codec.form (α := Spatial.Pose)
  | .origin => Wire.Codec.form (α := Spatial.Origin)

def typeName : Payload → String
  | .single => "f32"
  | .double => "f64"
  | .text => "alloc::string::String"
  | .flag => "bool"
  | .entity => "engine_component::entity::Entity"
  | .vector => "glam::f64::dvec3::DVec3"
  | .pose => "engine_math::pose::Pose3"
  | .origin => "engine_math::spherical::SphericalCoordinates"

end Payload

/-- How a payload travels: as it is, or as the message made for it. -/
inductive Carriage
  | direct (p : Payload)
  | vectorMessage
  | poseMessage
  | coordinatesMessage
  | textMessage
  | flagMessage
  deriving DecidableEq, Repr

namespace Carriage

def payload : Carriage → Payload
  | .direct p => p
  | .vectorMessage => .vector
  | .poseMessage => .pose
  | .coordinatesMessage => .origin
  | .textMessage => .text
  | .flagMessage => .flag

abbrev Value (c : Carriage) : Type := c.payload.Value

def encodeAs {P : Type} (M : Type) [Message.Carries M P] [Wire.Codec M] (p : P) : Octets :=
  Wire.encode (Message.toMessage p : M)

def decodeAs {P : Type} (M : Type) [Message.Carries M P] [Wire.Codec M] (s : Octets) :
    Except Message.MessageError P := do
  let m ← (Wire.decode M s).mapError .decode
  Message.ofMessage m

def encode : (c : Carriage) → c.Value → Octets
  | .direct p, v => p.form.write v
  | .vectorMessage, v => encodeAs (P := Spatial.Vector3) Message.Vector3 v
  | .poseMessage, v => encodeAs (P := Spatial.Pose) Message.Pose v
  | .coordinatesMessage, v => encodeAs (P := Spatial.Origin) Message.Coordinates v
  | .textMessage, v => encodeAs (P := String) Message.Text v
  | .flagMessage, v => encodeAs (P := Bool) Message.Flag v

def decode : (c : Carriage) → Octets → Except Message.MessageError c.Value
  | .direct p, s => (p.form.decode s).mapError .decode
  | .vectorMessage, s => decodeAs (P := Spatial.Vector3) Message.Vector3 s
  | .poseMessage, s => decodeAs (P := Spatial.Pose) Message.Pose s
  | .coordinatesMessage, s => decodeAs (P := Spatial.Origin) Message.Coordinates s
  | .textMessage, s => decodeAs (P := String) Message.Text s
  | .flagMessage, s => decodeAs (P := Bool) Message.Flag s

def messageName? : Carriage → Option String
  | .direct _ => none
  | .vectorMessage => some "Vector3d"
  | .poseMessage => some "Pose"
  | .coordinatesMessage => some "SphericalCoordinates"
  | .textMessage => some "StringMsg"
  | .flagMessage => some "Boolean"

end Carriage

structure Kind where
  carriage : Carriage
  tag : String
  deriving DecidableEq, Repr

namespace Kind

variable (k : Kind)

def payload : Payload := k.carriage.payload

abbrev Value : Type := k.carriage.payload.Value

def typeName : String :=
  "engine_component::component::Component<" ++ k.payload.typeName ++ ", " ++ k.tag ++
    (match k.carriage.messageName? with
    | none => ""
    | some message =>
      ", engine_component::serializer::MsgSerializer<engine_msgs::messages::" ++ message ++ ">") ++
    ">"

/-- No payload here is refused by its encoder: a total function writes the octets of each. -/
instance : Kinds Kind where
  decEq := instDecidableEqKind
  Value := Value
  default k := k.payload.default
  same k := k.payload.same
  describe k := k.payload.describe
  encode k v := .ok (k.carriage.encode v)
  decode k := k.carriage.decode
  tag := tag
  typeName := typeName
  identity k := "TypeId(" ++ k.typeName ++ ")"

theorem encode_eq (v : k.Value) : Kinds.encode k v = .ok (k.carriage.encode v) := rfl

end Kind

namespace Builtin

def sphericalCoordinates : Kind :=
  ⟨.coordinatesMessage, "engine_components::spherical_coordinates::SphericalCoordinatesTag"⟩

def pose : Kind := ⟨.poseMessage, "engine_components::kinematics::PoseTag"⟩

def worldPose : Kind := ⟨.poseMessage, "engine_components::kinematics::WorldPoseTag"⟩

def linearVelocity : Kind := ⟨.vectorMessage, "engine_components::kinematics::LinearVelocityTag"⟩

def angularVelocity : Kind := ⟨.vectorMessage, "engine_components::kinematics::AngularVelocityTag"⟩

def name : Kind := ⟨.textMessage, "engine_components::metadata::NameTag"⟩

def static : Kind := ⟨.flagMessage, "engine_components::metadata::StaticTag"⟩

def parentEntity : Kind := ⟨.direct .entity, "engine_components::metadata::ParentEntityTag"⟩

/-- The kinds that every program has, under their names. -/
def all : List (String × Kind) :=
  [("SphericalCoordinates", sphericalCoordinates), ("Pose", pose), ("WorldPose", worldPose),
    ("LinearVelocity", linearVelocity), ("AngularVelocity", angularVelocity), ("Name", name),
    ("Static", static), ("ParentEntity", parentEntity)]

end Builtin

end EntityWire
