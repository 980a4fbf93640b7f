import EntityWire.Entity
import EntityWire.WireId
import EntityWire.Wire.Choice
import EntityWire.Wire.Collection
import EntityWire.Wire.Record

namespace EntityWire.Message

open Wire

structure Vector3 where
  x : Binary64
  y : Binary64
  z : Binary64
  deriving DecidableEq, Repr

structure Quaternion where
  x : Binary64
  y : Binary64
  z : Binary64
  w : Binary64
  deriving DecidableEq, Repr

structure Pose where
  name : Option String
  position : Option Vector3
  orientation : Option Quaternion
  deriving DecidableEq, Repr

inductive SurfaceModel
  | earthWgs84
  | moonScs
  deriving DecidableEq, Repr

structure Coordinates where
  surfaceModel : Option SurfaceModel
  latitude : Option Binary64
  longitude : Option Binary64
  elevation : Option Binary64
  heading : Option Binary64
  deriving DecidableEq, Repr

structure Text where
  data : String
  deriving DecidableEq, Repr

structure Flag where
  data : Bool
  deriving DecidableEq, Repr

/-- A component as the octets of its payload's message. -/
structure Record where
  entity : Entity
  component : WireId
  data : Octets
  deriving DecidableEq, Repr

namespace Vector3

def default : Vector3 := ⟨.zero, .zero, .zero⟩

def fields : Fields [Binary64, Binary64, Binary64] :=
  .cons (.defaulted "x" .double .zero) <| .cons (.defaulted "y" .double .zero) <|
    .cons (.defaulted "z" .double .zero) .nil

instance : Codec Vector3 where
  form := (Form.record "Vector3d" fields).via
    (fun (x, y, z, _) ↦ ⟨x, y, z⟩) (fun v ↦ (v.x, v.y, v.z, ()))

instance : Display Vector3 where
  display v := Display.record "Vector3d" [("x", display v.x), ("y", display v.y), ("z", display v.z)]

end Vector3

namespace Quaternion

def default : Quaternion := ⟨.zero, .zero, .zero, .one⟩

def fields : Fields [Binary64, Binary64, Binary64, Binary64] :=
  .cons (.defaulted "x" .double .zero) <| .cons (.defaulted "y" .double .zero) <|
    .cons (.defaulted "z" .double .zero) <| .cons (.defaulted "w" .double .one) .nil

instance : Codec Quaternion where
  form := (Form.record "Quaternion" fields).via
    (fun (x, y, z, w, _) ↦ ⟨x, y, z, w⟩) (fun q ↦ (q.x, q.y, q.z, q.w, ()))

instance : Display Quaternion where
  display q := Display.record "Quaternion"
    [("x", display q.x), ("y", display q.y), ("z", display q.z), ("w", display q.w)]

end Quaternion

namespace Pose

def default : Pose := ⟨none, none, none⟩

def fields : Fields [Option String, Option Vector3, Option Quaternion] :=
  .cons (.optional "name" .text) <| .cons (.optional "position" Codec.form) <|
    .cons (.optional "orientation" Codec.form) .nil

instance : Codec Pose where
  form := (Form.record "Pose" fields).via
    (fun (name, position, orientation, _) ↦ ⟨name, position, orientation⟩)
    (fun p ↦ (p.name, p.position, p.orientation, ()))

instance : Display Pose where
  display p := Display.record "Pose" [("name", display p.name), ("position", display p.position),
    ("orientation", display p.orientation)]

end Pose

namespace SurfaceModel

def default : SurfaceModel := .earthWgs84

def wireName : SurfaceModel → String
  | .earthWgs84 => "EARTH_WGS84"
  | .moonScs => "MOON_SCS"

instance : Codec SurfaceModel := ⟨.names "SurfaceModel" [.earthWgs84, .moonScs] wireName⟩

instance : Display SurfaceModel where
  display
    | .earthWgs84 => "EarthWgs84"
    | .moonScs => "MoonScs"

end SurfaceModel

namespace Coordinates

def default : Coordinates := ⟨none, none, none, none, none⟩

def fields : Fields [Option SurfaceModel, Option Binary64, Option Binary64, Option Binary64,
    Option Binary64] :=
  .cons (.optional "surface_model" Codec.form) <| .cons (.optional "latitude" .double) <|
    .cons (.optional "longitude" .double) <| .cons (.optional "elevation" .double) <|
    .cons (.optional "heading" .double) .nil

instance : Codec Coordinates where
  form := (Form.record "SphericalCoordinates" fields).via
    (fun (surface, latitude, longitude, elevation, heading, _) ↦
      ⟨surface, latitude, longitude, elevation, heading⟩)
    (fun c ↦ (c.surfaceModel, c.latitude, c.longitude, c.elevation, c.heading, ()))

instance : Display Coordinates where
  display c := Display.record "SphericalCoordinates"
    [("surface_model", display c.surfaceModel), ("latitude", display c.latitude),
      ("longitude", display c.longitude), ("elevation", display c.elevation),
      ("heading", display c.heading)]

end Coordinates

namespace Text

def default : Text := ⟨""⟩

def fields : Fields [String] := .cons (.required "data" .text) .nil

instance : Codec Text where
  form := (Form.record "StringMsg" fields).via (fun (data, _) ↦ ⟨data⟩) (fun t ↦ (t.data, ()))

instance : Display Text := ⟨fun t ↦ Display.record "StringMsg" [("data", display t.data)]⟩

end Text

namespace Flag

def default : Flag := ⟨false⟩

def fields : Fields [Bool] := .cons (.defaulted "data" .bool false) .nil

instance : Codec Flag where
  form := (Form.record "Boolean" fields).via (fun (data, _) ↦ ⟨data⟩) (fun f ↦ (f.data, ()))

instance : Display Flag := ⟨fun f ↦ Display.record "Boolean" [("data", display f.data)]⟩

end Flag

namespace Record

def fields : Fields [Entity, WireId, Octets] :=
  .cons (.required "entity" Codec.form) <| .cons (.required "component" Codec.form) <|
    .cons (.required "data" (.list .octet)) .nil

instance : Codec Record where
  form := (Form.record "ComponentRecord" fields).via
    (fun (entity, component, data, _) ↦ ⟨entity, component, data⟩)
    (fun r ↦ (r.entity, r.component, r.data, ()))

instance : Display Record where
  display r := Display.record "ComponentRecord"
    [("entity", display r.entity), ("component", display r.component),
      ("data", "[" ++ Display.commas (r.data.map fun b ↦ toString b.toNat) ++ "]")]

instance : Codec (List Record) := ⟨.list Codec.form⟩

end Record

end EntityWire.Message
