import EntityWire.Text.Display
import EntityWire.Wire.Choice
import EntityWire.Wire.Record

namespace EntityWire.Spatial

inductive Surface
  | earthWgs84
  | moonScs
  deriving DecidableEq, Repr, Inhabited

inductive Coordinate
  | latitude
  | longitude
  | elevation
  | heading
  deriving DecidableEq, Repr

structure Coordinates where
  surface : Surface
  latitude : Binary64
  longitude : Binary64
  elevation : Binary64
  heading : Binary64
  deriving DecidableEq, Repr

inductive CoordinateError
  | latitude (degrees : Binary64)
  | longitude (degrees : Binary64)
  | notFinite (which : Coordinate)
  deriving DecidableEq, Repr

def Coordinate.name : Coordinate → String
  | .latitude => "latitude"
  | .longitude => "longitude"
  | .elevation => "elevation"
  | .heading => "heading"

namespace CoordinateError

def message : CoordinateError → String
  | .latitude x => "latitude " ++ x.write .plain ++ " outside [-90, 90] degrees"
  | .longitude x => "longitude " ++ x.write .plain ++ " outside [-180, 180] degrees"
  | .notFinite which => "`" ++ which.name ++ "` is not finite"

def which : CoordinateError → Coordinate
  | .latitude _ => .latitude
  | .longitude _ => .longitude
  | .notFinite which => which

end CoordinateError

namespace Coordinates

variable (c : Coordinates)

def get : Coordinate → Binary64
  | .latitude => c.latitude
  | .longitude => c.longitude
  | .elevation => c.elevation
  | .heading => c.heading

def notFinite? : Option Coordinate :=
  [Coordinate.latitude, .longitude, .elevation, .heading].find? fun which ↦
    !(c.get which).isFinite

def latitudeInRange : Bool :=
  (Binary64.ofDecimal 90 0).negated.le c.latitude && c.latitude.le (.ofDecimal 90 0)

def longitudeInRange : Bool :=
  (Binary64.ofDecimal 180 0).negated.le c.longitude && c.longitude.le (.ofDecimal 180 0)

def fault? : Option CoordinateError :=
  match c.notFinite? with
  | some which => some (.notFinite which)
  | none =>
    if !c.latitudeInRange then some (.latitude c.latitude)
    else if !c.longitudeInRange then some (.longitude c.longitude)
    else none

end Coordinates

structure Origin where
  coordinates : Coordinates
  faultless : coordinates.fault? = none
  deriving DecidableEq

namespace Origin

def ofCoordinates (c : Coordinates) : Except CoordinateError Origin :=
  match h : c.fault? with
  | some fault => .error fault
  | none => .ok ⟨c, h⟩

def default : Origin := ⟨⟨.earthWgs84, .zero, .zero, .zero, .zero⟩, by decide⟩

def same (a b : Origin) : Bool :=
  let c := a.coordinates
  let d := b.coordinates
  c.surface = d.surface && c.latitude.same d.latitude && c.longitude.same d.longitude &&
    c.elevation.same d.elevation && c.heading.same d.heading

def radiansPerDegree : Binary64 := ⟨0x3f91df46a2529d39⟩

def latitudeRadians (o : Origin) : Binary64 := o.coordinates.latitude * radiansPerDegree

def longitudeRadians (o : Origin) : Binary64 := o.coordinates.longitude * radiansPerDegree

def headingRadians (o : Origin) : Binary64 := o.coordinates.heading * radiansPerDegree

end Origin

namespace Surface

def name : Surface → String
  | .earthWgs84 => "EarthWgs84"
  | .moonScs => "MoonScs"

instance : Display Surface := ⟨name⟩

instance : Wire.Codec Surface := ⟨.names "SurfaceType" [.earthWgs84, .moonScs] name⟩

end Surface

namespace Origin

instance : Display Origin where
  display o := Display.record "SphericalCoordinates"
    [("surface", display o.coordinates.surface),
      ("latitude_deg", display o.coordinates.latitude),
      ("longitude_deg", display o.coordinates.longitude),
      ("elevation", display o.coordinates.elevation),
      ("heading_deg", display o.coordinates.heading)]

open Wire in
/-- Coordinates are read as they are and checked once all of them are there. -/
instance : Codec Origin where
  form := (Form.record "RawSphericalCoordinates"
      (.cons (.required "surface" Codec.form) <|
        .cons (.required "latitude_deg" .double) <| .cons (.required "longitude_deg" .double) <|
        .cons (.required "elevation" .double) <| .cons (.required "heading_deg" .double) .nil)).checked
    (fun (surface, latitude, longitude, elevation, heading, _) ↦
      (ofCoordinates ⟨surface, latitude, longitude, elevation, heading⟩).mapError
        fun e ↦ .rejected e.message)
    (fun ⟨⟨surface, latitude, longitude, elevation, heading⟩, _⟩ ↦
      (surface, latitude, longitude, elevation, heading, ()))

end Origin

end EntityWire.Spatial
