import EntityWire.Wire.Token

namespace EntityWire.Wire

def Head.skip (inner : Scan Unit) : Head → Scan Unit
  | .scalar _ => .done ()
  | .text length | .octets length => (Scan.content length).bind fun _ ↦ .done ()
  | .sequence length => Scan.iterate (fun _ ↦ inner) length ()
  | .mapping length => Scan.iterate (fun _ ↦ inner.bind fun _ ↦ inner) length ()
  | .extension length =>
    (Scan.number 1).bind fun _ ↦ (Scan.content length).bind fun _ ↦ .done ()

def Head.isContainer : Head → Bool
  | .sequence _ | .mapping _ | .extension _ => true
  | _ => false

/-- Passes over one value that may open `levels` containers inside one another. -/
def skip : Nat → Scan Unit
  | 0 => Scan.marker.bind fun m ↦ m.head.bind fun h ↦
      if h.isContainer then .refuse .depth else h.skip (.done ())
  | levels + 1 => Scan.marker.bind fun m ↦ m.head.bind fun h ↦ h.skip (skip levels)

end EntityWire.Wire
