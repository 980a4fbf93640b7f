import EntityWire.Ordered.Map
import EntityWire.Ordered.Set
import EntityWire.Wire.Form

namespace EntityWire.Wire.Form

variable {α : Type}

def list (item : Form α) : Form (List α) where
  read levels m := (m.token levels).bind fun
    | .sequence n => Scan.replicate (item.value (levels - 1)) n
    | .octets s => .ofExcept (s.mapM item.ofOctet)
    | t => t.unfit "a sequence"
  ofOctet := octetIsNot "a sequence"
  write items := writeSequence (items.map item.write)

def set [Ord α] [Std.TransOrd α] (item : Form α) : Form (OrderedSet α) :=
  (list item).via .ofList OrderedSet.elements

def dictionary : Form (OrderedMap String String) where
  read levels m := (m.token levels).bind fun
    | .mapping n =>
      Scan.iterate (fun (entries : OrderedMap String String) ↦
        (text.value (levels - 1)).bind fun k ↦ (text.value (levels - 1)).bind fun v ↦
          .done (entries.insert k v)) n .empty
    | t => t.unfit "a map"
  ofOctet := octetIsNot "a map"
  write entries :=
    writeMapping (entries.entries.map fun e ↦ (writeText e.1, writeText e.2))

end EntityWire.Wire.Form
