import EntityWire.Json.Basic
import EntityWire.Wire.Error
import EntityWire.Wire.Write

namespace EntityWire.Json

open Wire

mutual

def pack : Json → Octets
  | .null => writeNull
  | .bool b => writeBool b
  | .unsigned n => writeUnsigned n.toNat
  | .signed n => writeSigned n.toInt
  | .float x => writeDouble x
  | .text s => writeText s
  | .array items => sequenceHead items.length ++ packItems items
  | .object members => mappingHead members.length ++ packMembers members

def packItems : List Json → Octets
  | [] => []
  | j :: rest => j.pack ++ packItems rest

def packMembers : List (String × Json) → Octets
  | [] => []
  | (k, j) :: rest => writeText k ++ j.pack ++ packMembers rest

end

/-- The octets of a value, as a serializer answers for them: every JSON value has some. -/
def encode (j : Json) : Except EncodeError Octets := .ok j.pack

end EntityWire.Json
