import EntityWire.Text.Utf8

namespace EntityWire.Wire

inductive Marker
  | fixPos (n : Nat)
  | fixNeg (n : Int)
  | fixMap (n : Nat)
  | fixArray (n : Nat)
  | fixStr (n : Nat)
  | null
  | reserved
  | bool (b : Bool)
  | bin (width : Nat)
  | ext (width : Nat)
  | single
  | double
  | uint (width : Nat)
  | int (width : Nat)
  | fixExt (n : Nat)
  | str (width : Nat)
  | array (width : Nat)
  | map (width : Nat)
  deriving DecidableEq, Repr

namespace Marker

def ofOctet (b : UInt8) : Marker :=
  let n := b.toNat
  if n < 0x80 then .fixPos n
  else if n < 0x90 then .fixMap (n - 0x80)
  else if n < 0xa0 then .fixArray (n - 0x90)
  else if n < 0xc0 then .fixStr (n - 0xa0)
  else if n = 0xc0 then .null
  else if n = 0xc1 then .reserved
  else if n < 0xc4 then .bool (n = 0xc3)
  else if n < 0xc7 then .bin (1 <<< (n - 0xc4))
  else if n < 0xca then .ext (1 <<< (n - 0xc7))
  else if n = 0xca then .single
  else if n = 0xcb then .double
  else if n < 0xd0 then .uint (1 <<< (n - 0xcc))
  else if n < 0xd4 then .int (1 <<< (n - 0xd0))
  else if n < 0xd9 then .fixExt (1 <<< (n - 0xd4))
  else if n < 0xdc then .str (1 <<< (n - 0xd9))
  else if n < 0xde then .array (1 <<< (n - 0xdb))
  else if n < 0xe0 then .map (1 <<< (n - 0xdd))
  else .fixNeg (n - 256 : Int)

/-- The name of a marker, with the value it holds or the bits of what follows. -/
def name : Marker → String
  | .fixPos n => "FixPos(" ++ toString n ++ ")"
  | .fixNeg n => "FixNeg(" ++ toString n ++ ")"
  | .fixMap n => "FixMap(" ++ toString n ++ ")"
  | .fixArray n => "FixArray(" ++ toString n ++ ")"
  | .fixStr n => "FixStr(" ++ toString n ++ ")"
  | .null => "Null"
  | .reserved => "Reserved"
  | .bool b => if b then "True" else "False"
  | .bin width => "Bin" ++ toString (8 * width)
  | .ext width => "Ext" ++ toString (8 * width)
  | .single => "F32"
  | .double => "F64"
  | .uint width => "U" ++ toString (8 * width)
  | .int width => "I" ++ toString (8 * width)
  | .fixExt n => "FixExt" ++ toString n
  | .str width => "Str" ++ toString (8 * width)
  | .array width => "Array" ++ toString (8 * width)
  | .map width => "Map" ++ toString (8 * width)

end Marker

end EntityWire.Wire
