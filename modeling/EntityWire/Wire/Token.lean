import EntityWire.Wire.Scan

namespace EntityWire.Wire

inductive Scalar
  | unit
  | bool (b : Bool)
  | unsigned (n : UInt64)
  | signed (n : Int64)
  | single (x : Binary32)
  | double (x : Binary64)
  deriving DecidableEq

def Scalar.found : Scalar → Found
  | .unit => .unit
  | .bool b => .bool b
  | .unsigned n => .unsigned n
  | .signed n => .signed n
  | .single x => .float x.widen
  | .double x => .float x

inductive Token
  | scalar (s : Scalar)
  | text (s : String)
  | badText (octets : Octets) (fault : Utf8.Fault)
  | octets (s : Octets)
  | sequence (length : Nat)
  | mapping (length : Nat)
  | extension (length : Nat)

def Token.found : Token → Found
  | .scalar s => s.found
  | .text s => .text s
  | .badText _ _ => .octets
  | .octets _ => .octets
  | .sequence _ => .sequence
  | .mapping _ => .mapping
  | .extension _ => .extension

/-- Refuses a token that is not what is expected; a text that is no UTF-8 is that before all. -/
def Token.unfit {α : Type} (expected : String) : Token → Scan α
  | .badText _ fault => .refuse (.text fault)
  | t => .complain (.wrongKind t.found expected)

/-- The containers that may be open inside one another. -/
def levelLimit : Nat := 1023

def signedValue (width n : Nat) : Int := Int.bmod n (1 <<< (8 * width))

def Marker.scalar : Marker → Scan Scalar
  | .fixPos n => .done (.unsigned (UInt64.ofNat n))
  | .fixNeg n => .done (.signed (Int64.ofInt n))
  | .null => .done .unit
  | .bool b => .done (.bool b)
  | .single => (Scan.number 4).bind fun n ↦ .done (.single ⟨UInt32.ofNat n⟩)
  | .double => (Scan.number 8).bind fun n ↦ .done (.double ⟨UInt64.ofNat n⟩)
  | .uint width => (Scan.number width).bind fun n ↦ .done (.unsigned (UInt64.ofNat n))
  | .int width =>
    (Scan.number width).bind fun n ↦ .done (.signed (Int64.ofInt (signedValue width n)))
  | m => .refuse (.marker m)

/-- A scalar, or the kind and the length of what follows: octets, items or entries. -/
inductive Head
  | scalar (s : Scalar)
  | text (length : Nat)
  | octets (length : Nat)
  | sequence (length : Nat)
  | mapping (length : Nat)
  | extension (length : Nat)

def Marker.head : Marker → Scan Head
  | .fixStr n => .done (.text n)
  | .str width => (Scan.number width).bind fun n ↦ .done (.text n)
  | .bin width => (Scan.number width).bind fun n ↦ .done (.octets n)
  | .fixArray n => .done (.sequence n)
  | .array width => (Scan.number width).bind fun n ↦ .done (.sequence n)
  | .fixMap n => .done (.mapping n)
  | .map width => (Scan.number width).bind fun n ↦ .done (.mapping n)
  | .fixExt n => .done (.extension n)
  | .ext width => (Scan.number width).bind fun n ↦ .done (.extension n)
  | m => m.scalar.bind fun s ↦ .done (.scalar s)

def descend {α : Type} (levels : Nat) (a : α) : Scan α :=
  if levels = 0 then .refuse .depth else .done a

def Token.ofText (s : Octets) : Token :=
  match Utf8.decode s with
  | .ok chars => .text chars
  | .error fault => .badText s fault

def Head.token (levels : Nat) : Head → Scan Token
  | .scalar s => .done (.scalar s)
  | .text length => (Scan.content length).bind fun s ↦ .done (.ofText s)
  | .octets length => (Scan.content length).bind fun s ↦ .done (.octets s)
  | .sequence length => descend levels (.sequence length)
  | .mapping length => descend levels (.mapping length)
  | .extension length => descend levels (.extension length)

def Marker.token (levels : Nat) (m : Marker) : Scan Token := m.head.bind (Head.token levels)

end EntityWire.Wire
