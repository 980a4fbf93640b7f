import EntityWire.Text.Utf8
import EntityWire.Number.Binary

namespace EntityWire.Wire

def bigEndian : Nat → Nat → Octets
  | 0, _ => []
  | width + 1, n => UInt8.ofNat (n >>> (8 * width)) :: bigEndian width n

def writeNull : Octets := [0xc0]

def writeBool (b : Bool) : Octets := [if b then 0xc3 else 0xc2]

def writeUnsigned (n : Nat) : Octets :=
  if n < 0x80 then [UInt8.ofNat n]
  else if n < 0x100 then 0xcc :: bigEndian 1 n
  else if n < 0x10000 then 0xcd :: bigEndian 2 n
  else if n < 0x100000000 then 0xce :: bigEndian 4 n
  else 0xcf :: bigEndian 8 n

/-- A negative number in two's complement; others as unsigned ones. -/
def writeSigned (i : Int) : Octets :=
  if 0 ≤ i then writeUnsigned i.toNat
  else if -0x20 ≤ i then [UInt8.ofNat (i + 0x100).toNat]
  else if -0x80 ≤ i then 0xd0 :: bigEndian 1 (i + 0x100).toNat
  else if -0x8000 ≤ i then 0xd1 :: bigEndian 2 (i + 0x10000).toNat
  else if -0x80000000 ≤ i then 0xd2 :: bigEndian 4 (i + 0x100000000).toNat
  else 0xd3 :: bigEndian 8 (i + 0x10000000000000000).toNat

def writeSingle (x : Binary32) : Octets := 0xca :: bigEndian 4 x.bits.toNat

def writeDouble (x : Binary64) : Octets := 0xcb :: bigEndian 8 x.bits.toNat

/-- A length has 32 bits on the wire, and of a greater one the lowest are left. -/
def counted (n : Nat) : Nat := n % 0x100000000

def textHead (n : Nat) : Octets :=
  let n := counted n
  if n < 0x20 then [UInt8.ofNat (0xa0 + n)]
  else if n < 0x100 then 0xd9 :: bigEndian 1 n
  else if n < 0x10000 then 0xda :: bigEndian 2 n
  else 0xdb :: bigEndian 4 n

def sequenceHead (n : Nat) : Octets :=
  let n := counted n
  if n < 0x10 then [UInt8.ofNat (0x90 + n)]
  else if n < 0x10000 then 0xdc :: bigEndian 2 n
  else 0xdd :: bigEndian 4 n

def mappingHead (n : Nat) : Octets :=
  let n := counted n
  if n < 0x10 then [UInt8.ofNat (0x80 + n)]
  else if n < 0x10000 then 0xde :: bigEndian 2 n
  else 0xdf :: bigEndian 4 n

def writeText (s : String) : Octets :=
  let octets := Utf8.encode s
  textHead octets.length ++ octets

def writeSequence (items : List Octets) : Octets := sequenceHead items.length ++ items.flatten

def writeMapping (entries : List (Octets × Octets)) : Octets :=
  mappingHead entries.length ++ entries.flatMap fun e ↦ e.1 ++ e.2

end EntityWire.Wire
