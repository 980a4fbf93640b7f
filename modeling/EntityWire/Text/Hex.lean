import EntityWire.Text.Utf8

namespace EntityWire.Hex

def digit (n : Nat) : Char := "0123456789abcdef".toList.getD n '0'

def write (s : Octets) : String :=
  String.ofList (s.flatMap fun b ↦ [digit (b.toNat / 16), digit (b.toNat % 16)])

def value? (c : Char) : Option Nat :=
  if '0' ≤ c ∧ c ≤ '9' then some (c.toNat - '0'.toNat)
  else if 'a' ≤ c ∧ c ≤ 'f' then some (c.toNat - 'a'.toNat + 10)
  else if 'A' ≤ c ∧ c ≤ 'F' then some (c.toNat - 'A'.toNat + 10)
  else none

def readDigits : List Char → Option Octets
  | [] => some []
  | [_] => none
  | c :: d :: rest => do
    let high ← value? c
    let low ← value? d
    return UInt8.ofNat (16 * high + low) :: (← readDigits rest)

def read (s : String) : Option Octets := readDigits s.toList

def ofNat (width n : Nat) : String :=
  String.ofList ((List.range width).reverse.map fun i ↦ digit ((n >>> (4 * i)) % 16))

end EntityWire.Hex
