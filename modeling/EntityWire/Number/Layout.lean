import EntityWire.Number.Shortest

namespace EntityWire

/-- A layout writes a number positionally if the exponent of its leading digit lies in
`positional` (always, if that is absent), else with one digit before the point. -/
structure Layout where
  positional : Option (Int × Int)
  keepsPoint : Bool
  exponentSign : Bool
  tie : Tie

namespace Layout

def plain : Layout := ⟨none, false, false, .upper⟩

def pointed : Layout := ⟨none, true, false, .upper⟩

def diagnostic : Layout := ⟨some (-4, 15), true, false, .upper⟩

def signed : Layout := ⟨some (-5, 15), true, true, .even⟩

def zeros (n : Nat) : String := String.ofList (List.replicate n '0')

variable (l : Layout)

def writePositional (digits : List Char) (e : Int) : String :=
  if 0 ≤ e then String.ofList digits ++ zeros e.toNat ++ (if l.keepsPoint then ".0" else "")
  else
    let places := (-e).toNat
    if places < digits.length then
      String.ofList (digits.take (digits.length - places)) ++ "." ++
        String.ofList (digits.drop (digits.length - places))
    else "0." ++ zeros (places - digits.length) ++ String.ofList digits

def writeScientific (digits : List Char) (lead : Int) : String :=
  String.ofList (digits.take 1) ++
    (if digits.length = 1 then "" else "." ++ String.ofList (digits.drop 1)) ++ "e" ++
    (if lead < 0 then "-" else if l.exponentSign then "+" else "") ++ toString lead.natAbs

def writeDecimal (d : Decimal) : String :=
  let all := Nat.toDigits 10 d.digits
  let digits := (all.reverse.dropWhile (· = '0')).reverse
  let e := d.exponent + (all.length - digits.length : Nat)
  let lead := e + digits.length - 1
  match l.positional with
  | none => l.writePositional digits e
  | some (low, high) =>
    if low ≤ lead ∧ lead ≤ high then l.writePositional digits e else l.writeScientific digits lead

def write (r : Reading) : String :=
  let sign (negative : Bool) := if negative then "-" else ""
  match r with
  | .nan => "NaN"
  | .infinite negative => sign negative ++ "inf"
  | .zero negative => sign negative ++ (if l.keepsPoint then "0.0" else "0")
  | .finite negative size => sign negative ++ l.writeDecimal (size.shortest l.tie)

end Layout

def Binary64.write (x : Binary64) (l : Layout) : String := l.write x.reading

def Binary32.write (x : Binary32) (l : Layout) : String := l.write x.reading

end EntityWire
