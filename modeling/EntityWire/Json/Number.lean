import EntityWire.Json.Reader

namespace EntityWire.Json

inductive Number
  | unsigned (n : UInt64)
  | signed (n : Int64)
  | float (x : Binary64)

def Number.found : Number → Found
  | .unsigned n => .unsigned n
  | .signed n => .signed n
  | .float x => .float x

def Number.value : Number → Json
  | .unsigned n => .unsigned n
  | .signed n => .signed n
  | .float x => .float x

namespace Reader

def digit? (c : Char) : Option Nat :=
  if '0' ≤ c ∧ c ≤ '9' then some (c.toNat - '0'.toNat) else none

def isDigit (c : Char) : Bool := (digit? c).isSome

def digits : Reader (List Nat) := fun s ↦
  .ok ((s.takeWhile isDigit).filterMap digit?, s.dropWhile isDigit)

/-- Takes digits into `n` while it fits a word; gives it with the digits that no longer do. -/
def gather (n : Nat) : List Nat → Nat × List Nat
  | [] => (n, [])
  | d :: ds => if 10 * n + d < UInt64.size then gather (10 * n + d) ds else (n, d :: ds)

def greatestPower : Nat := 308

/-- Divides by the greatest power of ten as often as the exponent is below it, which is zero after
a few times, and scales by what is left of the exponent. -/
def scale : Nat → Binary64 → Int → Except Fault Binary64
  | 0, f, _ => .ok f
  | n + 1, f, e =>
    if e.natAbs ≤ greatestPower then
      let power := Binary64.ofDecimal 1 e.natAbs
      if 0 ≤ e then
        let g := f * power
        if g.isFinite then .ok g else .error .outOfRange
      else .ok (f / power)
    else if f.magnitude = 0 then .ok f
    else if 0 ≤ e then .error .outOfRange
    else scale n (f / .ofDecimal 1 greatestPower) (e + greatestPower)

def scaled (negative : Bool) (n : Nat) (e : Int) : Reader Binary64 := fun s ↦ do
  let f ← scale 8 (.ofUnsigned (UInt64.ofNat n)) e
  return (if negative then f.negated else f, s)

def exponentLimit : Nat := 0x7fffffff

/-- A written exponent in limits, as its digits come. -/
def exponentOf : List Nat → Option Nat :=
  List.foldlM (fun e d ↦ if 10 * e + d ≤ exponentLimit then some (10 * e + d) else none) 0

def exponent (negative : Bool) (n : Nat) (e : Int) : Reader Binary64 := do
  let below := (← peek) = some '-'
  if below || (← peek) = some '+' then drop
  match ← peek with
  | none => fail .valueUnfinished
  | some c =>
    if !isDigit c then fail .badNumber
    else
      match exponentOf (← digits) with
      | some written =>
        let total := if below then e - written else e + written
        scaled negative n (max (-0x80000000) (min total exponentLimit))
      | none =>
        if n ≠ 0 && !below then fail .outOfRange
        else return if negative then Binary64.zero.negated else .zero

def isExponentMark (c : Option Char) : Bool := c = some 'e' || c = some 'E'

def exponentOrEnd (negative : Bool) (n : Nat) (e : Int) : Reader Binary64 := do
  if isExponentMark (← peek) then
    drop
    exponent negative n e
  else scaled negative n e

/-- A number with a fraction, behind the point. Digits that do not fit are passed over. -/
def fraction (negative : Bool) (n : Nat) (e : Int) : Reader Binary64 := do
  let ds ← digits
  if ds.isEmpty then
    match ← peek with
    | some _ => fail .badNumber
    | none => fail .valueUnfinished
  else
    let (n, left) := gather n ds
    exponentOrEnd negative n (e - (ds.length - left.length : Nat))

def afterInteger (negative : Bool) (n : Nat) (e : Int) : Reader Binary64 := do
  if (← peek) = some '.' then
    drop
    fraction negative n e
  else exponentOrEnd negative n e

def integer (negative : Bool) (n : Nat) : Number :=
  if !negative then .unsigned (UInt64.ofNat n)
  else if n = 0 || 0x8000000000000000 < n then .float (Binary64.ofUnsigned (UInt64.ofNat n)).negated
  else .signed (Int64.ofInt (-n))

def number (negative : Bool) : Reader Number := do
  match ← peek with
  | none => fail .valueUnfinished
  | some c =>
    match digit? c with
    | none => fail .badNumber
    | some lead =>
      drop
      let ds ← if lead = 0 then pure [] else digits
      if lead = 0 && (← peek).any isDigit then fail .badNumber
      else
        let (n, left) := gather lead ds
        let mark ← peek
        if left.isEmpty && mark ≠ some '.' && !isExponentMark mark then
          return integer negative n
        else return .float (← afterInteger negative n left.length)

def skipExponent : Reader Unit := do
  let sign ← peek
  if sign = some '+' || sign = some '-' then drop
  if (← digits).isEmpty then fail .badNumber

def skipNumber : Reader Unit := do
  match ← peek with
  | some '0' =>
    drop
    if (← peek).any isDigit then fail .badNumber
  | _ => if (← digits).isEmpty then fail .badNumber
  if (← peek) = some '.' then
    drop
    if (← digits).isEmpty then fail .badNumber
  if isExponentMark (← peek) then
    drop
    skipExponent

end Reader

end EntityWire.Json
