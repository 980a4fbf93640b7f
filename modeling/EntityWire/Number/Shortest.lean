import EntityWire.Number.Binary

namespace EntityWire

/-- A positive number `mantissa * 2 ^ exponent` and the reals that round to it: half a unit of
the mantissa on both sides, a quarter below if the neighbour below is half as far. -/
structure Dyadic where
  mantissa : Nat
  exponent : Int
  narrowBelow : Bool
  deriving Repr

structure Decimal where
  digits : Nat
  exponent : Int
  deriving DecidableEq, Repr

/-- Which of two neighbours on a grid stands for a value in the exact middle. -/
inductive Tie
  | upper
  | even
  deriving DecidableEq, Repr

namespace Dyadic

variable (d : Dyadic) (tie : Tie)

def quarters : Nat × Nat × Nat :=
  (4 * d.mantissa - (if d.narrowBelow then 1 else 2), 4 * d.mantissa, 4 * d.mantissa + 2)

def scales (j : Int) : Nat × Nat :=
  (twoTo (d.exponent - 2).toNat * Nat.pow 10 (-j).toNat,
    Nat.pow 10 j.toNat * twoTo (2 - d.exponent).toNat)

def contains (k : Nat) (j : Int) : Bool :=
  let (quarter, step) := d.scales j
  let (low, _, high) := d.quarters
  if d.mantissa % 2 = 0 then low * quarter ≤ k * step ∧ k * step ≤ high * quarter
  else low * quarter < k * step ∧ k * step < high * quarter

def onGrid (j : Int) : Option Nat :=
  let (quarter, step) := d.scales j
  let value := 4 * d.mantissa * quarter
  let below := value / step
  let nearest :=
    match compare (2 * value) ((2 * below + 1) * step), tie with
    | .lt, _ => below
    | .gt, _ | .eq, .upper => below + 1
    | .eq, .even => below + below % 2
  match d.contains below j, d.contains (below + 1) j with
  | true, true => some nearest
  | true, false => some below
  | false, true => some (below + 1)
  | false, false => none

def search : Nat → Int → Decimal
  | 0, j => ⟨0, j⟩
  | n + 1, j =>
    match d.onGrid tie j with
    | some k => ⟨k, j⟩
    | none => search n (j - 1)

/-- A power of ten above the number: two more than its count of decimal digits. -/
def ceiling : Int := Int.fdiv ((d.mantissa.log2 + d.exponent) * 30103) 100000 + 2

/-- Twenty-five grids reach below a unit of a mantissa of 53 bits. -/
def shortest : Decimal := d.search tie 25 d.ceiling

end Dyadic

inductive Reading
  | nan
  | infinite (negative : Bool)
  | zero (negative : Bool)
  | finite (negative : Bool) (size : Dyadic)

def Binary64.reading (x : Binary64) : Reading :=
  if x.isNaN then .nan
  else if !x.isFinite then .infinite x.negative
  else if x.magnitude = 0 then .zero x.negative
  else if x.exponentField = 0 then .finite x.negative ⟨x.fraction, -1074, false⟩
  else .finite x.negative ⟨x.fraction + twoTo 52, x.exponentField - 1075, x.fraction = 0⟩

def Binary32.reading (x : Binary32) : Reading :=
  if x.isNaN then .nan
  else if !x.isFinite then .infinite x.negative
  else if x.magnitude = 0 then .zero x.negative
  else if x.exponentField = 0 then .finite x.negative ⟨x.fraction, -149, false⟩
  else .finite x.negative ⟨x.fraction + twoTo 23, x.exponentField - 150, x.fraction = 0⟩

end EntityWire
