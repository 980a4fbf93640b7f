namespace EntityWire

structure Binary64 where
  bits : UInt64
  deriving DecidableEq, Repr, Inhabited

structure Binary32 where
  bits : UInt32
  deriving DecidableEq, Repr, Inhabited

def twoTo (n : Nat) : Nat := 1 <<< n

/-- `m` in units of `2 ^ s`, rounded to the nearest integer, a tie to the even one. -/
def roundShift (m s : Nat) : Nat :=
  let q := m / twoTo s
  let r := 2 * (m % twoTo s)
  if r < twoTo s then q else if twoTo s < r then q + 1 else q + q % 2

namespace Binary64

variable (x y : Binary64)

def negative : Bool := twoTo 63 ≤ x.bits.toNat

def magnitude : Nat := x.bits.toNat % twoTo 63

def exponentField : Nat := x.magnitude / twoTo 52

def fraction : Nat := x.bits.toNat % twoTo 52

def isFinite : Bool := x.exponentField < 2047

def isNaN : Bool := 2047 * twoTo 52 < x.magnitude

/-- Patterns of non-negative numbers ascend with the numbers, so the magnitude with its sign
orders all numbers; both zeros have rank 0. -/
def rank : Int := if x.negative then -x.magnitude else x.magnitude

/-- The order of the numbers; a NaN is below and above nothing. -/
def le : Bool := !x.isNaN && !y.isNaN && x.rank ≤ y.rank

/-- Equality of the numbers: the zeros are equal, a NaN differs from itself. -/
def same : Bool := !x.isNaN && !y.isNaN && x.rank == y.rank

def toFloat : Float := Float.ofBits x.bits

def ofFloat (f : Float) : Binary64 := ⟨f.toBits⟩

instance : Add Binary64 := ⟨fun x y ↦ ofFloat (x.toFloat + y.toFloat)⟩
instance : Sub Binary64 := ⟨fun x y ↦ ofFloat (x.toFloat - y.toFloat)⟩
instance : Mul Binary64 := ⟨fun x y ↦ ofFloat (x.toFloat * y.toFloat)⟩
instance : Div Binary64 := ⟨fun x y ↦ ofFloat (x.toFloat / y.toFloat)⟩

def abs : Binary64 := ⟨UInt64.ofNat x.magnitude⟩

def negated : Binary64 := ⟨x.bits ^^^ 0x8000000000000000⟩

def ofUnsigned (n : UInt64) : Binary64 := ofFloat n.toFloat

/-- Rounding to nearest is the same on both sides of zero. -/
def ofSigned (n : Int64) : Binary64 :=
  let size := ofUnsigned (UInt64.ofNat n.toInt.natAbs)
  if n.toInt < 0 then size.negated else size

def ofDecimal (m : Nat) (e : Int) : Binary64 := ofFloat (Float.ofScientific m (e < 0) e.natAbs)

def zero : Binary64 := ⟨0⟩

def one : Binary64 := ⟨0x3ff0000000000000⟩

/-- The nearest number of the narrow format. Its pattern is the rounded mantissa added to the
place of its exponent, so a carry moves on to the next exponent and, at the end, to infinity;
a NaN keeps the upper part of its payload and becomes quiet. -/
def narrow : Binary32 :=
  let sign := if x.negative then twoTo 31 else 0
  let body :=
    if x.isNaN then 255 * twoTo 23 + (x.fraction / twoTo 29 ||| twoTo 22)
    else if !x.isFinite then 255 * twoTo 23
    else
      let m := if x.exponentField = 0 then x.fraction else x.fraction + twoTo 52
      -- the mantissa counts units of 2 ^ (e - 1075); narrow units are 2 ^ 29 of these or 2 ^ (-149)
      let e := max x.exponentField 1
      let place := max (e + m.log2) 949 - 949
      let r := roundShift m (place + 926 - e)
      min (place * twoTo 23 + r) (255 * twoTo 23)
  ⟨UInt32.ofNat (sign + body)⟩

end Binary64

namespace Binary32

variable (x y : Binary32)

def negative : Bool := twoTo 31 ≤ x.bits.toNat

def magnitude : Nat := x.bits.toNat % twoTo 31

def exponentField : Nat := x.magnitude / twoTo 23

def fraction : Nat := x.bits.toNat % twoTo 23

def isFinite : Bool := x.exponentField < 255

def isNaN : Bool := 255 * twoTo 23 < x.magnitude

def rank : Int := if x.negative then -x.magnitude else x.magnitude

def same : Bool := !x.isNaN && !y.isNaN && x.rank == y.rank

def ofUnsigned (n : UInt64) : Binary32 := ⟨n.toFloat32.toBits⟩

def negated : Binary32 := ⟨x.bits ^^^ 0x80000000⟩

def ofSigned (n : Int64) : Binary32 :=
  let size := ofUnsigned (UInt64.ofNat n.toInt.natAbs)
  if n.toInt < 0 then size.negated else size

def zero : Binary32 := ⟨0⟩

/-- The same number in the wide format; a NaN keeps its payload and becomes quiet. -/
def widen : Binary64 :=
  let sign := if x.negative then twoTo 63 else 0
  let body :=
    if x.isNaN then 2047 * twoTo 52 + (x.fraction * twoTo 29 ||| twoTo 51)
    else if !x.isFinite then 2047 * twoTo 52
    else if x.exponentField ≠ 0 then (x.exponentField + 896) * twoTo 52 + x.fraction * twoTo 29
    else if x.fraction = 0 then 0
    else
      -- the leading one of a number below the normal range becomes the hidden bit
      let k := x.fraction.log2
      (k + 873) * twoTo 52 + x.fraction * twoTo (52 - k)
  ⟨UInt64.ofNat (sign + body)⟩

end Binary32

end EntityWire
