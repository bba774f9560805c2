/-!
# ProxyChain.Decimal.Double

**Doubles as exact fractions.** A finite double is a bit pattern that stands for a fraction of two
natural numbers and a sign. Everything here is done on those fractions, so rounding is visible to
a proof: `nearest` gives the double nearest to a fraction, a tie going to the even significand.
-/

namespace ProxyChain.Decimal

/-- A non-negative fraction. -/
structure Fraction where
  num : Nat
  den : Nat
  deriving Repr, DecidableEq

namespace Fraction

/-- The fraction `num · 2 ^ exponent`. -/
def ofDyadic (num : Nat) (exponent : Int) : Fraction :=
  match exponent with
  | .ofNat e => ⟨num * Nat.pow 2 e, 1⟩
  | .negSucc e => ⟨num, Nat.pow 2 (e + 1)⟩

/-- The product of two fractions. -/
def mul (a b : Fraction) : Fraction :=
  ⟨a.num * b.num, a.den * b.den⟩

/-- The quotient of two fractions. -/
def div (a b : Fraction) : Fraction :=
  ⟨a.num * b.den, a.den * b.num⟩

/-- The largest `e` with `2 ^ e ≤ a`, for a fraction above zero. -/
def log2 (a : Fraction) : Int :=
  let e : Int := (a.num.log2 : Int) - (a.den.log2 : Int)
  let bound := (ofDyadic 1 e).mul ⟨a.den, 1⟩
  if bound.num ≤ a.num * bound.den then e else e - 1

/-- The integer nearest to a fraction, a tie going to the even one. -/
def round (a : Fraction) : Nat :=
  let q := a.num / a.den
  let r := a.num % a.den
  if 2 * r < a.den then q
  else if a.den < 2 * r then q + 1
  else if q % 2 = 0 then q else q + 1

end Fraction

/-- The bit that holds the sign of a double. -/
def signBit : UInt64 := 0x8000000000000000

/-- The bit pattern of positive infinity; every finite double is below it, the sign aside. -/
def infinity : UInt64 := 0x7FF0000000000000

/-- A bit pattern with or without the sign bit. -/
def withSign (negative : Bool) (bits : UInt64) : UInt64 :=
  if negative then bits ||| signBit else bits

/-- Whether the sign bit of a double is set. -/
def isNegative (bits : UInt64) : Bool :=
  bits &&& signBit != 0

/-- A double without its sign. -/
def magnitude (bits : UInt64) : UInt64 :=
  bits &&& 0x7FFFFFFFFFFFFFFF

/--
The double nearest to a fraction, infinity when the fraction is too large. The exponent and the
significand are added, not joined: a significand that rounds up to the next power of two carries
into the exponent, and one without the leading bit is a subnormal number.
-/
def nearest (a : Fraction) : UInt64 :=
  if a.num = 0 then 0
  else
    let exponent : Int := max (a.log2 - 52) (-1074)
    let significand := (a.div (.ofDyadic 1 exponent)).round
    let bits := (exponent + 1074).toNat * Nat.pow 2 52 + significand
    if bits < infinity.toNat then bits.toUInt64 else infinity

/-- The significand and the exponent of two of a finite double, its sign aside. -/
def dyadic (bits : UInt64) : Nat × Int :=
  let exponent := ((bits >>> 52) &&& 0x7FF).toNat
  let fraction := (bits &&& 0xFFFFFFFFFFFFF).toNat
  if exponent = 0 then (fraction, -1074) else (fraction + Nat.pow 2 52, (exponent : Int) - 1075)

/-- The fraction that a finite double stands for, its sign aside. -/
def toFraction (bits : UInt64) : Fraction :=
  .ofDyadic (dyadic bits).1 (dyadic bits).2

/-- The fraction `significand · 10 ^ exponent`. -/
def ofScientific (significand : Nat) (exponent : Int) : Fraction :=
  match exponent with
  | .ofNat e => ⟨significand * Nat.pow 10 e, 1⟩
  | .negSucc e => ⟨significand, Nat.pow 10 (e + 1)⟩

end ProxyChain.Decimal
