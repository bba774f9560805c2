import ProxyChain.Decimal.Double

/-!
# ProxyChain.Decimal.Shortest

**The shortest decimal of a double**: of all decimals that read back as the double, the one with
the fewest digits, and of those the one nearest to the double.

The reals that round to a double form an interval around it, whose ends belong to it when the
significand is even. For one digit, two digits and so on, the two neighbours of the double on the
grid of decimals with that many digits are tried; if the interval holds any point of the grid, it
holds one of these two.

`FloatStyle` says how such a decimal is written; `FloatStyle.plain` is the style of both text
formats of profiles.
-/

namespace ProxyChain.Decimal

/-- The decimal `digits · 10 ^ exponent`. -/
structure Scientific where
  digits : Nat
  exponent : Int
  deriving Repr, DecidableEq

/-- The interval of reals that round to one double. -/
structure Interval where
  low : Fraction
  high : Fraction
  closed : Bool

/-- Whether a fraction lies in the interval. -/
def Interval.contains (i : Interval) (a : Fraction) : Bool :=
  let fromLow := a.num * i.low.den
  let low := i.low.num * a.den
  let fromHigh := a.num * i.high.den
  let high := i.high.num * a.den
  if i.closed then low ≤ fromLow && fromHigh ≤ high else low < fromLow && fromHigh < high

/-- The interval of a finite double above zero. Below a power of two the grid is twice as fine. -/
def Interval.ofDouble (bits : UInt64) : Interval :=
  let (m, e) := dyadic bits
  let fine := m == Nat.pow 2 52 && e > -1074
  ⟨.ofDyadic (4 * m - (if fine then 1 else 2)) (e - 2), .ofDyadic (4 * m + 2) (e - 2), m % 2 == 0⟩

/-- The count of digits in front of the point; for a fraction below one, zero or less. -/
def magnitude10 (a : Fraction) : Int :=
  let isBelow (k : Int) : Bool :=
    let bound := ofScientific 1 k
    a.num * bound.den < bound.num * a.den
  let guess := a.log2 * 1233 / 4096
  if isBelow guess then guess
  else if isBelow (guess + 1) then guess + 1
  else guess + 2

/-- The nearer of the two neighbours on one grid, if one lies in the interval; ties go to even. -/
def onGrid (i : Interval) (a : Fraction) (exponent : Int) : Option Scientific :=
  let scaled := a.div (ofScientific 1 exponent)
  let below := scaled.num / scaled.den
  let holds (d : Nat) : Bool := d != 0 && i.contains (ofScientific d exponent)
  match holds below, holds (below + 1) with
  | false, false => none
  | true, false => some ⟨below, exponent⟩
  | false, true => some ⟨below + 1, exponent⟩
  | true, true => some ⟨scaled.round, exponent⟩

/-- The shortest decimal that reads back as a finite double above zero. -/
def shortest (bits : UInt64) : Scientific :=
  let a := toFraction bits
  let k := magnitude10 a
  let i := Interval.ofDouble bits
  ((List.range 17).findSome? fun (n : Nat) => onGrid i a (k - ((n : Int) + 1))).getD ⟨a.round, 0⟩

/-- A decimal without the zeros at the end of its digits. -/
def Scientific.trimmed (s : Scientific) : Scientific :=
  let zeros := ((Nat.toDigits 10 s.digits).reverse.takeWhile (· == '0')).length
  ⟨s.digits / Nat.pow 10 zeros, s.exponent + zeros⟩

/-- How a double is written. -/
structure FloatStyle where
  /-- The largest count of digits in front of the point that is written without an exponent. -/
  mostWhole : Int
  /-- The largest count of zeros after the point that is written without an exponent. -/
  mostZeros : Int

/-- Sixteen digits in front of the point and five places of a small number need no exponent. -/
def FloatStyle.plain : FloatStyle := ⟨16, 4⟩

/-- A decimal above zero in the given style. -/
def Scientific.render (style : FloatStyle) (s : Scientific) : String :=
  let s := s.trimmed
  let digits := Nat.toDigits 10 s.digits
  let point := (digits.length : Int) + s.exponent
  let zeros (n : Int) : List Char := List.replicate n.toNat '0'
  if 0 ≤ s.exponent ∧ point ≤ style.mostWhole then
    String.ofList (digits ++ zeros s.exponent ++ ['.', '0'])
  else if 0 < point ∧ point ≤ style.mostWhole then
    String.ofList (digits.take point.toNat ++ '.' :: digits.drop point.toNat)
  else if -style.mostZeros ≤ point ∧ point ≤ 0 then
    String.ofList ('0' :: '.' :: zeros (-point) ++ digits)
  else
    let mantissa := match digits with
      | [d] => [d]
      | d :: rest => d :: '.' :: rest
      | [] => []
    String.ofList mantissa ++ "e" ++ toString (point - 1)

/-- The text of a finite double; a zero keeps its sign. -/
def renderDouble (bits : UInt64) : String :=
  let size := magnitude bits
  let text := if size == 0 then "0.0" else (shortest size).render .plain
  if isNegative bits then "-" ++ text else text

end ProxyChain.Decimal
