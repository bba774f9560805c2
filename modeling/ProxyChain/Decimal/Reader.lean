import ProxyChain.Decimal.Double
import ProxyChain.Text.Digits

/-!
# ProxyChain.Decimal.Reader

**Reading a decimal as a double.** Two ways of doing it are here. `nearest` to the decimal as a
fraction is exact. `ofDigits?` is the quick way of JSON texts: the digits are collected in a word
of 64 bits, those that do not fit are dropped or counted, and the word is scaled by one power of
ten in double arithmetic. It is off by a bit now and then, and that bit shows when the value is
written again.
-/

namespace ProxyChain.Decimal

/-- The parts of a decimal: the digits in front of the point, those behind it, the exponent. -/
structure Parts where
  whole : List Char
  /-- The digits behind the point; none means that there is no point. -/
  fraction : Option (List Char)
  exponent : Option Int
  deriving Repr, DecidableEq

/-- The digits of some parts, in front of the point and behind it. -/
def Parts.digits (parts : Parts) : List Char :=
  parts.whole ++ parts.fraction.getD []

/-- The exponent that belongs to all digits, read as one integer. -/
def Parts.scale (parts : Parts) : Int :=
  parts.exponent.getD 0 - (parts.fraction.getD []).length

/-- An exponent of ten above that of every double; its negative is below that of all but zero. -/
def beyondRange : Nat := 400

/--
The double nearest to a decimal. One that is out of range by its exponent alone is zero or
infinity, whatever its digits are; so no power is larger than the text.
-/
def Parts.nearest (parts : Parts) : UInt64 :=
  let significand := (Text.readDigits? 10 parts.digits).getD 0
  if significand = 0 || parts.scale + parts.digits.length < -beyondRange then 0
  else if beyondRange < parts.scale then infinity
  else Decimal.nearest (ofScientific significand parts.scale)

/-! ### Double arithmetic -/

/-- The double nearest to a natural number. -/
def ofNat (n : Nat) : UInt64 :=
  nearest ⟨n, 1⟩

/-- The product of two finite doubles without sign. -/
def multiply (a b : UInt64) : UInt64 :=
  nearest ((toFraction a).mul (toFraction b))

/-- The quotient of two finite doubles without sign, the second of them not zero. -/
def divide (a b : UInt64) : UInt64 :=
  nearest ((toFraction a).div (toFraction b))

/-- The largest exponent of a power of ten that is a double. -/
def largestPower : Nat := 308

/-- The double nearest to a power of ten. -/
def powerOfTen (exponent : Nat) : UInt64 :=
  ofNat (Nat.pow 10 exponent)

/-- A word scaled by a power of ten, unless that is too large. -/
def scale? (word : Nat) : (exponent : Int) → Option UInt64
  | .ofNat e =>
    if word = 0 then some 0
    else if largestPower < e then none
    else (some (multiply (ofNat word) (powerOfTen e))).filter (· ≠ infinity)
  | .negSucc n =>
    let e := n + 1
    if e ≤ largestPower then some (divide (ofNat word) (powerOfTen e))
    else
      -- Two steps of this size reach zero from any word.
      some (divide (divide (ofNat word) (powerOfTen largestPower))
        (powerOfTen (min (e - largestPower) largestPower)))

/-! ### Collecting digits -/

/-- Collects digits while they fit into a word; gives the word and the digits that are left. -/
def collect (word : Nat) : List Char → Nat × List Char
  | [] => (word, [])
  | c :: rest =>
    let next := word * 10 + (c.toNat - 48)
    if next < UInt64.size then collect next rest else (word, c :: rest)

/-- Reads the parts of a decimal without sign, unless it is too large. -/
def ofDigits? (parts : Parts) : Option UInt64 :=
  let (whole, dropped) := collect 0 parts.whole
  let fraction := parts.fraction.getD []
  let (word, left) := collect whole fraction
  let used := fraction.length - left.length
  scale? word (parts.exponent.getD 0 + dropped.length - used)

end ProxyChain.Decimal
