import ProxyChain.Decimal.Double

/-!
# ProxyChain.Decimal.Fixed

**Decimals with a fixed count of places**: the decimal nearest to a finite double, a tie going to
the even last digit. The sign is kept also in front of zero.
-/

namespace ProxyChain.Decimal

/-- A natural number with a point in front of its last digits. -/
def pointed (places scaled : Nat) : String :=
  let digits := (toString scaled).toList
  let padded := List.replicate (places + 1 - digits.length) '0' ++ digits
  let cut := padded.length - places
  String.ofList (padded.take cut ++ '.' :: padded.drop cut)

/-- A finite double with some places. -/
def fixed (places : Nat) (bits : UInt64) : String :=
  let scaled := ((toFraction (magnitude bits)).mul ⟨Nat.pow 10 places, 1⟩).round
  (if isNegative bits then "-" else "") ++ pointed places scaled

end ProxyChain.Decimal
