/-!
# ProxyChain.Text.Digits

**Digits**: reading a run of digits in some base, and writing a number in a fixed count of
hexadecimal digits.
-/

namespace ProxyChain.Text

/-- The value of a character as a digit below 36, letters in either case. -/
def digitValue? (c : Char) : Option Nat :=
  if '0' ≤ c ∧ c ≤ '9' then some (c.toNat - 48)
  else if 'a' ≤ c ∧ c ≤ 'z' then some (c.toNat - 87)
  else if 'A' ≤ c ∧ c ≤ 'Z' then some (c.toNat - 55)
  else none

/-- Whether a character is one of the ten decimal digits. -/
def isDecimal (c : Char) : Bool :=
  '0' ≤ c && c ≤ '9'

/-- Whether a character is a hexadecimal digit. -/
def isHex (c : Char) : Bool :=
  isDecimal c || ('a' ≤ c && c ≤ 'f') || ('A' ≤ c && c ≤ 'F')

/-- The number that a non-empty run of digits of the given base denotes. -/
def readDigits? (base : Nat) (cs : List Char) : Option Nat :=
  if cs.isEmpty then none
  else cs.foldlM (fun acc c => do
    let d ← digitValue? c
    if d < base then some (acc * base + d) else none) 0

/-- The number that a text of decimal digits denotes; one plus sign may stand in front. -/
def readNatural? (s : String) : Option Nat :=
  match s.toList with
  | '+' :: cs => readDigits? 10 cs
  | cs => readDigits? 10 cs

/-- One hexadecimal digit in lower case. -/
def hexDigit (n : Nat) : Char :=
  Nat.digitChar (n % 16)

/-- The lowest `width` hexadecimal digits of a number, in lower case, leading zeros kept. -/
def hexDigits (width : Nat) (n : Nat) : List Char :=
  match width with
  | 0 => []
  | w + 1 => hexDigits w (n / 16) ++ [hexDigit n]

/-- A word of 32 bits as eight hexadecimal digits. -/
def hex32 (word : UInt32) : String :=
  String.ofList (hexDigits 8 word.toNat)

@[simp] theorem length_hexDigits (width n : Nat) : (hexDigits width n).length = width := by
  induction width generalizing n with
  | zero => rfl
  | succ w ih => simp [hexDigits, ih]

end ProxyChain.Text
