import ProxyChain.Decimal.Reader
import ProxyChain.Json.Value

/-!
# ProxyChain.Yaml.Plain

**What a plain scalar means.** The same text may stand for nothing, a truth value, a number or
itself. The reader asks this of every plain scalar, and the printer asks it of every text that it
would like to write without quotes.
-/

namespace ProxyChain.Yaml.Plain

/-- Whether a text stands for nothing. -/
def isNull (text : String) : Bool :=
  ["null", "Null", "NULL", "~"].contains text

/-- The truth value that a text stands for. -/
def flag? (text : String) : Option Bool :=
  if ["true", "True", "TRUE"].contains text then some true
  else if ["false", "False", "FALSE"].contains text then some false
  else none

/-- Whether a text is digits with a zero in front, which is no number. -/
def isPadded (text : String) : Bool :=
  let digits := match text.toList with
    | '+' :: rest | '-' :: rest => rest
    | cs => cs
  1 < digits.length && digits.head? == some '0' && digits.all Text.isDecimal

/-- The number of a text that may begin with the mark of a base. -/
def basedNumber? (cs : List Char) : Option Nat :=
  match cs with
  | '0' :: 'x' :: rest => Text.readDigits? 16 rest
  | '0' :: 'o' :: rest => Text.readDigits? 8 rest
  | '0' :: 'b' :: rest => Text.readDigits? 2 rest
  | _ => none

/-- The natural number of any size that a text stands for. -/
def natural? (text : String) : Option Nat :=
  let cs := match text.toList with
    | '+' :: rest => rest
    | cs => cs
  (basedNumber? cs).or (if isPadded text then none else Text.readDigits? 10 cs)

/-- The size of the negative number that a text stands for. -/
def negative? (text : String) : Option Nat :=
  match text.toList with
  | '-' :: cs => (basedNumber? cs).or (if isPadded text then none else Text.readDigits? 10 cs)
  | _ => none

/-- The parts of a decimal without sign. -/
def decimalParts? (cs : List Char) : Option Decimal.Parts := do
  let whole := cs.takeWhile Text.isDecimal
  let rest := cs.dropWhile Text.isDecimal
  let (fraction, rest) := match rest with
    | '.' :: rest => (some (rest.takeWhile Text.isDecimal), rest.dropWhile Text.isDecimal)
    | _ => (none, rest)
  if whole.isEmpty && (fraction.getD []).isEmpty then none
  else match rest with
    | [] => some ⟨whole, fraction, none⟩
    | e :: rest =>
      if e == 'e' || e == 'E' then
        let (negative, digits) := match rest with
          | '-' :: rest => (true, rest)
          | '+' :: rest => (false, rest)
          | _ => (false, rest)
        if digits.all Text.isDecimal then
          (Text.readDigits? 10 digits).map fun n =>
            ⟨whole, fraction, some (if negative then -(n : Int) else n)⟩
        else none
      else none

/-- The finite double that a text stands for. -/
def double? (text : String) : Option UInt64 :=
  let (negative, cs) := match text.toList with
    | '-' :: rest => (true, rest)
    | '+' :: rest => (false, rest)
    | cs => (false, cs)
  match decimalParts? cs with
  | some parts =>
    let size := parts.nearest
    if size = Decimal.infinity then none else some (Decimal.withSign negative size)
  | none => none

/-- Whether a text stands for an infinity or for no number. -/
def isSpecialDouble (text : String) : Bool :=
  [".inf", ".Inf", ".INF", "+.inf", "+.Inf", "+.INF", "-.inf", "-.Inf", "-.INF", ".nan", ".NaN",
    ".NAN"].contains text

/-- What a plain text is. -/
inductive Meaning
  | null
  | flag (value : Bool)
  | integer (value : Int)
  /-- A double; there is no value for infinities. -/
  | double (bits : Option UInt64)
  | text
  deriving DecidableEq

/-- The largest size of an integer that is recognized as one. -/
def integerBound : Nat := Nat.pow 2 128

/-- What a plain text is. -/
def meaning (text : String) : Meaning :=
  if text = "" || isNull text then .null
  else match flag? text with
    | some b => .flag b
    | none =>
      match (natural? text).filter (· < integerBound),
          (negative? text).filter (· ≤ integerBound / 2) with
      | some n, _ => .integer n
      | none, some n => .integer (-n)
      | none, none =>
        if isPadded text then .text
        else if isSpecialDouble text then .double none
        else match double? text with
          | some bits => .double (some bits)
          | none => .text

/-- The value of an integer, unless it is too large. -/
def integerValue (n : Int) : Option Json.Value :=
  if -(Nat.pow 2 63) ≤ n ∧ n < UInt64.size then some (.number (.int n)) else none

/-- The value of a plain text. -/
def Meaning.value (text : String) : Meaning → Option Json.Value
  | null => some .null
  | flag b => some (.bool b)
  | integer n => integerValue n
  | double (some bits) => some (.number (.float bits))
  | double none => some .null
  | .text => some (.string text)

end ProxyChain.Yaml.Plain
