import ProxyChain.Decimal.Reader
import ProxyChain.Json.Value

/-!
# ProxyChain.Json.Token

**Tokens of JSON texts.** A text is cut into punctuation, words, numbers and strings. A number
that is too large and a string with half of a surrogate pair are tokens all the same, without a
value: they are faults only where something reads them.
-/

namespace ProxyChain.Json

/-- A token. -/
inductive Token
  | openBrace
  | closeBrace
  | openBracket
  | closeBracket
  | comma
  | colon
  /-- A word or a number, with its value. -/
  | plain (value : Option Value)
  /-- A string, with its text. -/
  | string (text : Option String)
  deriving Repr

namespace Token

/-! ### Numbers -/

/-- The value of a number that is an integer. -/
def integer (negative : Bool) (n : Nat) : Number :=
  if negative then
    if 0 < n ∧ n ≤ Nat.pow 2 63 then .int (-n) else .float (Decimal.withSign true (Decimal.ofNat n))
  else if n < UInt64.size then .int n
  else .float (Decimal.ofNat n)

/-- The value of a number with these parts. -/
def number? (negative : Bool) (parts : Decimal.Parts) : Option Number :=
  match parts.fraction, parts.exponent, Text.readDigits? 10 parts.whole with
  | none, none, some n =>
    if n < UInt64.size then some (integer negative n)
    else (Decimal.ofDigits? parts).map fun bits => .float (Decimal.withSign negative bits)
  | _, _, _ =>
    (Decimal.ofDigits? parts).map fun bits => .float (Decimal.withSign negative bits)

/-- The digits at the front of a text and what follows. -/
def spanDigits (cs : List Char) : List Char × List Char :=
  (cs.takeWhile Text.isDecimal, cs.dropWhile Text.isDecimal)

/-- The digits behind a point, if there is one. -/
def scanFraction (cs : List Char) : Option (Option (List Char) × List Char) :=
  match cs with
  | '.' :: rest =>
    match spanDigits rest with
    | ([], _) => none
    | (digits, rest) => some (some digits, rest)
  | _ => some (none, cs)

/-- The digits of an exponent with its sign. -/
def scanSignedDigits (cs : List Char) : Option (Int × List Char) :=
  let (negative, cs) := match cs with
    | '-' :: rest => (true, rest)
    | '+' :: rest => (false, rest)
    | _ => (false, cs)
  let (digits, rest) := spanDigits cs
  (Text.readDigits? 10 digits).map fun n => (if negative then -(n : Int) else n, rest)

/-- An exponent, if there is one. -/
def scanExponent (cs : List Char) : Option (Option Int × List Char) :=
  match cs with
  | 'e' :: rest | 'E' :: rest =>
    (scanSignedDigits rest).map fun (exponent, rest) => (some exponent, rest)
  | _ => some (none, cs)

/-- A number without its sign. A zero in front is the only digit there. -/
def scanNumber (negative : Bool) (cs : List Char) : Option (Token × List Char) := do
  let (whole, rest) := spanDigits cs
  if whole.isEmpty || (whole.head? == some '0' && whole.length != 1) then none
  else
    let (fraction, rest) ← scanFraction rest
    let (exponent, rest) ← scanExponent rest
    return (.plain ((number? negative ⟨whole, fraction, exponent⟩).map .number), rest)

/-! ### Strings -/

/-- Four hexadecimal digits. -/
def scanUnit : List Char → Option (Nat × List Char)
  | a :: b :: c :: d :: rest =>
    if [a, b, c, d].all Text.isHex then
      (Text.readDigits? 16 [a, b, c, d]).map fun n => (n, rest)
    else none
  | _ => none

/-- What a code unit is. -/
inductive UnitKind
  | character
  | leading
  | trailing
  deriving DecidableEq

/-- What a code unit is. -/
def UnitKind.ofUnit (unit : Nat) : UnitKind :=
  if 0xD800 ≤ unit ∧ unit < 0xDC00 then leading
  else if 0xDC00 ≤ unit ∧ unit < 0xE000 then trailing
  else character

/-- The character of an escape with one letter. -/
def escaped? : Char → Option Char
  | '"' => some '"'
  | '\\' => some '\\'
  | '/' => some '/'
  | 'b' => some '\x08'
  | 'f' => some '\x0c'
  | 'n' => some '\n'
  | 'r' => some '\r'
  | 't' => some '\t'
  | _ => none

/--
The pieces of a string up to the closing quote: characters, and code units that were written by
their number.
-/
def scanPieces (cs : List Char) : Option (List (Char ⊕ Nat) × List Char) :=
  match cs with
  | [] => none
  | '"' :: rest => some ([], rest)
  | '\\' :: 'u' :: a :: b :: c :: d :: rest => do
    let (unit, _) ← scanUnit [a, b, c, d]
    let (pieces, rest) ← scanPieces rest
    return (.inr unit :: pieces, rest)
  | '\\' :: c :: rest => do
    let c ← escaped? c
    let (pieces, rest) ← scanPieces rest
    return (.inl c :: pieces, rest)
  | c :: rest =>
    if c < ' ' ∨ c = '\\' then none
    else do
      let (pieces, rest) ← scanPieces rest
      return (.inl c :: pieces, rest)

/-- The characters of pieces, each pair of surrogates being one. -/
def joinPieces : List (Char ⊕ Nat) → Option (List Char)
  | [] => some []
  | .inl c :: rest => (joinPieces rest).map (c :: ·)
  | .inr unit :: rest =>
    match UnitKind.ofUnit unit, rest with
    | .character, rest => (joinPieces rest).map (Char.ofNat unit :: ·)
    | .leading, .inr low :: rest =>
      if UnitKind.ofUnit low = .trailing then
        (joinPieces rest).map
          (Char.ofNat (0x10000 + (unit - 0xD800) * 0x400 + (low - 0xDC00)) :: ·)
      else none
    | _, _ => none

/-! ### Texts -/

/-- Whether a character may stand between tokens. -/
def isSpace (c : Char) : Bool :=
  c = ' ' || c = '\n' || c = '\t' || c = '\r'

/-- The token at the front of a text that does not begin with a space. -/
def scan (cs : List Char) : Option (Token × List Char) :=
  match cs with
  | '\x7b' :: rest => some (.openBrace, rest)
  | '\x7d' :: rest => some (.closeBrace, rest)
  | '[' :: rest => some (.openBracket, rest)
  | ']' :: rest => some (.closeBracket, rest)
  | ',' :: rest => some (.comma, rest)
  | ':' :: rest => some (.colon, rest)
  | 'n' :: 'u' :: 'l' :: 'l' :: rest => some (.plain (some .null), rest)
  | 't' :: 'r' :: 'u' :: 'e' :: rest => some (.plain (some (.bool true)), rest)
  | 'f' :: 'a' :: 'l' :: 's' :: 'e' :: rest => some (.plain (some (.bool false)), rest)
  | '"' :: rest =>
    (scanPieces rest).map fun (pieces, rest) =>
      (.string ((joinPieces pieces).map String.ofList), rest)
  | '-' :: rest => scanNumber true rest
  | cs => scanNumber false cs

/-- The tokens of a text, given a bound on their count. -/
def scanAll : (bound : Nat) → List Char → Option (List Token)
  | 0, cs => if cs.all isSpace then some [] else none
  | bound + 1, cs =>
    match cs.dropWhile isSpace with
    | [] => some []
    | cs => do
      let (token, rest) ← scan cs
      return token :: (← scanAll bound rest)

/-- The tokens of a text. Each has at least one character. -/
def ofText (text : String) : Option (List Token) :=
  scanAll text.length text.toList

end Token

end ProxyChain.Json
