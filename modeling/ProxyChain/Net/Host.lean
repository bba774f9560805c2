import ProxyChain.Net.Address
import ProxyChain.Net.Percent

/-!
# ProxyChain.Net.Host

**Hosts of resource addresses.** A host of a web address is an Internet address or a domain name
in its ASCII form; numbers in a domain name's place are read as an address of version 4, also in
the old short and octal forms. The host of any other address is kept as it is written.
-/

namespace ProxyChain.Net

/-- What is wrong with a resource address. -/
inductive UrlFault
  | noScheme
  | emptyHost
  | invalidPort
  | invalidV4
  | invalidV6
  | invalidDomain
  | invalidCharacter
  | pathless
  deriving Repr, DecidableEq

/-- The wording of a fault. -/
def UrlFault.message : UrlFault → String
  | noScheme => "relative URL without a base"
  | emptyHost => "empty host"
  | invalidPort => "invalid port number"
  | invalidV4 => "invalid IPv4 address"
  | invalidV6 => "invalid IPv6 address"
  | invalidDomain => "invalid international domain name"
  | invalidCharacter => "invalid domain character"
  | pathless => "relative URL with a cannot-be-a-base base"

namespace Host

/-! ### Version 6 -/

/-- How many groups at the front are zero. -/
def zeroRun (groups : List Nat) : Nat :=
  (groups.takeWhile (· == 0)).length

/-- Where the first of the longest runs of zeros begins, and how long it is. -/
def longestRun (groups : List Nat) : Nat × Nat :=
  (List.range groups.length).foldl (fun (best : Nat × Nat) start =>
    let length := zeroRun (groups.drop start)
    if best.2 < length then (start, length) else best) (0, 0)

/-- Groups in hexadecimal digits with colons between them. -/
def groupsText (groups : List Nat) : String :=
  ":".intercalate (groups.map fun group => String.ofList (Nat.toDigits 16 group))

/-- The text of an address of version 6; the longest run of zeros is left out. -/
def v6Text (groups : List Nat) : String :=
  let (start, length) := longestRun groups
  if length < 2 then groupsText groups
  else s!"{groupsText (groups.take start)}::{groupsText (groups.drop (start + length))}"

/-! ### Version 4 -/

/-- A number in decimal, octal or hexadecimal digits, told apart by how it begins. -/
def readNumber? (cs : List Char) : Option Nat :=
  match cs with
  | '0' :: 'x' :: rest | '0' :: 'X' :: rest =>
    if rest.isEmpty then some 0 else Text.readDigits? 16 rest
  | '0' :: d :: rest => Text.readDigits? 8 (d :: rest)
  | cs => Text.readDigits? 10 cs

/-- The parts of a name between points; one point at the end is left out. -/
def labels (cs : List Char) : List (List Char) :=
  let parts := cs.splitOn '.'
  if 1 < parts.length && parts.getLast? == some [] then parts.dropLast else parts

/-- Whether a name ends in a number, so that it has to be an address. -/
def endsInNumber (cs : List Char) : Bool :=
  match (labels cs).getLast? with
  | some last => !last.isEmpty && (last.all Text.isDecimal || (readNumber? last).isSome)
  | none => false

/-- The address that numbers stand for; the last one fills the octets that are left. -/
def joinNumbers? (numbers : List Nat) : Option Nat :=
  let octets := numbers.dropLast
  let last := numbers.getLast?.getD 0
  let room := Nat.pow 256 (4 - octets.length)
  if octets.all (· < 256) && last < room then
    some (octets.foldl (fun acc n => acc * 256 + n) 0 * room + last)
  else none

/-- The text of an address of version 4. -/
def v4Text (address : Nat) : String :=
  ".".intercalate ([24, 16, 8, 0].map fun shift => toString (address >>> shift % 256))

/-- An address of version 4 in any of its forms. -/
def readV4? (cs : List Char) : Option String := do
  let parts := labels cs
  if parts.length ≤ 4 then
    return v4Text (← joinNumbers? (← parts.mapM readNumber?))
  else none

/-! ### Domain names -/

/-- The digit of the ASCII form of a label. -/
def codeDigit (n : Nat) : Char :=
  if n < 26 then Char.ofNat (97 + n) else Char.ofNat (22 + n)

/-- The next bias, by how far the last step went. -/
def adaptBias (first : Bool) (delta count : Nat) : Nat :=
  let delta := if first then delta / 700 else delta / 2
  let rec reduce : Nat → Nat → Nat → Nat
    | 0, delta, k => k + 36 * delta / (delta + 38)
    | fuel + 1, delta, k =>
      if delta ≤ 455 then k + 36 * delta / (delta + 38) else reduce fuel (delta / 35) (k + 36)
  reduce 8 (delta + delta / count) 0

/-- A number in digits of which each has a threshold of its own. -/
def variableDigits (bias : Nat) : (steps : Nat) → (k q : Nat) → List Char
  | 0, _, q => [codeDigit q]
  | steps + 1, k, q =>
    let t := if k ≤ bias then 1 else min (k - bias) 26
    if q < t then [codeDigit q]
    else codeDigit (t + (q - t) % (36 - t)) ::
      variableDigits bias steps (k + 36) ((q - t) / (36 - t))

/-- Where the encoding of a label is. -/
structure LabelState where
  output : List Char
  delta : Nat
  bias : Nat
  handled : Nat

/-- Encodes the characters of a label with one code, given how many basic ones there are. -/
def encodeCode (basic code : Nat) (label : List Nat) (s : LabelState) : LabelState :=
  label.foldl (fun s c =>
    if c < code then { s with delta := s.delta + 1 }
    else if c = code then
      { output := s.output ++ variableDigits s.bias 16 36 s.delta
        delta := 0
        bias := adaptBias (s.handled == basic) s.delta (s.handled + 1)
        handled := s.handled + 1 }
    else s) s

/-- The ASCII form of a label behind its prefix. -/
def encodeLabel (label : List Nat) : List Char :=
  let basic := label.filter (· < 128)
  let codes := ((label.filter (128 ≤ ·)).mergeSort (· ≤ ·)).eraseDups
  let start : LabelState :=
    { output := basic.map Char.ofNat ++ if basic.isEmpty then [] else ['-']
      delta := 0, bias := 72, handled := basic.length }
  (codes.foldl (fun (s, next) code =>
    let s := { s with delta := s.delta + (code - next) * (s.handled + 1) }
    let s := encodeCode basic.length code label s
    ({ s with delta := s.delta + 1 }, code + 1)) (start, 128)).1.output

/-- The ASCII form of a domain name. -/
def asciiName (name : List Char) : List Char :=
  let labels := (name.map Char.toLower).splitOn '.'
  let encoded := labels.map fun label =>
    if label.all fun c => c.toNat < 128 then label
    else "xn--".toList ++ encodeLabel (label.map Char.toNat)
  ['.'].intercalate encoded

/-- Whether a character may not be part of a domain name. -/
def isForbidden (c : Char) : Bool :=
  Percent.isControl c || " #%/:<>?@[\\]^|".toList.contains c

/-- Whether a character may not be part of a host that is kept as it is. -/
def isForbiddenAnywhere (c : Char) : Bool :=
  "\x00\t\n\r #/:<>?@[\\]^|".toList.contains c

/-- The host of a web address. -/
def readDomain (text : String) : Except UrlFault String := do
  let name ← match Percent.decode? text with
    | some name => pure (asciiName name.toList)
    | none => .error .invalidDomain
  if name.any isForbidden then .error .invalidDomain
  else if name.isEmpty then .error .emptyHost
  else if endsInNumber name then (readV4? name).elim (.error .invalidV4) .ok
  else return String.ofList name

/-- The host in square brackets. -/
def readBracketed (cs : List Char) : Except UrlFault String :=
  match cs.getLast?, readV6? cs.tail.dropLast with
  | some ']', some groups => .ok s!"[{v6Text groups}]"
  | _, _ => .error .invalidV6

/-- Reads a host. -/
def read (isSpecial : Bool) (text : String) : Except UrlFault String :=
  if text.toList.head? = some '[' then readBracketed text.toList
  else if isSpecial then readDomain text
  else if text.toList.any isForbiddenAnywhere then .error .invalidCharacter
  else .ok (Percent.encode Percent.isControl text)

end Host

end ProxyChain.Net
