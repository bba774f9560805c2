import ProxyChain.Text.Blank
import ProxyChain.Text.Digits

/-!
# ProxyChain.Net.Address

**Internet addresses** in their usual notation, read strictly: an octet has no leading zero, a
group of an address of version 6 has one to four hexadecimal digits, one run of groups may be
left out, and the last two groups may be written as an address of version 4.
-/

namespace ProxyChain.Net

/-- An Internet address. -/
inductive Address
  /-- Four octets. -/
  | v4 (octets : List Nat)
  /-- Eight groups of 16 bits. -/
  | v6 (groups : List Nat)
  deriving Repr, DecidableEq

/-! ### Version 4 -/

/-- An octet in decimal digits. -/
def readOctet? (cs : List Char) : Option Nat :=
  if cs.all Text.isDecimal ∧ cs.length ≤ 3 ∧ (cs.length = 1 ∨ cs.head? ≠ some '0') then
    (Text.readDigits? 10 cs).filter (· < 256)
  else none

/-- Four octets with points between them. -/
def readOctets? (cs : List Char) : Option (List Nat) := do
  let octets ← (cs.splitOn '.').mapM readOctet?
  if octets.length = 4 then some octets else none

/-! ### Version 6 -/

/-- A group in hexadecimal digits. -/
def readGroup? (cs : List Char) : Option Nat :=
  if cs.length ≤ 4 ∧ cs.all Text.isHex then Text.readDigits? 16 cs else none

/-- Groups with colons between them; the last piece may be four octets, which are two groups. -/
def readGroups? : List (List Char) → Option (List Nat)
  | [] => some []
  | [last] =>
    if last.contains '.' then do
      match ← readOctets? last with
      | [a, b, c, d] => some [a * 256 + b, c * 256 + d]
      | _ => none
    else (readGroup? last).map fun group => [group]
  | piece :: rest => do return (← readGroup? piece) :: (← readGroups? rest)

/-- The groups of a text without a double colon; the empty text has none. -/
def readRun? (cs : List Char) : Option (List Nat) :=
  if cs.isEmpty then some [] else readGroups? (cs.splitOn ':')

/-- The text in front of the first double colon and the text behind it. -/
def splitGap? : List Char → Option (List Char × List Char)
  | [] => none
  | ':' :: ':' :: rest => some ([], rest)
  | c :: rest => (splitGap? rest).map fun (front, back) => (c :: front, back)

/-- Eight groups, of which at least one is left out where two colons meet. -/
def readV6? (cs : List Char) : Option (List Nat) := do
  match splitGap? cs with
  | none =>
    let groups ← readRun? cs
    if groups.length = 8 then some groups else none
  | some (front, back) =>
    if front.contains '.' then none
    else
      let front ← readRun? front
      let back ← readRun? back
      let given := front.length + back.length
      if given < 8 then some (front ++ List.replicate (8 - given) 0 ++ back) else none

/-! ### Addresses -/

/-- Reads an address. -/
def Address.read? (text : String) : Option Address :=
  let cs := text.toList
  match readOctets? cs with
  | some octets => some (.v4 octets)
  | none => (readV6? cs).map .v6

/-- Whether an address is the machine's own. -/
def Address.isLoopback : Address → Bool
  | v4 octets => octets.head? = some 127
  | v6 groups => groups = [0, 0, 0, 0, 0, 0, 0, 1]

/-- Whether a text, blanks at its ends aside, is an address of the machine's own. -/
def isLoopbackAddress (text : String) : Bool :=
  (Address.read? (Text.trim text)).any Address.isLoopback

end ProxyChain.Net
