import ProxyChain.Decimal.Shortest
import ProxyChain.Yaml.Cursor
import ProxyChain.Yaml.Plain

/-!
# ProxyChain.Yaml.Printer

**YAML text of a value**, in block layout. A list under a key is not indented further than the
key, lines are never folded, and empty lists and maps are a pair of brackets.

A text is written plain if that reads as the same text again. A text of several lines is a block
scalar. Otherwise it goes between single quotes, or between double quotes if it holds anything
that only an escape can show.
-/

namespace ProxyChain.Yaml

/-! ### What a text allows -/

/-- Whether a character may be written as itself. -/
def isShown (c : Char) : Bool :=
  isPrintable c && c != '\t' && c != '\r' && c != '\u0085' && c != byteOrderMark

/-- Whether a character forbids plain style at the front of a text. -/
def isLeadingIndicator (c : Char) : Bool :=
  "#,[]\x7b\x7d&*!|>'\"%@\x60".toList.contains c

/-- Whether a text holds two characters in a row that satisfy one condition each. -/
def hasPair (p q : Char → Bool) (cs : List Char) : Bool :=
  (cs.zip cs.tail).any fun (a, b) => p a && q b

/-- Whether the first character of a text forbids plain style. -/
def beginsWithIndicator (cs : List Char) : Bool :=
  match cs with
  | [] => false
  | c :: rest =>
    isLeadingIndicator c ||
      ((c == '?' || c == ':' || c == '-') && (rest.head?.getD '\x00' |> isGap))

/-- Whether a text holds what would end a plain scalar: a colon in front of a gap, or a comment. -/
def holdsIndicator (cs : List Char) : Bool :=
  hasPair (· == ':') isGap cs || hasPair isGap (· == '#') cs || cs.getLast? == some ':'

/-- Whether a text begins like the mark of a document. -/
def beginsWithMark (cs : List Char) : Bool :=
  cs.take 3 == ['-', '-', '-'] || cs.take 3 == ['.', '.', '.']

/-- Whether a text holds anything that only an escape can show. -/
def needsEscapes (cs : List Char) : Bool :=
  cs.any (fun c => !isShown c) || hasPair (· == ' ') isBreak cs

/-- Whether a text may be written without quotes, as far as its characters go. -/
def allowsPlain (cs : List Char) : Bool :=
  let isEdge (c : Option Char) : Bool := c.any fun c => c == ' ' || isBreak c
  !(needsEscapes cs || cs.any isBreak || isEdge cs.head? || isEdge cs.getLast? ||
    beginsWithMark cs || beginsWithIndicator cs || holdsIndicator cs)

/-- Whether a text may be written in single quotes. -/
def allowsSingleQuotes (cs : List Char) : Bool :=
  !needsEscapes cs && !hasPair isBreak (· == ' ') cs

/-- Whether a text may be written as a block scalar. -/
def allowsBlock (cs : List Char) : Bool :=
  !cs.isEmpty && !needsEscapes cs && cs.getLast? != some ' '

/-- Whether a plain text would read as something else than itself. -/
def isAmbiguous (text : String) : Bool :=
  Plain.meaning text ≠ .text || Plain.isPadded text

/-! ### Scalars -/

/-- A line's indentation. -/
def spaces (indent : Nat) : List Char :=
  List.replicate indent ' '

/-- The content of single quotes; what follows a line ending is indented. -/
def singleQuotedChars (indent : Nat) (broken : Bool) : List Char → List Char
  | [] => if broken then spaces indent else []
  | c :: rest =>
    if isBreak c then c :: singleQuotedChars indent true rest
    else
      (if broken then spaces indent else []) ++ (if c == '\'' then ['\'', '\''] else [c]) ++
        singleQuotedChars indent false rest

/-- A number in upper case hexadecimal digits. -/
def upperHex (width n : Nat) : List Char :=
  (Text.hexDigits width n).map Char.toUpper

/-- The characters that stand for one in double quotes. -/
def escapeChar (c : Char) : List Char :=
  match c with
  | '\x00' => ['\\', '0']
  | '\x07' => ['\\', 'a']
  | '\x08' => ['\\', 'b']
  | '\t' => ['\\', 't']
  | '\n' => ['\\', 'n']
  | '\x0b' => ['\\', 'v']
  | '\x0c' => ['\\', 'f']
  | '\r' => ['\\', 'r']
  | '\x1b' => ['\\', 'e']
  | '"' => ['\\', '"']
  | '\\' => ['\\', '\\']
  | '\u0085' => ['\\', 'N']
  | '\u2028' => ['\\', 'L']
  | '\u2029' => ['\\', 'P']
  | c =>
    if isShown c then [c]
    else if c.toNat ≤ 0xFF then '\\' :: 'x' :: upperHex 2 c.toNat
    else if c.toNat ≤ 0xFFFF then '\\' :: 'u' :: upperHex 4 c.toNat
    else '\\' :: 'U' :: upperHex 8 c.toNat

/-- A text in double quotes. -/
def doubleQuoted (cs : List Char) : List Char :=
  '"' :: cs.flatMap escapeChar ++ ['"']

/-- The marks behind the sign of a block scalar. -/
def blockMarks (cs : List Char) : List Char :=
  let isBreakAt (c : Option Char) : Bool := c.any isBreak
  let indentation := if cs.head?.any fun c => c == ' ' || isBreak c then ['2'] else []
  let chomping :=
    if !isBreakAt cs.getLast? then ['-']
    else if cs.length = 1 || isBreakAt cs.dropLast.getLast? then ['+']
    else []
  indentation ++ chomping

/-- The lines of a block scalar; a line that is not empty is indented. -/
def blockChars (indent : Nat) (broken : Bool) : List Char → List Char
  | [] => []
  | c :: rest =>
    if isBreak c then c :: blockChars indent true rest
    else (if broken then spaces indent else []) ++ c :: blockChars indent false rest

/-- Whether a key has to be written behind a question mark. -/
def isLongKey (key : String) : Bool :=
  key.toList.any isBreak || 128 < key.utf8ByteSize

/-- A text as a scalar whose further lines are indented so far. -/
def textScalar (indent : Nat) (text : String) : String :=
  let cs := text.toList
  String.ofList <|
    if cs.contains '\n' then
      if allowsBlock cs then '|' :: blockMarks cs ++ '\n' :: blockChars indent true cs
      else doubleQuoted cs
    else if allowsPlain cs && !isAmbiguous text then cs
    else if allowsSingleQuotes cs then '\'' :: singleQuotedChars indent false cs ++ ['\'']
    else doubleQuoted cs

/-- A number. -/
def numberScalar : Json.Number → String
  | .int n => toString n
  | .float bits => Decimal.renderDouble bits

/-! ### Lists and maps -/

/-- Text up to the beginning of a line, unless it is there already. -/
def toLineStart (out : String) : String :=
  if out.back?.all isBreak then out else out ++ "\n"

/-- Where the first entry of a list or a map is written. -/
inductive Position
  /-- At the beginning of the text. -/
  | textStart
  /-- On the line of the mark in front of it. -/
  | sameLine
  /-- On a line of its own. -/
  | newLine

/-- Text up to where an entry is written. -/
def beginEntry (position : Position) (indent : Nat) (out : String) : String :=
  match position with
  | .textStart => out
  | .sameLine => out ++ " "
  | .newLine => toLineStart out ++ String.ofList (spaces indent)

mutual

/--
Writes a value behind a mark, in a block with the given indentation. `position` says where a list
or a map begins, and `listIndent` how far a list is indented.
-/
def writeValue (indent : Nat) (position : Position) (listIndent : Nat) :
    Json.Value → String → String
  | .null, out => out ++ " null"
  | .bool b, out => out ++ if b then " true" else " false"
  | .number n, out => out ++ " " ++ numberScalar n
  | .string s, out => out ++ " " ++ textScalar (indent + 2) s
  | .array items, out =>
    if items.isEmpty then out ++ " []" else writeItems listIndent position items out
  | .object fields, out =>
    if fields.isEmpty then out ++ " \x7b\x7d" else writeFields (indent + 2) position fields out

/-- Writes the items of a list. -/
def writeItems (indent : Nat) (position : Position) : List Json.Value → String → String
  | [], out => out
  | item :: rest, out =>
    let out := beginEntry position indent out ++ "-"
    writeItems indent .newLine rest (writeValue indent .sameLine (indent + 2) item out)

/-- Writes the fields of a map. -/
def writeFields (indent : Nat) (position : Position) :
    List (String × Json.Value) → String → String
  | [], out => out
  | (name, value) :: rest, out =>
    let key := textScalar (indent + 2) name
    let out := beginEntry position indent out
    if isLongKey name then
      let out := beginEntry .newLine indent (out ++ "? " ++ key) ++ ":"
      writeFields indent .newLine rest (writeValue indent .sameLine (indent + 2) value out)
    else
      writeFields indent .newLine rest (writeValue indent .newLine indent value (out ++ key ++ ":"))

end

/-- The YAML text of a list or a map, with a line ending behind it. -/
def render : Json.Value → String
  | .array (item :: rest) => toLineStart (writeItems 0 .textStart (item :: rest) "")
  | .object (field :: rest) => toLineStart (writeFields 0 .textStart (field :: rest) "")
  | v => ((writeValue 0 .textStart 0 v "").drop 1).toString ++ "\n"

end ProxyChain.Yaml
