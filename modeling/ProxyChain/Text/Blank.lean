/-!
# ProxyChain.Text.Blank

**White space** as Unicode's property `White_Space` has it, and the two operations on text that
rest on it: trimming both ends, and cutting a text into lines.

The class of `Char.isWhitespace` knows ASCII only; tags, addresses and log details may hold any
character, so the whole property is listed here.
-/

namespace ProxyChain.Text

/-- Whether a character has the Unicode property `White_Space`. -/
def isBlank (c : Char) : Bool :=
  let n := c.toNat
  (0x09 ≤ n && n ≤ 0x0D) || n == 0x20 || n == 0x85 || n == 0xA0 || n == 0x1680 ||
    (0x2000 ≤ n && n ≤ 0x200A) || n == 0x2028 || n == 0x2029 || n == 0x202F || n == 0x205F ||
    n == 0x3000

/-- The characters left when blanks are taken from both ends. -/
def trimChars (cs : List Char) : List Char :=
  ((cs.dropWhile isBlank).reverse.dropWhile isBlank).reverse

/-- A text without the blanks at both ends. -/
def trim (s : String) : String :=
  String.ofList (trimChars s.toList)

/-- Whether a text holds blanks only; so does the empty text. -/
def allBlank (s : String) : Bool :=
  s.toList.all isBlank

/-- A line without the carriage return that may end it. -/
def dropReturn (line : List Char) : List Char :=
  match line.reverse with
  | '\r' :: rest => rest.reverse
  | _ => line

/--
The lines of a text. A line feed ends a line, a carriage return in front of it belongs to the
ending, and a text that ends in a line feed has no further, empty line.
-/
def lines (s : String) : List String :=
  let pieces := s.toList.splitOn '\n'
  let pieces := if pieces.getLast? == some [] then pieces.dropLast else pieces
  pieces.map fun line => String.ofList (dropReturn line)

end ProxyChain.Text
