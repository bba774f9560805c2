import ProxyChain.Decimal.Shortest
import ProxyChain.Json.Value
import ProxyChain.Text.Digits

/-!
# ProxyChain.Json.Printer

**JSON text of a value**, in the two layouts that profiles, configs and requests use: compact,
without any space, and indented by two spaces with one element per line.

A character is written as itself unless it has to be escaped: the quote, the backslash and the
control characters below the space. An empty array or object stays on one line in both layouts.
-/

namespace ProxyChain.Json

/-- The text of a number. -/
def Number.render : Number → String
  | .int n => toString n
  | .float bits => Decimal.renderDouble bits

/-- The characters that stand for one character inside a quoted text. -/
def escapeChar (c : Char) : List Char :=
  match c with
  | '"' => ['\\', '"']
  | '\\' => ['\\', '\\']
  | '\n' => ['\\', 'n']
  | '\r' => ['\\', 'r']
  | '\t' => ['\\', 't']
  | '\x08' => ['\\', 'b']
  | '\x0c' => ['\\', 'f']
  | c => if c < ' ' then '\\' :: 'u' :: Text.hexDigits 4 c.toNat else [c]

/-- A text in quotes. -/
def quote (s : String) : String :=
  String.ofList ('"' :: s.toList.flatMap escapeChar ++ ['"'])

namespace Value

mutual

/-- The text of a value without any space. -/
def compact : Value → String
  | .null => "null"
  | .bool b => if b then "true" else "false"
  | .number n => n.render
  | .string s => quote s
  | .array items => "[" ++ compactItems items ++ "]"
  | .object fields => "\x7b" ++ compactFields fields ++ "\x7d"

/-- The items of an array, a comma between two. -/
def compactItems : List Value → String
  | [] => ""
  | [item] => item.compact
  | item :: rest => item.compact ++ "," ++ compactItems rest

/-- The fields of an object, a comma between two. -/
def compactFields : List (String × Value) → String
  | [] => ""
  | [(name, value)] => quote name ++ ":" ++ value.compact
  | (name, value) :: rest => quote name ++ ":" ++ value.compact ++ "," ++ compactFields rest

end

/-- A line break and two spaces for each level. -/
def lineBreak (level : Nat) : String :=
  String.ofList ('\n' :: List.replicate (2 * level) ' ')

mutual

/-- The text of a value over several lines, the value standing at the given level. -/
def indentedAt (level : Nat) : Value → String
  | .null => "null"
  | .bool b => if b then "true" else "false"
  | .number n => n.render
  | .string s => quote s
  | .array [] => "[]"
  | .object [] => "\x7b\x7d"
  | .array items => "[" ++ indentedItems (level + 1) items ++ lineBreak level ++ "]"
  | .object fields => "\x7b" ++ indentedFields (level + 1) fields ++ lineBreak level ++ "\x7d"

/-- The items of an array, each on lines of its own. -/
def indentedItems (level : Nat) : List Value → String
  | [] => ""
  | [item] => lineBreak level ++ item.indentedAt level
  | item :: rest => lineBreak level ++ item.indentedAt level ++ "," ++ indentedItems level rest

/-- The fields of an object, each on lines of its own. -/
def indentedFields (level : Nat) : List (String × Value) → String
  | [] => ""
  | [(name, value)] => lineBreak level ++ quote name ++ ": " ++ value.indentedAt level
  | (name, value) :: rest =>
    lineBreak level ++ quote name ++ ": " ++ value.indentedAt level ++ "," ++
      indentedFields level rest

end

/-- The text of a value over several lines, without a line break at the end. -/
def indented (v : Value) : String :=
  v.indentedAt 0

end Value

end ProxyChain.Json
