import ProxyChain.Yaml.Cursor

/-!
# ProxyChain.Yaml.Token

**Tokens of YAML texts.** Besides the marks that are written there are tokens for what
indentation says: where a block list or a block map begins, and where a block ends.

This module has the tokens and the reading of those that are names: anchors, aliases, tags and
directives.
-/

namespace ProxyChain.Yaml

/-- How a scalar is written. -/
inductive ScalarStyle
  | plain
  | singleQuoted
  | doubleQuoted
  | literal
  | folded
  deriving Repr, DecidableEq

/-- A token. -/
inductive Token
  | versionDirective (major minor : Nat)
  | tagDirective (handle stem : String)
  | documentStart
  | documentEnd
  | blockListStart
  | blockMapStart
  | blockEnd
  | flowListStart
  | flowListEnd
  | flowMapStart
  | flowMapEnd
  | blockEntry
  | flowEntry
  | key
  | value
  | alias (name : String)
  | anchor (name : String)
  | tag (handle suffix : String)
  | scalar (text : String) (style : ScalarStyle)
  | textEnd
  deriving Repr, DecidableEq

/-- Goes on only if a condition holds. -/
def require (condition : Bool) : Option Unit :=
  if condition then some () else none

namespace Token

/-! ### Names -/

/-- Whether a name may end in front of a character. -/
def endsName (c : Char) : Bool :=
  isGap c || "?:,]\x7d%@\x60".toList.contains c

/-- The name of an anchor or an alias, behind its mark. -/
def scanName (c : Cursor) : Option (String × Cursor) := do
  let (name, c) := (c.skip 1).takeWhile isNameChar
  require (!name.isEmpty && endsName c.peek)
  return (String.ofList name, c)

/-! ### Tags -/

/-- Whether a character may stand in a tag. -/
def isTagChar (verbatim : Bool) (c : Char) : Bool :=
  isNameChar c || ";/?:@&=+$.!~*'()%".toList.contains c || (verbatim && ",[]".toList.contains c)

/-- The octets that percent signs and digits stand for. -/
def decodeOctets : List Char → Option (List (Char ⊕ UInt8))
  | [] => some []
  | '%' :: a :: b :: rest => do
    let n ← if Text.isHex a && Text.isHex b then Text.readDigits? 16 [a, b] else none
    return .inr n.toUInt8 :: (← decodeOctets rest)
  | '%' :: _ => none
  | c :: rest => return .inl c :: (← decodeOctets rest)

/-- The octets of characters and octets. -/
def joinOctets (pieces : List (Char ⊕ UInt8)) : ByteArray :=
  pieces.foldl (fun bytes piece =>
    match piece with
    | .inl c => bytes ++ (String.singleton c).toUTF8
    | .inr byte => bytes.push byte) ByteArray.empty

/-- The text that part of a tag stands for. -/
def decodeTag (cs : List Char) : Option String := do
  String.fromUTF8? (joinOctets (← decodeOctets cs))

/-- Part of a tag. -/
def scanTagText (verbatim : Bool) (c : Cursor) : Option (String × Cursor) := do
  let (cs, c) := c.takeWhile (isTagChar verbatim)
  return (← decodeTag cs, c)

/-- The handle at the front of a tag: a name between two exclamation marks, or no name. -/
def scanHandle (c : Cursor) : Option (String × Cursor) := do
  require (c.peek == '!')
  let (name, c) := (c.skip 1).takeWhile isNameChar
  if c.peek == '!' then return (String.ofList ('!' :: name ++ ['!']), c.skip 1)
  else return (String.ofList ('!' :: name), c)

/-- A tag that is written out, in angle brackets. -/
def scanVerbatim (c : Cursor) : Option (Token × Cursor) := do
  let (text, c) ← scanTagText true (c.skip 2)
  require (text ≠ "" && c.peek == '>')
  return (.tag "" text, c.skip 1)

/-- A tag with a handle. -/
def scanShorthand (c : Cursor) : Option (Token × Cursor) := do
  let (handle, behind) ← scanHandle c
  if handle.length ≥ 2 && handle.endsWith "!" then
    let (suffix, behind) ← scanTagText false behind
    require (suffix ≠ "")
    return (.tag handle suffix, behind)
  else
    let (suffix, behind) ← scanTagText false (c.skip 1)
    return (if suffix = "" then .tag "" "!" else .tag "!" suffix, behind)

/-- A tag. -/
def scanTag (inFlow : Bool) (c : Cursor) : Option (Token × Cursor) := do
  let (token, c) ← if c.peekAt 1 == '<' then scanVerbatim c else scanShorthand c
  require ((inFlow && c.peek == ',') || isGap c.peek)
  return (token, c)

/-! ### Directives -/

/-- The number of a version. -/
def scanVersionPart (c : Cursor) : Option (Nat × Cursor) := do
  let (digits, c) := c.takeWhile Text.isDecimal
  require (digits.length ≤ 9)
  return (← Text.readDigits? 10 digits, c)

/-- What is behind the name of a version directive. -/
def scanVersion (c : Cursor) : Option (Token × Cursor) := do
  let (major, c) ← scanVersionPart (c.skipWhile isSpace)
  require (c.peek == '.')
  let (minor, c) ← scanVersionPart (c.skip 1)
  return (.versionDirective major minor, c)

/-- What is behind the name of a tag directive. -/
def scanTagDirective (c : Cursor) : Option (Token × Cursor) := do
  let (handle, c) ← scanHandle (c.skipWhile isSpace)
  require (handle = "!" || (handle.length ≥ 2 && handle.endsWith "!"))
  require (isSpace c.peek)
  let (stem, c) ← scanTagText true (c.skipWhile isSpace)
  require (stem ≠ "" && isGap c.peek)
  return (.tagDirective handle stem, c)

/-- A directive, with the rest of its line. -/
def scanDirective (c : Cursor) : Option (Token × Cursor) := do
  let (name, c) := (c.skip 1).takeWhile isNameChar
  require (isGap c.peek)
  let (token, c) ← match String.ofList name with
    | "YAML" => scanVersion c
    | "TAG" => scanTagDirective c
    | _ => none
  let c := (c.skipWhile isSpace).skipComment
  require (isBreakOrEnd c.peek)
  return (token, if c.atEnd then c else c.skipLine)

end Token

end ProxyChain.Yaml
