import ProxyChain.Yaml.Scalar

/-!
# ProxyChain.Yaml.Layout

**The layout of YAML texts**: from characters to tokens, with the tokens that indentation stands
for.

A map has no mark of its own: that something was a key shows only when the colon behind it is
met. So the place of every token that may begin a key is remembered, one for each nesting of
brackets, and the marks for the key, and for the map if it is new, are inserted there later. Such
a key has to be on one line and not too long.
-/

namespace ProxyChain.Yaml

/-- A place where a key may have begun. -/
structure KeyPlace where
  /-- How many tokens are in front of it. -/
  position : Nat
  index : Nat
  line : Nat
  column : Nat
  /-- Whether nothing but a key can be here, by its indentation. -/
  isRequired : Bool

/-- The tokens so far and what the next ones depend on. -/
structure Layout where
  cursor : Cursor
  tokens : Array Token := #[]
  /-- The indentation of the open block, minus one outside of all blocks. -/
  indent : Int := -1
  /-- The indentations of the blocks around it. -/
  outer : List Int := []
  /-- The place of a possible key in the open brackets or outside of all brackets. -/
  keyPlace : Option KeyPlace := none
  /-- The places of possible keys around the open brackets, one for each nesting. -/
  outerPlaces : List (Option KeyPlace) := []
  /-- Whether a key may begin at the next token. -/
  keyAllowed : Bool := true

namespace Layout

/-- Whether any brackets are open. -/
def inFlow (l : Layout) : Bool :=
  !l.outerPlaces.isEmpty

/-- Adds a token. -/
def push (l : Layout) (token : Token) : Layout :=
  { l with tokens := l.tokens.push token }

/-- Adds a mark of so many characters. -/
def mark (l : Layout) (token : Token) (length : Nat) : Layout :=
  { l.push token with cursor := l.cursor.skip length }

/-! ### Blocks -/

/-- Closes the blocks that are indented further than a column. -/
def unroll (column : Int) : List Int → Layout → Layout
  | [], l => l
  | next :: rest, l =>
    if column < l.indent then
      unroll column rest ({ l with indent := next, outer := rest }.push .blockEnd)
    else l

/-- Closes the blocks that are indented further than a column. Brackets hold blocks open. -/
def closeBlocks (l : Layout) (column : Int) : Layout :=
  if l.inFlow then l else unroll column l.outer l

/-- Opens a block at a column, unless one is open there; its token goes to a position. -/
def openBlock (l : Layout) (column : Nat) (position : Nat) (token : Token) : Layout :=
  if !l.inFlow && l.indent < column then
    { l with
      indent := column
      outer := l.indent :: l.outer
      tokens := l.tokens.insertIdxIfInBounds position token }
  else l

/-! ### Keys -/

/-- How long a key may be. -/
def longestKey : Nat := 1024

/-- Whether a place cannot be that of a key any more. -/
def KeyPlace.isStale (place : KeyPlace) (c : Cursor) : Bool :=
  place.line < c.line || place.index + longestKey < c.index

/-- Gives up a place; it is wrong to do so where only a key can be. -/
def giveUp (place : Option KeyPlace) : Option Unit :=
  require !(place.any KeyPlace.isRequired)

/-- Gives up the place in the open brackets. -/
def dropKey (l : Layout) : Option Layout := do
  giveUp l.keyPlace
  return { l with keyPlace := none }

/-- Gives up a place if it is stale. -/
def refresh (c : Cursor) (place : Option KeyPlace) : Option (Option KeyPlace) :=
  if place.any (KeyPlace.isStale · c) then do
    giveUp place
    return none
  else some place

/-- Gives up the places that are stale. -/
def dropStaleKeys (l : Layout) : Option Layout := do
  let place ← refresh l.cursor l.keyPlace
  let places ← l.outerPlaces.mapM (refresh l.cursor)
  return { l with keyPlace := place, outerPlaces := places }

/-- Remembers this place, if a key may begin here. -/
def saveKey (l : Layout) : Option Layout :=
  if l.keyAllowed then do
    let l ← l.dropKey
    let c := l.cursor
    return { l with
      keyPlace := some {
        position := l.tokens.size
        index := c.index
        line := c.line
        column := c.column
        isRequired := !l.inFlow && l.indent == c.column } }
  else some l

/-! ### Tokens -/

/-- Goes to the next token: over spaces, comments and line endings. -/
def skipToToken : (steps : Nat) → Layout → Layout
  | 0, l => l
  | steps + 1, l =>
    let tabsToo := l.inFlow || !l.keyAllowed
    let c := (l.cursor.skipWhile fun x => x == ' ' || (tabsToo && x == '\t')).skipComment
    if isBreak c.peek then
      skipToToken steps { l with cursor := c.skipLine, keyAllowed := l.keyAllowed || !l.inFlow }
    else { l with cursor := c }

/-- Ends all blocks in front of something that belongs to no document. -/
def leaveDocument (l : Layout) : Option Layout := do
  let l ← (l.closeBlocks (-1)).dropKey
  return { l with keyAllowed := false }

/-- The end of the text. -/
def atTextEnd (l : Layout) : Option Layout := do
  return (← l.leaveDocument).push .textEnd

/-- A directive. -/
def directive (l : Layout) : Option Layout := do
  let l ← l.leaveDocument
  let (token, c) ← Token.scanDirective l.cursor
  return { l.push token with cursor := c }

/-- The mark of a document. -/
def documentMark (l : Layout) (token : Token) : Option Layout := do
  return (← l.leaveDocument).mark token 3

/-- An opening bracket. -/
def openFlow (l : Layout) (token : Token) : Option Layout := do
  let l ← l.saveKey
  return { l.mark token 1 with
    keyPlace := none
    outerPlaces := l.keyPlace :: l.outerPlaces
    keyAllowed := true }

/-- A closing bracket. -/
def closeFlow (l : Layout) (token : Token) : Option Layout := do
  let l ← l.dropKey
  let l := match l.outerPlaces with
    | place :: places => { l with keyPlace := place, outerPlaces := places }
    | [] => l
  return { l.mark token 1 with keyAllowed := false }

/-- The comma between entries. -/
def flowEntry (l : Layout) : Option Layout := do
  let l ← l.dropKey
  return { l.mark .flowEntry 1 with keyAllowed := true }

/-- Opens a block in front of a mark that has to be at the beginning of one. -/
def beginBlock (l : Layout) (token : Token) : Option Layout := do
  require (l.inFlow || l.keyAllowed)
  return l.openBlock l.cursor.column l.tokens.size token

/-- The dash in front of an item. -/
def blockEntry (l : Layout) : Option Layout := do
  let l ← (← l.beginBlock .blockListStart).dropKey
  return { l.mark .blockEntry 1 with keyAllowed := true }

/-- The question mark in front of a key. -/
def explicitKey (l : Layout) : Option Layout := do
  let l ← (← l.beginBlock .blockMapStart).dropKey
  return { l.mark .key 1 with keyAllowed := !l.inFlow }

/-- The colon in front of a value. -/
def value (l : Layout) : Option Layout :=
  match l.keyPlace with
  | some place =>
    let l := { l with tokens := l.tokens.insertIdxIfInBounds place.position .key }
    let l := l.openBlock place.column place.position .blockMapStart
    some { l.mark .value 1 with keyPlace := none, keyAllowed := false }
  | none => do
    let l ← l.beginBlock .blockMapStart
    return { l.mark .value 1 with keyAllowed := !l.inFlow }

/-- An anchor or an alias. -/
def name (l : Layout) (token : String → Token) : Option Layout := do
  let l ← l.saveKey
  let (text, c) ← Token.scanName l.cursor
  return { l.push (token text) with cursor := c, keyAllowed := false }

/-- A tag. -/
def tag (l : Layout) : Option Layout := do
  let l ← l.saveKey
  let (token, c) ← Token.scanTag l.inFlow l.cursor
  return { l.push token with cursor := c, keyAllowed := false }

/-- A block scalar. -/
def blockScalar (l : Layout) : Option Layout := do
  let l ← l.dropKey
  let (text, style, c) ← scanBlock l.indent l.cursor
  return { l.push (.scalar text style) with cursor := c, keyAllowed := true }

/-- A quoted scalar. -/
def quotedScalar (l : Layout) (style : ScalarStyle) : Option Layout := do
  let l ← l.saveKey
  let (text, c) ← scanQuoted l.cursor
  return { l.push (.scalar text style) with cursor := c, keyAllowed := false }

/-- A plain scalar. Behind one that ended with its line a key may begin. -/
def plainScalar (l : Layout) : Option Layout := do
  let l ← l.saveKey
  let (text, broken, c) ← scanPlain l.inFlow (l.indent + 1).toNat l.cursor
  return { l.push (.scalar text .plain) with cursor := c, keyAllowed := broken }

/-- Whether a plain scalar may begin here. -/
def beginsPlain (l : Layout) : Bool :=
  let c := l.cursor
  let next := c.peek
  !(isGap next || "-?:,[]\x7b\x7d#&*!|>'\"%@\x60".toList.contains next) ||
    (next == '-' && !isSpace (c.peekAt 1)) ||
    (!l.inFlow && (next == '?' || next == ':') && !isGap (c.peekAt 1))

/-- Reads the next token. -/
def step (l : Layout) : Option Layout := do
  let l := l.skipToToken (l.cursor.rest.length + 1)
  let l ← l.dropStaleKeys
  let l := l.closeBlocks l.cursor.column
  let c := l.cursor
  let standsAlone := isGap (c.peekAt 1)
  if c.atEnd then l.atTextEnd
  else if c.column == 0 && c.peek == '%' then l.directive
  else if c.startsLineWith '-' then l.documentMark .documentStart
  else if c.startsLineWith '.' then l.documentMark .documentEnd
  else
    match c.peek with
    | '[' => l.openFlow .flowListStart
    | '\x7b' => l.openFlow .flowMapStart
    | ']' => l.closeFlow .flowListEnd
    | '\x7d' => l.closeFlow .flowMapEnd
    | ',' => l.flowEntry
    | '*' => l.name .alias
    | '&' => l.name .anchor
    | '!' => l.tag
    | '\'' => l.quotedScalar .singleQuoted
    | '"' => l.quotedScalar .doubleQuoted
    | next =>
      if next == '-' && standsAlone then l.blockEntry
      else if next == '?' && (l.inFlow || standsAlone) then l.explicitKey
      else if next == ':' && (l.inFlow || standsAlone) then l.value
      else if (next == '|' || next == '>') && !l.inFlow then l.blockScalar
      else if l.beginsPlain then l.plainScalar
      else none

/-- Reads tokens up to the end of the text. -/
def run : (steps : Nat) → Layout → Option (List Token)
  | 0, _ => none
  | steps + 1, l => do
    let l ← l.step
    if l.tokens.back? = some .textEnd then return l.tokens.toList else run steps l

end Layout

/-- A text without the byte order marks in front of it. -/
def dropMarks (cs : List Char) : List Char :=
  match cs with
  | a :: b :: rest =>
    if a == byteOrderMark then if b == byteOrderMark then rest else b :: rest else cs
  | [a] => if a == byteOrderMark then [] else cs
  | [] => []

/-- The tokens of a text. Every step goes over a character, or is the last one. -/
def Token.ofText (text : String) : Option (List Token) := do
  let cs := dropMarks text.toList
  require (cs.all isPrintable)
  Layout.run (cs.length + 1) { cursor := { rest := cs } }

end ProxyChain.Yaml
