import ProxyChain.Yaml.Token

/-!
# ProxyChain.Yaml.Scalar

**The text of scalars.** A scalar may go over several lines: in plain and quoted ones a single
line ending is a space and a further one is itself, and in block ones the indentation is taken
away and, if the scalar is folded, lines that are not indented further are joined.
-/

namespace ProxyChain.Yaml

/-! ### Gaps between words -/

/-- The spaces and line endings between two words. -/
structure Gap where
  /-- The spaces in front of any line ending, the last first. -/
  spaces : List Char := []
  /-- The line endings, the last first. -/
  breaks : List Char := []
  /-- Whether a line has ended. -/
  broken : Bool := false

namespace Gap

/-- The gap that an escaped line ending begins: spaces do not count any more. -/
def afterEscapedBreak : Gap :=
  { broken := true }

/-- What a gap is in the text of a scalar. -/
def folded (gap : Gap) : List Char :=
  if gap.broken then
    match gap.breaks.reverse with
    | ['\n'] => [' ']
    | '\n' :: more => more
    | breaks => breaks
  else gap.spaces.reverse

/-- What the gap behind an escaped line ending is in the text of a scalar. -/
def kept (gap : Gap) : List Char :=
  gap.breaks.reverse

/--
Goes over a gap. A tab may not stand where a line is indented by less than `indent`.
-/
def scan (indent : Nat) : (steps : Nat) → Gap → Cursor → Option (Gap × Cursor)
  | 0, gap, c => some (gap, c)
  | steps + 1, gap, c =>
    let next := c.peek
    if isSpace next then
      if gap.broken then
        if next == '\t' && c.column < indent then none
        else scan indent steps gap (c.skip 1)
      else scan indent steps { gap with spaces := next :: gap.spaces } (c.skip 1)
    else if isBreak next then
      scan indent steps { gap with breaks := normalBreak next :: gap.breaks, broken := true }
        c.skipLine
    else some (gap, c)

end Gap

/-! ### Plain scalars -/

/-- Whether a character ends a plain scalar inside brackets. -/
def isFlowIndicator (c : Char) : Bool :=
  ",[]\x7b\x7d".toList.contains c

/-- Whether a colon at this place is wrong inside brackets. -/
def isStrayColon (inFlow : Bool) (c : Cursor) : Bool :=
  inFlow && c.peek == ':' && (isFlowIndicator (c.peekAt 1) || c.peekAt 1 == '?')

/-- Whether a plain scalar ends at this place. -/
def endsPlain (inFlow : Bool) (c : Cursor) : Bool :=
  isGap c.peek || (c.peek == ':' && isGap (c.peekAt 1)) || (inFlow && isFlowIndicator c.peek)

/-- A word of a plain scalar, the last character first. -/
def plainWord (inFlow : Bool) : (steps : Nat) → List Char → Cursor → Option (List Char × Cursor)
  | 0, word, c => some (word, c)
  | steps + 1, word, c =>
    if isStrayColon inFlow c then none
    else if endsPlain inFlow c then some (word, c)
    else plainWord inFlow steps (c.peek :: word) (c.skip 1)

/-- The text of a plain scalar so far, the last character first, and whether a line has ended. -/
structure PlainText where
  text : List Char
  broken : Bool

/-- Reads words and gaps up to where the scalar ends. -/
def plainLines (inFlow : Bool) (indent : Nat) :
    (steps : Nat) → List Char → Gap → Cursor → Option (PlainText × Cursor)
  | 0, text, gap, c => some (⟨text, gap.broken⟩, c)
  | steps + 1, text, gap, c => do
    if c.atDocumentMark || c.peek == '#' then return (⟨text, gap.broken⟩, c)
    let (word, c') ← plainWord inFlow c.rest.length [] c
    let (text, gap) :=
      if word.isEmpty then (text, gap) else (word ++ gap.folded.reverse ++ text, {})
    if !isSpace c'.peek && !isBreak c'.peek then return (⟨text, gap.broken⟩, c')
    let (gap, c') ← Gap.scan indent c'.rest.length gap c'
    if !inFlow && c'.column < indent then return (⟨text, gap.broken⟩, c')
    plainLines inFlow indent steps text gap c'

/--
A plain scalar in a block that is indented by `indent`, and whether a line has ended behind it.
-/
def scanPlain (inFlow : Bool) (indent : Nat) (c : Cursor) : Option (String × Bool × Cursor) := do
  let (plain, c) ← plainLines inFlow indent (c.rest.length + 1) [] {} c
  return (String.ofList plain.text.reverse, plain.broken, c)

/-! ### Quoted scalars -/

/-- The character of an escape with one letter. -/
def escapeValue? : Char → Option Char
  | '0' => some '\x00'
  | 'a' => some '\x07'
  | 'b' => some '\x08'
  | 't' => some '\t'
  | '\t' => some '\t'
  | 'n' => some '\n'
  | 'v' => some '\x0b'
  | 'f' => some '\x0c'
  | 'r' => some '\r'
  | 'e' => some '\x1b'
  | ' ' => some ' '
  | '"' => some '"'
  | '/' => some '/'
  | '\\' => some '\\'
  | 'N' => some '\u0085'
  | '_' => some '\u00a0'
  | 'L' => some '\u2028'
  | 'P' => some '\u2029'
  | _ => none

/-- How many digits the number behind an escape letter has. -/
def escapeDigits : Char → Nat
  | 'x' => 2
  | 'u' => 4
  | 'U' => 8
  | _ => 0

/-- The character with a number. -/
def charOfNumber? (n : Nat) : Option Char :=
  if n.isValidChar then some (Char.ofNat n) else none

/-- An escape, behind its backslash. -/
def scanEscape (c : Cursor) : Option (Char × Cursor) :=
  match escapeDigits c.peek with
  | 0 => (escapeValue? c.peek).map fun x => (x, c.skip 1)
  | count => do
    let digits := (c.rest.drop 1).take count
    require (digits.length = count && digits.all Text.isHex)
    let x ← charOfNumber? (← Text.readDigits? 16 digits)
    return (x, c.skip (1 + count))

/-- What ends a word of a quoted scalar. -/
inductive QuotedStop
  | gap
  | quote
  | escapedBreak
  deriving DecidableEq

/-- A word of a quoted scalar, the last character first. -/
def quotedWord (quote : Char) :
    (steps : Nat) → List Char → Cursor → Option (List Char × QuotedStop × Cursor)
  | 0, _, _ => none
  | steps + 1, word, c =>
    let next := c.peek
    if isGap next then some (word, .gap, c)
    else if quote == '\'' && next == '\'' && c.peekAt 1 == '\'' then
      quotedWord quote steps ('\'' :: word) (c.skip 2)
    else if next == quote then some (word, .quote, c)
    else if quote == '"' && next == '\\' then
      if isBreak (c.peekAt 1) then some (word, .escapedBreak, (c.skip 1).skipLine)
      else do
        let (x, c) ← scanEscape (c.skip 1)
        quotedWord quote steps (x :: word) c
    else quotedWord quote steps (next :: word) (c.skip 1)

/-- Reads words and gaps up to the closing quote; the text has its last character first. -/
def quotedLines (quote : Char) : (steps : Nat) → List Char → Cursor → Option (List Char × Cursor)
  | 0, _, _ => none
  | steps + 1, text, c => do
    require (!c.atDocumentMark && !c.atEnd)
    let (word, stop, c) ← quotedWord quote (c.rest.length + 1) [] c
    let text := word ++ text
    if stop = .quote then return (text, c.skip 1)
    let escaped := stop = .escapedBreak
    let (gap, c) ← Gap.scan 0 c.rest.length (if escaped then .afterEscapedBreak else {}) c
    let between := if escaped then gap.kept else gap.folded
    quotedLines quote steps (between.reverse ++ text) c

/-- A quoted scalar. -/
def scanQuoted (c : Cursor) : Option (String × Cursor) := do
  let (text, behind) ← quotedLines c.peek (c.rest.length + 1) [] (c.skip 1)
  return (String.ofList text.reverse, behind)

/-! ### Block scalars -/

/-- What becomes of the line endings behind a block scalar. -/
inductive Chomping
  | strip
  | clip
  | keep
  deriving DecidableEq

/-- The mark for the line endings, if there is one. -/
def scanChomping (c : Cursor) : Chomping × Cursor :=
  if c.peek == '+' then (.keep, c.skip 1)
  else if c.peek == '-' then (.strip, c.skip 1)
  else (.clip, c)

/-- The digit for the indentation, zero if there is none. -/
def scanIncrement (c : Cursor) : Option (Nat × Cursor) :=
  if Text.isDecimal c.peek then
    if c.peek == '0' then none else some (c.peek.toNat - 48, c.skip 1)
  else some (0, c)

/-- The marks behind the sign of a block scalar, in either order. -/
def scanBlockMarks (c : Cursor) : Option (Chomping × Nat × Cursor) := do
  let (chomping, behind) := scanChomping c
  if chomping = .clip then
    let (increment, c) ← scanIncrement c
    let (chomping, c) := if increment = 0 then (Chomping.clip, c) else scanChomping c
    return (chomping, increment, c)
  else
    let (increment, c) ← scanIncrement behind
    return (chomping, increment, c)

/--
Goes over empty lines and indentation. An indentation of zero is not known yet; it is that of the
deepest line met here, and at least one more than that of the block around.
-/
def blockBreaks (indent : Nat) :
    (steps : Nat) → (deepest : Nat) → List Char → Cursor → Option (Nat × List Char × Cursor)
  | 0, _, _, _ => none
  | steps + 1, deepest, breaks, c =>
    let spaces := (c.rest.takeWhile (· == ' ')).length
    let c := c.skip (if indent = 0 then spaces else min spaces (indent - c.column))
    let deepest := max deepest c.column
    if (indent = 0 || c.column < indent) && c.peek == '\t' then none
    else if isBreak c.peek then
      blockBreaks indent steps deepest (normalBreak c.peek :: breaks) c.skipLine
    else some (deepest, breaks, c)

/-- The text of a block scalar so far, the last character first, and what is not joined yet. -/
structure BlockText where
  text : List Char := []
  /-- The ending of the last line. -/
  leading : List Char := []
  /-- The endings of empty lines behind it, the last first. -/
  trailing : List Char
  /-- Whether the last line begins with a space. -/
  indented : Bool := false

/-- The line endings in front of a further line, the last first. -/
def BlockText.joint (b : BlockText) (folded nextIndented : Bool) : List Char :=
  if folded && b.leading == ['\n'] && !b.indented && !nextIndented then
    if b.trailing.isEmpty then [' '] else b.trailing
  else b.trailing ++ b.leading

/-- Reads the lines of a block scalar. -/
def blockLines (folded : Bool) (indent : Nat) :
    (steps : Nat) → BlockText → Cursor → Option (BlockText × Cursor)
  | 0, b, c => some (b, c)
  | steps + 1, b, c => do
    if c.column != indent || c.atEnd then return (b, c)
    let indented := isSpace c.peek
    let (line, c) := c.takeWhile fun x => !isBreakOrEnd x
    let text := line.reverse ++ b.joint folded indented ++ b.text
    let (leading, c) := if c.atEnd then ([], c) else ([normalBreak c.peek], c.skipLine)
    let (_, trailing, c) ← blockBreaks indent (c.rest.length + 1) 0 [] c
    blockLines folded indent steps ⟨text, leading, trailing, indented⟩ c

/-- The whole text of a block scalar. -/
def BlockText.chomped (b : BlockText) (chomping : Chomping) : List Char :=
  let ending := match chomping with
    | .strip => []
    | .clip => b.leading
    | .keep => b.trailing ++ b.leading
  (ending ++ b.text).reverse

/-- A block scalar inside a block with the given indentation, minus one being that of no block. -/
def scanBlock (outer : Int) (c : Cursor) : Option (String × ScalarStyle × Cursor) := do
  let folded := c.peek == '>'
  let (chomping, increment, c) ← scanBlockMarks (c.skip 1)
  let c := (c.skipWhile isSpace).skipComment
  require (isBreakOrEnd c.peek)
  let c := if c.atEnd then c else c.skipLine
  let base := outer.toNat
  let given := if increment = 0 then 0 else base + increment
  let (deepest, trailing, c) ← blockBreaks given (c.rest.length + 1) 0 [] c
  let indent := if given = 0 then max (max deepest (outer + 1).toNat) 1 else given
  let (b, c) ← blockLines folded indent (c.rest.length + 1) { trailing := trailing } c
  return (String.ofList (b.chomped chomping), if folded then .folded else .literal, c)

end ProxyChain.Yaml
