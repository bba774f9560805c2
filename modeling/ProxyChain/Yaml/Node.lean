import ProxyChain.Sequence
import ProxyChain.Yaml.Layout

/-!
# ProxyChain.Yaml.Node

**The nodes of a YAML text**, read from its tokens. A text holds one document at most; an alias
is the node that it names. A node that contains itself is never finished, and is cut off where it
would begin again.
-/

namespace ProxyChain.Yaml

/-- A node, with its full tag if it has one. -/
inductive Node
  | scalar (tag : Option String) (text : String) (style : ScalarStyle)
  | list (tag : Option String) (items : List Node)
  | map (tag : Option String) (entries : List (Node × Node))
  /-- Where a node would begin again inside of itself. -/
  | endless
  deriving Inhabited

namespace Node

/-- The node of something that is left out. -/
def missing : Node :=
  .scalar none "" .plain

/-- What is left to read, and what the names that were read stand for. -/
structure State where
  tokens : List Token
  /-- The nodes with an anchor, the last first. -/
  anchors : List (String × Node) := []
  /-- What the handles of tags stand for. -/
  handles : List (String × String) := []

/-- Reads part of the tokens, if they are as they should be. -/
abbrev Parser := StateT State Option

/-- The next token. -/
def peek : Parser Token := do
  return (← get).tokens.headD .textEnd

/-- Goes over the next token. -/
def advance : Parser Unit :=
  modify fun s => { s with tokens := s.tokens.tail }

/-- Fails unless a condition holds. -/
def check (condition : Bool) : Parser Unit :=
  if condition then return () else failure

/-- Goes over the next token if it is the given one; tells whether it was. -/
def accept (token : Token) : Parser Bool := do
  if (← peek) = token then
    advance
    return true
  else return false

/-- Whether a node is cut off. -/
def isEndless : Node → Bool
  | .endless => true
  | _ => false

/-- Notes the name of a node that begins. -/
def beginAnchor (anchor : Option String) : Parser Unit :=
  match anchor with
  | some name => modify fun s => { s with anchors := (name, .endless) :: s.anchors }
  | none => return ()

/-- Gives a node the name that was noted where it began. -/
def endAnchor (anchor : Option String) (node : Node) : Parser Unit :=
  match anchor with
  | some name => modify fun s =>
    { s with
      anchors := modifyFirst (fun entry => entry.1 = name && entry.2.isEndless)
        (fun _ => (name, node)) s.anchors }
  | none => return ()

/-! ### Properties -/

/-- An anchor, if one is next. -/
def anchor? : Parser (Option String) := do
  match ← peek with
  | .anchor name =>
    advance
    return some name
  | _ => return none

/-- The full tag, if a tag is next. -/
def tag? : Parser (Option String) := do
  match ← peek with
  | .tag "" suffix =>
    advance
    return some suffix
  | .tag handle suffix =>
    advance
    match (← get).handles.lookup handle with
    | some stem => return some (stem ++ suffix)
    | none => failure
  | _ => return none

/-- The anchor and the tag of a node, in either order. -/
def properties : Parser (Option String × Option String) := do
  match ← anchor? with
  | some name => return (some name, ← tag?)
  | none =>
    let tag ← tag?
    return (← if tag.isSome then anchor? else pure none, tag)

/-! ### Nodes -/

/-- Where a node stands: whether blocks may begin there, and lists without indentation. -/
structure Place where
  block : Bool
  unindented : Bool

/-- Whether a block ends, or goes on with its next entry, at a token. -/
def endsValue (token : Token) : Bool :=
  token = .key || token = .value || token = .blockEnd

/-- Whether an item of a block list is left out in front of a token. -/
def endsItem (token : Token) : Bool :=
  token = .blockEntry || token = .blockEnd

mutual

/-- A node. -/
def node (place : Place) : (steps : Nat) → Parser Node
  | 0 => failure
  | steps + 1 => do
    match ← peek with
    | .alias name =>
      advance
      match (← get).anchors.lookup name with
      | some found => return found
      | none => failure
    | _ =>
      let (anchor, tag) ← properties
      beginAnchor anchor
      let found ← content place anchor tag steps
      endAnchor anchor found
      return found

/-- A node behind its properties. -/
def content (place : Place) (anchor tag : Option String) : (steps : Nat) → Parser Node
  | 0 => failure
  | steps + 1 => do
    match ← peek with
    | .blockEntry =>
      if place.unindented then return .list tag (← unindentedItems steps)
      else if anchor.isSome || tag.isSome then return .scalar tag "" .plain
      else failure
    | .scalar text style =>
      advance
      return .scalar (if tag = some "!" then none else tag) text style
    | .flowListStart =>
      advance
      return .list tag (← flowItems true steps)
    | .flowMapStart =>
      advance
      return .map tag (← flowEntries true steps)
    | .blockListStart =>
      check place.block
      advance
      return .list tag (← blockItems steps)
    | .blockMapStart =>
      check place.block
      advance
      return .map tag (← blockEntries steps)
    | _ =>
      check (anchor.isSome || tag.isSome)
      return .scalar tag "" .plain

/-- The items of a block list up to its end. -/
def blockItems : (steps : Nat) → Parser (List Node)
  | 0 => failure
  | steps + 1 => do
    if ← accept .blockEnd then return []
    check (← accept .blockEntry)
    let item ← if endsItem (← peek) then pure missing else node ⟨true, false⟩ steps
    return item :: (← blockItems steps)

/-- The items of a list that is indented no further than the map around it. -/
def unindentedItems : (steps : Nat) → Parser (List Node)
  | 0 => failure
  | steps + 1 => do
    if ← accept .blockEntry then
      let next ← peek
      let item ←
        if next = .blockEntry || endsValue next then pure missing else node ⟨true, false⟩ steps
      return item :: (← unindentedItems steps)
    else return []

/-- The entries of a block map up to its end. -/
def blockEntries : (steps : Nat) → Parser (List (Node × Node))
  | 0 => failure
  | steps + 1 => do
    if ← accept .blockEnd then return []
    check (← accept .key)
    let key ← if endsValue (← peek) then pure missing else node ⟨true, true⟩ steps
    let value ←
      if ← accept .value then
        if endsValue (← peek) then pure missing else node ⟨true, true⟩ steps
      else pure missing
    return (key, value) :: (← blockEntries steps)

/-- The items of a list in brackets up to its end. -/
def flowItems (first : Bool) : (steps : Nat) → Parser (List Node)
  | 0 => failure
  | steps + 1 => do
    if ← accept .flowListEnd then return []
    if !first then check (← accept .flowEntry)
    if ← accept .flowListEnd then return []
    let item ← if ← accept .key then flowPair steps else node ⟨false, false⟩ steps
    return item :: (← flowItems false steps)

/-- A map of one entry that is written as an item in brackets. -/
def flowPair : (steps : Nat) → Parser Node
  | 0 => failure
  | steps + 1 => do
    let next ← peek
    let key ←
      if next = .value || next = .flowEntry || next = .flowListEnd then
        advance
        pure missing
      else node ⟨false, false⟩ steps
    let value ←
      if ← accept .value then
        let next ← peek
        if next = .flowEntry || next = .flowListEnd then pure missing
        else node ⟨false, false⟩ steps
      else pure missing
    return .map none [(key, value)]

/-- The entries of a map in brackets up to its end. -/
def flowEntries (first : Bool) : (steps : Nat) → Parser (List (Node × Node))
  | 0 => failure
  | steps + 1 => do
    if ← accept .flowMapEnd then return []
    if !first then check (← accept .flowEntry)
    if ← accept .flowMapEnd then return []
    let isEnd (token : Token) : Bool := token = .flowEntry || token = .flowMapEnd
    if ← accept .key then
      let next ← peek
      let key ← if next = .value || isEnd next then pure missing else node ⟨false, false⟩ steps
      let value ←
        if ← accept .value then
          if isEnd (← peek) then pure missing else node ⟨false, false⟩ steps
        else pure missing
      return (key, value) :: (← flowEntries false steps)
    else
      let key ← node ⟨false, false⟩ steps
      return (key, missing) :: (← flowEntries false steps)

end

/-! ### Documents -/

/-- What the handles of tags stand for if a text does not say it. -/
def defaultHandles : List (String × String) :=
  [("!", "!"), ("!!", "tag:yaml.org,2002:")]

/-- Whether a version is one that can be read. -/
def isKnownVersion (major minor : Nat) : Bool :=
  major == 1 && (minor == 1 || minor == 2)

/-- The directives in front of a document: the handles, unless something is wrong with them. -/
def directives (versionSeen : Bool) (handles : List (String × String)) :
    List Token → Option (List (String × String) × List Token)
  | .versionDirective major minor :: rest =>
    if !versionSeen && isKnownVersion major minor then directives true handles rest else none
  | .tagDirective handle stem :: rest =>
    if (handles.lookup handle).isSome then none
    else directives versionSeen ((handle, stem) :: handles) rest
  | rest => some (handles, rest)

/-- Whether a document is empty that begins with a token. -/
def endsDocument : Token → Bool
  | .versionDirective .. | .tagDirective .. | .documentStart | .documentEnd | .textEnd => true
  | _ => false

/-- The node of a text with a document. -/
def ofDocumentTokens (tokens : List Token) : Option Node := do
  let (handles, rest) ← directives false [] tokens
  let isExplicit := rest.head? = some .documentStart
  require (isExplicit || (handles.isEmpty && rest.length = tokens.length))
  let rest := if isExplicit then rest.tail else rest
  let steps := 4 * rest.length + 4
  if isExplicit && rest.head?.all endsDocument then
    require ((rest.dropWhile (· = .documentEnd)).head? = some .textEnd)
    return missing
  else
    let (found, s) ← (node ⟨true, false⟩ steps).run
      { tokens := rest, handles := handles ++ defaultHandles }
    require ((s.tokens.dropWhile (· = .documentEnd)).head? = some .textEnd)
    return found

/-- The node of a text; one without any document has none. -/
def ofText (text : String) : Option (Option Node) := do
  let tokens ← Token.ofText text
  if tokens = [.textEnd] then return none else return some (← ofDocumentTokens tokens)

end Node

end ProxyChain.Yaml
