import ProxyChain.Document
import ProxyChain.Json.Token

/-!
# ProxyChain.Json.Reader

**JSON texts as documents.** The reader goes through the tokens once and keeps a stack of the
arrays and objects that are open. Lists and records that are nested too deep have no reading, but
they do not make the text wrong: what nothing reads may be nested as deep as it likes.
-/

namespace ProxyChain.Json

/-- An array or an object that is open; what it holds so far comes last first. -/
inductive Frame
  | array (items : List Document)
  | object (entries : List (Scalar × Document))
  /-- An object behind the name of an entry. -/
  | entry (entries : List (Scalar × Document)) (key : Scalar)

/-- What may come next. -/
inductive Expected
  /-- A value. -/
  | value
  /-- A value, or the end of an empty array. -/
  | firstItem
  /-- The name of an entry. -/
  | key
  /-- The name of an entry, or the end of an empty object. -/
  | firstKey
  /-- The colon behind a name. -/
  | colon
  /-- A comma, or the end of what is open. -/
  | separator
  deriving DecidableEq

/-- Where the reader is. -/
structure Reader where
  stack : List Frame
  expected : Expected
  /-- The document, when it is complete. -/
  result : Option Document

namespace Reader

/-- The deepest nesting that is read. -/
def deepest : Nat := 127

/-- Puts a value where it belongs. -/
def put (d : Document) : List Frame → Option Reader
  | [] => some ⟨[], .separator, some d⟩
  | .array items :: outer => some ⟨.array (d :: items) :: outer, .separator, none⟩
  | .entry entries key :: outer => some ⟨.object ((key, d) :: entries) :: outer, .separator, none⟩
  | .object _ :: _ => none

/-- The alternative that a record of one entry without content stands for. -/
def variantOf : List (Scalar × Document) → Option String
  | [(key, .scalar s)] => if s.isNothing then key.text else none
  | _ => none

/-- The document of a list or a record, unless it is nested too deep. -/
def shallow (outer : List Frame) (d : Document) : Document :=
  if outer.length < deepest then d else .unreadable

/-- Ends what is open. -/
def close (token : Token) (stack : List Frame) : Option Reader :=
  match token, stack with
  | .closeBracket, .array items :: outer => put (shallow outer (.list items.reverse)) outer
  | .closeBrace, .object entries :: outer =>
    put (shallow outer (.record (variantOf entries) entries.reverse)) outer
  | _, _ => none

/-- The document of a word or a number. -/
def plainDocument (value : Option Value) : Document :=
  value.elim .unreadable .ofValue

/-- The scalar of a string. -/
def stringScalar (text : Option String) : Scalar :=
  { text := text, variant := text, value := text.map .string }

/-- Reads the beginning of a value. -/
def beginValue (token : Token) (stack : List Frame) : Option Reader :=
  match token with
  | .plain value => put (plainDocument value) stack
  | .string text => put (.scalar (stringScalar text)) stack
  | .openBracket => some ⟨.array [] :: stack, .firstItem, none⟩
  | .openBrace => some ⟨.object [] :: stack, .firstKey, none⟩
  | _ => none

/-- Reads the name of an entry. -/
def beginEntry (token : Token) (stack : List Frame) : Option Reader :=
  match token, stack with
  | .string text, .object entries :: outer =>
    some ⟨.entry entries (stringScalar text) :: outer, .colon, none⟩
  | _, _ => none

/-- Reads one token. -/
def step (reader : Reader) (token : Token) : Option Reader :=
  let stack := reader.stack
  match reader.expected, token with
  | .value, token => beginValue token stack
  | .firstItem, .closeBracket => close token stack
  | .firstItem, token => beginValue token stack
  | .key, token => beginEntry token stack
  | .firstKey, .closeBrace => close token stack
  | .firstKey, token => beginEntry token stack
  | .colon, .colon => some ⟨stack, .value, none⟩
  | .colon, _ => none
  | .separator, .comma =>
    match stack with
    | .array _ :: _ => some ⟨stack, .value, none⟩
    | .object _ :: _ => some ⟨stack, .key, none⟩
    | _ => none
  | .separator, token => close token stack

end Reader

/-- Reads a JSON text. -/
def read? (text : String) : Option Document := do
  let tokens ← Token.ofText text
  let reader ← tokens.foldlM Reader.step ⟨[], .value, none⟩
  reader.result

/-- Reads a JSON text as something that documents stand for. -/
def decode (ofDocument : Document → Except Fault α) (text : String) : Except Fault α :=
  match read? text with
  | some d => ofDocument d
  | none => .error (.mismatch "a JSON text")

end ProxyChain.Json
