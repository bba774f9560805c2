import ProxyChain.Document
import ProxyChain.Yaml.Node
import ProxyChain.Yaml.Plain

/-!
# ProxyChain.Yaml.Reader

**YAML texts as documents.** A scalar is a text for every field that holds text, however it is
written; it is a number or a truth value only where it is plain, or where a block scalar carries
the tag of one.
-/

namespace ProxyChain.Yaml

/-! ### Tags -/

/-- The full tag of a kind of scalar. -/
def coreTag (name : String) : String :=
  "tag:yaml.org,2002:" ++ name

/-- The label that a tag of the author's own is. -/
def labelOf? (tag : Option String) : Option String :=
  match tag.map String.toList with
  | some ['!'] => some "!"
  | some ('!' :: label) => some (String.ofList label)
  | _ => none

/-! ### Scalars -/

/-- Whether a scalar may be of some kind: it is plain, or a block scalar with the tag of it. -/
def mayBe (kind : String) (tag : Option String) (style : ScalarStyle) : Bool :=
  style = .plain || (style = .literal && tag = some (coreTag kind))

/-- The value of a scalar with the tag of its kind. -/
def taggedValue (kind text : String) : Option Json.Value :=
  match kind, Plain.meaning text with
  | "bool", _ => (Plain.flag? text).map .bool
  | "null", _ => if Plain.isNull text then some .null else none
  | "int", .integer n => Plain.integerValue n
  | "int", _ => none
  | "float", _ =>
    if Plain.isSpecialDouble text then some .null
    else (Plain.double? text).map fun bits => .number (.float bits)
  | _, _ => some (.string text)

/-- The value of a scalar. -/
def scalarValue (tag : Option String) (text : String) (style : ScalarStyle) :
    Option Json.Value :=
  match ["bool", "null", "int", "float"].find? fun kind => tag = some (coreTag kind) with
  | some kind => taggedValue kind text
  | none =>
    if style = .plain && tag.isNone then (Plain.meaning text).value text
    else some (.string text)

/-- Whether a scalar stands for nothing. -/
def isNothing (tag : Option String) (text : String) (style : ScalarStyle) : Bool :=
  style = .plain &&
    match tag with
    | none => text = "" || Plain.isNull text
    | some tag => tag = coreTag "null" && Plain.isNull text

/-- What a scalar reads as. -/
def readScalar (tag : Option String) (text : String) (style : ScalarStyle) : Scalar where
  text := some text
  flag := if mayBe "bool" tag style then Plain.flag? text else none
  natural :=
    if mayBe "int" tag style then (Plain.natural? text).filter (· < UInt64.size) else none
  variant := some text
  isNothing := isNothing tag text style
  isEmpty := style = .plain && text = ""
  value := scalarValue tag text style

/-! ### Nodes -/

/-- How many more lists and maps may be nested in a document. -/
def deepest : Nat := 128

namespace Node

/-- A document under the label that a tag is, if it is one. -/
def withLabel (tag : Option String) (d : Document) : Document :=
  match labelOf? tag with
  | some label => .labelled label d
  | none => d

/-- A tag that is not a label. -/
def coreOnly (tag : Option String) : Option String :=
  if (labelOf? tag).isSome then none else tag

/-- What a node reads as when it is a name. -/
def keyScalar : Node → Scalar
  | .scalar tag text style => readScalar tag text style
  | _ => {}

mutual

/-- The document of a node in which lists and maps may be nested so deep. -/
def toDocument (depth : Nat) : Node → Document
  | .scalar tag text style => withLabel tag (.scalar (readScalar (coreOnly tag) text style))
  | .list tag items =>
    withLabel tag (match depth with
      | 0 => .unreadable
      | depth + 1 => .list (itemDocuments depth items))
  | .map tag entries =>
    withLabel tag (match depth with
      | 0 => .unreadable
      | depth + 1 => .record none (entryDocuments depth entries))
  | .endless => .unreadable

/-- The documents of items. -/
def itemDocuments (depth : Nat) : List Node → List Document
  | [] => []
  | item :: rest => item.toDocument depth :: itemDocuments depth rest

/-- The documents of entries. -/
def entryDocuments (depth : Nat) : List (Node × Node) → List (Scalar × Document)
  | [] => []
  | (key, value) :: rest =>
    (key.keyScalar, value.toDocument depth) :: entryDocuments depth rest

end

end Node

/-- Reads a YAML text. -/
def read? (text : String) : Option Document := do
  match ← Node.ofText text with
  | some node => return node.toDocument deepest
  | none => return .nothing

/-- Reads a YAML text as something that documents stand for. -/
def decode (ofDocument : Document → Except Fault α) (text : String) : Except Fault α :=
  match read? text with
  | some d => ofDocument d
  | none => .error (.mismatch "a YAML text")

end ProxyChain.Yaml
