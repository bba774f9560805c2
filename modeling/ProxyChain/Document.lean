import ProxyChain.Json.Value

/-!
# ProxyChain.Document

**Documents**: the tree that a profile, a config or a settings file is read into before it is
decoded, the same for every text format.

Design points:

* A scalar carries what it reads as for each kind of field (`Scalar`): the same characters may be a
  text for one field and a number for another, and the formats differ in which of these they allow.
  A decoder therefore asks for a reading and never for a format.
* Decoding has two manners. A *record* of declared fields may be written by name or as a list of
  its fields in order, ignores names it does not know and refuses a declared name that is written
  twice. An *open record* is written by name only and keeps the names it does not know.
* A part that is ignored need not be readable: a number beyond every range, say, or a nesting too
  deep is a fault only where something reads it. Such a part is a scalar without any reading.
-/

namespace ProxyChain

/-- What keeps a document from being decoded. -/
inductive Fault
  /-- Another kind of value was expected. -/
  | mismatch (expected : String)
  /-- A declared field is missing. -/
  | missing (field : String)
  /-- A declared field is written twice. -/
  | repeated (field : String)
  /-- A name is none of the known alternatives. -/
  | unknown (name : String)
  deriving Repr, DecidableEq

/-- The wording of a fault. -/
def Fault.message : Fault → String
  | .mismatch expected => s!"expected {expected}"
  | .missing field => s!"missing field {field}"
  | .repeated field => s!"duplicate field {field}"
  | .unknown name => s!"unknown variant {name}"

/-- What a scalar reads as, for each kind of field. -/
structure Scalar where
  /-- The text, for a field that holds text. -/
  text : Option String := none
  /-- The truth value. -/
  flag : Option Bool := none
  /-- The number, for a field that holds a natural number. -/
  natural : Option Nat := none
  /-- The name of an alternative. -/
  variant : Option String := none
  /-- Whether an optional field with this scalar is left out. -/
  isNothing : Bool := false
  /-- Whether the scalar has no characters at all and may stand for an empty list or record. -/
  isEmpty : Bool := false
  /-- The value, for a field that may hold anything. -/
  value : Option Json.Value := none
  deriving Repr, Inhabited

/-- A document. -/
inductive Document
  | scalar (scalar : Scalar)
  | list (items : List Document)
  /-- Named entries in their order; `variant` is the alternative that a record of one entry may
  stand for. -/
  | record (variant : Option String) (entries : List (Scalar × Document))
  /-- A document under a label of the author's own. Only an alternative is read from the label. -/
  | labelled (label : String) (content : Document)
  deriving Inhabited

namespace Document

/-- A scalar without any reading. -/
def unreadable : Document :=
  .scalar {}

/-- The scalar that an empty text is. -/
def nothing : Document :=
  .scalar { isNothing := true, isEmpty := true, value := some .null }

/-! ### Values -/

mutual

/-- The value of a document whose shape is not declared. -/
def value? : Document → Except Fault Json.Value
  | .scalar s => s.value.elim (.error (.mismatch "a value")) .ok
  | .list items => do return .array (← items? items)
  | .record _ entries => do return .object (Json.sortFields (← entries? entries))
  | .labelled _ _ => .error (.mismatch "a value without a label")

/-- The values of the items of a list. -/
def items? : List Document → Except Fault (List Json.Value)
  | [] => .ok []
  | item :: rest => do return (← item.value?) :: (← items? rest)

/-- The values of entries, whose names have to be texts as they stand. -/
def entries? : List (Scalar × Document) → Except Fault (List (String × Json.Value))
  | [] => .ok []
  | (key, item) :: rest => do
    match key.value with
    | some (.string name) => return (name, ← item.value?) :: (← entries? rest)
    | _ => .error (.mismatch "a text as a key")

end

/-! ### Scalars -/

/-- The document under any labels. -/
def unlabelled : Document → Document
  | .labelled _ content => content.unlabelled
  | d => d

/-- The scalar of a document. -/
def scalar? (d : Document) : Scalar :=
  match d.unlabelled with
  | .scalar s => s
  | _ => {}

/-- Reads a text. -/
def text (d : Document) : Except Fault String :=
  d.scalar?.text.elim (.error (.mismatch "a string")) .ok

/-- Reads a truth value. -/
def flag (d : Document) : Except Fault Bool :=
  d.scalar?.flag.elim (.error (.mismatch "a boolean")) .ok

/-- Reads a natural number below a bound. -/
def natural (bound : Nat) (d : Document) : Except Fault Nat :=
  match d.scalar?.natural with
  | some n => if n < bound then .ok n else .error (.mismatch "a smaller number")
  | none => .error (.mismatch "a number")

/-- Reads a port number. -/
def port (d : Document) : Except Fault UInt16 := do
  return (← d.natural 65536).toUInt16

/-- Reads the name of an alternative. -/
def variant (d : Document) : Except Fault String :=
  let found := match d with
    | .scalar s => s.variant
    | .record v _ => v
    | .labelled label content => if content.scalar?.isNothing then some label else none
    | .list _ => none
  found.elim (.error (.mismatch "the name of an alternative")) .ok

/-- Reads a document that may stand for nothing. -/
def optional (read : Document → Except Fault α) : Document → Except Fault (Option α)
  | .scalar s => if s.isNothing then .ok none else some <$> read (.scalar s)
  | d => some <$> read d

/-! ### Lists and maps -/

/-- Reads a list. -/
def listOf (read : Document → Except Fault α) (d : Document) : Except Fault (List α) :=
  match d.unlabelled with
  | .list items => items.mapM read
  | .scalar s => if s.isEmpty then .ok [] else .error (.mismatch "a list")
  | _ => .error (.mismatch "a list")

/-- The entries of a document that is a record, each name read as a text. -/
def namedEntries (d : Document) : Except Fault (List (String × Document)) :=
  match d.unlabelled with
  | .record _ entries => entries.mapM fun (key, item) =>
      key.text.elim (.error (.mismatch "a text as a key")) fun name => .ok (name, item)
  | .scalar s => if s.isEmpty then .ok [] else .error (.mismatch "a record")
  | _ => .error (.mismatch "a record")

/-- Reads a map from names. The last of several entries with one name counts, where the first
stands. -/
def mapOf (read : Document → Except Fault α) (d : Document) :
    Except Fault (List (String × α)) := do
  let entries ← (← d.namedEntries).mapM fun (name, item) => do return (name, ← read item)
  return entries.foldl (fun acc entry => Json.setField entry.1 entry.2 acc) []

end Document

/-! ### Records -/

/-- The declared fields that a document has, and what else it holds. -/
structure Fields where
  declared : List (String × Document)
  rest : List (String × Document)

namespace Fields

/-- Sorts entries into declared ones and the rest; a declared name may occur once. -/
def ofEntries (names : List String) (entries : List (String × Document)) : Except Fault Fields :=
  let (declared, rest) := entries.partition fun entry => names.contains entry.1
  match (declared.map (·.1)).find? fun name => (declared.map (·.1)).count name != 1 with
  | some name => .error (.repeated name)
  | none => .ok ⟨declared, rest⟩

/-- The fields of a record with the declared names, written by name or in order. -/
def ofRecord (names : List String) (d : Document) : Except Fault Fields :=
  match d.unlabelled with
  | .list items =>
    if names.length < items.length then .error (.mismatch "a shorter list")
    else .ok ⟨names.zip items, []⟩
  | _ => do ofEntries names (← d.namedEntries)

/-- The fields of an open record, written by name. -/
def ofOpenRecord (names : List String) (d : Document) : Except Fault Fields := do
  ofEntries names (← d.namedEntries)

/-- A field that has to be there. -/
def required (f : Fields) (name : String) (read : Document → Except Fault α) : Except Fault α :=
  match f.declared.lookup name with
  | some d => read d
  | none => .error (.missing name)

/-- A field with a default. -/
def withDefault (f : Fields) (name : String) (default : α) (read : Document → Except Fault α) :
    Except Fault α :=
  match f.declared.lookup name with
  | some d => read d
  | none => .ok default

/-- A field that may be left out or stand for nothing. -/
def optional (f : Fields) (name : String) (read : Document → Except Fault α) :
    Except Fault (Option α) :=
  f.withDefault name none (Document.optional read)

/-- The values of what is not declared, in the order in which the names first occur. -/
def extra (f : Fields) : Except Fault (List (String × Json.Value)) := do
  let entries ← f.rest.mapM fun (name, item) => do return (name, ← item.value?)
  return entries.foldl (fun acc entry => Json.setField entry.1 entry.2 acc) []

end Fields

/-! ### Documents of values -/

namespace Document

mutual

/-- The document of a value. -/
def ofValue : Json.Value → Document
  | .null => .scalar { isNothing := true, value := some .null }
  | .bool b => .scalar { flag := some b, value := some (.bool b) }
  | .number n =>
    let natural := match n with
      | .int (.ofNat k) => some k
      | _ => none
    .scalar { natural := natural, value := some (.number n) }
  | .string s => .scalar { text := some s, variant := some s, value := some (.string s) }
  | .array items => .list (ofItems items)
  | .object fields =>
    let variant := match fields with
      | [(name, .null)] => some name
      | _ => none
    .record variant (ofFields fields)

/-- The documents of the items of an array. -/
def ofItems : List Json.Value → List Document
  | [] => []
  | item :: rest => ofValue item :: ofItems rest

/-- The entries of the fields of an object. -/
def ofFields : List (String × Json.Value) → List (Scalar × Document)
  | [] => []
  | (name, value) :: rest =>
    ({ text := some name, variant := some name, value := some (.string name) }, ofValue value) ::
      ofFields rest

end

end Document

end ProxyChain
