import ProxyChain.Document
import ProxyChain.Node.Definition

/-!
# ProxyChain.Node.Codec

**Node definitions as documents.** Definitions, TLS options and transport options are open
records: names that are not declared are kept with their values behind the declared ones. An
optional field is written only when it is set.
-/

namespace ProxyChain

namespace Json

/-- A field that is written only when it has a value. -/
def optionalField (name : String) (encode : α → Value) (value : Option α) :
    List (String × Value) :=
  match value with
  | some a => [(name, encode a)]
  | none => []

/-- A natural number as a value. -/
def Value.ofNat (n : Nat) : Value :=
  .number (.int n)

/-- A port as a value. -/
def Value.ofPort (port : UInt16) : Value :=
  .ofNat port.toNat

/-- A list of texts as a value. -/
def Value.ofTexts (texts : List String) : Value :=
  .array (texts.map .string)

end Json

open Json

/-! ### Kinds -/

namespace NodeKind

/-- Reads a kind by its name. -/
def ofDocument (d : Document) : Except Fault NodeKind := do
  let name ← d.variant
  match ofName? name with
  | some kind => .ok kind
  | none => .error (.unknown name)

end NodeKind

/-! ### TLS options -/

namespace TlsOptions

/-- Reads TLS options. -/
def ofDocument (d : Document) : Except Fault TlsOptions := do
  let fields ← Fields.ofOpenRecord ["enabled", "server_name", "insecure"] d
  return {
    enabled := ← fields.withDefault "enabled" false Document.flag
    serverName := ← fields.optional "server_name" Document.text
    insecure := ← fields.optional "insecure" Document.flag
    extra := ← fields.extra }

/-- Writes TLS options. -/
def toValue (tls : TlsOptions) : Value :=
  .object (("enabled", .bool tls.enabled)
    :: optionalField "server_name" .string tls.serverName
    ++ optionalField "insecure" .bool tls.insecure
    ++ tls.extra)

end TlsOptions

/-! ### Transport options -/

namespace TransportOptions

/-- Reads transport options. -/
def ofDocument (d : Document) : Except Fault TransportOptions := do
  let fields ← Fields.ofOpenRecord ["type", "path", "headers"] d
  return {
    kind := ← fields.required "type" Document.text
    path := ← fields.optional "path" Document.text
    headers := ← fields.withDefault "headers" [] (Document.mapOf Document.text)
    extra := ← fields.extra }

/-- The headers as a field, left out when there are none. -/
def headersField (headers : List (String × String)) : List (String × Value) :=
  if headers.isEmpty then []
  else [("headers", .object (headers.map fun header => (header.1, .string header.2)))]

/-- Writes transport options. -/
def toValue (transport : TransportOptions) : Value :=
  .object (("type", .string transport.kind)
    :: optionalField "path" .string transport.path
    ++ headersField transport.headers
    ++ transport.extra)

end TransportOptions

/-! ### Definitions -/

namespace NodeDefinition

/-- The declared fields of a definition. -/
def fieldNames : List String :=
  ["id", "tag", "type", "server", "port", "password", "uuid", "method", "tls", "transport"]

/-- Reads a definition. -/
def ofDocument (d : Document) : Except Fault NodeDefinition := do
  let fields ← Fields.ofOpenRecord fieldNames d
  return {
    id := ← fields.withDefault "id" "" Document.text
    tag := ← fields.required "tag" Document.text
    kind := ← fields.required "type" NodeKind.ofDocument
    server := ← fields.optional "server" Document.text
    port := ← fields.optional "port" Document.port
    password := ← fields.optional "password" Document.text
    uuid := ← fields.optional "uuid" Document.text
    method := ← fields.optional "method" Document.text
    tls := ← fields.optional "tls" TlsOptions.ofDocument
    transport := ← fields.optional "transport" TransportOptions.ofDocument
    extra := ← fields.extra }

/-- Writes a definition. -/
def toValue (definition : NodeDefinition) : Value :=
  .object (("id", .string definition.id)
    :: ("tag", .string definition.tag)
    :: ("type", .string definition.kind.name)
    :: optionalField "server" .string definition.server
    ++ optionalField "port" .ofPort definition.port
    ++ optionalField "password" .string definition.password
    ++ optionalField "uuid" .string definition.uuid
    ++ optionalField "method" .string definition.method
    ++ optionalField "tls" TlsOptions.toValue definition.tls
    ++ optionalField "transport" TransportOptions.toValue definition.transport
    ++ definition.extra)

end NodeDefinition

end ProxyChain
