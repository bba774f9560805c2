import ProxyChain.Config.Basic
import ProxyChain.Node.Codec

/-!
# ProxyChain.Config.Codec

**Runtime configs as documents.** All parts are records of declared fields. A field that is
optional, or a list that is, is written only when there is something in it.
-/

namespace ProxyChain

open Json

/-- A list of texts that is written only when it is not empty. -/
def Json.textsField (name : String) (texts : List String) : List (String × Value) :=
  if texts.isEmpty then [] else [(name, .ofTexts texts)]

/-! ### Log -/

/-- Reads how the runtime logs. -/
def LogConfig.ofDocument (d : Document) : Except Fault LogConfig := do
  let fields ← Fields.ofRecord ["level", "timestamp"] d
  return {
    level := ← fields.required "level" Document.text
    timestamp := ← fields.required "timestamp" Document.flag }

/-- Writes how the runtime logs. -/
def LogConfig.toValue (log : LogConfig) : Value :=
  .object [("level", .string log.level), ("timestamp", .bool log.timestamp)]

/-! ### Inbounds -/

/-- Reads an inbound. -/
def InboundConfig.ofDocument (d : Document) : Except Fault InboundConfig := do
  let fields ← Fields.ofRecord ["type", "tag", "listen", "listen_port", "sniff"] d
  return {
    kind := ← fields.required "type" Document.text
    tag := ← fields.required "tag" Document.text
    listen := ← fields.optional "listen" Document.text
    listenPort := ← fields.optional "listen_port" Document.port
    sniff := ← fields.optional "sniff" Document.flag }

/-- Writes an inbound. -/
def InboundConfig.toValue (inbound : InboundConfig) : Value :=
  .object (("type", .string inbound.kind)
    :: ("tag", .string inbound.tag)
    :: optionalField "listen" .string inbound.listen
    ++ optionalField "listen_port" .ofPort inbound.listenPort
    ++ optionalField "sniff" .bool inbound.sniff)

/-! ### Outbounds -/

/-- The declared fields of an outbound. -/
def Outbound.fieldNames : List String :=
  ["type", "tag", "server", "server_port", "password", "uuid", "method", "tls", "transport",
    "version", "detour", "outbounds", "default"]

/-- Reads an outbound. -/
def Outbound.ofDocument (d : Document) : Except Fault Outbound := do
  let fields ← Fields.ofRecord fieldNames d
  return {
    kind := ← fields.required "type" Document.text
    tag := ← fields.required "tag" Document.text
    server := ← fields.optional "server" Document.text
    serverPort := ← fields.optional "server_port" Document.port
    password := ← fields.optional "password" Document.text
    uuid := ← fields.optional "uuid" Document.text
    method := ← fields.optional "method" Document.text
    tls := ← fields.optional "tls" TlsOptions.ofDocument
    transport := ← fields.optional "transport" TransportOptions.ofDocument
    version := ← fields.optional "version" Document.text
    detour := ← fields.optional "detour" Document.text
    outbounds := ← fields.withDefault "outbounds" [] (Document.listOf Document.text)
    defaultOutbound := ← fields.optional "default" Document.text }

/-- Writes an outbound. -/
def Outbound.toValue (outbound : Outbound) : Value :=
  .object (("type", .string outbound.kind)
    :: ("tag", .string outbound.tag)
    :: optionalField "server" .string outbound.server
    ++ optionalField "server_port" .ofPort outbound.serverPort
    ++ optionalField "password" .string outbound.password
    ++ optionalField "uuid" .string outbound.uuid
    ++ optionalField "method" .string outbound.method
    ++ optionalField "tls" TlsOptions.toValue outbound.tls
    ++ optionalField "transport" TransportOptions.toValue outbound.transport
    ++ optionalField "version" .string outbound.version
    ++ optionalField "detour" .string outbound.detour
    ++ textsField "outbounds" outbound.outbounds
    ++ optionalField "default" .string outbound.defaultOutbound)

/-! ### Rules -/

/-- Reads a rule. -/
def RouteRule.ofDocument (d : Document) : Except Fault RouteRule := do
  let fields ← Fields.ofRecord ["inbound", "protocol", "action", "outbound"] d
  return {
    inbounds := ← fields.withDefault "inbound" [] (Document.listOf Document.text)
    protocol := ← fields.optional "protocol" Document.text
    action := ← fields.optional "action" Document.text
    outbound := ← fields.optional "outbound" Document.text }

/-- Writes a rule. -/
def RouteRule.toValue (rule : RouteRule) : Value :=
  .object (textsField "inbound" rule.inbounds
    ++ optionalField "protocol" .string rule.protocol
    ++ optionalField "action" .string rule.action
    ++ optionalField "outbound" .string rule.outbound)

/-- Reads the rules of a route. -/
def RouteRule.listOfDocument (d : Document) : Except Fault (List RouteRule) := do
  let fields ← Fields.ofRecord ["rules"] d
  fields.withDefault "rules" [] (Document.listOf RouteRule.ofDocument)

/-! ### Configs -/

/-- Reads a config. -/
def RuntimeConfig.ofDocument (d : Document) : Except Fault RuntimeConfig := do
  let fields ← Fields.ofRecord ["log", "inbounds", "outbounds", "route"] d
  return {
    log := ← fields.withDefault "log" {} LogConfig.ofDocument
    inbounds := ← fields.withDefault "inbounds" [] (Document.listOf InboundConfig.ofDocument)
    outbounds := ← fields.withDefault "outbounds" [] (Document.listOf Outbound.ofDocument)
    rules := ← fields.withDefault "route" [] RouteRule.listOfDocument }

/-- Writes a config. -/
def RuntimeConfig.toValue (config : RuntimeConfig) : Value :=
  .object [("log", config.log.toValue),
    ("inbounds", .array (config.inbounds.map InboundConfig.toValue)),
    ("outbounds", .array (config.outbounds.map Outbound.toValue)),
    ("route", .object [("rules", .array (config.rules.map RouteRule.toValue))])]

end ProxyChain
