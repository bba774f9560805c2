import ProxyChain.Node.Codec
import ProxyChain.Settings.Basic

/-!
# ProxyChain.Settings.Codec

**Settings as documents.** All parts are records of declared fields, and every field has a
default, so that a file of settings names only what differs.
-/

namespace ProxyChain

open Json

/-- Reads how a topology is compiled. -/
def CompilerSettings.ofDocument (d : Document) : Except Fault CompilerSettings := do
  let fields ← Fields.ofRecord
    ["listen-base-port", "backend-base-port", "loopback", "log-level", "log-timestamp", "sniff"] d
  let default : CompilerSettings := {}
  return {
    listenBasePort := ← fields.withDefault "listen-base-port" default.listenBasePort Document.port
    backendBasePort :=
      ← fields.withDefault "backend-base-port" default.backendBasePort Document.port
    loopback := ← fields.withDefault "loopback" default.loopback Document.text
    logLevel := ← fields.withDefault "log-level" default.logLevel Document.text
    logTimestamp := ← fields.withDefault "log-timestamp" default.logTimestamp Document.flag
    sniff := ← fields.withDefault "sniff" default.sniff Document.flag }

/-- Writes how a topology is compiled. -/
def CompilerSettings.toValue (settings : CompilerSettings) : Value :=
  .object [("listen-base-port", .ofPort settings.listenBasePort),
    ("backend-base-port", .ofPort settings.backendBasePort),
    ("loopback", .string settings.loopback),
    ("log-level", .string settings.logLevel),
    ("log-timestamp", .bool settings.logTimestamp),
    ("sniff", .bool settings.sniff)]

/-- Reads where and how a config is sent. -/
def DeploySettings.ofDocument (d : Document) : Except Fault DeploySettings := do
  let fields ← Fields.ofRecord ["base-url", "timeout-secs", "max-attempts"] d
  let default : DeploySettings := {}
  return {
    baseUrl := ← fields.withDefault "base-url" default.baseUrl Document.text
    timeoutSecs := ← fields.withDefault "timeout-secs" default.timeoutSecs fun d =>
      Nat.toUInt64 <$> d.natural UInt64.size
    maxAttempts := ← fields.withDefault "max-attempts" default.maxAttempts fun d =>
      Nat.toUInt32 <$> d.natural UInt32.size }

/-- Writes where and how a config is sent. -/
def DeploySettings.toValue (settings : DeploySettings) : Value :=
  .object [("base-url", .string settings.baseUrl),
    ("timeout-secs", .ofNat settings.timeoutSecs.toNat),
    ("max-attempts", .ofNat settings.maxAttempts.toNat)]

/-- Reads settings. -/
def Settings.ofDocument (d : Document) : Except Fault Settings := do
  let fields ← Fields.ofRecord ["compiler", "deploy"] d
  return {
    compiler := ← fields.withDefault "compiler" {} CompilerSettings.ofDocument
    deploy := ← fields.withDefault "deploy" {} DeploySettings.ofDocument }

/-- Writes settings. -/
def Settings.toValue (settings : Settings) : Value :=
  .object [("compiler", settings.compiler.toValue), ("deploy", settings.deploy.toValue)]

end ProxyChain
