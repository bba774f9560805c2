import ProxyChain.Config.Compile
import ProxyChain.Deploy.Response
import ProxyChain.Deploy.Retry
import ProxyChain.Json.Printer

/-!
# ProxyChain.Deploy.Client

**The client of the runtime manager.** It posts configs, tries again when that may help, and
remembers the config that it sent last with success, so that an unchanged config need not be sent
again.
-/

namespace ProxyChain

/-- A client of the runtime manager. -/
structure DeployClient where
  /-- The address of the manager, with a slash at its end. -/
  baseUrl : Net.Url
  /-- How long an answer is waited for, in seconds. -/
  patience : UInt64
  policy : RetryPolicy
  /-- The text of the config that was sent last, if it was taken. -/
  lastSent : Option String := none
  deriving Repr

namespace DeployClient

/-- A client that tries again by some policy. -/
def withPolicy (settings : DeploySettings) (policy : RetryPolicy) :
    Except ChainError DeployClient := do
  let url ← (Net.Url.parse settings.baseUrl).mapError fun fault =>
    .invalidParameter ("Invalid base URL: " ++ fault.message)
  return { baseUrl := url.withSlash, patience := max settings.timeoutSecs 1, policy := policy }

/-- A client that tries again as often as the settings say. -/
def ofSettings (settings : DeploySettings) : Except ChainError DeployClient :=
  withPolicy settings
    { maxAttempts := max settings.maxAttempts.toNat 1, initialDelay := 500, maxDelay := 10000 }

/-! ### Posting -/

/-- Where configs are posted to. -/
def saveUrl (client : DeployClient) : Except ChainError Net.Url :=
  (client.baseUrl.sibling "save_config").mapError fun fault =>
    .invalidParameter ("Invalid API path: " ++ fault.message)

/-- The text of a config in a request, its names in order. -/
def requestBody (config : RuntimeConfig) : String :=
  config.toValue.canonical.compact

/-- Posts a request once. -/
def attempt (request : Net.Request) : Program (Except ChainError SaveResponse) :=
  .post request fun reply => Program.ofExcept (SaveResponse.ofReply reply)

/-- What an answer comes to. The detail of a success is recorded only if it is asked for. -/
def conclude (detailed : Bool) (response : SaveResponse) :
    Program (Except ChainError SaveResponse) := do
  if detailed || !response.isSuccess then Program.log response.detailRecords
  if response.isSuccess then
    Program.log [response.successRecord]
    return .ok response
  else Program.fail response.rejection

/-- Posts a config. -/
def postConfig (client : DeployClient) (config : RuntimeConfig) (detailed : Bool) :
    Program (Except ChainError SaveResponse) :=
  match client.saveUrl with
  | .error error => Program.fail error
  | .ok url => do
    let request := ⟨url, requestBody config, client.patience⟩
    match ← client.policy.execute "save_config" fun _ => attempt request with
    | .ok response => conclude detailed response
    | .error error => return .error error

/-! ### Operations -/

/-- Sends a config and records what the manager found out about it. -/
def saveConfig (client : DeployClient) (config : RuntimeConfig) :
    Program (Except ChainError SaveResponse) :=
  client.postConfig config true

/-- The text by which a config is told apart from others. -/
def signature (config : RuntimeConfig) : String :=
  config.toValue.compact

/-- Sends a config unless it is the one that was sent last, and tells whether it was sent. -/
def deployIfChanged (client : DeployClient) (config : RuntimeConfig) (force : Bool) :
    Program (DeployClient × Except ChainError Bool) := do
  let text := signature config
  if !force && client.lastSent = some text then
    Program.log [.debug .deploy "Config unchanged, skipping deploy"]
    return (client, .ok false)
  else
    match ← client.postConfig config false with
    | .ok _ => return ({ client with lastSent := some text }, .ok true)
    | .error error => return (client, .error error)

/-- Compiles a topology and sends the config if it is another one. -/
def compileAndDeploy (client : DeployClient) (settings : CompilerSettings) (t : Topology)
    (force : Bool) : Program (DeployClient × Except ChainError Bool) := do
  Program.log (compileRecords settings t)
  match compile settings t with
  | .ok config => client.deployIfChanged config force
  | .error error => return (client, .error (.compile error))

end DeployClient

end ProxyChain
