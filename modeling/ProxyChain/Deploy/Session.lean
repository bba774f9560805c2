import ProxyChain.Deploy.Client

/-!
# ProxyChain.Deploy.Session

**Sessions with the runtime manager**: the calls that can be made of a client, and what each comes
to. The client that a call leaves is the one for the next call.
-/

namespace ProxyChain

/-- A call of a client. -/
inductive DeployCall
  /-- Sends a config. -/
  | save (config : RuntimeConfig)
  /-- Sends a config unless it is the one that was sent last. -/
  | deploy (config : RuntimeConfig) (force : Bool)
  /-- Compiles a topology and does the same. -/
  | compileDeploy (settings : CompilerSettings) (topology : Topology) (force : Bool)

/-- What a call gives. -/
inductive DeployResult
  | saved (response : SaveResponse)
  /-- Whether the config was sent. -/
  | sent (sent : Bool)
  deriving Repr, DecidableEq

namespace DeployClient

/-- Carries out a call. -/
def perform (client : DeployClient) :
    DeployCall → Program (DeployClient × Except ChainError DeployResult)
  | .save config => do
    let result ← client.saveConfig config
    return (client, result.map .saved)
  | .deploy config force => do
    let (client, result) ← client.deployIfChanged config force
    return (client, result.map .sent)
  | .compileDeploy settings t force => do
    let (client, result) ← client.compileAndDeploy settings t force
    return (client, result.map .sent)

/-- Carries out calls one after another, and gives what each of them comes to. -/
def performAll (client : DeployClient) :
    List DeployCall → Program (DeployClient × List (Except ChainError DeployResult))
  | [] => return (client, [])
  | call :: rest => do
    let (client, result) ← client.perform call
    let (client, results) ← client.performAll rest
    return (client, result :: results)

end DeployClient

end ProxyChain
