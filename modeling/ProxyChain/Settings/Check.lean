import ProxyChain.Net.Url
import ProxyChain.Settings.Basic
import ProxyChain.Text.Blank

/-!
# ProxyChain.Settings.Check

**Checking settings.** Settings are accepted when the ports of round-robin groups have somewhere
to begin and in the right order, the inbounds listen at a loopback address only, and a config can
be sent at all. Of several faults the first counts.
-/

namespace ProxyChain

/-- Why settings are refused. -/
inductive SettingsFault
  | noListenPort
  | noBackendPort
  /-- The listen ports would begin at or behind the backend ports. -/
  | portOrder
  | noLoopback
  | notLoopback (address : String)
  | badAddress (fault : Net.UrlFault)
  | noAttempts
  deriving Repr, DecidableEq

/-- The wording of a fault of settings. -/
def SettingsFault.message : SettingsFault → String
  | noListenPort => "Invalid listen base port"
  | noBackendPort => "Invalid backend base port"
  | portOrder => "listen-base-port must be lower than backend-base-port"
  | noLoopback => "Loopback address cannot be empty"
  | notLoopback address => s!"{address} is not a loopback address"
  | badAddress fault => "Invalid deploy base-url: " ++ fault.message
  | noAttempts => "max-attempts must be at least 1"

/-- Checks how a topology is compiled. -/
def CompilerSettings.check (settings : CompilerSettings) : Except SettingsFault Unit :=
  if settings.listenBasePort = 0 then .error .noListenPort
  else if settings.backendBasePort = 0 then .error .noBackendPort
  else if settings.backendBasePort ≤ settings.listenBasePort then .error .portOrder
  else if Text.allBlank settings.loopback then .error .noLoopback
  else if Net.isLoopbackAddress settings.loopback then .ok ()
  else .error (.notLoopback settings.loopback)

/-- Checks where and how a config is sent. -/
def DeploySettings.check (settings : DeploySettings) : Except SettingsFault Unit := do
  discard ((Net.Url.parse settings.baseUrl).mapError .badAddress)
  if settings.maxAttempts = 0 then .error .noAttempts else .ok ()

/-- Checks settings. -/
def Settings.check (settings : Settings) : Except SettingsFault Unit := do
  settings.compiler.check
  settings.deploy.check

end ProxyChain
