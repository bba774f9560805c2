import ProxyChain.RoundRobin.Ports

/-!
# ProxyChain.Settings.Basic

**Settings**: what is not part of a profile but decides how it is compiled, and where the result
is sent.
-/

namespace ProxyChain

/-- The address at which synthetic inbounds listen. -/
def loopback : String := "127.0.0.1"

/-- How a topology is compiled. -/
structure CompilerSettings where
  listenBasePort : UInt16 := 25080
  backendBasePort : UInt16 := 25100
  /-- The address at which all inbounds listen. -/
  loopback : String := ProxyChain.loopback
  logLevel : String := "info"
  logTimestamp : Bool := true
  sniff : Bool := true
  deriving Repr, DecidableEq, Inhabited

/-- Where the ports of round-robin groups begin. -/
def CompilerSettings.portLayout (settings : CompilerSettings) : RoundRobin.PortLayout :=
  ⟨settings.listenBasePort, settings.backendBasePort⟩

/-- Where and how a config is sent. -/
structure DeploySettings where
  baseUrl : String := "http://127.0.0.1:19999/api"
  timeoutSecs : UInt64 := 30
  maxAttempts : UInt32 := 3
  deriving Repr, DecidableEq, Inhabited

/-- All settings. -/
structure Settings where
  compiler : CompilerSettings := {}
  deploy : DeploySettings := {}
  deriving Repr, DecidableEq, Inhabited

end ProxyChain
