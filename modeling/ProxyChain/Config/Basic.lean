import ProxyChain.Node.Definition

/-!
# ProxyChain.Config.Basic

**Runtime configs**: what a topology is compiled into. A config lists the inbounds at which the
runtime listens, the outbounds that it dials, and the rules that send traffic from the ones to the
others.
-/

namespace ProxyChain

/-- How the runtime logs. -/
structure LogConfig where
  level : String := "info"
  timestamp : Bool := true
  deriving Repr, DecidableEq, Inhabited

/-- An inbound of the runtime. -/
structure InboundConfig where
  kind : String
  tag : String
  listen : Option String := none
  listenPort : Option UInt16 := none
  sniff : Option Bool := none
  deriving Repr, DecidableEq, Inhabited

namespace InboundConfig

/-- The inbound of a user's listener. -/
def mixed (tag listen : String) (port : UInt16) (sniff : Bool) : InboundConfig where
  kind := "mixed"
  tag := tag
  listen := some listen
  listenPort := some port
  sniff := some sniff

/-- The inbound at which a balancer dials one member of a pool. -/
def socks (tag listen : String) (port : UInt16) : InboundConfig where
  kind := "socks"
  tag := tag
  listen := some listen
  listenPort := some port

end InboundConfig

/-- An outbound of the runtime. -/
structure Outbound where
  kind : String
  tag : String
  server : Option String := none
  serverPort : Option UInt16 := none
  password : Option String := none
  uuid : Option String := none
  method : Option String := none
  tls : Option TlsOptions := none
  transport : Option TransportOptions := none
  version : Option String := none
  /-- The outbound through which this one is dialled. -/
  detour : Option String := none
  /-- The members of a selector. -/
  outbounds : List String := []
  /-- The member that is chosen at first. -/
  defaultOutbound : Option String := none
  deriving Repr, DecidableEq, Inhabited

namespace Outbound

/-- The Internet exit. -/
def direct : Outbound where
  kind := "direct"
  tag := Tag.internet

/-- The client of a local balancer. -/
def socksClient (tag server : String) (port : UInt16) : Outbound where
  kind := "socks"
  tag := tag
  server := some server
  serverPort := some port
  version := some "5"

/-- A selector. -/
def selector (tag : String) (members : List String) (default : String) : Outbound where
  kind := "selector"
  tag := tag
  outbounds := members
  defaultOutbound := some default

end Outbound

/-- A rule about traffic. -/
structure RouteRule where
  /-- The inbounds whose traffic the rule is about; none means all. -/
  inbounds : List String := []
  protocol : Option String := none
  action : Option String := none
  outbound : Option String := none
  deriving Repr, DecidableEq, Inhabited

namespace RouteRule

/-- The rule that answers name queries, which is always the first. -/
def hijackDns : RouteRule where
  protocol := some "dns"
  action := some "hijack-dns"

/-- The rule that sends the traffic of an inbound to an outbound. -/
def inboundTo (inbound outbound : String) : RouteRule where
  inbounds := [inbound]
  outbound := some outbound

end RouteRule

/-- A runtime config. -/
structure RuntimeConfig where
  log : LogConfig := {}
  inbounds : List InboundConfig := []
  outbounds : List Outbound := []
  rules : List RouteRule := []
  deriving Repr, DecidableEq, Inhabited

namespace RuntimeConfig

/-- The config with which a runtime first starts. -/
def initial : RuntimeConfig where
  inbounds := [.mixed "mixed-in" "127.0.0.1" 10808 true]
  outbounds := [.direct]
  rules := [.hijackDns]

/-- The first outbound of a tag. -/
def outbound? (config : RuntimeConfig) (tag : String) : Option Outbound :=
  config.outbounds.find? fun outbound => outbound.tag = tag

/-- The first inbound of a tag. -/
def inbound? (config : RuntimeConfig) (tag : String) : Option InboundConfig :=
  config.inbounds.find? fun inbound => inbound.tag = tag

end RuntimeConfig

end ProxyChain
