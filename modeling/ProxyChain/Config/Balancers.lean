import ProxyChain.Config.Basic
import ProxyChain.Net.Address

/-!
# ProxyChain.Config.Balancers

**The balancers of a config**: what a balancer has to know, read off a compiled config by the tags
that the compiler makes up. The client outbound of a group gives the port at which its balancer
listens, and the backend inbounds give the ports that it dials, in the order of the positions in
their tags.
-/

namespace ProxyChain

/-- What a balancer has to know. -/
structure BalancerGroup where
  id : String
  listenPort : UInt16
  backendPorts : List UInt16
  deriving Repr, DecidableEq

/-! ### Tags -/

/-- What is left of a text behind a beginning. -/
def dropStem? (stem : List Char) (cs : List Char) : Option (List Char) :=
  if stem.isPrefixOf cs then some (cs.drop stem.length) else none

/-- What is left of a text in front of an ending. -/
def dropEnding? (ending : List Char) (cs : List Char) : Option (List Char) :=
  (dropStem? ending.reverse cs.reverse).map List.reverse

/-- A text split at the last occurrence of a mark. -/
def splitLast? (mark : List Char) : List Char → Option (List Char × List Char)
  | [] => none
  | c :: rest =>
    match splitLast? mark rest with
    | some (front, back) => some (c :: front, back)
    | none => (dropStem? mark (c :: rest)).map fun back => ([], back)

/-- The id in the tag of a client outbound. -/
def clientId? (tag : String) : Option String := do
  let rest ← dropStem? Tag.systemStem.toList tag.toList
  return String.ofList (← dropEnding? "-lb".toList rest)

/-- The largest position of a backend inbound, and one more. -/
def positionBound : Nat := UInt64.size

/-- The id and the position in the tag of a backend inbound. -/
def backendPosition? (tag : String) : Option (String × Nat) := do
  let rest ← dropStem? Tag.systemStem.toList tag.toList
  let (id, position) ← splitLast? "-in-".toList rest
  let position ← (Text.readNatural? (String.ofList position)).filter (· < positionBound)
  return (String.ofList id, position)

/-! ### Groups -/

/-- A backend port of some group. -/
structure Backend where
  id : String
  position : Nat
  port : UInt16
  deriving Repr, DecidableEq

/-- The id and the port of a balancer, from its client outbound. -/
def Outbound.listener? (outbound : Outbound) : Option (String × UInt16) := do
  let id ← clientId? outbound.tag
  if outbound.kind = "socks" ∧ outbound.server.any Net.isLoopbackAddress then
    return (id, ← outbound.serverPort)
  else none

/-- The backend port that an inbound is. -/
def InboundConfig.backend? (inbound : InboundConfig) : Option Backend :=
  if inbound.kind = "socks" then do
    let (id, position) ← backendPosition? inbound.tag
    return ⟨id, position, ← inbound.listenPort⟩
  else none

namespace RuntimeConfig

/-- The ids of the balancers with their ports. The last client outbound of an id counts. -/
def listeners (config : RuntimeConfig) : List (String × UInt16) :=
  (config.outbounds.filterMap Outbound.listener?).foldl (fun acc entry => setBy Prod.fst entry acc)
    []

/-- The backend ports of a group, by position. -/
def backendPorts (config : RuntimeConfig) (id : String) : List UInt16 :=
  let own := (config.inbounds.filterMap InboundConfig.backend?).filter fun b => b.id = id
  (own.mergeSort fun a b => a.position ≤ b.position).map Backend.port

/-- The balancers of a config. A group with fewer than two backend ports is none. -/
def balancerGroups (config : RuntimeConfig) : List BalancerGroup :=
  config.listeners.filterMap fun (id, listenPort) =>
    let ports := config.backendPorts id
    if ports.length < 2 then none else some ⟨id, listenPort, ports⟩

end RuntimeConfig

end ProxyChain
