import ProxyChain.Config.Basic
import ProxyChain.RoundRobin.Plan
import ProxyChain.Settings.Basic
import ProxyChain.Topology.Normalize

/-!
# ProxyChain.Config.Compile

**Compiling a topology.** A topology is normalized, its round-robin nodes are planned, and then
every part of the config is written down from the plan:

* every placed node that is not a round-robin node is an outbound with the attributes of its
  definition, which dials through its next hop or chooses among its targets;
* every round-robin group is a client outbound, and one backend inbound with a rule for each
  member of its pool;
* every inbound of the user's is an inbound, with a rule to its target, or to a selector of its
  own when it has several targets.
-/

namespace ProxyChain

open RoundRobin

/-! ### Outbounds of nodes -/

/-- A text unless it is empty. -/
def nonEmpty (text : Option String) : Option String :=
  text.filter (· ≠ "")

/-- An outbound of some kind with the attributes that a definition gives it. -/
def Outbound.ofDefinition (kind : NodeKind) (tag : String) (definition : Option NodeDefinition) :
    Outbound :=
  match definition with
  | none => { kind := kind.name, tag := tag }
  | some d =>
    { kind := kind.name
      tag := tag
      server := nonEmpty d.server
      serverPort := d.port.filter (· ≠ 0)
      password := nonEmpty d.password
      uuid := nonEmpty d.uuid
      method := nonEmpty d.method
      tls := d.tls
      transport := d.transport }

/-- The outbounds that a list of detours stands for. -/
def Plan.dialled (plan : Plan) (detours : List String) : List String :=
  (detours.filter (· ≠ "")).map plan.mapTag

/-- The outbound through which a leaf is dialled. None is dialled through a terminal one. -/
def nextHop? (index : Index) (dialled : List String) : Option String :=
  dialled.head?.filter fun tag => !(index.targetKind? tag).any NodeKind.isTerminal

/-- The outbound of a node that is not a round-robin node. -/
def nodeOutbound (t : Topology) (index : Index) (plan : Plan) (kind : NodeKind)
    (node : PlacedNode) : Except CompileError Outbound :=
  let outbound := Outbound.ofDefinition kind node.tag (t.definition? node.tag)
  match plan.outputFor? node.tag with
  | some output =>
    if kind.isSelectorLike then .error (.candidateKind node.tag kind)
    else .ok { outbound with detour := some output }
  | none =>
    let dialled := Plan.dialled plan node.detours
    if kind.isSelectorLike then
      let members := Tag.unique dialled
      .ok { outbound with outbounds := members, defaultOutbound := members.head? }
    else .ok { outbound with detour := nextHop? index dialled }

/-- The kind of a placed node that is to be an outbound of its own. -/
def outboundKind (t : Topology) (index : Index) (node : PlacedNode) : NodeKind :=
  (index.placedKind? node.tag).getD (t.kindOf node)

/-- Adds the outbound of a placed node, unless it is a round-robin node or its tag is taken. -/
def addNodeOutbound (t : Topology) (index : Index) (plan : Plan) (outbounds : List Outbound)
    (node : PlacedNode) : Except CompileError (List Outbound) :=
  let kind := outboundKind t index node
  if kind = .roundRobin ∨ outbounds.any fun o => o.tag = node.tag then .ok outbounds
  else do return outbounds ++ [← nodeOutbound t index plan kind node]

/-- The outbounds of all placed nodes. -/
def nodeOutbounds (t : Topology) (index : Index) (plan : Plan) :
    Except CompileError (List Outbound) :=
  (t.placed.map Prod.snd).foldlM (addNodeOutbound t index plan) []

/-- Adds the clients of the balancers, and the Internet exit if it is not there. -/
def addFixedOutbounds (settings : CompilerSettings) (plan : Plan) (outbounds : List Outbound) :
    List Outbound :=
  let clients := plan.groups.foldl (fun acc group =>
    setBy Outbound.tag (.socksClient group.outboundTag settings.loopback group.listenPort) acc)
    outbounds
  if clients.any fun o => o.tag = Tag.internet then clients else clients ++ [.direct]

/-! ### Inbounds and rules -/

/-- The outbound to which the traffic of an inbound goes, if it has a target. -/
def Inbound.routeTo? (plan : Plan) (inbound : Inbound) : Option String :=
  match Plan.dialled plan inbound.detours with
  | [] => none
  | [only] => some only
  | _ => some inbound.selectorTag

/-- The selector of an inbound with several targets. -/
def Inbound.selector? (plan : Plan) (inbound : Inbound) : Option Outbound :=
  match Plan.dialled plan inbound.detours with
  | first :: second :: rest =>
    let members := first :: second :: rest
    let chosen := (inbound.selectorDefault.map plan.mapTag).filter members.contains
    some (.selector inbound.selectorTag members (chosen.getD first))
  | _ => none

/-- The backend inbounds of a group, each with its port and the outbound that gets its traffic. -/
def backends (plan : Plan) (group : Group) : List (String × UInt16 × String) :=
  group.inboundTags.zip (group.backendPorts.zip (group.candidates.map plan.mapTag))

/-- All inbounds: the user's, then those of the groups. -/
def compileInbounds (settings : CompilerSettings) (t : Topology) (plan : Plan) :
    List InboundConfig :=
  t.inbounds.map (fun inbound =>
      .mixed inbound.tag settings.loopback inbound.port settings.sniff)
    ++ plan.groups.flatMap fun group => (backends plan group).map fun (tag, port, _) =>
      .socks tag settings.loopback port

/-- All rules: the one for name queries, those of the user's inbounds, those of the groups. -/
def compileRules (t : Topology) (plan : Plan) : List RouteRule :=
  .hijackDns
    :: t.inbounds.filterMap (fun inbound =>
        (inbound.routeTo? plan).map (RouteRule.inboundTo inbound.tag))
    ++ plan.groups.flatMap fun group => (backends plan group).map fun (tag, _, outbound) =>
      .inboundTo tag outbound

/-! ### Compiling -/

/-- The config of a topology in normal form, given its plan. -/
def assemble (settings : CompilerSettings) (t : Topology) (plan : Plan) :
    Except CompileError RuntimeConfig := do
  let nodes ← nodeOutbounds t t.index plan
  return {
    log := { level := settings.logLevel, timestamp := settings.logTimestamp }
    inbounds := compileInbounds settings t plan
    outbounds := addFixedOutbounds settings plan nodes
      ++ t.inbounds.filterMap (Inbound.selector? plan)
    rules := compileRules t plan }

/-- The plan of a topology in normal form. -/
def planOf (settings : CompilerSettings) (t : Topology) : Except CompileError Plan :=
  Plan.build t t.index settings.portLayout

/-- Compiles a topology. -/
def compile (settings : CompilerSettings) (t : Topology) : Except CompileError RuntimeConfig := do
  let normal := t.normalize
  assemble settings normal (← planOf settings normal)

/-! ### Records -/

/-- The records of selectors among the nodes that have nothing to choose from. -/
def emptySelectorRecords (t : Topology) (plan : Plan) : List Log.Record :=
  t.placed.filterMap fun (_, node) =>
    if (t.kindOf node).isSelectorLike ∧ Plan.dialled plan node.detours = [] then
      some (.warn .compiler s!"Selector {node.tag} has no outbounds")
    else none

/-- The records of selectors of inbounds that share their tag with an outbound. -/
def sharedTagRecords (t : Topology) (plan : Plan) (outbounds : List Outbound) :
    List Log.Record :=
  t.inbounds.filterMap fun inbound =>
    match inbound.selector? plan with
    | some selector =>
      if outbounds.any fun o => o.tag = selector.tag then
        some (.warn .compiler
          s!"Inbound selector {selector.tag} shares its tag with a node outbound")
      else none
    | none => none

/-- The record of what was compiled. -/
def RuntimeConfig.record (config : RuntimeConfig) (plan : Plan) : Log.Record :=
  .info .compiler (s!"Compiled topology: {config.inbounds.length} inbounds, "
    ++ s!"{config.outbounds.length} outbounds, {config.rules.length} route rules, "
    ++ s!"{plan.groups.length} round-robin groups")

/-- The records of assembling a config. -/
def assembleRecords (settings : CompilerSettings) (t : Topology) (plan : Plan) :
    List Log.Record :=
  match nodeOutbounds t t.index plan, assemble settings t plan with
  | .ok nodes, .ok config =>
    emptySelectorRecords t plan
      ++ sharedTagRecords t plan (addFixedOutbounds settings plan nodes)
      ++ [config.record plan]
  | _, _ => []

/-- The records of compiling a topology. -/
def compileRecords (settings : CompilerSettings) (t : Topology) : List Log.Record :=
  let normal := t.normalize
  t.repairs.records
    ++ Plan.records normal normal.index settings.portLayout
    ++ match planOf settings normal with
      | .ok plan => assembleRecords settings normal plan
      | .error _ => []

end ProxyChain
