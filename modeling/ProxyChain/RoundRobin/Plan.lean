import ProxyChain.RoundRobin.Fingerprint
import ProxyChain.RoundRobin.Ports
import ProxyChain.Topology.Index

/-!
# ProxyChain.RoundRobin.Plan

**The plan of a topology's round-robin nodes.** A round-robin node is no outbound of its own: it
becomes a group, made of a client outbound that dials a local balancer, and one backend inbound
for each member of the pool, whose traffic goes to that member. The plan gives each group its id
and its ports, and it knows by which tag each node is dialled and where managed nodes send
traffic.
-/

namespace ProxyChain.RoundRobin

/-! ### Groups -/

/-- What a round-robin node becomes. -/
structure Group where
  /-- The tag of the node. -/
  tag : String
  /-- How many groups are before this one. -/
  index : Nat
  /-- Eight hexadecimal digits. -/
  id : String
  /-- Where the balancer listens. -/
  listenPort : UInt16
  /-- Where the balancer dials, one port for each member. -/
  backendPorts : List UInt16
  /-- The members of the pool. -/
  candidates : List String
  /-- Where the members send what they get. -/
  output : Option String
  deriving Repr, DecidableEq

namespace Group

/-- How the tags of a group begin. -/
def baseTag (group : Group) : String :=
  Tag.systemStem ++ group.id

/-- The tag of the outbound that stands for the node. -/
def outboundTag (group : Group) : String :=
  group.baseTag ++ "-lb"

/-- The tag of a backend inbound. -/
def inboundTag (group : Group) (position : Nat) : String :=
  s!"{group.baseTag}-in-{position}"

/-- The tags of the backend inbounds. -/
def inboundTags (group : Group) : List String :=
  (List.range group.candidates.length).map group.inboundTag

/-- The record of a group that was planned. -/
def record (group : Group) : Log.Record :=
  .debug .balancer
    (s!"Round Robin {group.tag} -> {group.outboundTag} (listen {group.listenPort.toNat}, "
      ++ s!"{group.candidates.length} backends)")

end Group

/-- The pool member that keeps a pool from having an output, if there is one. -/
def aggregatorIn? (index : Index) (pool : List String) : Option CompileError :=
  pool.findSome? fun candidate =>
    match index.placedKind? candidate with
    | some kind => if kind.isAggregator then some (.outputKind candidate kind) else none
    | none => none

/-- Plans the group of one round-robin node behind those that are planned already. -/
def planGroup (index : Index) (layout : PortLayout) (planned : List Group) (tag : String)
    (edges : Index.PoolEdges) : Except CompileError Group :=
  let size := edges.pool.length
  if size < 2 ∨ maxPoolSize < size then .error (.poolSize tag size)
  else
    match if edges.output.isSome then aggregatorIn? index edges.pool else none with
    | some e => .error e
    | none => do
      let listenPort ← layout.listenPort planned.length
      let backendPorts ← layout.backendPorts planned.length size
      return {
        tag := tag
        index := planned.length
        id := syntheticId tag (planned.map Group.id)
        listenPort := listenPort
        backendPorts := backendPorts
        candidates := edges.pool
        output := edges.output }

/-- The groups that could be planned one after the other, and the error that ended this. -/
structure Planning where
  groups : List Group
  failure : Option CompileError

/-- Plans the groups of round-robin nodes behind those that are planned already. -/
def planGroups (index : Index) (layout : PortLayout) (planned : List Group) :
    List (String × Index.PoolEdges) → Planning
  | [] => ⟨planned, none⟩
  | (tag, edges) :: rest =>
    match planGroup index layout planned tag edges with
    | .error e => ⟨planned, some e⟩
    | .ok group => planGroups index layout (planned ++ [group]) rest

/-- The round-robin nodes of a topology with their targets, in the order of placement. -/
def pools (t : Topology) (index : Index) : List (String × Index.PoolEdges) :=
  t.placed.filterMap fun (hop, node) =>
    if node.tag = "" then none else (index.poolOf? hop node).map (Prod.mk node.tag)

/-! ### Plans -/

/-- The tag by which a node is dialled: that of its group, else its own. -/
def dialTag (groups : List Group) (tag : String) : String :=
  match groups.findRev? fun group => group.tag = tag with
  | some group => group.outboundTag
  | none => tag

/-- A plan. -/
structure Plan where
  groups : List Group := []
  /-- Where each managed node sends traffic, by the tag that is dialled. -/
  outputs : List (String × String) := []
  deriving Repr, DecidableEq

/-- Adds the output of one member, which may not have another one. -/
def assignOutput (output : String) (assigned : List (String × String)) (candidate : String) :
    Except CompileError (List (String × String)) :=
  match assigned.lookup candidate with
  | none => .ok (assigned ++ [(candidate, output)])
  | some previous =>
    if previous = output then .ok assigned
    else .error (.conflictingOutput candidate previous output)

/-- Adds the outputs of the members of one group. -/
def assignGroup (groups : List Group) (assigned : List (String × String)) (group : Group) :
    Except CompileError (List (String × String)) :=
  match group.output with
  | none => .ok assigned
  | some output => group.candidates.foldlM (assignOutput (dialTag groups output)) assigned

/-- Where each managed node sends traffic. -/
def assignOutputs (groups : List Group) : Except CompileError (List (String × String)) :=
  groups.foldlM (assignGroup groups) []

/-- The plan of a topology. -/
def Plan.build (t : Topology) (index : Index) (layout : PortLayout) :
    Except CompileError Plan :=
  let planning := planGroups index layout [] (pools t index)
  match planning.failure with
  | some e => .error e
  | none => do return ⟨planning.groups, ← assignOutputs planning.groups⟩

/-- The records of planning. -/
def Plan.records (t : Topology) (index : Index) (layout : PortLayout) : List Log.Record :=
  (planGroups index layout [] (pools t index)).groups.map Group.record

namespace Plan

/-- The tag by which a node is dialled. -/
def mapTag (plan : Plan) (tag : String) : String :=
  dialTag plan.groups tag

/-- Where a managed node sends traffic. -/
def outputFor? (plan : Plan) (tag : String) : Option String :=
  plan.outputs.lookup tag

end Plan

end ProxyChain.RoundRobin
