import ProxyChain.Log.Record
import ProxyChain.Topology.Index

/-!
# ProxyChain.Topology.Link

**Links**: which new link a topology allows, and what an allowed link does to the detours of its
source. A denied link changes nothing and tells the user why.

An inbound links to the first hop. A node links one hop ahead, or to the Internet exit from the
last hop; a selector collects such links and a leaf has one. A round-robin node collects a pool
one hop ahead and has one output two hops ahead.
-/

namespace ProxyChain

/-- The kinds of links, each with its own way into the detours of the source. -/
inductive EdgeKind
  /-- From an inbound: added. -/
  | inboundEntry
  /-- From a leaf: replaces all others. -/
  | single
  /-- From a selector: added. -/
  | fanout
  /-- To the pool of a round-robin node: added. -/
  | pool
  /-- To the output of a round-robin node: replaces the outputs. -/
  | output
  deriving Repr, DecidableEq

/-- The name of a kind of link. -/
def EdgeKind.name : EdgeKind → String
  | inboundEntry => "InboundEntry"
  | single => "Single"
  | fanout => "Fanout"
  | pool => "Pool"
  | output => "Output"

/-- Why a link is denied. Hops are counted from one, and the Internet exit is in hop zero. -/
inductive Denial
  | selfLink (tag : String)
  | unknownInbound (tag : String)
  | inboundToInternet
  | inboundBeyondFirstHop (target : String)
  | notPlaced (tag : String)
  | managed (source : String)
  | poolNotLast (source : String) (hop : Nat)
  | outOfReach (source : String) (hop : Nat) (target : String) (targetHop : Nat)
  | notLastHop (source : String) (hop : Nat)
  | notAdjacent (source : String) (hop : Nat) (target : String) (targetHop : Nat)
  deriving Repr, DecidableEq

namespace Denial

/-- What is told of a denial, behind the words that all of them share. -/
def reason : Denial → String
  | selfLink tag => s!"{tag} cannot link to itself"
  | unknownInbound tag => s!"unknown inbound {tag}"
  | inboundToInternet => "Inbound cannot connect to Internet directly. Connect to HOP 1."
  | inboundBeyondFirstHop target => s!"Inbound -> {target} (must connect to HOP 1)"
  | notPlaced tag => s!"{tag} is not placed in any hop"
  | managed source =>
    s!"{source} is managed by a Round Robin node. Connect from the Round Robin node instead."
  | poolNotLast source hop =>
    s!"{source} (HOP {hop}) -> Internet. Round Robin can connect to Internet only when its pool "
      ++ "is in the last hop."
  | outOfReach source hop target targetHop =>
    s!"{source} (HOP {hop}) -> {target} (HOP {targetHop}). Round Robin can link to pool "
      ++ s!"(HOP {hop + 1}) or output (HOP {hop + 2})."
  | notLastHop source hop =>
    s!"{source} (HOP {hop}) -> Internet (must connect to HOP {hop + 1})"
  | notAdjacent source hop target targetHop =>
    s!"{source} (HOP {hop}) -> {target} (HOP {targetHop}); must connect to HOP {hop + 1}"

/-- The message of a denial. -/
def message (d : Denial) : String :=
  "Connection blocked: " ++ d.reason

end Denial

/-- Whether a link is allowed. -/
inductive LinkDecision
  | allow (kind : EdgeKind)
  | deny (denial : Denial)
  deriving Repr, DecidableEq

/-- The source of a link: an inbound or a placed node, by its tag. -/
structure LinkSource where
  tag : String
  isInbound : Bool
  deriving Repr, DecidableEq

namespace Topology

/-! ### Deciding -/

/-- Decides on a link from an inbound. -/
def decideInboundLink (t : Topology) (index : Index) (source target : String) : LinkDecision :=
  if (t.inbound? source).isNone then .deny (.unknownInbound source)
  else if target = Tag.internet then .deny .inboundToInternet
  else if index.inHop target 0 then .allow .inboundEntry
  else .deny (.inboundBeyondFirstHop target)

/-- Decides on a link from a round-robin node. -/
def decidePoolLink (index : Index) (source : String) (hop : Nat) (target : String)
    (targetHop : Option Nat) : LinkDecision :=
  if target = Tag.internet then
    if index.isSecondToLastHop hop then .allow .output else .deny (.poolNotLast source (hop + 1))
  else if targetHop = some (hop + 1) then .allow .pool
  else if targetHop = some (hop + 2) then .allow .output
  else .deny (.outOfReach source (hop + 1) target ((targetHop.map (· + 1)).getD 0))

/-- Decides on a link from a selector or a leaf. -/
def decideStepLink (index : Index) (kind : EdgeKind) (source : String) (hop : Nat)
    (target : String) (targetHop : Option Nat) : LinkDecision :=
  if target = Tag.internet then
    if index.isLastHop hop then .allow kind else .deny (.notLastHop source (hop + 1))
  else if targetHop = some (hop + 1) then .allow kind
  else .deny (.notAdjacent source (hop + 1) target ((targetHop.map (· + 1)).getD 0))

/-- Decides on a link from a placed node. -/
def decideNodeLink (t : Topology) (index : Index) (source target : String) : LinkDecision :=
  match index.placements.lookup source with
  | none => .deny (.notPlaced source)
  | some ⟨hop, sourceKind⟩ =>
    let targetHop := index.hopOf? target
    if sourceKind.role ≠ .roundRobin ∧ source ∈ t.managedMembers index then
      .deny (.managed source)
    else if target ≠ Tag.internet ∧ targetHop = none then .deny (.notPlaced target)
    else
      match sourceKind.role with
      | .roundRobin => decidePoolLink index source hop target targetHop
      | .selector => decideStepLink index .fanout source hop target targetHop
      | .leaf => decideStepLink index .single source hop target targetHop

/-- Decides on a link, given the index of the topology. -/
def decideLink (t : Topology) (index : Index) (source : LinkSource) (target : String) :
    LinkDecision :=
  if source.tag = target then .deny (.selfLink source.tag)
  else if source.isInbound then t.decideInboundLink index source.tag target
  else t.decideNodeLink index source.tag target

/-- Whether a link is allowed. -/
def canLink (t : Topology) (source : LinkSource) (target : String) : LinkDecision :=
  t.decideLink t.index source target

/-! ### Linking -/

/-- The detours of a node in some hop with one more link of the given kind. -/
def addDetour (index : Index) (hop : Nat) (kind : EdgeKind) (target : String)
    (detours : List String) : List String :=
  match kind with
  | .single => [target]
  | .inboundEntry | .fanout | .pool =>
    if target ∈ detours then detours else detours ++ [target]
  | .output =>
    (detours.filter fun tag => tag ≠ "" && tag ≠ Tag.internet && !index.inHop tag (hop + 2))
      ++ [target]

/-- The topology with an allowed link. -/
def addLink (t : Topology) (index : Index) (source : LinkSource) (target : String)
    (kind : EdgeKind) : Topology :=
  let hop := (index.hopOf? source.tag).getD 0
  let add := addDetour index hop kind target
  if kind = .inboundEntry then
    t.modifyInbound source.tag fun inbound => { inbound with detours := add inbound.detours }
  else t.modifyPlaced source.tag fun node => { node with detours := add node.detours }

/-- The detours of the source of a link. -/
def detoursOf (t : Topology) (source : LinkSource) : List String :=
  if source.isInbound then (t.inbound? source.tag).elim [] Inbound.detours
  else (t.findPlaced? source.tag).elim [] fun entry => entry.2.detours

/-- What a link does. -/
structure Linked where
  decision : LinkDecision
  topology : Topology
  records : List Log.Record

/-- Whether an allowed link of some kind has anything to do. An output is always set anew. -/
def linkIsNew (kind : EdgeKind) (target : String) (detours : List String) : Bool :=
  match kind with
  | .single => detours ≠ [target]
  | .inboundEntry | .fanout | .pool => target ∉ detours
  | .output => true

/-- The records of an allowed link, given the detours that its source had. -/
def linkRecords (source : LinkSource) (target : String) (kind : EdgeKind)
    (detours : List String) : List Log.Record :=
  if linkIsNew kind target detours then
    if source.isInbound then
      let count := detours.length + 1
      (if 1 < count then
        [.info .link (s!"Inbound {source.tag} has {count} connections. "
          ++ "A selector will be created.")]
      else []) ++ [.info .link s!"Linked [In] {source.tag} -> {target}"]
    else [.info .link s!"Linked {source.tag} -> {target}"]
  else []

/-- Links a source to a target if that is allowed. -/
def link (t : Topology) (source : LinkSource) (target : String) : Linked :=
  let index := t.index
  match t.decideLink index source target with
  | .allow kind =>
    ⟨.allow kind, t.addLink index source target kind,
      linkRecords source target kind (t.detoursOf source)⟩
  | .deny denial => ⟨.deny denial, t, [.debug .link denial.message]⟩

end Topology

end ProxyChain
