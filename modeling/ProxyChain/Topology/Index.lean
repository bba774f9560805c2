import ProxyChain.Topology.Basic

/-!
# ProxyChain.Topology.Index

**The index of a topology**: the hop and the kind of each placed tag, and the kind that the
library gives to a tag. It is built once for an operation, and the rules for links are stated on
it: how far a target is from its source, which of a round-robin node's targets form its pool, and
which detours of a node are legal.
-/

namespace ProxyChain

/-- What is known about one placed tag. -/
structure Placement where
  hop : Nat
  kind : NodeKind
  deriving Repr, DecidableEq

/-- The index of a topology. -/
structure Index where
  /-- The first placement of each tag that is not empty. -/
  placements : List (String × Placement) := []
  /-- The kind in the first definition of each tag. -/
  libraryKinds : List (String × NodeKind) := []
  hopCount : Nat := 0
  deriving Repr, DecidableEq

/-- Adds an entry to a map unless its key is there. -/
def insertNew [DecidableEq κ] (key : κ) (value : α) (entries : List (κ × α)) : List (κ × α) :=
  if (entries.lookup key).isSome then entries else entries ++ [(key, value)]

/-- The index of a topology. -/
def Topology.index (t : Topology) : Index where
  placements := t.placed.foldl (fun known (hop, node) =>
    if node.tag = "" then known else insertNew node.tag ⟨hop, t.kindOf node⟩ known) []
  libraryKinds := t.library.foldl (fun known d => insertNew d.tag d.kind known) []
  hopCount := t.hopCount

namespace Index

/-! ### Look-ups -/

/-- The hop of a placed tag. -/
def hopOf? (index : Index) (tag : String) : Option Nat :=
  (index.placements.lookup tag).map Placement.hop

/-- Whether a tag is placed in that hop. -/
def inHop (index : Index) (tag : String) (hop : Nat) : Bool :=
  index.hopOf? tag = some hop

/-- The kind of a placed tag. -/
def placedKind? (index : Index) (tag : String) : Option NodeKind :=
  (index.placements.lookup tag).map Placement.kind

/-- The kind of a target: as it is placed, else as the library has it. -/
def targetKind? (index : Index) (tag : String) : Option NodeKind :=
  (index.placedKind? tag).or (index.libraryKinds.lookup tag)

/-! ### Distances -/

/-- Whether a hop is the last one. -/
def isLastHop (index : Index) (hop : Nat) : Bool :=
  hop + 1 = index.hopCount

/-- Whether a hop is the last but one. -/
def isSecondToLastHop (index : Index) (hop : Nat) : Bool :=
  hop + 2 = index.hopCount

/--
Whether a tag is a target one step ahead: in the next hop, or the Internet exit behind the last.
-/
def isAdjacentTarget (index : Index) (hop : Nat) (tag : String) : Bool :=
  if tag = Tag.internet then index.isLastHop hop else index.inHop tag (hop + 1)

/--
Whether a tag is a target two steps ahead: in the hop after the next, or the Internet exit when
the next hop is the last.
-/
def isOutputTarget (index : Index) (hop : Nat) (tag : String) : Bool :=
  if tag = Tag.internet then index.isSecondToLastHop hop else index.inHop tag (hop + 2)

/-! ### Round-robin targets -/

/-- The targets of a round-robin node by their part. -/
structure PoolEdges where
  /-- The members of the pool, in the next hop. -/
  pool : List String
  /-- Where the members send what they get. -/
  output : Option String
  deriving Repr, DecidableEq

/-- The targets as detours: the pool, then the output. -/
def PoolEdges.detours (edges : PoolEdges) : List String :=
  edges.pool ++ edges.output.toList

/-- Sorts the detours of a round-robin node in some hop. The first legal output counts. -/
def splitPool (index : Index) (hop : Nat) (detours : List String) : PoolEdges :=
  let tags := Tag.unique detours
  ⟨tags.filter fun tag => index.inHop tag (hop + 1), tags.find? (index.isOutputTarget hop)⟩

/-! ### Legal detours -/

/-- The detours that a node of some kind may have in some hop. -/
def legalDetours (index : Index) (hop : Nat) (kind : NodeKind) (detours : List String) :
    List String :=
  let adjacent := (Tag.unique detours).filter (index.isAdjacentTarget hop)
  match kind.role with
  | .roundRobin => (index.splitPool hop detours).detours
  | .selector => adjacent
  | .leaf => adjacent.take 1

end Index

/-- The targets of a placed node, if it is a round-robin node. -/
def Index.poolOf? (index : Index) (hop : Nat) (node : PlacedNode) : Option Index.PoolEdges :=
  if index.placedKind? node.tag = some .roundRobin then some (index.splitPool hop node.detours)
  else none

/--
The managed nodes: members of the pool of a round-robin node that has an output. Where they send
traffic is decided by that node, so they have no detours of their own.
-/
def Topology.managedMembers (t : Topology) (index : Index) : List String :=
  t.placed.flatMap fun (hop, node) =>
    match index.poolOf? hop node with
    | some edges => if edges.output.isSome then edges.pool else []
    | none => []

end ProxyChain
