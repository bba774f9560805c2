import ProxyChain.Log.Record
import ProxyChain.Topology.Index

/-!
# ProxyChain.Topology.Normalize

**Normal form of a topology.** `Topology.normalize` repairs whatever a profile may hold, in six
passes: the library, stale selector defaults, placements, detours of inbounds, detours of nodes,
and detours of managed nodes. It cannot fail, and it only removes: apart from the definition of
the Internet exit and from a selector default that falls back to the first detour, everything in
the result was there before.

`Topology.repairs` counts what each pass changed.
-/

namespace ProxyChain

/-! ### The library -/

/-- One definition for each tag, and the Internet exit as it has to be. -/
def repairLibrary (library : List NodeDefinition) : List NodeDefinition :=
  let kept := distinctBy NodeDefinition.tag library
  if kept.any fun d => d.tag = Tag.internet then
    kept.map fun d => if d.tag = Tag.internet then { d with kind := .direct } else d
  else kept ++ [.internet]

/-- The count of definitions dropped, and one more if the Internet exit was missing or wrong. -/
def libraryRepairs (library : List NodeDefinition) : Nat :=
  let kept := distinctBy NodeDefinition.tag library
  let exitIsRight := kept.any fun d => d.tag = Tag.internet && d.kind = .direct
  (library.length - kept.length) + if exitIsRight then 0 else 1

/-! ### Selector defaults -/

/-- Whether the default of an inbound is none of its detours. -/
def Inbound.hasStaleDefault (inbound : Inbound) : Bool :=
  match inbound.selectorDefault with
  | some tag => !inbound.detours.contains tag
  | none => false

/-- An inbound whose stale default falls back to its first detour. -/
def Inbound.repairDefault (inbound : Inbound) : Inbound :=
  if inbound.hasStaleDefault then { inbound with selectorDefault := inbound.detours.head? }
  else inbound

/-! ### Placements -/

/-- The nodes with an allowed tag that is not yet seen. -/
def keepNodes (allowed : String → Bool) (seen : List String) : List PlacedNode → List PlacedNode
  | [] => []
  | node :: rest =>
    if allowed node.tag && !seen.contains node.tag then
      node :: keepNodes allowed (node.tag :: seen) rest
    else keepNodes allowed seen rest

/-- The layers with each allowed tag where it is first placed. -/
def pruneLayers (allowed : String → Bool) (seen : List String) : List Layer → List Layer
  | [] => []
  | layer :: rest =>
    let kept := keepNodes allowed seen layer.nodes
    { layer with nodes := kept } :: pruneLayers allowed (kept.map PlacedNode.tag ++ seen) rest

/-- Whether a tag may be placed: it is defined, and it is not the Internet exit. -/
def mayBePlaced (library : List NodeDefinition) (tag : String) : Bool :=
  tag ≠ "" && tag ≠ Tag.internet && library.any fun d => d.tag = tag

/-! ### Detours -/

/-- An inbound with links to the first hop only, and a default among them. -/
def Inbound.repairDetours (index : Index) (inbound : Inbound) : Inbound :=
  { inbound with
    detours := (Tag.unique inbound.detours).filter fun tag => index.inHop tag 0 }.repairDefault

namespace Topology

/-! ### The passes -/

/-- Repairs the library. -/
def withLibrary (t : Topology) : Topology :=
  { t with library := repairLibrary t.library }

/-- Repairs the defaults of selectors. -/
def withDefaults (t : Topology) : Topology :=
  { t with inbounds := t.inbounds.map Inbound.repairDefault }

/-- Drops what may not be placed, and what is placed again. -/
def withPlacements (t : Topology) : Topology :=
  { t with layers := pruneLayers (mayBePlaced t.library) [] t.layers }

/-- Drops illegal links of inbounds. -/
def withInboundLinks (index : Index) (t : Topology) : Topology :=
  { t with inbounds := t.inbounds.map (Inbound.repairDetours index) }

/-- Drops illegal links of nodes. -/
def withNodeLinks (index : Index) (t : Topology) : Topology :=
  t.mapPlaced fun hop node =>
    { node with detours := index.legalDetours hop (t.kindOf node) node.detours }

/-- Drops the links of managed nodes. -/
def withoutManagedLinks (index : Index) (t : Topology) : Topology :=
  let managed := t.managedMembers index
  t.mapPlaced fun _ node => if managed.contains node.tag then { node with detours := [] } else node

/-- A topology with its library, its defaults and its placements repaired. -/
def withNodes (t : Topology) : Topology :=
  t.withLibrary.withDefaults.withPlacements

/-- A topology with all illegal links dropped, given the index of its placements. -/
def withLegalLinks (index : Index) (t : Topology) : Topology :=
  (t.withInboundLinks index).withNodeLinks index

/-- The normal form of a topology. -/
def normalize (t : Topology) : Topology :=
  let pruned := t.withNodes
  let index := pruned.index
  (pruned.withLegalLinks index).withoutManagedLinks index

end Topology

/-! ### Counting -/

/-- What the passes changed. -/
structure NormalizeReport where
  /-- Definitions dropped, and the Internet exit added or mended. -/
  libraryRepaired : Nat := 0
  /-- Placed nodes dropped. -/
  placementsPruned : Nat := 0
  /-- Changes of an inbound; one that changes in two passes counts twice. -/
  inboundsChanged : Nat := 0
  /-- Placed nodes whose links were not all legal. -/
  nodesChanged : Nat := 0
  /-- Managed nodes that had legal links of their own. -/
  managedCleared : Nat := 0
  deriving Repr, DecidableEq

/-- Whether anything changed. -/
def NormalizeReport.changed (r : NormalizeReport) : Bool :=
  0 < r.libraryRepaired + r.placementsPruned + r.inboundsChanged + r.nodesChanged
    + r.managedCleared

/-- What the passes change in a topology. -/
def Topology.repairs (t : Topology) : NormalizeReport :=
  let pruned := t.withNodes
  let linked := pruned.withLegalLinks pruned.index
  let normal := linked.withoutManagedLinks pruned.index
  { libraryRepaired := libraryRepairs t.library
    placementsPruned := t.placed.length - pruned.placed.length
    inboundsChanged := countChanges t.inbounds pruned.inbounds
      + countChanges pruned.inbounds linked.inbounds
    nodesChanged := countChanges pruned.placed linked.placed
    managedCleared := countChanges linked.placed normal.placed }

/-- The record of a repair; one that changes nothing leaves none. -/
def NormalizeReport.records (r : NormalizeReport) : List Log.Record :=
  if r.changed then
    [.warn .normalize (s!"Topology normalized: removed invalid links ({r.placementsPruned} "
      ++ s!"placements, {r.inboundsChanged} inbounds, {r.nodesChanged} nodes, "
      ++ s!"{r.managedCleared} managed)")]
  else []

end ProxyChain
