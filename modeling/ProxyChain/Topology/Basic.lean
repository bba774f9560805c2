import ProxyChain.Node.Definition

/-!
# ProxyChain.Topology.Basic

**Topologies**: a library of node definitions, the hops in which nodes are placed, and the
inbounds through which traffic enters. A topology is also what a profile holds.

Traffic enters at an inbound, passes the hops in their order and leaves at the Internet exit. Links
are kept at their source as a list of target tags, its *detours*. The first placement of a tag is
the one that counts; all look-ups here take the first match.
-/

namespace ProxyChain

/-- A node placed in a hop. -/
structure PlacedNode where
  id : String := ""
  /-- The tag of its definition in the library. -/
  tag : String := ""
  /-- The tags of its targets, in order. -/
  detours : List String := []
  /-- A kind of its own, which counts only when the library does not define the tag. -/
  kind : Option NodeKind := none
  deriving Repr, DecidableEq, Inhabited

/-- A hop: a layer of placed nodes. -/
structure Layer where
  id : String
  title : String := ""
  nodes : List PlacedNode := []
  deriving Repr, DecidableEq, Inhabited

/-- A listener of the user's. -/
structure Inbound where
  tag : String
  port : UInt16
  /-- The tags of its targets in the first hop, in order. -/
  detours : List String := []
  /-- Which of several targets is chosen at first. -/
  selectorDefault : Option String := none
  deriving Repr, DecidableEq, Inhabited

/-- The tag of the selector that stands for an inbound with several targets. -/
def Inbound.selectorTag (inbound : Inbound) : String :=
  inbound.tag ++ "-selector"

/-- A topology. -/
structure Topology where
  layers : List Layer := []
  library : List NodeDefinition := []
  inbounds : List Inbound := []
  deriving Repr, DecidableEq, Inhabited

namespace Topology

/-- The content of a new profile: one inbound, one empty hop and the Internet exit. -/
def defaultProfile : Topology where
  layers := [{ id := "layer-1", title := "HOP 1" }]
  library := [.internet]
  inbounds := [{ tag := "mixed-10808", port := 10808 }]

/-! ### Look-ups -/

/-- The definition of a tag. The empty tag has none. -/
def definition? (t : Topology) (tag : String) : Option NodeDefinition :=
  if tag = "" then none else t.library.find? fun d => d.tag = tag

/--
The kind of a placed node: that of its definition, else its own, else a selector.
-/
def kindIn (library : List NodeDefinition) (node : PlacedNode) : NodeKind :=
  match library.find? fun d => d.tag = node.tag with
  | some d => d.kind
  | none => node.kind.getD .selector

/-- The kind of a placed node. -/
def kindOf (t : Topology) (node : PlacedNode) : NodeKind :=
  kindIn t.library node

/-- The nodes of layers with their hops, the first layer being the given hop. -/
def placedFrom (hop : Nat) : List Layer → List (Nat × PlacedNode)
  | [] => []
  | layer :: rest => layer.nodes.map (Prod.mk hop) ++ placedFrom (hop + 1) rest

/-- All placed nodes with their hops, hop by hop and in the order of each hop. -/
def placed (t : Topology) : List (Nat × PlacedNode) :=
  placedFrom 0 t.layers

/-- The first placement of a tag and its hop. -/
def findPlaced? (t : Topology) (tag : String) : Option (Nat × PlacedNode) :=
  t.placed.find? fun entry => entry.2.tag = tag

/-- Whether a tag is placed. -/
def isPlaced (t : Topology) (tag : String) : Bool :=
  (t.findPlaced? tag).isSome

/-- The first inbound of a tag. -/
def inbound? (t : Topology) (tag : String) : Option Inbound :=
  t.inbounds.find? fun inbound => inbound.tag = tag

/-- The count of hops. -/
def hopCount (t : Topology) : Nat :=
  t.layers.length

/-! ### Changing one element -/

/-- Changes every placed node, given its hop. -/
def mapPlacedFrom (f : Nat → PlacedNode → PlacedNode) (hop : Nat) : List Layer → List Layer
  | [] => []
  | layer :: rest =>
    { layer with nodes := layer.nodes.map (f hop) } :: mapPlacedFrom f (hop + 1) rest

/-- Changes every placed node, given its hop. -/
def mapPlaced (f : Nat → PlacedNode → PlacedNode) (t : Topology) : Topology :=
  { t with layers := mapPlacedFrom f 0 t.layers }

/-- Changes the first placement of a tag. -/
def modifyPlaced (tag : String) (f : PlacedNode → PlacedNode) (t : Topology) : Topology :=
  let here (node : PlacedNode) : Bool := node.tag = tag
  { t with
    layers := modifyFirst (fun layer => layer.nodes.any here)
      (fun layer => { layer with nodes := modifyFirst here f layer.nodes }) t.layers }

/-- Changes the first inbound of a tag. -/
def modifyInbound (tag : String) (f : Inbound → Inbound) (t : Topology) : Topology :=
  { t with inbounds := modifyFirst (fun inbound => inbound.tag = tag) f t.inbounds }

end Topology

end ProxyChain
