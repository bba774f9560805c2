import ProxyChain.Error
import ProxyChain.Text.Blank
import ProxyChain.Topology.Basic

/-!
# ProxyChain.Topology.Edit

**Edits** of the library, the placements, the layers and the inbounds of a topology. Each edit
first decides whether it can be done; one that is refused gives the topology back as it was,
together with the reason.

Tags are the only references, so giving a node another tag or deleting it goes through all
placements, detours and selector defaults.
-/

namespace ProxyChain

/-! ### Refusals -/

/-- Why an edit is refused. -/
inductive Refusal
  | blankTag
  | internetTag
  | systemTag
  | tagTaken
  | internetDeletion
  | internetPlacement
  | alreadyPlaced (tag : String)
  | layerOutOfRange (count : Nat)
  | invalidPort
  | inboundTagTaken
  | portTaken (port : UInt16)
  | notConnected (target inbound : String)
  | unknownNode (tag : String)
  | unknownLayer (id : String)
  | notInLayer (node layer : String)
  | unknownPlacement (node : String)
  | unknownInbound (tag : String)
  | notPlaced (tag : String)
  deriving Repr, DecidableEq

/-- A refusal as an error: something is wrong with an argument, or what it names is not there. -/
def Refusal.error : Refusal → ChainError
  | blankTag => .invalidParameter "Tag cannot be empty"
  | internetTag => .invalidParameter "The \"direct\" tag is reserved."
  | systemTag => .invalidParameter s!"Tags starting with \"{Tag.systemStem}\" are reserved."
  | tagTaken => .invalidParameter "Tag already exists. Choose another one."
  | internetDeletion => .invalidParameter "Cannot delete the \"direct\" node."
  | internetPlacement =>
    .invalidParameter "Cannot place the \"direct\" node. Use the Internet node instead."
  | alreadyPlaced tag =>
    .invalidParameter
      s!"Node \"{tag}\" is already placed. Duplicate placements are not allowed."
  | layerOutOfRange count =>
    .invalidParameter s!"Layer index out of range (have {count} layers)"
  | invalidPort => .invalidParameter "Invalid port. Must be 1-65535."
  | inboundTagTaken => .invalidParameter "Inbound tag already exists"
  | portTaken port => .invalidParameter s!"Inbound port {port.toNat} is already in use"
  | notConnected target inbound =>
    .invalidParameter s!"{target} is not connected to inbound {inbound}"
  | unknownNode tag => .notFound s!"Node \"{tag}\" not found"
  | unknownLayer id => .notFound s!"Layer {id} not found"
  | notInLayer node layer => .notFound s!"Node {node} not found in layer {layer}"
  | unknownPlacement node => .notFound s!"Node {node} not found"
  | unknownInbound tag => .notFound s!"Inbound {tag} not found"
  | notPlaced tag => .notFound s!"Node {tag} is not placed"

/-- What an edit gives. -/
structure Edited (α : Type) where
  topology : Topology
  outcome : Except Refusal α
  records : List Log.Record

namespace Topology

/-- An edit that is refused. -/
def refuse (t : Topology) (refusal : Refusal) : Edited α :=
  ⟨t, .error refusal, refusal.error.records⟩

/-- An edit that is done, and what is told of it. -/
def accept (t : Topology) (value : α) (messages : List String) : Edited α :=
  ⟨t, .ok value, messages.map (Log.Record.info .editor)⟩

/-! ### Fresh ids -/

/-- The first of some numbered names that is not taken, from the given number on. -/
def freshFrom (stem : String) (taken : List String) : (tries : Nat) → (number : Nat) → String
  | 0, number => s!"{stem}-{number}"
  | tries + 1, number =>
    let candidate := s!"{stem}-{number}"
    if candidate ∈ taken then freshFrom stem taken tries (number + 1) else candidate

/--
A numbered name that is not taken, counting from one more than the count of those taken. As many
names cannot all be taken, so one try more finds one.
-/
def freshId (stem : String) (taken : List String) : String :=
  freshFrom stem taken taken.length (taken.length + 1)

/-! ### The library -/

/-- Why a tag may not be given to a node, if it may not. -/
def reservedRefusal? (tag : String) : Option Refusal :=
  if tag = Tag.internet then some .internetTag
  else if Tag.isSystem tag then some .systemTag
  else none

/-- Why a definition cannot be saved under its tag in place of the one with another tag. -/
def upsertRefusal? (t : Topology) (definition : NodeDefinition) (former : String) :
    Option Refusal :=
  if Text.allBlank definition.tag then some .blankTag
  else (reservedRefusal? definition.tag).or <| (reservedRefusal? former).or <|
    if former ≠ definition.tag ∧ (t.definition? definition.tag).isSome then some .tagTaken
    else none

/-- A library with a definition in place of the first one of the former tag, else at its end. -/
def saveDefinition (definition : NodeDefinition) (former : String)
    (library : List NodeDefinition) : List NodeDefinition :=
  let withId (id : String) := if definition.id = "" then { definition with id := id } else definition
  if library.any fun d => d.tag = former then
    modifyFirst (fun d => d.tag = former) (fun d => withId d.id) library
  else library ++ [withId (NodeDefinition.idOf definition.tag)]

/-- Replaces one tag by another. -/
def retag (old new tag : String) : String :=
  if tag = old then new else tag

/-- Replaces a tag in all placements, detours and selector defaults. -/
def retagReferences (old new : String) (t : Topology) : Topology :=
  let swap := retag old new
  let retagInbound (inbound : Inbound) : Inbound :=
    { inbound with
      detours := inbound.detours.map swap
      selectorDefault := inbound.selectorDefault.map swap }
  if old = "" then t
  else
    { t.mapPlaced fun _ node => { node with tag := swap node.tag, detours := node.detours.map swap }
      with inbounds := t.inbounds.map retagInbound }

/--
Saves a definition: in place of the one with the former tag, or as a new one. Without an
former tag the definition's own is taken for it. A new tag goes to all references.
-/
def upsertDefinition (t : Topology) (definition : NodeDefinition) (former : Option String) :
    Edited Unit :=
  let former := former.getD definition.tag
  match t.upsertRefusal? definition former with
  | some refusal => t.refuse refusal
  | none =>
    accept
      ({ t with library := saveDefinition definition former t.library }.retagReferences former
        definition.tag)
      () [s!"Saved node {definition.tag}"]

/-- Gives a definition another tag. -/
def renameTag (t : Topology) (old new : String) : Edited Unit :=
  match t.definition? old with
  | none => t.refuse (.unknownNode old)
  | some definition => t.upsertDefinition { definition with tag := new } (some old)

/-- What removing the references to a tag removed. -/
structure RemovalReport where
  placementsRemoved : Nat := 0
  linksRemoved : Nat := 0
  deriving Repr, DecidableEq

/-- An inbound without links to a tag; a default that was the tag becomes the first detour. -/
def dropInboundLinks (tag : String) (inbound : Inbound) : Inbound :=
  let detours := inbound.detours.filter (· ≠ tag)
  { inbound with
    detours := detours
    selectorDefault :=
      if inbound.selectorDefault = some tag then detours.head? else inbound.selectorDefault }

/-- A layer without a tag's placements and without links to it. -/
def dropFromLayer (tag : String) (layer : Layer) : Layer :=
  { layer with
    nodes := (layer.nodes.filter fun node => node.tag ≠ tag).map fun node =>
      { node with detours := node.detours.filter (· ≠ tag) } }

/-- The topology without a tag's placements and without links to it. -/
def dropReferences (tag : String) (t : Topology) : Topology :=
  { t with
    layers := t.layers.map (dropFromLayer tag)
    inbounds := t.inbounds.map (dropInboundLinks tag) }

namespace RemovalReport

/-- Counts the links that some detours lose with a tag. -/
def countLinks (tag : String) (report : RemovalReport) (detours : List String) : RemovalReport :=
  { report with
    linksRemoved :=
      report.linksRemoved + (detours.length - (detours.filter (· ≠ tag)).length) }

/-- Counts what a layer loses with a tag: its placements, and then the links of the nodes that are
left. -/
def countLayer (tag : String) (report : RemovalReport) (layer : Layer) : RemovalReport :=
  let kept := layer.nodes.filter fun node => node.tag ≠ tag
  let placements := layer.nodes.length - kept.length
  (kept.map PlacedNode.detours).foldl (countLinks tag)
    { report with placementsRemoved := report.placementsRemoved + placements }

/-- Counts what a topology loses with a tag, layer by layer and then inbound by inbound. -/
def ofDropping (tag : String) (t : Topology) : RemovalReport :=
  (t.inbounds.map Inbound.detours).foldl (countLinks tag) (t.layers.foldl (countLayer tag) {})

end RemovalReport

/-- Removes a tag's placements and the links to it. The empty tag is no tag. -/
def removeReferences (t : Topology) (tag : String) : Topology × RemovalReport :=
  if tag = "" then (t, {}) else (t.dropReferences tag, .ofDropping tag t)

/-- Deletes a definition and all references to its tag. -/
def deleteDefinition (t : Topology) (tag : String) : Edited RemovalReport :=
  if tag = Tag.internet then t.refuse .internetDeletion
  else if Tag.isSystem tag then t.refuse .systemTag
  else if (t.definition? tag).isNone then t.refuse (.unknownNode tag)
  else
    let (left, report) := t.removeReferences tag
    accept { left with library := left.library.filter fun d => d.tag ≠ tag } report
      [s!"Deleted library node {tag} (removed {report.placementsRemoved} placement(s), "
        ++ s!"{report.linksRemoved} link(s))"]

/-! ### Placements and layers -/

/-- The position of a layer. -/
def layerPosition? (t : Topology) (id : String) : Option Nat :=
  t.layers.findIdx? fun layer => layer.id = id

/-- Changes the layer at a position. -/
def modifyLayer (position : Nat) (f : Layer → Layer) (t : Topology) : Topology :=
  { t with layers := t.layers.modify position f }

/-- Places a node at the end of a layer; gives the id of the placed node. -/
def placeNode (t : Topology) (layerId tag : String) : Edited String :=
  match t.layerPosition? layerId with
  | none => t.refuse (.unknownLayer layerId)
  | some position =>
    if tag = Tag.internet then t.refuse .internetPlacement
    else if (t.definition? tag).isNone then t.refuse (.unknownNode tag)
    else if t.isPlaced tag then t.refuse (.alreadyPlaced tag)
    else
      let id := freshId "node" (t.placed.map fun entry => entry.2.id)
      let node : PlacedNode := { id := id, tag := tag }
      accept (t.modifyLayer position fun layer => { layer with nodes := layer.nodes ++ [node] }) id
        [s!"Added {tag} to layer {layerId}"]

/-- Removes a placed node from a layer. -/
def removePlacement (t : Topology) (layerId nodeId : String) : Edited Unit :=
  match t.layerPosition? layerId with
  | none => t.refuse (.unknownLayer layerId)
  | some position =>
    if (t.layers[position]?.elim [] Layer.nodes).any fun node => node.id = nodeId then
      accept
        (t.modifyLayer position fun layer =>
          { layer with nodes := layer.nodes.filter fun node => node.id ≠ nodeId })
        () [s!"Deleted node from layer {layerId}"]
    else t.refuse (.notInLayer nodeId layerId)

/-- Moves a placed node to the end of a layer. -/
def moveNode (t : Topology) (nodeId layerId : String) : Edited Unit :=
  match t.layerPosition? layerId with
  | none => t.refuse (.unknownLayer layerId)
  | some target =>
    let here (node : PlacedNode) : Bool := node.id = nodeId
    match t.layers.findIdx? fun layer => layer.nodes.any here with
    | none => t.refuse (.unknownPlacement nodeId)
    | some source =>
      match (t.layers[source]?.elim [] Layer.nodes).find? here with
      | none => t.refuse (.unknownPlacement nodeId)
      | some node =>
        accept
          ((t.modifyLayer source fun layer => { layer with nodes := layer.nodes.eraseP here })
            |>.modifyLayer target fun layer => { layer with nodes := layer.nodes ++ [node] })
          () []

/-- Moves a layer to another position. -/
def moveLayer (t : Topology) (source target : Nat) : Edited Unit :=
  if source < t.layers.length ∧ target < t.layers.length then
    accept { t with layers := moveItem source target t.layers } () []
  else t.refuse (.layerOutOfRange t.layers.length)

/-- Adds an empty layer in front of the last one, or behind a single one; gives its id. -/
def addLayer (t : Topology) (title : String) : Edited String :=
  let id := freshId "layer" (t.layers.map Layer.id)
  let layer : Layer := { id := id, title := if Text.allBlank title then "Layer" else title }
  let position := if 1 < t.layers.length then t.layers.length - 1 else t.layers.length
  accept { t with layers := t.layers.insertIdx position layer } id [s!"Added new layer {id}"]

/-- Removes a layer with the nodes placed in it. -/
def removeLayer (t : Topology) (layerId : String) : Edited Unit :=
  match t.layerPosition? layerId with
  | none => t.refuse (.unknownLayer layerId)
  | some position =>
    accept { t with layers := t.layers.eraseIdx position } () [s!"Deleted layer {layerId}"]

/-! ### Inbounds -/

/-- Why an inbound cannot have a tag and a port beside some others. -/
def slotRefusal? (others : List Inbound) (tag : String) (port : UInt16) : Option Refusal :=
  if port = 0 then some .invalidPort
  else if others.any fun inbound => inbound.tag = tag then some .inboundTagTaken
  else if others.any fun inbound => inbound.port = port then some (.portTaken port)
  else none

/-- The tag that a user gave, without blanks at its ends; nothing if there is no more to it. -/
def givenTag? (tag : Option String) : Option String :=
  (tag.map Text.trim).filter (· ≠ "")

/-- Adds an inbound; gives its tag, which is made from the port if none is given. -/
def addInbound (t : Topology) (tag : Option String) (port : UInt16) : Edited String :=
  let tag := (givenTag? tag).getD s!"mixed-{port.toNat}"
  match slotRefusal? t.inbounds tag port with
  | some refusal => t.refuse refusal
  | none =>
    accept { t with inbounds := t.inbounds ++ [{ tag := tag, port := port }] } tag
      [s!"Added inbound {tag} on port {port.toNat}"]

/-- Gives an inbound another tag and port; without a new tag it keeps its own. -/
def updateInbound (t : Topology) (tag : String) (newTag : Option String) (port : UInt16) :
    Edited Unit :=
  if (t.inbound? tag).isNone then t.refuse (.unknownInbound tag)
  else
    let newTag := (givenTag? newTag).getD tag
    match slotRefusal? (t.inbounds.filter fun inbound => inbound.tag ≠ tag) newTag port with
    | some refusal => t.refuse refusal
    | none =>
      accept
        (t.modifyInbound tag fun inbound => { inbound with tag := newTag, port := port })
        () [s!"Updated inbound {newTag}"]

/-- Deletes an inbound. -/
def deleteInbound (t : Topology) (tag : String) : Edited Unit :=
  if t.inbounds.any fun inbound => inbound.tag = tag then
    accept { t with inbounds := t.inbounds.filter fun inbound => inbound.tag ≠ tag } ()
      [s!"Deleted inbound {tag}"]
  else t.refuse (.unknownInbound tag)

/-- Sets the default of an inbound's selector to one of its detours. -/
def setSelectorDefault (t : Topology) (tag target : String) : Edited Unit :=
  match t.inbound? tag with
  | none => t.refuse (.unknownInbound tag)
  | some inbound =>
    if target ∈ inbound.detours then
      accept (t.modifyInbound tag fun inbound => { inbound with selectorDefault := some target })
        () [s!"Selector {inbound.selectorTag} default set to {target}"]
    else t.refuse (.notConnected target tag)

/-! ### Links -/

/-- Removes a link of an inbound; tells whether it was there. -/
def unlinkInbound (t : Topology) (source target : String) : Edited Bool :=
  match t.inbound? source with
  | none => t.refuse (.unknownInbound source)
  | some inbound =>
    accept (t.modifyInbound source (dropInboundLinks target)) (target ∈ inbound.detours : Bool) []

/-- Removes a link of a placed node; tells whether it was there. -/
def unlinkNode (t : Topology) (source target : String) : Edited Bool :=
  match t.findPlaced? source with
  | none => t.refuse (.notPlaced source)
  | some (_, node) =>
    accept
      (t.modifyPlaced source fun node =>
        { node with detours := node.detours.filter (· ≠ target) })
      (target ∈ node.detours : Bool) []

end Topology

end ProxyChain
