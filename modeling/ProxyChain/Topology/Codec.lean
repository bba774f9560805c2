import ProxyChain.Node.Codec
import ProxyChain.Topology.Basic

/-!
# ProxyChain.Topology.Codec

**Topologies as documents**, the form in which profiles are stored. Layers, placed nodes and
inbounds are records of declared fields; the default of an inbound's selector is always written,
also when there is none.
-/

namespace ProxyChain

open Json

/-! ### Placed nodes and layers -/

/-- Reads a placed node. -/
def PlacedNode.ofDocument (d : Document) : Except Fault PlacedNode := do
  let fields ← Fields.ofRecord ["id", "tag", "detours", "type"] d
  return {
    id := ← fields.withDefault "id" "" Document.text
    tag := ← fields.withDefault "tag" "" Document.text
    detours := ← fields.withDefault "detours" [] (Document.listOf Document.text)
    kind := ← fields.optional "type" NodeKind.ofDocument }

/-- Writes a placed node. -/
def PlacedNode.toValue (node : PlacedNode) : Value :=
  .object (("id", .string node.id)
    :: ("tag", .string node.tag)
    :: ("detours", .ofTexts node.detours)
    :: optionalField "type" (fun kind => .string kind.name) node.kind)

/-- Reads a layer. -/
def Layer.ofDocument (d : Document) : Except Fault Layer := do
  let fields ← Fields.ofRecord ["id", "title", "nodes"] d
  return {
    id := ← fields.required "id" Document.text
    title := ← fields.withDefault "title" "" Document.text
    nodes := ← fields.withDefault "nodes" [] (Document.listOf PlacedNode.ofDocument) }

/-- Writes a layer. -/
def Layer.toValue (layer : Layer) : Value :=
  .object [("id", .string layer.id), ("title", .string layer.title),
    ("nodes", .array (layer.nodes.map PlacedNode.toValue))]

/-! ### Inbounds -/

/-- The only kind of inbound. -/
def Inbound.kindName : String := "mixed"

/-- Reads the kind of an inbound. -/
def Inbound.readKind (d : Document) : Except Fault Unit := do
  let name ← d.variant
  if name = kindName then .ok () else .error (.unknown name)

/-- Reads an inbound. -/
def Inbound.ofDocument (d : Document) : Except Fault Inbound := do
  let fields ← Fields.ofRecord ["tag", "type", "port", "detours", "selectorDefault"] d
  fields.withDefault "type" () Inbound.readKind
  return {
    tag := ← fields.required "tag" Document.text
    port := ← fields.required "port" Document.port
    detours := ← fields.withDefault "detours" [] (Document.listOf Document.text)
    selectorDefault := ← fields.optional "selectorDefault" Document.text }

/-- Writes an inbound. -/
def Inbound.toValue (inbound : Inbound) : Value :=
  .object [("tag", .string inbound.tag), ("type", .string kindName),
    ("port", .ofPort inbound.port), ("detours", .ofTexts inbound.detours),
    ("selectorDefault", inbound.selectorDefault.elim .null .string)]

/-! ### Topologies -/

/-- Reads a topology. -/
def Topology.ofDocument (d : Document) : Except Fault Topology := do
  let fields ← Fields.ofRecord ["layers", "nodeLibrary", "inbounds"] d
  return {
    layers := ← fields.withDefault "layers" [] (Document.listOf Layer.ofDocument)
    library := ← fields.withDefault "nodeLibrary" [] (Document.listOf NodeDefinition.ofDocument)
    inbounds := ← fields.withDefault "inbounds" [] (Document.listOf Inbound.ofDocument) }

/-- Writes a topology. -/
def Topology.toValue (t : Topology) : Value :=
  .object [("layers", .array (t.layers.map Layer.toValue)),
    ("nodeLibrary", .array (t.library.map NodeDefinition.toValue)),
    ("inbounds", .array (t.inbounds.map Inbound.toValue))]

end ProxyChain
