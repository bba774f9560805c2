import ProxyChain.Proofs.Topology.Survivors

/-!
# ProxyChain.Proofs.Topology.Graph

**The graph of a topology.** Of a placed node only its hop, its tag, its kind and its links count
(`Topology.vertices`): the index is filled from these, so legal links are the same where these are,
and so are the nodes that are managed. Two topologies with the same graph (`Topology.SameGraph`)
therefore have normal forms with the same vertices (`Topology.SameGraph.vertices_normalize`),
however they differ in ids and titles, in definitions that no placed node has, and in the kinds of
nodes that are not defined.
-/

namespace ProxyChain

/-! ### Indexes of the same placements -/

/-- Two indexes that know the same placements. What they know of libraries may differ. -/
structure Index.Agree (i j : Index) : Prop where
  placements : i.placements = j.placements
  hopCount : i.hopCount = j.hopCount

namespace Index.Agree

variable {i j : Index} (h : i.Agree j)

include h

theorem eq_withKinds : i = { j with libraryKinds := i.libraryKinds } := by
  rw [← h.placements, ← h.hopCount]

theorem placedKind?_eq : i.placedKind? = j.placedKind? := by
  rw [h.eq_withKinds]
  rfl

theorem legalDetours_eq : i.legalDetours = j.legalDetours := by
  rw [h.eq_withKinds]
  rfl

theorem repairDetours_eq : Inbound.repairDetours i = Inbound.repairDetours j := by
  rw [h.eq_withKinds]
  rfl

end Index.Agree

/-! ### Vertices -/

/-- What counts of a placed node. -/
structure Vertex where
  hop : Nat
  tag : String
  kind : NodeKind
  detours : List String

/-- A placed node with that vertex. -/
def Vertex.node (v : Vertex) : PlacedNode :=
  { tag := v.tag, detours := v.detours }

/-- The pool of a vertex, if it is that of a round-robin node. -/
def Index.pool? (index : Index) (v : Vertex) : Option Index.PoolEdges :=
  index.poolOf? v.hop v.node

theorem Index.Agree.pool?_eq {i j : Index} (h : i.Agree j) : i.pool? = j.pool? := by
  rw [h.eq_withKinds]
  rfl

namespace Topology

/-- The vertex of a placed node, which is given with its hop. -/
def vertex (t : Topology) (entry : Nat × PlacedNode) : Vertex :=
  ⟨entry.1, entry.2.tag, t.kindOf entry.2, entry.2.detours⟩

/-- The vertices of a topology, in the order of placement. -/
def vertices (t : Topology) : List Vertex :=
  t.placed.map t.vertex

/-- The index is filled from the vertices. -/
theorem placements_eq (t : Topology) : t.index.placements = t.vertices.foldl (fun known v =>
    if v.tag = "" then known else insertNew v.tag ⟨v.hop, v.kind⟩ known) [] := by
  rw [vertices, List.foldl_map]
  rfl

theorem index_agree {t u : Topology} (hhops : t.hopCount = u.hopCount)
    (hvertices : t.vertices = u.vertices) : t.index.Agree u.index where
  placements := by rw [placements_eq, placements_eq, hvertices]
  hopCount := hhops

theorem managedMembers_eq (t : Topology) (index : Index) :
    t.managedMembers index = t.vertices.flatMap fun v =>
      match index.pool? v with
      | some edges => if edges.output.isSome then edges.pool else []
      | none => [] := by
  rw [vertices, List.flatMap_map]
  rfl

/-- Links that are chosen by vertex. -/
theorem vertices_relink (t : Topology) (links : Vertex → List String) :
    (t.relink fun hop node => links (t.vertex (hop, node))).vertices =
      t.vertices.map fun v => { v with detours := links v } := by
  rw [vertices, placed_relink, List.map_map, vertices, List.map_map]
  rfl

theorem vertices_linked (t : Topology) : t.linked.vertices = t.withNodes.vertices.map fun v =>
    { v with detours := t.withNodes.index.legalDetours v.hop v.kind v.detours } :=
  vertices_relink (t.withNodes.withInboundLinks t.withNodes.index) fun v =>
    t.withNodes.index.legalDetours v.hop v.kind v.detours

theorem vertices_normalize (t : Topology) : t.normalize.vertices = t.linked.vertices.map fun v =>
    { v with detours := if t.managedTags.contains v.tag then [] else v.detours } := by
  rw [normalize_eq_relink]
  exact vertices_relink t.linked fun v => if t.managedTags.contains v.tag then [] else v.detours

/-- Normalizing reads nothing of placed nodes but their vertices. -/
theorem vertices_normalize_congr {t u : Topology}
    (hhops : t.withNodes.hopCount = u.withNodes.hopCount)
    (hvertices : t.withNodes.vertices = u.withNodes.vertices) :
    t.normalize.vertices = u.normalize.vertices := by
  have hagree := index_agree hhops hvertices
  have hlinked : t.linked.vertices = u.linked.vertices := by
    rw [vertices_linked, vertices_linked, hvertices, hagree.legalDetours_eq]
  have hmanaged : t.managedTags = u.managedTags := by
    rw [managedTags, managedTags, managedMembers_eq, managedMembers_eq, hlinked, index_linked,
      index_linked, hagree.pool?_eq]
  rw [vertices_normalize, vertices_normalize, hlinked, hmanaged]

end Topology

/-! ### The same graph -/

/-- The tags that are placed in a layer, each with its links. -/
def Layer.links (layer : Layer) : List (String × List String) :=
  layer.nodes.map fun node => (node.tag, node.detours)

/-- What counts of a definition: all but its id and the attributes that are only kept. -/
def NodeDefinition.interpreted (d : NodeDefinition) : NodeDefinition :=
  { d with id := "", extra := [] }

namespace Topology

/-- Two topologies with the same inbounds, the same links in each layer and, up to what does not
count, the same definitions of placed tags. -/
structure SameGraph (t u : Topology) : Prop where
  inbounds : t.inbounds = u.inbounds
  layers : t.layers.map Layer.links = u.layers.map Layer.links
  definitions : ∀ tag ∈ t.placedTags, tag ≠ Tag.internet →
    (t.definition? tag).map NodeDefinition.interpreted =
      (u.definition? tag).map NodeDefinition.interpreted

/-- What can be told of a placed node without its kind. -/
def place (entry : Nat × PlacedNode) : Nat × String × List String :=
  (entry.1, entry.2.tag, entry.2.detours)

/-- Links of layers, each with its hop. -/
def placesFrom (hop : Nat) : List (List (String × List String)) → List (Nat × String × List String)
  | [] => []
  | links :: rest => links.map (Prod.mk hop) ++ placesFrom (hop + 1) rest

theorem map_place_placedFrom : ∀ (hop : Nat) (layers : List Layer),
    (placedFrom hop layers).map place = placesFrom hop (layers.map Layer.links)
  | _, [] => rfl
  | hop, layer :: rest => by
      rw [placedFrom, List.map_append, List.map_map, map_place_placedFrom (hop + 1) rest,
        List.map_cons, placesFrom, Layer.links, List.map_map]
      rfl

/-- A tag may be placed if it is defined and is not the Internet exit. -/
theorem mayBePlaced_eq (t : Topology) (tag : String) :
    mayBePlaced t.library tag = (decide (tag ≠ Tag.internet) && (t.definition? tag).isSome) := by
  rw [Bool.eq_iff_iff, mayBePlaced_iff, definition?]
  by_cases htag : tag = ""
  · simp [htag]
  · simp [htag]

/-- The kind in the definition of a tag. -/
def definedKind (t : Topology) (tag : String) : NodeKind :=
  ((t.definition? tag).map NodeDefinition.kind).getD .selector

/-- Normalizing changes no definition that a placed node may have. -/
theorem definition?_normalize {t : Topology} {tag : String} (htag : tag ≠ Tag.internet) :
    t.normalize.definition? tag = t.definition? tag := by
  rw [definition?, definition?, library_normalize, find?_repairLibrary htag]

theorem kindOf_withNodes {t : Topology} {node : PlacedNode}
    (hplaced : mayBePlaced t.library node.tag = true) :
    t.withNodes.kindOf node = t.definedKind node.tag := by
  obtain ⟨hempty, hinternet, hdefined⟩ := mayBePlaced_iff.1 hplaced
  show kindIn (repairLibrary t.library) node = _
  rw [kindIn, find?_repairLibrary hinternet, definedKind, definition?, if_neg hempty]
  cases hfound : t.library.find? fun d => d.tag = node.tag with
  | some d => rfl
  | none =>
      obtain ⟨d, hd, htag⟩ := List.mem_map.1 hdefined
      exact absurd (decide_eq_true htag) (List.find?_eq_none.1 hfound d hd)

/-- The vertices that stay, read off the places and the definitions. -/
theorem vertices_withNodes (t : Topology) : t.withNodes.vertices =
    ((distinctBy (fun entry => entry.2.1) (t.placed.map place)).filter fun entry =>
      mayBePlaced t.library entry.2.1).map fun entry =>
        ⟨entry.1, entry.2.1, t.definedKind entry.2.1, entry.2.2⟩ := by
  rw [vertices, placed_withNodes, survivors_eq, distinctBy_map, List.filter_map, List.map_map]
  refine List.map_congr_left fun entry hentry => ?_
  rw [vertex, kindOf_withNodes (List.mem_filter.1 hentry).2]
  rfl

namespace SameGraph

variable {t u : Topology} (h : t.SameGraph u)

include h

theorem map_place_placed : t.placed.map place = u.placed.map place := by
  rw [placed, placed, map_place_placedFrom, map_place_placedFrom, h.layers]

theorem hopCount_eq : t.hopCount = u.hopCount := by
  simpa [hopCount] using congrArg List.length h.layers

theorem mayBePlaced_eq {tag : String} (htag : tag ∈ t.placedTags) :
    mayBePlaced t.library tag = mayBePlaced u.library tag := by
  rw [Topology.mayBePlaced_eq, Topology.mayBePlaced_eq]
  by_cases hinternet : tag = Tag.internet
  · simp [hinternet]
  · have hsame := congrArg Option.isSome (h.definitions tag htag hinternet)
    rw [Option.isSome_map, Option.isSome_map] at hsame
    rw [hsame]

theorem definedKind_eq {tag : String} (htag : tag ∈ t.placedTags) (hinternet : tag ≠ Tag.internet) :
    t.definedKind tag = u.definedKind tag := by
  have hsame := congrArg (Option.map NodeDefinition.kind) (h.definitions tag htag hinternet)
  rw [Option.map_map, Option.map_map] at hsame
  exact congrArg (Option.getD · .selector) hsame

/-- The same nodes stay, with the same kinds. -/
theorem vertices_withNodes : t.withNodes.vertices = u.withNodes.vertices := by
  have hplaced : ∀ entry ∈ distinctBy (fun entry => entry.2.1) (t.placed.map place),
      entry.2.1 ∈ t.placedTags := by
    intro entry hentry
    obtain ⟨node, hnode, rfl⟩ := List.mem_map.1 (mem_of_mem_distinctBy hentry)
    exact List.mem_map_of_mem hnode
  rw [Topology.vertices_withNodes, Topology.vertices_withNodes, ← h.map_place_placed,
    ← List.filter_congr fun entry hentry => h.mayBePlaced_eq (hplaced entry hentry)]
  refine List.map_congr_left fun entry hentry => ?_
  obtain ⟨hfirst, hmay⟩ := List.mem_filter.1 hentry
  rw [h.definedKind_eq (hplaced entry hfirst) (mayBePlaced_iff.1 hmay).2.1]

theorem hopCount_withNodes : t.withNodes.hopCount = u.withNodes.hopCount := by
  have hkept : ∀ t : Topology, t.withNodes.hopCount = t.hopCount := fun t =>
    length_pruneLayers _ [] t.layers
  rw [hkept, hkept, h.hopCount_eq]

theorem vertices_normalize : t.normalize.vertices = u.normalize.vertices :=
  vertices_normalize_congr h.hopCount_withNodes h.vertices_withNodes

theorem inbounds_normalize : t.normalize.inbounds = u.normalize.inbounds := by
  have hagree := index_agree h.hopCount_withNodes h.vertices_withNodes
  rw [Topology.inbounds_normalize, Topology.inbounds_normalize, h.inbounds, hagree.repairDetours_eq]

end SameGraph

end Topology

end ProxyChain
