import ProxyChain.Proofs.Config.Forwarding
import ProxyChain.Proofs.Topology.Graph

/-!
# ProxyChain.Proofs.Config.Graph

**Compiling reads the graph of a topology and nothing else** (`compile_eq_of_sameGraph`). The plan
is made from the vertices of the normal form, so topologies with the same graph have the same plan.
An outbound is written from a vertex and the definition of its tag. Only whether a target is a
terminal is looked up by the tag that is dialled, and there the whole library could show: a made-up
tag must not be defined in it.
-/

namespace ProxyChain

open RoundRobin ProxyChain.Topology

/-! ### Planning -/

namespace Index.Agree

variable {i j : Index} (h : i.Agree j)

include h

theorem planGroup_eq : planGroup i = planGroup j := by
  rw [h.eq_withKinds]
  rfl

theorem planGroups_eq (layout : PortLayout) :
    ∀ (planned : List Group) (pools : List (String × Index.PoolEdges)),
      planGroups i layout planned pools = planGroups j layout planned pools
  | _, [] => rfl
  | planned, (tag, edges) :: rest => by
      rw [planGroups, planGroups, h.planGroup_eq]
      split
      · rfl
      · exact planGroups_eq layout _ rest

end Index.Agree

theorem pools_eq_filterMap (t : Topology) (index : Index) : pools t index =
    t.vertices.filterMap fun v =>
      if v.tag = "" then none else (index.pool? v).map (Prod.mk v.tag) := by
  rw [vertices, List.filterMap_map]
  rfl

theorem planOf_congr (settings : CompilerSettings) {n m : Topology}
    (hhops : n.hopCount = m.hopCount) (hvertices : n.vertices = m.vertices) :
    planOf settings n = planOf settings m := by
  have hagree := index_agree hhops hvertices
  have hpools : pools n n.index = pools m m.index := by
    rw [pools_eq_filterMap, pools_eq_filterMap, hvertices, hagree.pool?_eq]
  rw [planOf, planOf, Plan.build, Plan.build, hpools, hagree.planGroups_eq]

/-! ### Outbounds -/

/-- The id of a definition and the attributes that are only kept do not show in an outbound. -/
theorem Outbound.ofDefinition_interpreted (kind : NodeKind) (tag : String)
    (definition : Option NodeDefinition) :
    Outbound.ofDefinition kind tag (definition.map NodeDefinition.interpreted) =
      Outbound.ofDefinition kind tag definition := by
  cases definition <;> rfl

namespace Topology.NodesSound

variable {t : Topology} (h : t.NodesSound)

include h

theorem targetKind?_internet : t.index.targetKind? Tag.internet = some .direct := by
  obtain ⟨d, hd, htag, hkind⟩ := h.exit_defined
  rw [h.targetKind?_eq, h.find?_library_eq_some_iff.2 ⟨hd, htag⟩, Option.map_some, hkind]

/-- A placed node has the kind of its definition, whatever its own kind. -/
theorem kindOf_node_vertex {entry : Nat × PlacedNode} (hentry : entry ∈ t.placed) :
    t.kindOf (t.vertex entry).node = t.kindOf entry.2 := by
  obtain ⟨d, hd, htag⟩ := List.mem_map.1 (h.placed_allowed _ (List.mem_map_of_mem hentry)).2.2
  have hvertex : d.tag = (t.vertex entry).node.tag := htag
  rw [h.kindOf_eq hd htag, h.kindOf_eq hd hvertex]

theorem kindOf_node {v : Vertex} (hv : v ∈ t.vertices) : t.kindOf v.node = v.kind := by
  obtain ⟨entry, hentry, rfl⟩ := List.mem_map.1 hv
  exact h.kindOf_node_vertex hentry

/-- The outbounds of nodes are those of their vertices. -/
theorem ownOutbounds_eq (plan : Plan) : t.ownOutbounds plan =
    (t.vertices.filter fun v => v.kind ≠ .roundRobin).map fun v => t.ownOutbound plan v.node := by
  rw [ownOutbounds, ownNodes, List.filter_map, vertices, List.filter_map, List.map_map,
    List.map_map]
  refine List.map_congr_left fun entry hentry => ?_
  have hkind := h.kindOf_node_vertex (List.mem_filter.1 hentry).1
  simp only [Function.comp_apply, ownOutbound, bareOutbound, hkind]
  rfl

end Topology.NodesSound

theorem RoundRobin.PlainPlan.targetKind?_outboundTag {t : Topology} {plan : Plan}
    (h : PlainPlan t plan) (group : Group) : t.index.targetKind? group.outboundTag = none := by
  rw [h.targetKind?_eq, Option.map_eq_none_iff, List.find?_eq_none]
  intro d hd htag
  exact outboundTag_ne (h.library_plain d hd) (of_decide_eq_true htag).symm

section

variable {n m : Topology} {plan : Plan} (hn : PlainPlan n plan) (hm : PlainPlan m plan)
  (hagree : n.index.Agree m.index)

include hn hm hagree

/-- What is known of a target that is dialled is known of it in the other topology too. -/
theorem targetKind?_mapTag_congr {tag : String} (htarget : n.IsTarget tag) :
    n.index.targetKind? (plan.mapTag tag) = m.index.targetKind? (plan.mapTag tag) := by
  rcases hn.mapTag_cases htarget with ⟨group, -, -, hmap⟩ | ⟨hmap, rfl | ⟨entry, hentry, -, rfl⟩⟩
  · rw [hmap, hn.targetKind?_outboundTag, hm.targetKind?_outboundTag]
  · rw [hmap, hn.targetKind?_internet, hm.targetKind?_internet]
  · rw [hmap, Index.targetKind?, Index.targetKind?, ← hagree.placedKind?_eq, hn.placedKind? hentry,
      Option.some_or, Option.some_or]

theorem nextHop?_congr {detours : List String} (htargets : ∀ tag ∈ detours, n.IsTarget tag) :
    nextHop? n.index (detours.map plan.mapTag) = nextHop? m.index (detours.map plan.mapTag) := by
  match detours, htargets with
  | [], _ => rfl
  | first :: _, htargets =>
      have hfirst := targetKind?_mapTag_congr hn hm hagree (htargets first List.mem_cons_self)
      simp only [nextHop?, List.map_cons, List.head?_cons, Option.filter_some, hfirst]

theorem ownOutbound_congr {v : Vertex} (hv : v ∈ n.vertices) (hv' : v ∈ m.vertices)
    (hdefinition : (n.definition? v.tag).map NodeDefinition.interpreted =
      (m.definition? v.tag).map NodeDefinition.interpreted) :
    n.ownOutbound plan v.node = m.ownOutbound plan v.node := by
  have hkind : n.kindOf v.node = m.kindOf v.node := by rw [hn.kindOf_node hv, hm.kindOf_node hv']
  have hbare : n.bareOutbound v.node = m.bareOutbound v.node := by
    rw [bareOutbound, bareOutbound, hkind, ← Outbound.ofDefinition_interpreted]
    exact (congrArg _ hdefinition).trans (Outbound.ofDefinition_interpreted _ _ _)
  have hnext : nextHop? n.index (v.node.detours.map plan.mapTag) =
      nextHop? m.index (v.node.detours.map plan.mapTag) := by
    obtain ⟨entry, hentry, rfl⟩ := List.mem_map.1 hv
    exact nextHop?_congr hn hm hagree fun tag htag => hn.isTarget_of_mem_detours hentry htag
  simp only [ownOutbound, hkind, hbare, hnext]

end

/-! ### Configs -/

namespace Topology.SameGraph

variable {t u : Topology} (h : t.SameGraph u)

include h

theorem definition?_normalize {tag : String} (htag : tag ∈ t.normalize.placedTags) :
    (t.normalize.definition? tag).map NodeDefinition.interpreted =
      (u.normalize.definition? tag).map NodeDefinition.interpreted := by
  have hinternet := ((isNormal_normalize t).placed_allowed tag htag).2.1
  have hplaced : tag ∈ t.placedTags := (placedTags_normalize_sublist t).mem htag
  rw [Topology.definition?_normalize hinternet, Topology.definition?_normalize hinternet]
  exact h.definitions tag hplaced hinternet

theorem hopCount_normalize : t.normalize.hopCount = u.normalize.hopCount := by
  rw [Topology.hopCount_normalize, Topology.hopCount_normalize, h.hopCount_eq]

theorem planOf_normalize (settings : CompilerSettings) :
    planOf settings t.normalize = planOf settings u.normalize :=
  planOf_congr settings h.hopCount_normalize h.vertices_normalize

theorem assembled_normalize (settings : CompilerSettings) {plan : Plan}
    (ht : PlainPlan t.normalize plan) (hu : PlainPlan u.normalize plan) :
    assembled settings t.normalize plan = assembled settings u.normalize plan := by
  have hagree := index_agree h.hopCount_normalize h.vertices_normalize
  have hown : t.normalize.ownOutbounds plan = u.normalize.ownOutbounds plan := by
    rw [ht.ownOutbounds_eq, hu.ownOutbounds_eq, ← h.vertices_normalize]
    refine List.map_congr_left fun v hv => ?_
    have hvertex : v ∈ t.normalize.vertices := (List.mem_filter.1 hv).1
    have htag : v.tag ∈ t.normalize.placedTags := by
      obtain ⟨entry, hentry, rfl⟩ := List.mem_map.1 hvertex
      exact List.mem_map_of_mem hentry
    exact ownOutbound_congr ht hu hagree hvertex (h.vertices_normalize ▸ hvertex)
      (h.definition?_normalize htag)
  rw [assembled, assembled, compileInbounds, compileInbounds, compileRules, compileRules, hown,
    h.inbounds_normalize]

end Topology.SameGraph

/-- Topologies with the same graph are compiled to the same config or fail with the same error. -/
theorem compile_eq_of_sameGraph (settings : CompilerSettings) {t u : Topology}
    (h : t.SameGraph u) (ht : ∀ d ∈ t.library, Tag.isSystem d.tag = false)
    (hu : ∀ d ∈ u.library, Tag.isSystem d.tag = false) :
    compile settings t = compile settings u := by
  rw [compile_eq_map, compile_eq_map, ← h.planOf_normalize]
  cases hplan : planOf settings t.normalize with
  | error e => simp only [Except.map]
  | ok plan =>
      have hplan' : planOf settings u.normalize = .ok plan := by rw [← h.planOf_normalize, hplan]
      have hassembled := h.assembled_normalize settings (plainPlan_of_planOf ht hplan)
        (plainPlan_of_planOf hu hplan')
      simp only [Except.map, hassembled]

/-- Two ways that meet, under other titles and ids, with kinds of the nodes' own, and with a library
in another order that has more in it and no Internet exit. -/
def disguisedCrossroads : Topology where
  layers := [
    { id := "entry", title := "Entry"
      nodes := [
        { id := "n1", tag := "rr", detours := ["x", "y", "z"], kind := some .socks },
        { id := "n2", tag := "s", detours := ["x", "y"] }] },
    { id := "middle", nodes := [{ id := "n3", tag := "x" }, { tag := "y", kind := some .direct }] },
    { id := "exit", title := "Exit", nodes := [{ tag := "z", detours := ["direct"] }] }]
  library := [
    .named "spare" .vmess, .named "z" .socks, .named "y" .trojan,
    { NodeDefinition.named "x" .vmess with id := "mine", extra := [("color", .string "red")] },
    .named "s" .selector, .named "rr" .roundRobin]
  inbounds := crossroads.inbounds

theorem compile_disguisedCrossroads : crossroads.SameGraph disguisedCrossroads ∧
    (∀ d ∈ crossroads.library, Tag.isSystem d.tag = false) ∧
    (∀ d ∈ disguisedCrossroads.library, Tag.isSystem d.tag = false) ∧
    compile {} crossroads = compile {} disguisedCrossroads := by
  have hgraph : crossroads.SameGraph disguisedCrossroads := ⟨rfl, by decide, by decide⟩
  have hplain : ∀ d ∈ crossroads.library, Tag.isSystem d.tag = false := by decide
  have hdisguised : ∀ d ∈ disguisedCrossroads.library, Tag.isSystem d.tag = false := by decide
  exact ⟨hgraph, hplain, hdisguised, compile_eq_of_sameGraph {} hgraph hplain hdisguised⟩

end ProxyChain
