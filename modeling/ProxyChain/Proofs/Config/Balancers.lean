import ProxyChain.Proofs.Config.Forwarding
import ProxyChain.Proofs.Config.SyntheticTags

/-!
# ProxyChain.Proofs.Config.Balancers

**The balancers of a compiled config are the groups of its plan.** Configs and balancers share no
more than tags, kinds and ports, so each entry of the config is read by itself: clients and backends
are read as what they were written for, and all other entries as nothing. Among the outbounds tags
tell this; a selector of an inbound or the Internet exit would be no client of a balancer under any
tag. Among the inbounds the kind tells it, so the tag of a user's inbound does not matter.
-/

namespace ProxyChain

open RoundRobin ProxyChain.Topology

/-! ### One entry -/

/-- The balancer that a group needs. -/
def RoundRobin.Group.balancer (group : Group) : BalancerGroup :=
  ⟨group.id, group.listenPort, group.backendPorts⟩

/-- What is to be read of a group among the inbounds. -/
def RoundRobin.Group.backendEntries (group : Group) : List Backend :=
  group.backendPorts.mapIdx fun position port => ⟨group.id, position, port⟩

theorem listener?_eq_none {out : Outbound} (h : Tag.isSystem out.tag = false) :
    out.listener? = none := by
  rw [Outbound.listener?, clientId?_eq_none h]
  rfl

theorem listener?_selector (tag : String) (members : List String) (default : String) :
    (Outbound.selector tag members default).listener? = none := by
  simp [Outbound.listener?, Outbound.selector]

theorem listener?_client (group : Group) {settings : CompilerSettings}
    (hloopback : Net.isLoopbackAddress settings.loopback = true) :
    (group.client settings).listener? = some (group.id, group.listenPort) := by
  simp [Outbound.listener?, Group.client, Outbound.socksClient, clientId?_outboundTag, hloopback]

theorem backend?_mixed (tag listen : String) (port : UInt16) (sniff : Bool) :
    (InboundConfig.mixed tag listen port sniff).backend? = none := by
  simp [InboundConfig.backend?, InboundConfig.mixed]

theorem backend?_socks (group : Group) {position : Nat} (hposition : position < positionBound)
    (listen : String) (port : UInt16) :
    (InboundConfig.socks (group.inboundTag position) listen port).backend? =
      some ⟨group.id, position, port⟩ := by
  simp [InboundConfig.backend?, InboundConfig.socks, backendPosition?_inboundTag group hposition]

/-! ### One group -/

section

variable {group : Group} (hlength : group.backendPorts.length = group.candidates.length)

include hlength

/-- What the backends of a group are read as, which is independent of where their traffic goes. -/
theorem map_backend?_backends (hbound : group.candidates.length ≤ positionBound) (plan : Plan)
    (listen : String) :
    (backends plan group).map (fun b => (InboundConfig.socks b.1 listen b.2.1).backend?) =
      group.backendEntries.map some := by
  apply List.ext_getElem?
  intro position
  rw [List.getElem?_map, List.getElem?_map, Group.backendEntries, List.getElem?_mapIdx, backends,
    Group.inboundTags]
  by_cases hposition : position < group.candidates.length
  · have hport : position < group.backendPorts.length := hlength ▸ hposition
    simp [hposition, hport, List.zip,
      backend?_socks group (Nat.lt_of_lt_of_le hposition hbound)]
  · have hport : ¬ position < group.backendPorts.length := hlength ▸ hposition
    simp [hposition, hport, List.zip]

end

theorem id_of_mem_backendEntries {group : Group} {backend : Backend}
    (h : backend ∈ group.backendEntries) : backend.id = group.id := by
  obtain ⟨position, hposition, rfl⟩ := List.mem_mapIdx.1 h
  rfl

theorem backendEntries_ascending (group : Group) :
    group.backendEntries.Pairwise fun a b => a.position < b.position := by
  rw [Group.backendEntries, List.pairwise_iff_getElem]
  intro i j hi hj hij
  simpa only [List.getElem_mapIdx] using hij

/-- The positions count up, so sorting by them changes nothing. -/
theorem mergeSort_backendEntries (group : Group) :
    group.backendEntries.mergeSort (fun a b => a.position ≤ b.position) = group.backendEntries :=
  List.mergeSort_of_pairwise ((backendEntries_ascending group).imp fun h => decide_eq_true h.le)

theorem map_port_backendEntries (group : Group) :
    group.backendEntries.map Backend.port = group.backendPorts := by
  apply List.ext_getElem?
  intro position
  rw [List.getElem?_map, Group.backendEntries, List.getElem?_mapIdx]
  cases group.backendPorts[position]? <;> rfl

/-! ### All groups -/

/-- Of what is read for several groups, the part with the id of one of them is that of the group. -/
theorem filter_id_backendEntries {groups : List Group} (hnodup : (groups.map Group.id).Nodup)
    {group : Group} (hgroup : group ∈ groups) :
    (groups.flatMap Group.backendEntries).filter (fun b => b.id = group.id) =
      group.backendEntries := by
  -- The entries of one group are all kept or all left out.
  have hparts : ∀ other ∈ groups, other.backendEntries.filter (fun b => b.id = group.id) =
      if decide (other.id = group.id) then other.backendEntries else [] := by
    intro other _
    split
    · rename_i hid
      exact List.filter_eq_self.2 fun b hb =>
        decide_eq_true ((id_of_mem_backendEntries hb).trans (of_decide_eq_true hid))
    · rename_i hid
      exact List.filter_eq_nil_iff.2 fun b hb heq =>
        hid (decide_eq_true ((id_of_mem_backendEntries hb).symm.trans (of_decide_eq_true heq)))
  rw [List.filter_flatMap, List.flatMap_congr hparts, flatMap_ite_eq_flatMap_filter,
    filter_key_eq_singleton hnodup hgroup, List.flatMap_singleton]

namespace RoundRobin.PlainPlan

variable {t : Topology} {plan : Plan} (h : PlainPlan t plan) {settings : CompilerSettings}

include h

/-- Of the outbounds only the clients are read. -/
theorem listeners_assembled (hloopback : Net.isLoopbackAddress settings.loopback = true) :
    (assembled settings t plan).listeners =
      plan.groups.map fun group => (group.id, group.listenPort) := by
  rw [RuntimeConfig.listeners, h.filterMap_outbounds_assembled settings listener?_eq_none
    listener?_selector (fun group => listener?_client group hloopback), List.foldl_map]
  exact foldl_setBy_eq_append h.ids_nodup fun _ _ hmem => nomatch hmem

/-- Of the inbounds only the backends are read. -/
theorem filterMap_backend?_assembled
    (hbound : ∀ group ∈ plan.groups, group.candidates.length ≤ positionBound) :
    (assembled settings t plan).inbounds.filterMap InboundConfig.backend? =
      plan.groups.flatMap Group.backendEntries := by
  have husers : (t.inbounds.map fun inbound =>
      InboundConfig.mixed inbound.tag settings.loopback inbound.port settings.sniff).filterMap
        InboundConfig.backend? = [] := by
    rw [List.filterMap_map, List.filterMap_eq_nil_iff]
    exact fun inbound _ => backend?_mixed _ _ _ _
  show (compileInbounds settings t plan).filterMap _ = _
  rw [compileInbounds, List.filterMap_append, husers, List.nil_append, List.filterMap_flatMap]
  refine List.flatMap_congr fun group hgroup => ?_
  have hread := congrArg (List.filterMap id) (map_backend?_backends
    (h.length_backendPorts group hgroup) (hbound group hgroup) plan settings.loopback)
  rw [List.filterMap_map, List.filterMap_map, Function.id_comp, Function.id_comp,
    List.filterMap_some] at hread
  rw [List.filterMap_map]
  exact hread

theorem backendPorts_assembled
    (hbound : ∀ group ∈ plan.groups, group.candidates.length ≤ positionBound) {group : Group}
    (hgroup : group ∈ plan.groups) :
    (assembled settings t plan).backendPorts group.id = group.backendPorts := by
  simp only [RuntimeConfig.backendPorts, h.filterMap_backend?_assembled hbound,
    filter_id_backendEntries h.ids_nodup hgroup, mergeSort_backendEntries, map_port_backendEntries]

theorem balancerGroups_assembled (hloopback : Net.isLoopbackAddress settings.loopback = true)
    (hsize : ∀ group ∈ plan.groups,
      2 ≤ group.candidates.length ∧ group.candidates.length ≤ maxPoolSize) :
    (assembled settings t plan).balancerGroups = plan.groups.map Group.balancer := by
  have hbound : ∀ group ∈ plan.groups, group.candidates.length ≤ positionBound :=
    fun group hgroup => (hsize group hgroup).2.trans (by decide)
  rw [RuntimeConfig.balancerGroups, h.listeners_assembled hloopback, List.filterMap_map,
    ← List.filterMap_eq_map]
  refine List.filterMap_congr fun group hgroup => ?_
  have hpool : ¬ group.backendPorts.length < 2 := by
    rw [h.length_backendPorts group hgroup]
    exact Nat.not_lt.2 (hsize group hgroup).1
  simp only [Function.comp_apply, h.backendPorts_assembled hbound hgroup, if_neg hpool]
  rfl

end RoundRobin.PlainPlan

/-- The balancers that are read from a compiled config are those of the groups, in their order and
with the backend ports in the order of the pool. -/
theorem compile_balancerGroups {settings : CompilerSettings} {t : Topology}
    {config : RuntimeConfig} (hplain : ∀ d ∈ t.library, Tag.isSystem d.tag = false)
    (hloopback : Net.isLoopbackAddress settings.loopback = true)
    (h : compile settings t = .ok config) :
    ∃ plan, planOf settings t.normalize = .ok plan ∧
      config.balancerGroups = plan.groups.map Group.balancer := by
  obtain ⟨plan, hplan, rfl⟩ := compile_eq_ok_iff.1 h
  have hallotted := Plan.allotted_of_build hplan
  exact ⟨plan, hplan, (plainPlan_of_planOf hplain hplan).balancerGroups_assembled hloopback
    fun group hgroup => (hallotted group hgroup).size_bounds⟩

/-- A round-robin node with twelve pool members, and an inbound with the tag of the third backend. -/
def dozen : Topology where
  layers := [
    { id := "layer-1", nodes := [{ tag := "rr", detours := members }] },
    { id := "layer-2", nodes := members.map fun tag => { tag := tag } }]
  library := [.internet, .named "rr" .roundRobin] ++ members.map fun tag => .named tag .vmess
  inbounds := [{ tag := "sys-rr-4f546725-in-2", port := 1080, detours := ["rr"] }]
where
  members := ["a", "b", "c", "d", "e", "f", "g", "h", "i", "j", "k", "l"]

theorem balancerGroups_dozen : (∀ d ∈ dozen.library, Tag.isSystem d.tag = false) ∧
    Net.isLoopbackAddress ({} : CompilerSettings).loopback = true ∧
    ∃ config, compile {} dozen = .ok config ∧
      ∃ plan, planOf {} dozen.normalize = .ok plan ∧
        config.balancerGroups = plan.groups.map Group.balancer := by
  have hplain : ∀ d ∈ dozen.library, Tag.isSystem d.tag = false := by decide
  have hloopback : Net.isLoopbackAddress ({} : CompilerSettings).loopback = true := by decide +kernel
  have hok : (compile {} dozen).isOk = true := by decide +kernel
  cases hcompile : compile {} dozen with
  | error e => rw [hcompile] at hok; cases hok
  | ok config =>
      exact ⟨hplain, hloopback, config, rfl, compile_balancerGroups hplain hloopback hcompile⟩

end ProxyChain
