import ProxyChain.Proofs.Config.Forwarding
import ProxyChain.Proofs.Config.SyntheticTags
import ProxyChain.Proofs.RoundRobin.Checks
import ProxyChain.Proofs.Topology.Session
import ProxyChain.Settings.Check

/-!
# ProxyChain.Proofs.Config.Listeners

**Which ports a compiled config uses.** The ports of the user's inbounds are those that the user
gave to them. The ports of groups depend on how many groups there are and on how large their pools
are (`Plan.mem_listenPorts_iff`, `Plan.mem_backendPorts_iff`), and nobody looks whether the user took
one of them. So a port of the user's is used twice exactly if it is in one of these ranges.
-/

namespace ProxyChain

open RoundRobin ProxyChain.Topology

/-! ### Ports of groups -/

namespace RoundRobin

theorem mem_ports_iff {ports : List UInt16} {first count : Nat}
    (h : ports.map UInt16.toNat = List.range' first count) {port : UInt16} :
    port ∈ ports ↔ first ≤ port.toNat ∧ port.toNat < first + count := by
  rw [← List.mem_range'_1, ← h]
  exact (List.mem_map_of_injective fun _ _ => UInt16.toNat_inj.1).symm

namespace Plan

variable {t : Topology} {layout : PortLayout} {plan : Plan}
  (hbuild : Plan.build t t.index layout = .ok plan)

include hbuild

theorem index_of_getElem? {place : Nat} {group : Group} (hgroup : plan.groups[place]? = some group) :
    group.index = place := by
  have hindex := congrArg (fun places => places[place]?) (Plan.map_index_of_build hbuild)
  obtain ⟨hplace, -⟩ := List.getElem?_eq_some_iff.1 hgroup
  simpa [hgroup, List.getElem?_range hplace] using hindex

theorem mem_listenPorts_iff {port : UInt16} : port ∈ plan.groups.map Group.listenPort ↔
    layout.listenBase.toNat ≤ port.toNat ∧
      port.toNat < layout.listenBase.toNat + plan.groups.length := by
  have hallotted := Plan.allotted_of_build hbuild
  refine mem_ports_iff ?_
  calc (plan.groups.map Group.listenPort).map UInt16.toNat
      = plan.groups.map fun group => layout.listenBase.toNat + group.index := by
        rw [List.map_map]
        exact List.map_congr_left fun group hgroup => (hallotted group hgroup).listen_port
    _ = (plan.groups.map Group.index).map (layout.listenBase.toNat + ·) := by
        rw [List.map_map]
        rfl
    _ = List.range' layout.listenBase.toNat plan.groups.length := by
        rw [Plan.map_index_of_build hbuild, List.range'_eq_map_range]

variable (h : t.IsNormal)

include h

/-- The groups are those of the round-robin nodes, in their order. -/
theorem map_candidates_of_build :
    plan.groups.map Group.candidates = t.roundRobins.map t.poolMembers := by
  obtain ⟨hfailure, hgroups, -⟩ := Plan.build_eq_ok hbuild
  have hpools := congrArg (List.map fun source => source.2.pool)
    (map_source_planning h.toNodesSound hfailure)
  rw [← hgroups, List.map_map, List.map_map] at hpools
  exact hpools.trans (List.map_congr_left fun _ hentry => poolOf_pool h hentry)

theorem length_groups_of_build : plan.groups.length = t.roundRobins.length := by
  have hlength := congrArg List.length (map_candidates_of_build hbuild h)
  rwa [List.length_map, List.length_map] at hlength

theorem mem_backendPorts_iff {port : UInt16} : port ∈ plan.groups.flatMap Group.backendPorts ↔
    ∃ place entry, t.roundRobins[place]? = some entry ∧
      layout.backendBase.toNat + maxPoolSize * place ≤ port.toNat ∧
      port.toNat <
        layout.backendBase.toNat + maxPoolSize * place + (t.poolMembers entry).length := by
  have hallotted := Plan.allotted_of_build hbuild
  -- The group at a place is that of the round-robin node at the same place.
  have hpools : ∀ place : Nat, plan.groups[place]?.map Group.candidates =
      t.roundRobins[place]?.map t.poolMembers := by
    intro place
    rw [← List.getElem?_map, map_candidates_of_build hbuild h, List.getElem?_map]
  rw [List.mem_flatMap]
  constructor
  · rintro ⟨group, hgroup, hport⟩
    obtain ⟨place, hplace⟩ := List.mem_iff_getElem?.1 hgroup
    have hpool := hpools place
    rw [hplace, Option.map_some, eq_comm, Option.map_eq_some_iff] at hpool
    obtain ⟨entry, hentry, hcandidates⟩ := hpool
    rw [mem_ports_iff (hallotted group hgroup).backend_ports, index_of_getElem? hbuild hplace,
      ← hcandidates] at hport
    exact ⟨place, entry, hentry, hport⟩
  · rintro ⟨place, entry, hentry, hport⟩
    have hpool := hpools place
    rw [hentry, Option.map_some, Option.map_eq_some_iff] at hpool
    obtain ⟨group, hplace, hcandidates⟩ := hpool
    have hgroup := List.mem_of_getElem? hplace
    refine ⟨group, hgroup, ?_⟩
    rwa [mem_ports_iff (hallotted group hgroup).backend_ports, index_of_getElem? hbuild hplace,
      hcandidates]

end Plan

end RoundRobin

/-! ### Ports of a config -/

/-- The port of an inbound of some kind. -/
def InboundConfig.portAs? (kind : String) (inbound : InboundConfig) : Option UInt16 :=
  if inbound.kind = kind then inbound.listenPort else none

/-- The port at which the balancer of a client listens. -/
def Outbound.balancerPort? (out : Outbound) : Option UInt16 :=
  if out.kind = "socks" ∧ (clientId? out.tag).isSome then out.serverPort else none

namespace RuntimeConfig

/-- The ports of the user's inbounds. -/
def userPorts (config : RuntimeConfig) : List UInt16 :=
  config.inbounds.filterMap (InboundConfig.portAs? "mixed")

/-- The ports of the inbounds at which balancers dial. -/
def dialledPorts (config : RuntimeConfig) : List UInt16 :=
  config.inbounds.filterMap (InboundConfig.portAs? "socks")

/-- The ports at which balancers listen. -/
def balancerPorts (config : RuntimeConfig) : List UInt16 :=
  config.outbounds.filterMap Outbound.balancerPort?

end RuntimeConfig

theorem portAs?_mixed (kind tag listen : String) (port : UInt16) (sniff : Bool) :
    (InboundConfig.mixed tag listen port sniff).portAs? kind =
      if "mixed" = kind then some port else none :=
  rfl

theorem portAs?_socks (kind tag listen : String) (port : UInt16) :
    (InboundConfig.socks tag listen port).portAs? kind =
      if "socks" = kind then some port else none :=
  rfl

theorem balancerPort?_client (group : Group) (settings : CompilerSettings) :
    (group.client settings).balancerPort? = some group.listenPort := by
  simp [Outbound.balancerPort?, Group.client, Outbound.socksClient, clientId?_outboundTag]

theorem balancerPort?_eq_none {out : Outbound} (h : Tag.isSystem out.tag = false) :
    out.balancerPort? = none := by
  simp [Outbound.balancerPort?, clientId?_eq_none h]

theorem balancerPort?_selector (tag : String) (members : List String) (default : String) :
    (Outbound.selector tag members default).balancerPort? = none := by
  simp [Outbound.balancerPort?, Outbound.selector]

section

variable {t : Topology} {plan : Plan} (settings : CompilerSettings)

theorem userPorts_assembled :
    (assembled settings t plan).userPorts = t.inbounds.map Inbound.port := by
  show (compileInbounds settings t plan).filterMap _ = _
  rw [compileInbounds, List.filterMap_append, List.filterMap_flatMap]
  simp [portAs?_mixed, portAs?_socks, List.filterMap_map, Function.comp_def]

theorem dialledPorts_assembled (h : NormalPlan t plan) :
    (assembled settings t plan).dialledPorts = plan.groups.flatMap Group.backendPorts := by
  show (compileInbounds settings t plan).filterMap _ = _
  rw [compileInbounds, List.filterMap_append, List.filterMap_flatMap]
  have husers : (t.inbounds.map fun inbound => InboundConfig.mixed inbound.tag settings.loopback
      inbound.port settings.sniff).filterMap (InboundConfig.portAs? "socks") = [] := by
    simp [portAs?_mixed]
  rw [husers, List.nil_append]
  refine List.flatMap_congr fun group hgroup => ?_
  rw [← map_port_backends plan (h.length_backendPorts group hgroup), List.filterMap_map,
    ← List.filterMap_eq_map]
  rfl

theorem balancerPorts_assembled (h : PlainPlan t plan) :
    (assembled settings t plan).balancerPorts = plan.groups.map Group.listenPort :=
  h.filterMap_outbounds_assembled settings balancerPort?_eq_none balancerPort?_selector
    fun group => balancerPort?_client group settings

end

/-! ### Sessions -/

/-- After any session, the ports of the user's inbounds are those that were asked for, and one of
them is used by a group as well exactly if it is in a range of ports that is left to groups. -/
theorem compile_userPorts_shared_iff {settings : CompilerSettings} {operations : List Operation}
    {config : RuntimeConfig}
    (h : compile settings (defaultProfile.performAll operations) = .ok config) :
    let t := (defaultProfile.performAll operations).normalize
    config.userPorts = (defaultProfile.performAll operations).inbounds.map Inbound.port ∧
      ∀ port ∈ config.userPorts,
        (port ∈ config.balancerPorts ↔ settings.listenBasePort.toNat ≤ port.toNat ∧
          port.toNat < settings.listenBasePort.toNat + t.roundRobins.length) ∧
        (port ∈ config.dialledPorts ↔ ∃ place entry, t.roundRobins[place]? = some entry ∧
          settings.backendBasePort.toNat + maxPoolSize * place ≤ port.toNat ∧
          port.toNat <
            settings.backendBasePort.toNat + maxPoolSize * place + (t.poolMembers entry).length) := by
  obtain ⟨plan, hplan, rfl⟩ := compile_eq_ok_iff.1 h
  have hconsistent := consistent_defaultProfile.performAll operations
  have hplain := plainPlan_of_planOf (fun _ hd => hconsistent.library.tag_plain hd) hplan
  refine ⟨?_, fun port _ => ?_⟩
  · rw [userPorts_assembled]
    exact map_inbounds_normalize (by simp) (by simp) _
  · rw [balancerPorts_assembled settings hplain, Plan.mem_listenPorts_iff hplan,
      dialledPorts_assembled settings hplain.toNormalPlan,
      Plan.mem_backendPorts_iff hplan hplain.toIsNormal,
      Plan.length_groups_of_build hplan hplain.toIsNormal]
    exact ⟨Iff.rfl, Iff.rfl⟩

/-- A session that gives ports of a group to inbounds: first the one at which its balancer listens,
then one that the balancer dials. -/
def crowded : List Operation := [
  .upsertDefinition (.named "rr" .roundRobin) none,
  .upsertDefinition (.named "a" .vmess) none,
  .upsertDefinition (.named "b" .trojan) none,
  .addLayer "HOP 2",
  .placeNode "layer-1" "rr",
  .placeNode "layer-2" "a",
  .placeNode "layer-2" "b",
  .link ⟨"rr", false⟩ "a",
  .link ⟨"rr", false⟩ "b",
  .addInbound none 25080,
  .addInbound none 25101]

/-- What its topology is compiled into. -/
def crowdedConfig : RuntimeConfig where
  inbounds := [
    .mixed "mixed-10808" "127.0.0.1" 10808 true,
    .mixed "mixed-25080" "127.0.0.1" 25080 true,
    .mixed "mixed-25101" "127.0.0.1" 25101 true,
    .socks "sys-rr-4f546725-in-0" "127.0.0.1" 25100,
    .socks "sys-rr-4f546725-in-1" "127.0.0.1" 25101]
  outbounds := [
    { kind := "vmess", tag := "a" },
    { kind := "trojan", tag := "b" },
    .socksClient "sys-rr-4f546725-lb" "127.0.0.1" 25080,
    .direct]
  rules := [.hijackDns, .inboundTo "sys-rr-4f546725-in-0" "a",
    .inboundTo "sys-rr-4f546725-in-1" "b"]

theorem compile_crowded :
    compile {} (defaultProfile.performAll crowded) = .ok crowdedConfig := by
  decide +kernel

theorem userPorts_shared_crowded :
    compile {} (defaultProfile.performAll crowded) = .ok crowdedConfig ∧
      let t := (defaultProfile.performAll crowded).normalize
      crowdedConfig.userPorts = (defaultProfile.performAll crowded).inbounds.map Inbound.port ∧
        ∀ port ∈ crowdedConfig.userPorts,
          (port ∈ crowdedConfig.balancerPorts ↔ 25080 ≤ port.toNat ∧
            port.toNat < 25080 + t.roundRobins.length) ∧
          (port ∈ crowdedConfig.dialledPorts ↔ ∃ place entry, t.roundRobins[place]? = some entry ∧
            25100 + maxPoolSize * place ≤ port.toNat ∧
            port.toNat < 25100 + maxPoolSize * place + (t.poolMembers entry).length) :=
  ⟨compile_crowded, compile_userPorts_shared_iff compile_crowded⟩

/-- So neither the checks of edits nor those of settings keep the ports of groups apart from those of
the user. -/
theorem not_forall_userPorts_free : ¬ ∀ (settings : Settings) (operations : List Operation)
    (config : RuntimeConfig), settings.check = .ok () → .normalize ∉ operations →
      compile settings.compiler (defaultProfile.performAll operations) = .ok config →
        ∀ port ∈ config.userPorts, port ∉ config.balancerPorts ∧ port ∉ config.dialledPorts := by
  intro hfree
  have haccepted : ({} : Settings).check = .ok () := by decide +kernel
  have hedits : Operation.normalize ∉ crowded := by decide
  have hport : (25080 : UInt16) ∈ crowdedConfig.userPorts := by decide
  have htaken : (25080 : UInt16) ∈ crowdedConfig.balancerPorts := by decide +kernel
  exact (hfree {} crowded crowdedConfig haccepted hedits compile_crowded 25080 hport).1 htaken

end ProxyChain
