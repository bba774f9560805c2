import ProxyChain.Proofs.Config.Forwarding
import ProxyChain.Proofs.Config.References

/-!
# ProxyChain.Proofs.Config.Order

**The order of a compiled config.** A config lists each entry once (`Lists`): outbounds of nodes,
clients of groups, the exit, selectors of inbounds; inbounds of the user's, then those of groups;
the rule for name queries, then the rules of the inbounds in the same order. Made-up tags are new,
so no client takes the place of an outbound that is there already (`PlainPlan.outbounds_eq_append`);
and what the lists of a group have at one position belongs together, as they have the same length.
-/

namespace ProxyChain

open RoundRobin ProxyChain.Topology

/-- Where the traffic of an inbound with a target goes: to its only target, or to its selector. -/
def Inbound.gateway (plan : Plan) (inbound : Inbound) : String :=
  match inbound.detours with
  | [only] => plan.mapTag only
  | _ => inbound.selectorTag

/-- A config has the entries of a topology in normal form and of a plan of it, in order. -/
structure Lists (settings : CompilerSettings) (t : Topology) (plan : Plan)
    (config : RuntimeConfig) : Prop where
  outboundTags_eq : config.outboundTags =
    (t.placed.filter fun entry => t.kindOf entry.2 ≠ .roundRobin).map (fun entry => entry.2.tag)
      ++ plan.groups.map Group.outboundTag ++ [Tag.internet]
      ++ (t.inbounds.filter fun inbound => 2 ≤ inbound.detours.length).map Inbound.selectorTag
  inbounds_eq : config.inbounds =
    t.inbounds.map (fun inbound =>
        .mixed inbound.tag settings.loopback inbound.port settings.sniff)
      ++ plan.groups.flatMap fun group => (group.inboundTags.zip group.backendPorts).map
        fun backend => .socks backend.1 settings.loopback backend.2
  rules_eq : config.rules =
    .hijackDns
      :: (t.inbounds.filter fun inbound => inbound.detours ≠ []).map (fun inbound =>
        .inboundTo inbound.tag (inbound.gateway plan))
      ++ plan.groups.flatMap fun group => (group.inboundTags.zip group.candidates).map
        fun member => .inboundTo member.1 (plan.mapTag member.2)
  /-- A group has one backend inbound, on a port of its own, for each member of its pool. -/
  backends_paired : ∀ group ∈ plan.groups,
    group.inboundTags.length = group.candidates.length ∧
      group.backendPorts.length = group.candidates.length

/-! ### Outbounds -/

theorem map_tag_ownNodes (t : Topology) : t.ownNodes.map PlacedNode.tag =
    (t.placed.filter fun entry => t.kindOf entry.2 ≠ .roundRobin).map fun entry => entry.2.tag := by
  rw [ownNodes, List.filter_map, List.map_map]
  rfl

namespace Topology.IsNormal

variable {t : Topology} (h : t.IsNormal) (plan : Plan)

include h

/-- The inbounds with selectors are those with several targets. -/
theorem map_tag_selectors : (t.inbounds.filterMap (Inbound.selector? plan)).map Outbound.tag =
    (t.inbounds.filter fun inbound => 2 ≤ inbound.detours.length).map Inbound.selectorTag := by
  rw [List.map_filterMap]
  refine filterMap_eq_map_filter fun inbound hinbound => ?_
  cases hselector : inbound.selector? plan with
  | none =>
      have hfew : ¬ 2 ≤ inbound.detours.length := by
        intro hseveral
        match hdetours : inbound.detours with
        | [] | [_] => simp [hdetours] at hseveral
        | first :: second :: rest =>
            have hsome := (h.selector?_eq_some_iff plan hinbound).2
              ⟨first, second, rest, hdetours, rfl⟩
            rw [hselector] at hsome
            cases hsome
      simp [hfew]
  | some out =>
      obtain ⟨first, second, rest, hdetours, rfl⟩ :=
        (h.selector?_eq_some_iff plan hinbound).1 hselector
      simp [hdetours, Outbound.selector]

/-! ### Rules -/

/-- The inbounds with rules are those with targets. -/
theorem filterMap_routeTo? : t.inbounds.filterMap (fun inbound =>
      (inbound.routeTo? plan).map (RouteRule.inboundTo inbound.tag)) =
    (t.inbounds.filter fun inbound => inbound.detours ≠ []).map fun inbound =>
      .inboundTo inbound.tag (inbound.gateway plan) := by
  refine filterMap_eq_map_filter fun inbound hinbound => ?_
  rw [h.routeTo?_eq plan hinbound, Inbound.gateway]
  match inbound.detours with
  | [] => rfl
  | [_] => rfl
  | _ :: _ :: _ => rfl

end Topology.IsNormal

/-! ### Backends -/

section

variable (plan : Plan) {group : Group}

theorem length_inboundTags (group : Group) :
    group.inboundTags.length = group.candidates.length := by
  rw [Group.inboundTags, List.length_map, List.length_range]

variable (hlength : group.backendPorts.length = group.candidates.length)

include hlength

/-- The inbounds of a group, without the targets of their rules. -/
theorem map_socks_backends (settings : CompilerSettings) :
    (backends plan group).map (fun (tag, port, _) =>
      InboundConfig.socks tag settings.loopback port) =
    (group.inboundTags.zip group.backendPorts).map fun backend =>
      .socks backend.1 settings.loopback backend.2 := by
  have hports : (backends plan group).map (Prod.map id Prod.fst) =
      group.inboundTags.zip group.backendPorts := by
    rw [backends, ← List.zip_map_right, List.map_fst_zip]
    simp [hlength]
  rw [← hports, List.map_map]
  rfl

/-- The rules of a group, without the ports of their inbounds. -/
theorem map_rule_backends :
    (backends plan group).map (fun (tag, _, outbound) => RouteRule.inboundTo tag outbound) =
    (group.inboundTags.zip group.candidates).map fun member =>
      .inboundTo member.1 (plan.mapTag member.2) := by
  have htargets : (backends plan group).map (Prod.map id Prod.snd) =
      group.inboundTags.zip (group.candidates.map plan.mapTag) := by
    rw [backends, ← List.zip_map_right, List.map_snd_zip]
    simp [hlength]
  have hrules : (backends plan group).map (fun (tag, _, outbound) =>
        RouteRule.inboundTo tag outbound) =
      ((backends plan group).map (Prod.map id Prod.snd)).map fun member =>
        .inboundTo member.1 member.2 := by
    rw [List.map_map]
    rfl
  rw [hrules, htargets, List.zip_map_right, List.map_map]
  rfl

end

/-! ### All together -/

namespace RoundRobin.PlainPlan

variable {t : Topology} {plan : Plan} (h : PlainPlan t plan) (settings : CompilerSettings)

include h

theorem outboundTags_assembled : (assembled settings t plan).outboundTags =
    t.ownNodes.map PlacedNode.tag ++ plan.groups.map Group.outboundTag ++ [Tag.internet]
      ++ (t.inbounds.filterMap (Inbound.selector? plan)).map Outbound.tag := by
  rw [RuntimeConfig.outboundTags, h.outbounds_eq_append, List.map_append, List.map_append,
    List.map_append, map_tag_ownOutbounds, List.map_map]
  rfl

theorem lists_assembled : Lists settings t plan (assembled settings t plan) where
  outboundTags_eq := by
    rw [h.outboundTags_assembled, map_tag_ownNodes, h.map_tag_selectors]
  inbounds_eq := by
    show compileInbounds settings t plan = _
    rw [compileInbounds]
    congr 1
    exact List.flatMap_congr fun group hgroup =>
      map_socks_backends plan (h.length_backendPorts group hgroup) settings
  rules_eq := by
    show compileRules t plan = _
    rw [compileRules, h.filterMap_routeTo?]
    congr 1
    exact List.flatMap_congr fun group hgroup =>
      map_rule_backends plan (h.length_backendPorts group hgroup)
  backends_paired group hgroup := ⟨length_inboundTags group, h.length_backendPorts group hgroup⟩

end RoundRobin.PlainPlan

/-- A compiled config has the entries of the normal form and of its plan, each once and in order. -/
theorem compile_lists {settings : CompilerSettings} {t : Topology} {config : RuntimeConfig}
    (h : compile settings t = .ok config)
    (hplain : ∀ d ∈ t.library, Tag.isSystem d.tag = false) :
    ∃ plan, planOf settings t.normalize = .ok plan ∧
      Lists settings t.normalize plan config := by
  obtain ⟨plan, hplan, rfl⟩ := compile_eq_ok_iff.1 h
  exact ⟨plan, hplan, (plainPlan_of_planOf hplain hplan).lists_assembled settings⟩

theorem lists_crossroads : compile {} crossroads = .ok crossroadsConfig ∧
    (∀ d ∈ crossroads.library, Tag.isSystem d.tag = false) ∧
    ∃ plan, planOf {} crossroads.normalize = .ok plan ∧
      Lists {} crossroads.normalize plan crossroadsConfig :=
  ⟨compile_crossroads, by decide, compile_lists compile_crossroads (by decide)⟩

end ProxyChain
