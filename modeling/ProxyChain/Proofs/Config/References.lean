import ProxyChain.Proofs.Config.Compile

/-!
# ProxyChain.Proofs.Config.References

**References of a compiled config.** Outbounds and rules name other entries by tag. In a compiled
config each such name is the tag of an entry (`RuntimeConfig.Closed`), whatever the topology was
and also where a library tag looks like a made-up one. Every reference is `Plan.mapTag` of a target
that the normal form left in place (`NormalPlan.mapTag_mem_outboundTags`), except for the selectors
of inbounds, which are written down together with their rules.
-/

namespace ProxyChain

open RoundRobin ProxyChain.Topology

/-! ### Closed configs -/

/-- The tags of the outbounds of a config. -/
def RuntimeConfig.outboundTags (config : RuntimeConfig) : List String :=
  config.outbounds.map Outbound.tag

/-- The tags of the inbounds of a config. -/
def RuntimeConfig.inboundTags (config : RuntimeConfig) : List String :=
  config.inbounds.map InboundConfig.tag

/-- All that an outbound refers to is among some tags, and its default is one of its members. -/
structure Outbound.RefersTo (out : Outbound) (tags : List String) : Prop where
  detour_mem : ∀ tag ∈ out.detour, tag ∈ tags
  member_mem : ∀ tag ∈ out.outbounds, tag ∈ tags
  default_mem : ∀ tag ∈ out.defaultOutbound, tag ∈ out.outbounds

/-- All that a rule refers to is among some tags of inbounds and of outbounds. -/
structure RouteRule.RefersTo (rule : RouteRule) (inbounds outbounds : List String) : Prop where
  inbound_mem : ∀ tag ∈ rule.inbounds, tag ∈ inbounds
  outbound_mem : ∀ tag ∈ rule.outbound, tag ∈ outbounds

/-- A config without dangling references, and with one Internet exit. -/
structure RuntimeConfig.Closed (config : RuntimeConfig) : Prop where
  outbounds_closed : ∀ out ∈ config.outbounds, out.RefersTo config.outboundTags
  rules_closed : ∀ rule ∈ config.rules, rule.RefersTo config.inboundTags config.outboundTags
  one_exit : (config.outbounds.filter fun out => out.tag = Tag.internet) = [.direct]

/-! ### Inbounds -/

section

variable {t : Topology} {plan : Plan} (settings : CompilerSettings)

/-- The user's inbounds, then those of the groups. -/
theorem inboundTags_assembled (t : Topology) (plan : Plan) :
    (assembled settings t plan).inboundTags = t.inbounds.map Inbound.tag ++
      plan.groups.flatMap fun group => (backends plan group).map Prod.fst := by
  show (compileInbounds settings t plan).map InboundConfig.tag = _
  rw [compileInbounds, List.map_append, List.map_map, List.map_flatMap]
  simp only [List.map_map]
  rfl

theorem inbound_tag_mem_inboundTags {inbound : Inbound} (hinbound : inbound ∈ t.inbounds) :
    inbound.tag ∈ (assembled settings t plan).inboundTags :=
  List.mem_map.2 ⟨_, mixed_mem_inbounds_assembled settings hinbound, rfl⟩

theorem backend_tag_mem_inboundTags {group : Group} (hgroup : group ∈ plan.groups)
    {backend : String × UInt16 × String} (hbackend : backend ∈ backends plan group) :
    backend.1 ∈ (assembled settings t plan).inboundTags :=
  List.mem_map.2 ⟨_, socks_mem_inbounds_assembled settings hgroup hbackend, rfl⟩

end

namespace RoundRobin.NormalPlan

/-! ### Outbounds -/

variable {t : Topology} {plan : Plan} (h : NormalPlan t plan) (settings : CompilerSettings)

include h

theorem mem_outboundTags_iff {tag : String} :
    tag ∈ (assembled settings t plan).outboundTags ↔
      tag ∈ (withClients settings plan (t.ownOutbounds plan)).map Outbound.tag ∨
        tag = Tag.internet ∨
        tag ∈ (t.inbounds.filterMap (Inbound.selector? plan)).map Outbound.tag := by
  rw [RuntimeConfig.outboundTags, outbounds_assembled h.toNodesSound, List.map_append,
    List.map_append, List.mem_append, List.mem_append, List.map_singleton, List.mem_singleton,
    or_assoc]
  rfl

theorem outboundTag_mem_outboundTags {group : Group} (hgroup : group ∈ plan.groups) :
    group.outboundTag ∈ (assembled settings t plan).outboundTags := by
  refine (h.mem_outboundTags_iff settings).2 (Or.inl ?_)
  exact key_mem_foldl_setBy (f := fun group : Group => group.client settings) hgroup

theorem tag_mem_outboundTags {node : PlacedNode} (hnode : node ∈ t.ownNodes) :
    node.tag ∈ (assembled settings t plan).outboundTags := by
  refine (h.mem_outboundTags_iff settings).2 (Or.inl (key_mem_foldl_setBy_of_init ?_))
  rw [map_tag_ownOutbounds]
  exact List.mem_map_of_mem hnode

theorem internet_mem_outboundTags :
    Tag.internet ∈ (assembled settings t plan).outboundTags :=
  (h.mem_outboundTags_iff settings).2 (Or.inr (Or.inl rfl))

/-- What a target is dialled by is the tag of an outbound. -/
theorem mapTag_mem_outboundTags {tag : String} (htarget : t.IsTarget tag) :
    plan.mapTag tag ∈ (assembled settings t plan).outboundTags := by
  rcases h.mapTag_cases htarget with ⟨group, hgroup, -, hmap⟩ | ⟨hmap, htag⟩
  · rw [hmap]
    exact h.outboundTag_mem_outboundTags settings hgroup
  · rw [hmap]
    rcases htag with rfl | ⟨entry, hentry, hkind, rfl⟩
    · exact h.internet_mem_outboundTags settings
    · exact h.tag_mem_outboundTags settings (mem_ownNodes_iff.2 ⟨⟨entry.1, hentry⟩, hkind⟩)

/-- A managed node dials an output, a selector its targets, and any other leaf its target. -/
theorem ownOutbound_refersTo {entry : Nat × PlacedNode} (hentry : entry ∈ t.placed) :
    (t.ownOutbound plan entry.2).RefersTo (assembled settings t plan).outboundTags := by
  refine ⟨?_, ?_, fun _ htag => mem_outbounds_of_mem_defaultOutbound htag⟩
  · intro tag htag
    rcases detour_ownOutbound h htag with
      ⟨source, -, output, -, houtput, rfl⟩ | ⟨first, hfirst, rfl, -⟩
    · exact h.mapTag_mem_outboundTags settings houtput.2.2.isTarget
    · exact h.mapTag_mem_outboundTags settings (h.isTarget_of_mem_detours hentry hfirst)
  · intro tag htag
    obtain ⟨detour, hdetour, rfl⟩ := exists_mem_detours_of_mem_outbounds htag
    exact h.mapTag_mem_outboundTags settings (h.isTarget_of_mem_detours hentry hdetour)

/-- The members of the selector of an inbound are what its targets are dialled by. -/
theorem selector_refersTo {inbound : Inbound} (hinbound : inbound ∈ t.inbounds) {out : Outbound}
    (hout : inbound.HasSelector plan out) :
    out.RefersTo (assembled settings t plan).outboundTags := by
  obtain ⟨-, hplaced⟩ := h.inbound_links inbound hinbound
  have hdefault := h.inbound_default inbound hinbound
  obtain ⟨first, second, rest, hdetours, rfl⟩ := hout
  refine ⟨by simp [Outbound.selector], ?_, ?_⟩
  · intro tag htag
    obtain ⟨target, htarget, rfl⟩ := List.mem_map.1 htag
    exact h.mapTag_mem_outboundTags settings (hplaced target htarget).isTarget
  · intro tag htag
    obtain rfl := Option.some.inj htag
    refine List.mem_map_of_mem ?_
    cases hselected : inbound.selectorDefault with
    | none => simp [hdetours]
    | some chosen => exact hdefault chosen hselected

theorem outbounds_closed : ∀ out ∈ (assembled settings t plan).outbounds,
    out.RefersTo (assembled settings t plan).outboundTags := by
  intro out hout
  rcases h.outbound_cases hout with
    ⟨entry, hentry, -, -, rfl⟩ | ⟨group, -, rfl⟩ | rfl | ⟨inbound, hinbound, hselector⟩
  · exact h.ownOutbound_refersTo settings hentry
  · constructor <;> simp [Group.client, Outbound.socksClient]
  · constructor <;> simp [Outbound.direct]
  · exact h.selector_refersTo settings hinbound hselector

/-- The exit that is added is the only outbound with its tag. -/
theorem filter_internet_assembled :
    ((assembled settings t plan).outbounds.filter fun out => out.tag = Tag.internet) =
      [.direct] := by
  have hclients : (withClients settings plan (t.ownOutbounds plan)).filter
      (fun out => out.tag = Tag.internet) = [] := by
    refine List.filter_eq_nil_iff.2 fun out hout htag => ?_
    rcases mem_withClients hout with ⟨group, -, rfl⟩ | hout
    · exact outboundTag_ne_internet group (of_decide_eq_true htag)
    · exact h.ownOutbounds_tag_ne_internet plan out hout (of_decide_eq_true htag)
  have hselectors : (t.inbounds.filterMap (Inbound.selector? plan)).filter
      (fun out => out.tag = Tag.internet) = [] := by
    refine List.filter_eq_nil_iff.2 fun out hout htag => ?_
    obtain ⟨inbound, hinbound, hselector⟩ := List.mem_filterMap.1 hout
    obtain ⟨_, _, _, -, rfl⟩ := (h.selector?_eq_some_iff plan hinbound).1 hselector
    exact selectorTag_ne_internet inbound (of_decide_eq_true htag)
  rw [outbounds_assembled h.toNodesSound, List.filter_append, List.filter_append, hclients,
    hselectors]
  rfl

/-! ### Rules -/

/-- The rule of an inbound leads to its only target, or to its selector. -/
theorem routeTo?_mem_outboundTags {inbound : Inbound} (hinbound : inbound ∈ t.inbounds)
    {target : String} (htarget : inbound.routeTo? plan = some target) :
    target ∈ (assembled settings t plan).outboundTags := by
  rw [h.routeTo?_eq plan hinbound] at htarget
  cases hdetours : inbound.detours with
  | nil => rw [hdetours] at htarget; cases htarget
  | cons first others =>
      rw [hdetours] at htarget
      cases others with
      | nil =>
          obtain rfl := Option.some.inj htarget
          obtain ⟨-, hplaced⟩ := h.inbound_links inbound hinbound
          have hmem : first ∈ inbound.detours := hdetours ▸ List.mem_cons_self
          exact h.mapTag_mem_outboundTags settings (hplaced first hmem).isTarget
      | cons second rest =>
          obtain rfl := Option.some.inj htarget
          have hselector := (h.selector?_eq_some_iff plan hinbound).2
            ⟨first, second, rest, hdetours, rfl⟩
          refine (h.mem_outboundTags_iff settings).2 (Or.inr (Or.inr ?_))
          exact List.mem_map.2 ⟨_, List.mem_filterMap.2 ⟨inbound, hinbound, hselector⟩, rfl⟩

/-- The traffic of a backend inbound goes to what a member of the pool is dialled by. -/
theorem backend_target_mem_outboundTags {group : Group} (hgroup : group ∈ plan.groups)
    {backend : String × UInt16 × String} (hbackend : backend ∈ backends plan group) :
    backend.2.2 ∈ (assembled settings t plan).outboundTags := by
  obtain ⟨source, -, hstands⟩ := h.node_of_group group hgroup
  have hmapped : backend.2.2 ∈ group.candidates.map plan.mapTag :=
    (List.of_mem_zip (List.of_mem_zip hbackend).2).2
  obtain ⟨candidate, hcandidate, htarget⟩ := List.mem_map.1 hmapped
  rw [← htarget]
  have hpool := (hstands.mem_candidates_iff h.toNodesSound).1 hcandidate
  exact h.mapTag_mem_outboundTags settings hpool.2.2.isTarget

theorem rules_closed : ∀ rule ∈ (assembled settings t plan).rules,
    rule.RefersTo (assembled settings t plan).inboundTags
      (assembled settings t plan).outboundTags := by
  have hlink : ∀ {source target : String},
      source ∈ (assembled settings t plan).inboundTags →
      target ∈ (assembled settings t plan).outboundTags →
      (RouteRule.inboundTo source target).RefersTo (assembled settings t plan).inboundTags
        (assembled settings t plan).outboundTags := by
    intro source target hsource htarget
    refine ⟨fun tag htag => ?_, fun tag htag => ?_⟩
    · rwa [List.mem_singleton.1 htag]
    · rwa [← Option.some.inj htag]
  intro rule hrule
  rcases mem_rules_assembled_iff.1 hrule with rfl | hrule | hrule
  · constructor <;> simp [RouteRule.hijackDns]
  · obtain ⟨inbound, hinbound, target, htarget, rfl⟩ := hrule
    exact hlink (inbound_tag_mem_inboundTags settings hinbound)
      (h.routeTo?_mem_outboundTags settings hinbound htarget)
  · obtain ⟨group, hgroup, backend, hbackend, rfl⟩ := hrule
    exact hlink (backend_tag_mem_inboundTags settings hgroup hbackend)
      (h.backend_target_mem_outboundTags settings hgroup hbackend)

theorem closed_assembled : (assembled settings t plan).Closed :=
  ⟨h.outbounds_closed settings, h.rules_closed settings, h.filter_internet_assembled settings⟩

end RoundRobin.NormalPlan

/-! ### All together -/

/-- A compiled config has no dangling reference and one Internet exit. -/
theorem compile_closed {settings : CompilerSettings} {t : Topology} {config : RuntimeConfig}
    (h : compile settings t = .ok config) : config.Closed := by
  obtain ⟨plan, hplan, rfl⟩ := compile_eq_ok_iff.1 h
  exact (normalPlan_of_planOf hplan).closed_assembled settings

theorem closed_crossroads :
    compile {} crossroads = .ok crossroadsConfig ∧ crossroadsConfig.Closed :=
  ⟨compile_crossroads, compile_closed compile_crossroads⟩

end ProxyChain
