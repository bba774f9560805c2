import ProxyChain.Proofs.Config.Order
import ProxyChain.Proofs.Config.SyntheticTags
import ProxyChain.Proofs.Topology.Session

/-!
# ProxyChain.Proofs.Config.Tags

**Which tags of a compiled config come twice.** The tags of nodes, of groups and of selectors are
each all different, and so are those of the user's inbounds and of backends. A group never has the
tag of something else, as no edit gives a made-up tag to a node and tags of groups and of selectors
end differently. What is left are the tags that a user chooses in two places: a node with the tag of
a selector (`PlainPlan.two_le_count_outboundTags_iff`), and an inbound with the tag of a backend
(`NormalPlan.mixed_and_socks_of_two_le_count`).
-/

namespace ProxyChain

open RoundRobin ProxyChain.Topology

/-! ### Tags of selectors -/

theorem selectorTag_inj {a b : Inbound} (h : a.selectorTag = b.selectorTag) : a.tag = b.tag := by
  rwa [Inbound.selectorTag, Inbound.selectorTag, String.append_left_inj] at h

/-- A node and the selector of an inbound are outbounds with that tag. -/
def Topology.SharesTag (t : Topology) (tag : String) : Prop :=
  (∃ node ∈ t.ownNodes, node.tag = tag) ∧
    ∃ inbound ∈ t.inbounds, 2 ≤ inbound.detours.length ∧ inbound.selectorTag = tag

namespace Topology.IsNormal

variable {t : Topology} (h : t.IsNormal) (plan : Plan)

include h

theorem mem_selectorTags_iff {tag : String} :
    tag ∈ (t.inbounds.filterMap (Inbound.selector? plan)).map Outbound.tag ↔
      ∃ inbound ∈ t.inbounds, 2 ≤ inbound.detours.length ∧ inbound.selectorTag = tag := by
  constructor
  · intro htag
    obtain ⟨out, hout, rfl⟩ := List.mem_map.1 htag
    obtain ⟨inbound, hinbound, hselector⟩ := List.mem_filterMap.1 hout
    obtain ⟨first, second, rest, hdetours, rfl⟩ := (h.selector?_eq_some_iff plan hinbound).1 hselector
    exact ⟨inbound, hinbound, by simp [hdetours], rfl⟩
  · rintro ⟨inbound, hinbound, hseveral, rfl⟩
    match hdetours : inbound.detours with
    | [] | [_] => simp [hdetours] at hseveral
    | first :: second :: rest =>
        have hselector := (h.selector?_eq_some_iff plan hinbound).2
          ⟨first, second, rest, hdetours, rfl⟩
        exact List.mem_map.2 ⟨_, List.mem_filterMap.2 ⟨inbound, hinbound, hselector⟩, rfl⟩

theorem selectorTags_nodup (htags : (t.inbounds.map Inbound.tag).Nodup) :
    ((t.inbounds.filterMap (Inbound.selector? plan)).map Outbound.tag).Nodup := by
  rw [List.Nodup, List.pairwise_map] at htags
  rw [List.Nodup, List.pairwise_map, List.pairwise_filterMap]
  refine htags.imp_of_mem fun ha hb hne out hout out' hout' heq => hne ?_
  obtain ⟨_, _, _, -, rfl⟩ := (h.selector?_eq_some_iff plan ha).1 hout
  obtain ⟨_, _, _, -, rfl⟩ := (h.selector?_eq_some_iff plan hb).1 hout'
  exact selectorTag_inj heq

end Topology.IsNormal

namespace RoundRobin.PlainPlan

variable {t : Topology} {plan : Plan} (h : PlainPlan t plan) (settings : CompilerSettings)

include h

/-! ### Tags of outbounds -/

/-- Without the selectors of inbounds, all outbounds have different tags. -/
theorem ownTags_nodup : (t.ownNodes.map PlacedNode.tag ++ plan.groups.map Group.outboundTag ++
    [Tag.internet]).Nodup := by
  have hnodes : (t.ownNodes.map PlacedNode.tag).Nodup :=
    ownNodes_tags_sublist.nodup h.placed_nodup
  refine (hnodes.append h.outboundTags_nodup ?_).append (List.nodup_singleton _) ?_
  · intro tag hnode hgroup
    obtain ⟨group, -, rfl⟩ := List.mem_map.1 hgroup
    exact h.outboundTag_not_placed group (ownNodes_tags_sublist.subset hnode)
  · intro tag htag hexit
    obtain rfl := List.mem_singleton.1 hexit
    rcases List.mem_append.1 htag with hnode | hgroup
    · exact (h.placed_allowed _ (ownNodes_tags_sublist.subset hnode)).2.1 rfl
    · obtain ⟨group, -, hgroup⟩ := List.mem_map.1 hgroup
      exact outboundTag_ne_internet group hgroup

theorem two_le_count_outboundTags_iff (htags : (t.inbounds.map Inbound.tag).Nodup) {tag : String} :
    2 ≤ (assembled settings t plan).outboundTags.count tag ↔ t.SharesTag tag := by
  rw [h.outboundTags_assembled,
    two_le_count_append_iff h.ownTags_nodup (h.selectorTags_nodup plan htags),
    h.mem_selectorTags_iff plan, Topology.SharesTag, List.mem_append, List.mem_append, List.mem_map,
    List.mem_map, List.mem_singleton]
  -- Neither a group nor the exit has the tag of a selector, so it is a node that has it.
  constructor
  · rintro ⟨(hnode | ⟨group, -, rfl⟩) | rfl, inbound, hinbound, hseveral, htag⟩
    · exact ⟨hnode, inbound, hinbound, hseveral, htag⟩
    · exact absurd htag.symm (outboundTag_ne_selectorTag group inbound)
    · exact absurd htag (selectorTag_ne_internet inbound)
  · rintro ⟨hnode, hselector⟩
    exact ⟨Or.inl (Or.inl hnode), hselector⟩

end RoundRobin.PlainPlan

/-! ### Tags of inbounds -/

namespace RoundRobin.NormalPlan

variable {t : Topology} {plan : Plan} (h : NormalPlan t plan) (settings : CompilerSettings)

include h

theorem inboundTags_eq_append : (assembled settings t plan).inboundTags =
    t.inbounds.map Inbound.tag ++ plan.groups.flatMap Group.inboundTags := by
  rw [inboundTags_assembled]
  congr 1
  exact List.flatMap_congr fun group hgroup =>
    map_tag_backends plan (h.length_backendPorts group hgroup)

theorem exists_socks_of_mem_inboundTags {group : Group} (hgroup : group ∈ plan.groups)
    {tag : String} (htag : tag ∈ group.inboundTags) :
    ∃ inbound ∈ (assembled settings t plan).inbounds,
      inbound.kind = "socks" ∧ inbound.tag = tag := by
  rw [← map_tag_backends plan (h.length_backendPorts group hgroup)] at htag
  obtain ⟨backend, hbackend, rfl⟩ := List.mem_map.1 htag
  exact ⟨_, socks_mem_inbounds_assembled settings hgroup hbackend, rfl, rfl⟩

variable (hbound : ∀ group ∈ plan.groups, group.candidates.length ≤ positionBound)

include hbound

/-- Ids tell backends of different groups apart, and positions those of one group. -/
theorem backendTags_nodup : (plan.groups.flatMap Group.inboundTags).Nodup := by
  refine List.nodup_flatMap.2 ⟨fun group hgroup => inboundTags_nodup (hbound group hgroup), ?_⟩
  have hids := h.ids_nodup
  rw [List.Nodup, List.pairwise_map] at hids
  exact hids.imp_of_mem fun {a b} ha hb hne tag htag htag' =>
    hne (id_eq_of_mem_inboundTags (hbound a ha) (hbound b hb) htag htag')

/-- An inbound that shares its tag is one of the user's that has the tag of a backend. -/
theorem mixed_and_socks_of_two_le_count (htags : (t.inbounds.map Inbound.tag).Nodup) {tag : String}
    (hshared : 2 ≤ (assembled settings t plan).inboundTags.count tag) :
    (∃ inbound ∈ (assembled settings t plan).inbounds,
      inbound.kind = "mixed" ∧ inbound.tag = tag) ∧
    ∃ inbound ∈ (assembled settings t plan).inbounds,
      inbound.kind = "socks" ∧ inbound.tag = tag := by
  rw [h.inboundTags_eq_append, two_le_count_append_iff htags (h.backendTags_nodup hbound)] at hshared
  obtain ⟨huser, hbackend⟩ := hshared
  obtain ⟨inbound, hinbound, rfl⟩ := List.mem_map.1 huser
  obtain ⟨group, hgroup, htag⟩ := List.mem_flatMap.1 hbackend
  exact ⟨⟨_, mixed_mem_inbounds_assembled settings hinbound, rfl, rfl⟩,
    h.exists_socks_of_mem_inboundTags settings hgroup htag⟩

end RoundRobin.NormalPlan

/-! ### Sessions -/

/-- After any session, a tag stands for one outbound unless a node was given the tag of a selector,
and for one inbound unless the user gave the tag of a backend to another one. -/
theorem compile_tags_shared {settings : CompilerSettings} {operations : List Operation}
    {config : RuntimeConfig}
    (h : compile settings (defaultProfile.performAll operations) = .ok config) :
    (∀ tag, 2 ≤ config.outboundTags.count tag ↔
      (defaultProfile.performAll operations).normalize.SharesTag tag) ∧
    ∀ tag, 2 ≤ config.inboundTags.count tag →
      (∃ inbound ∈ config.inbounds, inbound.kind = "mixed" ∧ inbound.tag = tag) ∧
      ∃ inbound ∈ config.inbounds, inbound.kind = "socks" ∧ inbound.tag = tag := by
  obtain ⟨plan, hplan, rfl⟩ := compile_eq_ok_iff.1 h
  have hconsistent := consistent_defaultProfile.performAll operations
  have hplain := plainPlan_of_planOf (fun _ hd => hconsistent.library.tag_plain hd) hplan
  have htags := hconsistent.normalize.inbounds.tags_nodup
  have hbound : ∀ group ∈ plan.groups, group.candidates.length ≤ positionBound :=
    fun group hgroup => (Plan.allotted_of_build hplan group hgroup).size_bounds.2.trans (by decide)
  exact ⟨fun tag => hplain.two_le_count_outboundTags_iff settings htags,
    fun tag hshared => hplain.mixed_and_socks_of_two_le_count settings hbound htags hshared⟩

/-- A session that gives a node the tag of the selector of an inbound. -/
def ambiguous : List Operation := [
  .upsertDefinition (.named "a" .vmess) none,
  .upsertDefinition (.named "b" .trojan) none,
  .upsertDefinition (.named "in-selector" .socks) none,
  .placeNode "layer-1" "a",
  .placeNode "layer-1" "b",
  .placeNode "layer-1" "in-selector",
  .addInbound (some "in") 1080,
  .link ⟨"in", true⟩ "a",
  .link ⟨"in", true⟩ "b"]

/-- What its topology is compiled into. -/
def ambiguousConfig : RuntimeConfig where
  inbounds := [.mixed "mixed-10808" "127.0.0.1" 10808 true, .mixed "in" "127.0.0.1" 1080 true]
  outbounds := [
    { kind := "vmess", tag := "a" },
    { kind := "trojan", tag := "b" },
    { kind := "socks", tag := "in-selector" },
    .direct,
    .selector "in-selector" ["a", "b"] "a"]
  rules := [.hijackDns, .inboundTo "in" "in-selector"]

theorem compile_ambiguous :
    compile {} (defaultProfile.performAll ambiguous) = .ok ambiguousConfig := by
  decide +kernel

/-- A session that gives an inbound the tag of the second backend of a group. -/
def impersonating : List Operation := [
  .upsertDefinition (.named "rr" .roundRobin) none,
  .upsertDefinition (.named "a" .vmess) none,
  .upsertDefinition (.named "b" .trojan) none,
  .addLayer "HOP 2",
  .placeNode "layer-1" "rr",
  .placeNode "layer-2" "a",
  .placeNode "layer-2" "b",
  .link ⟨"rr", false⟩ "a",
  .link ⟨"rr", false⟩ "b",
  .addInbound (some "sys-rr-4f546725-in-1") 1080,
  .link ⟨"sys-rr-4f546725-in-1", true⟩ "rr"]

/-- What its topology is compiled into. -/
def impersonatingConfig : RuntimeConfig where
  inbounds := [
    .mixed "mixed-10808" "127.0.0.1" 10808 true,
    .mixed "sys-rr-4f546725-in-1" "127.0.0.1" 1080 true,
    .socks "sys-rr-4f546725-in-0" "127.0.0.1" 25100,
    .socks "sys-rr-4f546725-in-1" "127.0.0.1" 25101]
  outbounds := [
    { kind := "vmess", tag := "a" },
    { kind := "trojan", tag := "b" },
    .socksClient "sys-rr-4f546725-lb" "127.0.0.1" 25080,
    .direct]
  rules := [.hijackDns, .inboundTo "sys-rr-4f546725-in-1" "sys-rr-4f546725-lb",
    .inboundTo "sys-rr-4f546725-in-0" "a", .inboundTo "sys-rr-4f546725-in-1" "b"]

theorem compile_impersonating :
    compile {} (defaultProfile.performAll impersonating) = .ok impersonatingConfig := by
  decide +kernel

/-- In one session two outbounds share a tag, in the other one two inbounds. -/
theorem tags_shared_ambiguous :
    (compile {} (defaultProfile.performAll ambiguous) = .ok ambiguousConfig ∧
      (∀ tag, 2 ≤ ambiguousConfig.outboundTags.count tag ↔
        (defaultProfile.performAll ambiguous).normalize.SharesTag tag) ∧
      ∀ tag, 2 ≤ ambiguousConfig.inboundTags.count tag →
        (∃ inbound ∈ ambiguousConfig.inbounds, inbound.kind = "mixed" ∧ inbound.tag = tag) ∧
        ∃ inbound ∈ ambiguousConfig.inbounds, inbound.kind = "socks" ∧ inbound.tag = tag) ∧
    compile {} (defaultProfile.performAll impersonating) = .ok impersonatingConfig ∧
      2 ≤ impersonatingConfig.inboundTags.count "sys-rr-4f546725-in-1" ∧
      (∃ inbound ∈ impersonatingConfig.inbounds,
        inbound.kind = "mixed" ∧ inbound.tag = "sys-rr-4f546725-in-1") ∧
      ∃ inbound ∈ impersonatingConfig.inbounds,
        inbound.kind = "socks" ∧ inbound.tag = "sys-rr-4f546725-in-1" := by
  have hshared : 2 ≤ impersonatingConfig.inboundTags.count "sys-rr-4f546725-in-1" := by decide
  obtain ⟨-, hinbounds⟩ := compile_tags_shared compile_impersonating
  exact ⟨⟨compile_ambiguous, compile_tags_shared compile_ambiguous⟩, compile_impersonating, hshared,
    hinbounds _ hshared⟩

/-- So the outbounds of a session may share a tag. -/
theorem not_forall_tags_nodup : ¬ ∀ (settings : CompilerSettings) (operations : List Operation)
    (config : RuntimeConfig), .normalize ∉ operations →
      compile settings (defaultProfile.performAll operations) = .ok config →
        config.outboundTags.Nodup ∧ config.inboundTags.Nodup := by
  intro hnodup
  have hedits : Operation.normalize ∉ ambiguous := by decide
  have hshared : ¬ ambiguousConfig.outboundTags.Nodup := by decide
  exact hshared (hnodup {} ambiguous ambiguousConfig hedits compile_ambiguous).1

/-- And so may the inbounds: no edit keeps the tags of backends from the user. -/
theorem not_forall_inboundTags_nodup : ¬ ∀ (settings : CompilerSettings)
    (operations : List Operation) (config : RuntimeConfig), .normalize ∉ operations →
      compile settings (defaultProfile.performAll operations) = .ok config →
        config.inboundTags.Nodup := by
  intro hnodup
  have hedits : Operation.normalize ∉ impersonating := by decide
  have hshared : ¬ impersonatingConfig.inboundTags.Nodup := by decide
  exact hshared (hnodup {} impersonating impersonatingConfig hedits compile_impersonating)

/-- Where an inbound has the tag of a backend, the rule of the backend is not the first one that names
it, so different tags are needed for each rule to count. -/
theorem not_forall_rules_first : ¬ ∀ (settings : CompilerSettings) (operations : List Operation)
    (config : RuntimeConfig), .normalize ∉ operations →
      compile settings (defaultProfile.performAll operations) = .ok config →
        ∀ rule ∈ config.rules, ∀ tag ∈ rule.inbounds, config.ruleFor? tag = some rule := by
  intro hfirst
  have hedits : Operation.normalize ∉ impersonating := by decide
  have hrule : .inboundTo "sys-rr-4f546725-in-1" "b" ∈ impersonatingConfig.rules := by decide
  have hfound := hfirst {} impersonating impersonatingConfig hedits compile_impersonating _ hrule
    "sys-rr-4f546725-in-1" List.mem_cons_self
  exact absurd hfound (by decide)

end ProxyChain
