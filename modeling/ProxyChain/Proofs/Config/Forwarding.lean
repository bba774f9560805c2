import ProxyChain.Proofs.Config.References

/-!
# ProxyChain.Proofs.Config.Forwarding

**A compiled config forwards traffic as its topology does**, edge for edge (`Forwards`). Links of
the topology are between nodes, those of the config between outbounds and inbounds; `Plan.mapTag`
takes the one to the other. The proof looks up what the config has under each tag, which is what was
written down for the node, since no two of the entries that matter share a tag: this is where
library tags must not look like made-up ones.

Of several rules that name an inbound the first one counts. Where the inbounds of a config have
different tags there are no such rules, so each rule is the one that counts for what it names
(`ruleFor?_assembled`).
-/

namespace ProxyChain

open RoundRobin ProxyChain.Topology

/-! ### Edges of a topology -/

namespace Topology

/-- A target that is a direct or a block outbound, through which nothing is dialled. -/
def EndsAt (t : Topology) (tag : String) : Prop :=
  ∃ d ∈ t.library, d.tag = tag ∧ d.kind.isTerminal = true

end Topology

/-! ### Edges of a config -/

/-- The first rule that names an inbound. A rule about the traffic of all inbounds names none. -/
def RuntimeConfig.ruleFor? (config : RuntimeConfig) (tag : String) : Option RouteRule :=
  config.rules.find? fun rule => tag ∈ rule.inbounds

/-- What a config has for a round-robin node, which is given with its hop: one client, and one
backend for each member of its pool, in order. -/
structure RoundRobin.Group.Serves (settings : CompilerSettings) (t : Topology) (plan : Plan)
    (config : RuntimeConfig) (entry : Nat × PlacedNode) (group : Group) : Prop where
  mapTag_eq : plan.mapTag entry.2.tag = group.outboundTag
  detours_eq : entry.2.detours = group.candidates ++ group.output.toList
  candidates_inPool : ∀ tag ∈ group.candidates, t.InPool entry tag
  output_isOutput : ∀ tag ∈ group.output, t.IsOutput entry tag
  one_client : (config.outbounds.filter fun out => out.tag = plan.mapTag entry.2.tag) =
    [.socksClient (plan.mapTag entry.2.tag) settings.loopback group.listenPort]
  backend_routed : ∀ position candidate, group.candidates[position]? = some candidate →
    ∃ port, group.backendPorts[position]? = some port ∧
      .socks (group.inboundTag position) settings.loopback port ∈ config.inbounds ∧
      .inboundTo (group.inboundTag position) (plan.mapTag candidate) ∈ config.rules

/--
A config has the edges of a topology in normal form: what each leaf, each selector, each round-robin
node and each inbound sends traffic to, by the tag that is dialled; and it has no other outbounds
and rules.
-/
structure Forwards (settings : CompilerSettings) (t : Topology) (plan : Plan)
    (config : RuntimeConfig) : Prop where
  /-- Only round-robin nodes are dialled by another tag than their own. -/
  own_tag : ∀ tag, (∀ entry ∈ t.placed, t.kindOf entry.2 = .roundRobin → entry.2.tag ≠ tag) →
    plan.mapTag tag = tag
  /-- A leaf in the pool of a round-robin node dials the output of each such node. -/
  leaf_managed : ∀ entry ∈ t.placed, (t.kindOf entry.2).role = .leaf →
    ∀ source ∈ t.placed, t.InPool source entry.2.tag → ∀ output, t.IsOutput source output →
      config.outbound? entry.2.tag =
        some { t.bareOutbound entry.2 with detour := some (plan.mapTag output) }
  /-- Any other leaf has at most one link, and dials it unless it is a terminal. -/
  leaf_free : ∀ entry ∈ t.placed, (t.kindOf entry.2).role = .leaf → ¬ t.Managed entry.2.tag →
    ∃ detour, config.outbound? entry.2.tag =
        some { t.bareOutbound entry.2 with detour := detour } ∧
      (entry.2.detours = [] ∧ detour = none ∨
        ∃ only, entry.2.detours = [only] ∧ (t.EndsAt only → detour = none) ∧
          (¬ t.EndsAt only → detour = some (plan.mapTag only)))
  /-- A selector chooses among its links, the first at first. -/
  selector : ∀ entry ∈ t.placed, (t.kindOf entry.2).role = .selector →
    config.outbound? entry.2.tag = some { t.bareOutbound entry.2 with
      outbounds := entry.2.detours.map plan.mapTag
      defaultOutbound := (entry.2.detours.map plan.mapTag).head? }
  round_robin : ∀ entry ∈ t.placed, t.kindOf entry.2 = .roundRobin →
    ∃ group ∈ plan.groups, group.Serves settings t plan config entry
  /-- A round-robin node has no outbound of its own tag; only the selector of an inbound may have
  that tag. -/
  round_robin_tag : ∀ entry ∈ t.placed, t.kindOf entry.2 = .roundRobin →
    ∀ out ∈ config.outbounds, out.tag = entry.2.tag →
      ∃ inbound ∈ t.inbounds, inbound.selectorTag = entry.2.tag ∧ inbound.HasSelector plan out
  /-- An inbound is routed to its only link. -/
  inbound_single : ∀ inbound ∈ t.inbounds, ∀ only, inbound.detours = [only] →
    .inboundTo inbound.tag (plan.mapTag only) ∈ config.rules
  /-- An inbound with several links is routed to a selector of its own among them. -/
  inbound_several : ∀ inbound ∈ t.inbounds, 2 ≤ inbound.detours.length →
    .inboundTo inbound.tag inbound.selectorTag ∈ config.rules ∧
      ∃ out ∈ config.outbounds, inbound.HasSelector plan out
  outbounds_only : ∀ out ∈ config.outbounds,
    (∃ entry ∈ t.placed, t.kindOf entry.2 ≠ .roundRobin ∧
      config.outbound? entry.2.tag = some out) ∨
    (∃ group ∈ plan.groups, out = group.client settings) ∨ out = .direct ∨
    ∃ inbound ∈ t.inbounds, inbound.HasSelector plan out
  rules_only : ∀ rule ∈ config.rules, rule = .hijackDns ∨
    (∃ inbound ∈ t.inbounds, ∃ only, inbound.detours = [only] ∧
      rule = .inboundTo inbound.tag (plan.mapTag only)) ∨
    (∃ inbound ∈ t.inbounds, 2 ≤ inbound.detours.length ∧
      rule = .inboundTo inbound.tag inbound.selectorTag) ∨
    ∃ group ∈ plan.groups, ∃ position candidate, group.candidates[position]? = some candidate ∧
      rule = .inboundTo (group.inboundTag position) (plan.mapTag candidate)

/-! ### Terminals -/

namespace Topology.NodesSound

variable {t : Topology} (h : t.NodesSound)

include h

theorem targetKind?_eq (tag : String) : t.index.targetKind? tag =
    (t.library.find? fun d => d.tag = tag).map NodeDefinition.kind := by
  rw [Index.targetKind?, lookup_libraryKinds]
  cases hkind : t.index.placedKind? tag with
  | none => exact Option.none_or
  | some kind =>
      obtain ⟨entry, hentry, rfl, rfl⟩ := h.placedKind?_eq_some_iff.1 hkind
      have hdefined := (h.placed_allowed _ (List.mem_map_of_mem hentry)).2.2
      obtain ⟨d, hd, hdtag⟩ := List.mem_map.1 hdefined
      rw [h.find?_library_eq_some_iff.2 ⟨hd, hdtag⟩, h.kindOf_eq hd hdtag]
      rfl

theorem isTerminal_iff (tag : String) :
    (t.index.targetKind? tag).any NodeKind.isTerminal = true ↔ t.EndsAt tag := by
  rw [h.targetKind?_eq]
  constructor
  · intro hany
    cases hfind : t.library.find? fun d => d.tag = tag with
    | none => rw [hfind] at hany; cases hany
    | some d =>
        rw [hfind] at hany
        obtain ⟨hd, htag⟩ := h.find?_library_eq_some_iff.1 hfind
        exact ⟨d, hd, htag, hany⟩
  · rintro ⟨d, hd, htag, hterminal⟩
    rw [h.find?_library_eq_some_iff.2 ⟨hd, htag⟩]
    exact hterminal

end Topology.NodesSound

namespace RoundRobin.PlainPlan

variable {t : Topology} {plan : Plan} (h : PlainPlan t plan)

include h

/-- Whether a target is a terminal shows at the tag by which it is dialled. -/
theorem endsAt_mapTag_iff {tag : String} (htarget : t.IsTarget tag) :
    t.EndsAt (plan.mapTag tag) ↔ t.EndsAt tag := by
  rcases h.mapTag_cases htarget with ⟨group, hgroup, rfl, hmap⟩ | ⟨hmap, -⟩
  -- Neither is one: the made-up tag is not in the library, the other is of a round-robin node.
  · rw [hmap]
    constructor
    · rintro ⟨d, hd, htag, -⟩
      exact absurd htag.symm (outboundTag_ne (h.library_plain d hd))
    · rintro ⟨d, hd, htag, hterminal⟩
      obtain ⟨entry, hentry, hstands⟩ := h.node_of_group group hgroup
      have hkind := h.kindOf_eq hd (htag.trans hstands.tag_eq)
      rw [← hkind, hstands.kind_eq] at hterminal
      cases hterminal
  · rw [hmap]

/-! ### Looking up outbounds -/

theorem withClients_eq_append (settings : CompilerSettings) :
    withClients settings plan (t.ownOutbounds plan) =
      t.ownOutbounds plan ++ plan.groups.map fun group => group.client settings := by
  -- Made-up tags are new, so no client takes the place of a node.
  refine foldl_setBy_eq_append h.outboundTags_nodup fun group _ hmem => ?_
  rw [map_tag_ownOutbounds] at hmem
  exact h.outboundTag_not_placed group (ownNodes_tags_sublist.subset hmem)

theorem outbounds_eq_append (settings : CompilerSettings) :
    (assembled settings t plan).outbounds = t.ownOutbounds plan
      ++ plan.groups.map (fun group => group.client settings) ++ [.direct]
      ++ t.inbounds.filterMap (Inbound.selector? plan) := by
  rw [outbounds_assembled h.toNodesSound, h.withClients_eq_append]

/-- What reads the clients only, and no outbound with a plain tag and no selector, finds the groups. -/
theorem filterMap_outbounds_assembled (settings : CompilerSettings) {read : Outbound → Option α}
    {value : Group → α} (hplain : ∀ {out : Outbound}, Tag.isSystem out.tag = false → read out = none)
    (hselector : ∀ tag members default, read (.selector tag members default) = none)
    (hclient : ∀ group, read (group.client settings) = some (value group)) :
    (assembled settings t plan).outbounds.filterMap read = plan.groups.map value := by
  have hnodes : (t.ownOutbounds plan).filterMap read = [] := by
    rw [List.filterMap_eq_nil_iff]
    exact fun out hout => hplain (h.placedTags_plain (tag_mem_placedTags hout))
  have hclients : (plan.groups.map fun group => group.client settings).filterMap read =
      plan.groups.map value := by
    rw [List.filterMap_map, ← List.filterMap_eq_map]
    exact List.filterMap_congr fun group _ => hclient group
  have hexit : [Outbound.direct].filterMap read = [] := by
    rw [List.filterMap_cons_none (hplain (by decide)), List.filterMap_nil]
  have hselectors : (t.inbounds.filterMap (Inbound.selector? plan)).filterMap read = [] := by
    rw [List.filterMap_eq_nil_iff]
    intro out hout
    obtain ⟨inbound, hinbound, hselected⟩ := List.mem_filterMap.1 hout
    obtain ⟨_, _, _, -, rfl⟩ := (h.selector?_eq_some_iff plan hinbound).1 hselected
    exact hselector _ _ _
  rw [h.outbounds_eq_append, List.filterMap_append, List.filterMap_append, List.filterMap_append,
    hnodes, hclients, hexit, hselectors, List.append_nil, List.append_nil, List.nil_append]

/-- The first outbound under the tag of a node is that of the node. -/
theorem outbound?_ownNode (settings : CompilerSettings) {entry : Nat × PlacedNode}
    (hentry : entry ∈ t.placed) (hkind : t.kindOf entry.2 ≠ .roundRobin) :
    (assembled settings t plan).outbound? entry.2.tag = some (t.ownOutbound plan entry.2) := by
  have hnodup : ((t.ownOutbounds plan).map Outbound.tag).Nodup := by
    rw [map_tag_ownOutbounds]
    exact ownNodes_tags_sublist.nodup h.placed_nodup
  have hmem : t.ownOutbound plan entry.2 ∈ t.ownOutbounds plan :=
    List.mem_map_of_mem (mem_ownNodes_iff.2 ⟨⟨entry.1, hentry⟩, hkind⟩)
  have hfind := (find?_key_eq_some_iff hnodup).2 ⟨hmem, ownOutbound_tag⟩
  rw [RuntimeConfig.outbound?, h.outbounds_eq_append, List.append_assoc, List.append_assoc,
    List.find?_append, hfind, Option.some_or]

/-- A client is the only outbound of its tag. -/
theorem filter_outboundTag_assembled (settings : CompilerSettings) {group : Group}
    (hgroup : group ∈ plan.groups) :
    ((assembled settings t plan).outbounds.filter fun out => out.tag = group.outboundTag) =
      [group.client settings] := by
  have hnodes : (t.ownOutbounds plan).filter (fun out => out.tag = group.outboundTag) = [] := by
    refine List.filter_eq_nil_iff.2 fun out hout htag => ?_
    have hplaced := tag_mem_placedTags hout
    rw [of_decide_eq_true htag] at hplaced
    exact h.outboundTag_not_placed group hplaced
  have hclients : (plan.groups.map fun group => group.client settings).filter
      (fun out => out.tag = group.outboundTag) = [group.client settings] := by
    have hnodup : ((plan.groups.map fun group => group.client settings).map
        Outbound.tag).Nodup := by
      rw [List.map_map]
      exact h.outboundTags_nodup
    exact filter_key_eq_singleton hnodup (List.mem_map_of_mem hgroup)
  have hselectors : (t.inbounds.filterMap (Inbound.selector? plan)).filter
      (fun out => out.tag = group.outboundTag) = [] := by
    refine List.filter_eq_nil_iff.2 fun out hout htag => ?_
    obtain ⟨inbound, hinbound, hselector⟩ := List.mem_filterMap.1 hout
    obtain ⟨_, _, _, -, rfl⟩ := (h.selector?_eq_some_iff plan hinbound).1 hselector
    exact outboundTag_ne_selectorTag group inbound (of_decide_eq_true htag).symm
  have hexit : [Outbound.direct].filter (fun out => out.tag = group.outboundTag) = [] :=
    List.filter_eq_nil_iff.2 fun out hout htag => by
      rw [List.mem_singleton.1 hout] at htag
      exact outboundTag_ne_internet group (of_decide_eq_true htag).symm
  rw [h.outbounds_eq_append, List.filter_append, List.filter_append, List.filter_append, hnodes,
    hclients, hexit, hselectors]
  rfl

/-! ### Outbounds of nodes by role -/

theorem outbound?_managed (settings : CompilerSettings) {entry source : Nat × PlacedNode}
    (hentry : entry ∈ t.placed) (hrole : (t.kindOf entry.2).role = .leaf)
    (hsource : source ∈ t.placed) (hpool : t.InPool source entry.2.tag) {output : String}
    (houtput : t.IsOutput source output) :
    (assembled settings t plan).outbound? entry.2.tag =
      some { t.bareOutbound entry.2 with detour := some (plan.mapTag output) } := by
  have hkind := NodeKind.ne_roundRobin (hrole.trans_ne (by decide))
  have htarget : plan.outputFor? entry.2.tag = some (plan.mapTag output) :=
    h.outputFor?_eq_some_iff.2 ⟨source, hsource, output, hpool, houtput, rfl⟩
  rw [h.outbound?_ownNode settings hentry hkind, ownOutbound, htarget]

/-- What a selector dials is all different, as its targets are. -/
theorem unique_dialled {entry : Nat × PlacedNode} (hentry : entry ∈ t.placed)
    (hrole : (t.kindOf entry.2).role = .selector) :
    Tag.unique (entry.2.detours.map plan.mapTag) = entry.2.detours.map plan.mapTag := by
  have hlinks := h.node_links entry hentry
  rw [hrole] at hlinks
  have htargets : ∀ tag ∈ entry.2.detours, t.IsTarget tag := fun _ htag => hlinks.isTarget htag
  refine Tag.unique_eq_self ?_ fun tag htag => ?_
  · exact hlinks.1.map_on fun a ha b hb heq => h.mapTag_inj (htargets a ha) (htargets b hb) heq
  · obtain ⟨target, htarget, rfl⟩ := List.mem_map.1 htag
    exact h.mapTag_ne_empty (htargets target htarget)

theorem outbound?_selector (settings : CompilerSettings) {entry : Nat × PlacedNode}
    (hentry : entry ∈ t.placed) (hrole : (t.kindOf entry.2).role = .selector) :
    (assembled settings t plan).outbound? entry.2.tag = some { t.bareOutbound entry.2 with
      outbounds := entry.2.detours.map plan.mapTag
      defaultOutbound := (entry.2.detours.map plan.mapTag).head? } := by
  have hkind := NodeKind.ne_roundRobin (hrole.trans_ne (by decide))
  have hselector : (t.kindOf entry.2).isSelectorLike = true := decide_eq_true hrole
  have houtput : plan.outputFor? entry.2.tag = none := by
    cases houtput : plan.outputFor? entry.2.tag with
    | none => rfl
    | some target =>
        have hleaf := h.role_of_outputFor? hentry houtput
        rw [hrole] at hleaf
        cases hleaf
  rw [h.outbound?_ownNode settings hentry hkind, ownOutbound, houtput, hselector]
  dsimp only
  rw [h.unique_dialled hentry hrole]

theorem outbound?_free (settings : CompilerSettings) {entry : Nat × PlacedNode}
    (hentry : entry ∈ t.placed) (hrole : (t.kindOf entry.2).role = .leaf)
    (hfree : ¬ t.Managed entry.2.tag) :
    (assembled settings t plan).outbound? entry.2.tag = some { t.bareOutbound entry.2 with
      detour := nextHop? t.index (entry.2.detours.map plan.mapTag) } := by
  have hkind := NodeKind.ne_roundRobin (hrole.trans_ne (by decide))
  have hleaf := NodeKind.isSelectorLike_of_leaf hrole
  have houtput : plan.outputFor? entry.2.tag = none := by
    cases houtput : plan.outputFor? entry.2.tag with
    | none => rfl
    | some target =>
        obtain ⟨source, hsource, output, hpool, hout, -⟩ := h.outputFor?_eq_some_iff.1 houtput
        exact absurd ⟨source, hsource, hpool, output, hout⟩ hfree
  rw [h.outbound?_ownNode settings hentry hkind, ownOutbound, houtput, hleaf]

/-- A leaf that is not managed dials its only link, unless that is a terminal. -/
theorem nextHop?_eq {only : String} (htarget : t.IsTarget only) :
    (t.EndsAt only → nextHop? t.index [plan.mapTag only] = none) ∧
      (¬ t.EndsAt only → nextHop? t.index [plan.mapTag only] = some (plan.mapTag only)) := by
  rw [← h.endsAt_mapTag_iff htarget, ← h.isTerminal_iff]
  constructor
  · intro hends
    rw [nextHop?, List.head?_cons, Option.filter_some, hends]
    rfl
  · intro hends
    rw [nextHop?, List.head?_cons, Option.filter_some, Bool.eq_false_iff.2 hends]
    rfl

theorem leaf_free_assembled (settings : CompilerSettings) {entry : Nat × PlacedNode}
    (hentry : entry ∈ t.placed) (hrole : (t.kindOf entry.2).role = .leaf)
    (hfree : ¬ t.Managed entry.2.tag) :
    ∃ detour, (assembled settings t plan).outbound? entry.2.tag =
        some { t.bareOutbound entry.2 with detour := detour } ∧
      (entry.2.detours = [] ∧ detour = none ∨
        ∃ only, entry.2.detours = [only] ∧ (t.EndsAt only → detour = none) ∧
          (¬ t.EndsAt only → detour = some (plan.mapTag only))) := by
  refine ⟨_, h.outbound?_free settings hentry hrole hfree, ?_⟩
  have hlinks := h.node_links entry hentry
  rw [hrole] at hlinks
  match hdetours : entry.2.detours with
  | [] => exact Or.inl ⟨rfl, rfl⟩
  | [only] =>
      rw [hdetours] at hlinks
      have hnext := h.nextHop?_eq (hlinks.isTarget (List.mem_singleton_self only))
      exact Or.inr ⟨only, rfl, hnext⟩
  | first :: second :: rest =>
      rw [hdetours] at hlinks
      exact absurd hlinks.1 (by simp)

/-! ### Round-robin nodes -/

theorem round_robin_assembled (settings : CompilerSettings) {entry : Nat × PlacedNode}
    (hentry : entry ∈ t.placed) (hkind : t.kindOf entry.2 = .roundRobin) :
    ∃ group ∈ plan.groups, group.Serves settings t plan (assembled settings t plan) entry := by
  obtain ⟨group, hgroup, hstands⟩ := h.group_of_node entry hentry hkind
  have hmap : plan.mapTag entry.2.tag = group.outboundTag := by
    rw [← hstands.tag_eq, h.mapTag_group hgroup]
  refine ⟨group, hgroup, hmap, hstands.detours_eq h.toIsNormal hentry, ?_, ?_, ?_, ?_⟩
  · exact fun tag htag => (hstands.mem_candidates_iff h.toNodesSound).1 htag
  · exact fun tag htag => (hstands.mem_output_iff h.toIsNormal hentry).1 htag
  · rw [hmap]
    exact h.filter_outboundTag_assembled settings hgroup
  · intro position candidate hcandidate
    obtain ⟨hposition, -⟩ := List.getElem?_eq_some_iff.1 hcandidate
    rw [← h.length_backendPorts group hgroup] at hposition
    have hport := List.getElem?_eq_getElem hposition
    have hbackend : (group.inboundTag position, group.backendPorts[position],
        plan.mapTag candidate) ∈ backends plan group :=
      mem_backends_iff.2 ⟨position, _, candidate, hport, hcandidate, rfl⟩
    refine ⟨_, hport, socks_mem_inbounds_assembled settings hgroup hbackend, ?_⟩
    exact mem_rules_assembled_iff.2 (Or.inr (Or.inr ⟨group, hgroup, _, hbackend, rfl⟩))

theorem round_robin_tag_assembled (settings : CompilerSettings) {entry : Nat × PlacedNode}
    (hentry : entry ∈ t.placed) (hkind : t.kindOf entry.2 = .roundRobin) {out : Outbound}
    (hout : out ∈ (assembled settings t plan).outbounds) (htag : out.tag = entry.2.tag) :
    ∃ inbound ∈ t.inbounds, inbound.selectorTag = entry.2.tag ∧ inbound.HasSelector plan out := by
  rcases h.outbound_cases hout with
    ⟨other, hother, hown, -, rfl⟩ | ⟨group, -, rfl⟩ | rfl | ⟨inbound, hinbound, hselector⟩
  · obtain rfl : other = entry :=
      eq_of_tag_eq h.placed_nodup hother hentry (ownOutbound_tag.symm.trans htag)
    exact absurd hkind hown
  · have hplaced : group.outboundTag ∈ t.placedTags := by
      rw [show group.outboundTag = entry.2.tag from htag]
      exact List.mem_map_of_mem hentry
    exact absurd hplaced (h.outboundTag_not_placed group)
  · exact absurd htag.symm (h.placed_mem_allowed hentry).2
  · refine ⟨inbound, hinbound, ?_, hselector⟩
    obtain ⟨_, _, _, -, rfl⟩ := hselector
    exact htag

/-! ### Inbounds -/

theorem inbound_single_assembled (settings : CompilerSettings) {inbound : Inbound}
    (hinbound : inbound ∈ t.inbounds) {only : String} (hdetours : inbound.detours = [only]) :
    .inboundTo inbound.tag (plan.mapTag only) ∈ (assembled settings t plan).rules := by
  have hroute := h.routeTo?_eq plan hinbound
  rw [hdetours] at hroute
  exact mem_rules_assembled_iff.2 (Or.inr (Or.inl ⟨inbound, hinbound, _, hroute, rfl⟩))

theorem inbound_several_assembled (settings : CompilerSettings) {inbound : Inbound}
    (hinbound : inbound ∈ t.inbounds) (hseveral : 2 ≤ inbound.detours.length) :
    .inboundTo inbound.tag inbound.selectorTag ∈ (assembled settings t plan).rules ∧
      ∃ out ∈ (assembled settings t plan).outbounds, inbound.HasSelector plan out := by
  match hdetours : inbound.detours with
  | [] => rw [hdetours] at hseveral; exact absurd hseveral (by decide)
  | [_] => rw [hdetours] at hseveral; exact absurd hseveral (by simp)
  | first :: second :: rest =>
      have hroute := h.routeTo?_eq plan hinbound
      have hselector : inbound.HasSelector plan _ := ⟨first, second, rest, hdetours, rfl⟩
      rw [hdetours] at hroute
      have hwritten := (h.selector?_eq_some_iff plan hinbound).2 hselector
      constructor
      · exact mem_rules_assembled_iff.2 (Or.inr (Or.inl ⟨inbound, hinbound, _, hroute, rfl⟩))
      · exact ⟨_, List.mem_append_right _ (List.mem_filterMap.2 ⟨inbound, hinbound, hwritten⟩),
          hselector⟩

/-! ### Nothing else -/

theorem outbounds_only_assembled (settings : CompilerSettings) {out : Outbound}
    (hout : out ∈ (assembled settings t plan).outbounds) :
    (∃ entry ∈ t.placed, t.kindOf entry.2 ≠ .roundRobin ∧
      (assembled settings t plan).outbound? entry.2.tag = some out) ∨
    (∃ group ∈ plan.groups, out = group.client settings) ∨ out = .direct ∨
    ∃ inbound ∈ t.inbounds, inbound.HasSelector plan out := by
  rcases h.outbound_cases hout with ⟨entry, hentry, hkind, -, rfl⟩ | hother
  · exact Or.inl ⟨entry, hentry, hkind, h.outbound?_ownNode settings hentry hkind⟩
  · exact Or.inr hother

theorem rules_only_assembled (settings : CompilerSettings) {rule : RouteRule}
    (hrule : rule ∈ (assembled settings t plan).rules) : rule = .hijackDns ∨
    (∃ inbound ∈ t.inbounds, ∃ only, inbound.detours = [only] ∧
      rule = .inboundTo inbound.tag (plan.mapTag only)) ∨
    (∃ inbound ∈ t.inbounds, 2 ≤ inbound.detours.length ∧
      rule = .inboundTo inbound.tag inbound.selectorTag) ∨
    ∃ group ∈ plan.groups, ∃ position candidate, group.candidates[position]? = some candidate ∧
      rule = .inboundTo (group.inboundTag position) (plan.mapTag candidate) := by
  rcases mem_rules_assembled_iff.1 hrule with rfl | hrule | hrule
  · exact Or.inl rfl
  · obtain ⟨inbound, hinbound, target, htarget, rfl⟩ := hrule
    rw [h.routeTo?_eq plan hinbound] at htarget
    match hdetours : inbound.detours with
    | [] => rw [hdetours] at htarget; cases htarget
    | [only] =>
        rw [hdetours] at htarget
        obtain rfl := Option.some.inj htarget
        exact Or.inr (Or.inl ⟨inbound, hinbound, only, hdetours, rfl⟩)
    | first :: second :: rest =>
        rw [hdetours] at htarget
        obtain rfl := Option.some.inj htarget
        exact Or.inr (Or.inr (Or.inl ⟨inbound, hinbound, by simp [hdetours], rfl⟩))
  · obtain ⟨group, hgroup, backend, hbackend, rfl⟩ := hrule
    obtain ⟨position, port, candidate, -, hcandidate, rfl⟩ := mem_backends_iff.1 hbackend
    exact Or.inr (Or.inr (Or.inr ⟨group, hgroup, position, candidate, hcandidate, rfl⟩))

/-! ### All together -/

theorem forwards_assembled (settings : CompilerSettings) :
    Forwards settings t plan (assembled settings t plan) where
  own_tag _ hother := h.mapTag_eq_self hother
  leaf_managed _ hentry hrole _ hsource hpool _ houtput :=
    h.outbound?_managed settings hentry hrole hsource hpool houtput
  leaf_free _ hentry hrole hfree :=
    h.leaf_free_assembled settings hentry hrole hfree
  selector _ hentry hrole := h.outbound?_selector settings hentry hrole
  round_robin _ hentry hkind := h.round_robin_assembled settings hentry hkind
  round_robin_tag _ hentry hkind _ hout htag :=
    h.round_robin_tag_assembled settings hentry hkind hout htag
  inbound_single _ hinbound _ hdetours := h.inbound_single_assembled settings hinbound hdetours
  inbound_several _ hinbound hseveral := h.inbound_several_assembled settings hinbound hseveral
  outbounds_only _ hout := h.outbounds_only_assembled settings hout
  rules_only _ hrule := h.rules_only_assembled settings hrule

end RoundRobin.PlainPlan

/-! ### First rules -/

/-- An inbound of the user's without a target is named by no rule, any other by one. -/
theorem inbounds_userRules_sublist (plan : Plan) (inbounds : List Inbound) :
    ((inbounds.filterMap fun inbound =>
      (inbound.routeTo? plan).map (RouteRule.inboundTo inbound.tag)).flatMap
        RouteRule.inbounds).Sublist (inbounds.map Inbound.tag) := by
  induction inbounds with
  | nil => exact .slnil
  | cons inbound rest ih =>
      rw [List.filterMap_cons, List.map_cons]
      cases inbound.routeTo? plan with
      | none => exact ih.cons inbound.tag
      | some target => exact ih.cons_cons inbound.tag

/-- The inbounds that rules name, in the order of the rules, are among those of the config in their
order. -/
theorem inbounds_rules_sublist (settings : CompilerSettings) (t : Topology) (plan : Plan) :
    ((assembled settings t plan).rules.flatMap RouteRule.inbounds).Sublist
      (assembled settings t plan).inboundTags := by
  show ((compileRules t plan).flatMap RouteRule.inbounds).Sublist _
  rw [compileRules, inboundTags_assembled, List.flatMap_append, List.flatMap_cons,
    List.flatMap_assoc]
  -- Each backend has a rule.
  rw [List.flatMap_congr (g := fun group => (backends plan group).map Prod.fst) fun group _ => by
    rw [List.flatMap_map]
    exact (List.map_eq_flatMap ..).symm]
  exact (inbounds_userRules_sublist plan t.inbounds).append_right _

/-- Where the inbounds have different tags, a rule is the first one for each inbound that it
names. -/
theorem ruleFor?_assembled {settings : CompilerSettings} {t : Topology} {plan : Plan}
    (hdistinct : (assembled settings t plan).inboundTags.Nodup) {rule : RouteRule}
    (hrule : rule ∈ (assembled settings t plan).rules) {tag : String} (htag : tag ∈ rule.inbounds) :
    (assembled settings t plan).ruleFor? tag = some rule :=
  find?_mem_eq_some ((inbounds_rules_sublist settings t plan).nodup hdistinct) hrule htag

/-! ### Compiled configs -/

/-- The config forwards traffic as the normal form of its topology does; and where the inbounds have
different tags, the rules that say so are the first ones that name their inbounds. -/
theorem compile_forwards {settings : CompilerSettings} {t : Topology} {config : RuntimeConfig}
    (h : compile settings t = .ok config)
    (hplain : ∀ d ∈ t.library, Tag.isSystem d.tag = false) :
    (∃ plan, planOf settings t.normalize = .ok plan ∧
      Forwards settings t.normalize plan config) ∧
    (config.inboundTags.Nodup →
      ∀ rule ∈ config.rules, ∀ tag ∈ rule.inbounds, config.ruleFor? tag = some rule) := by
  obtain ⟨plan, hplan, rfl⟩ := compile_eq_ok_iff.1 h
  exact ⟨⟨plan, hplan, (plainPlan_of_planOf hplain hplan).forwards_assembled settings⟩,
    fun hdistinct _ hrule _ htag => ruleFor?_assembled hdistinct hrule htag⟩

theorem forwards_crossroads : compile {} crossroads = .ok crossroadsConfig ∧
    (∀ d ∈ crossroads.library, Tag.isSystem d.tag = false) ∧
    (∃ plan, planOf {} crossroads.normalize = .ok plan ∧
      Forwards {} crossroads.normalize plan crossroadsConfig) ∧
    crossroadsConfig.inboundTags.Nodup ∧
    ∀ rule ∈ crossroadsConfig.rules, ∀ tag ∈ rule.inbounds,
      crossroadsConfig.ruleFor? tag = some rule := by
  have hplain : ∀ d ∈ crossroads.library, Tag.isSystem d.tag = false := by decide
  have hdistinct : crossroadsConfig.inboundTags.Nodup := by decide
  obtain ⟨hforwards, hfirst⟩ := compile_forwards compile_crossroads hplain
  exact ⟨compile_crossroads, hplain, hforwards, hdistinct, hfirst hdistinct⟩

/-- An inbound whose selector has the tag of a round-robin node. -/
def borrowedTag : Topology where
  layers := [
    { id := "layer-1"
      nodes := [{ tag := "in-selector", detours := ["x", "y"] }, { tag := "z" }] },
    { id := "layer-2", nodes := [{ tag := "x" }, { tag := "y" }] }]
  library := [.internet, .named "in-selector" .roundRobin, .named "x" .vmess, .named "y" .trojan,
    .named "z" .socks]
  inbounds := [{ tag := "in", port := 1080, detours := ["in-selector", "z"] }]

theorem round_robin_tag_borrowed : (∀ d ∈ borrowedTag.library, Tag.isSystem d.tag = false) ∧
    ∃ config, compile {} borrowedTag = .ok config ∧
      ∃ entry ∈ borrowedTag.normalize.placed,
        borrowedTag.normalize.kindOf entry.2 = .roundRobin ∧
        ∃ out ∈ config.outbounds, out.tag = entry.2.tag := by
  have hshared : ∃ config, compile {} borrowedTag = .ok config ∧
      config.outbounds.any (fun out => out.tag = "in-selector") = true := by
    refine ⟨_, rfl, ?_⟩
    rfl
  obtain ⟨config, hcompile, hany⟩ := hshared
  obtain ⟨out, hout, htag⟩ := List.any_eq_true.1 hany
  exact ⟨by decide, config, hcompile, (0, { tag := "in-selector", detours := ["x", "y"] }),
    by decide, by decide, out, hout, of_decide_eq_true htag⟩

end ProxyChain
