import ProxyChain.Config.Compile
import ProxyChain.Proofs.RoundRobin.Dialling
import ProxyChain.Proofs.Topology.Normalize

/-!
# ProxyChain.Proofs.Config.Compile

**Compiling, written out.** Once a topology is planned nothing can fail any more: each placed node
that is not a round-robin node has an outbound (`Topology.ownOutbound`), and the config is put
together from these and from the groups of the plan (`assembled`). So compiling is planning the
normal form, followed by a total function (`compile_eq_map`).

All that is said about configs elsewhere is said about `assembled`, for a topology in normal form
and a plan of it.
-/

namespace ProxyChain

open RoundRobin ProxyChain.Topology

/-! ### Kinds and roles -/

theorem NodeKind.isSelectorLike_of_leaf {kind : NodeKind} (h : kind.role = .leaf) :
    kind.isSelectorLike = false := by
  rw [isSelectorLike, h]
  rfl

theorem NodeKind.ne_roundRobin {kind : NodeKind} (h : kind.role ≠ .roundRobin) :
    kind ≠ .roundRobin := by
  rintro rfl
  exact h rfl

/-! ### What is dialled -/

theorem Plan.dialled_eq {plan : Plan} {detours : List String}
    (hne : ∀ tag ∈ detours, tag ≠ "") : Plan.dialled plan detours = detours.map plan.mapTag := by
  have hfilter : detours.filter (· ≠ "") = detours :=
    List.filter_eq_self.2 fun tag htag => by simpa using hne tag htag
  rw [Plan.dialled, hfilter]

namespace Topology

theorem IsNormal.dialled_node {t : Topology} (h : t.IsNormal) (plan : Plan)
    {entry : Nat × PlacedNode} (hentry : entry ∈ t.placed) :
    Plan.dialled plan entry.2.detours = entry.2.detours.map plan.mapTag :=
  Plan.dialled_eq fun _ htag => h.ne_empty_of_isTarget (h.isTarget_of_mem_detours hentry htag)

theorem IsNormal.dialled_inbound {t : Topology} (h : t.IsNormal) (plan : Plan)
    {inbound : Inbound} (hinbound : inbound ∈ t.inbounds) :
    Plan.dialled plan inbound.detours = inbound.detours.map plan.mapTag :=
  Plan.dialled_eq fun tag htag => h.tag_ne_empty ((h.inbound_links inbound hinbound).2 tag htag)

/-! ### Outbounds of nodes -/

/-- The placed nodes that are outbounds of their own: all but the round-robin nodes. -/
def ownNodes (t : Topology) : List PlacedNode :=
  (t.placed.map Prod.snd).filter fun node => t.kindOf node ≠ .roundRobin

/-- The outbound of a placed node as its definition has it, before it is linked to others. -/
def bareOutbound (t : Topology) (node : PlacedNode) : Outbound :=
  .ofDefinition (t.kindOf node) node.tag (t.definition? node.tag)

/-- The outbound of a placed node that is not a round-robin node. -/
def ownOutbound (t : Topology) (plan : Plan) (node : PlacedNode) : Outbound :=
  let dialled := node.detours.map plan.mapTag
  match plan.outputFor? node.tag, (t.kindOf node).isSelectorLike with
  | some output, _ => { t.bareOutbound node with detour := some output }
  | none, true =>
    { t.bareOutbound node with
      outbounds := Tag.unique dialled, defaultOutbound := (Tag.unique dialled).head? }
  | none, false => { t.bareOutbound node with detour := nextHop? t.index dialled }

/-- The outbounds of all nodes that have one of their own. -/
def ownOutbounds (t : Topology) (plan : Plan) : List Outbound :=
  t.ownNodes.map (t.ownOutbound plan)

section

variable {t : Topology} {plan : Plan} {node : PlacedNode}

theorem mem_ownNodes_iff : node ∈ t.ownNodes ↔
    (∃ hop, (hop, node) ∈ t.placed) ∧ t.kindOf node ≠ .roundRobin := by
  simp [ownNodes]

theorem bareOutbound_tag : (t.bareOutbound node).tag = node.tag := by
  rw [bareOutbound]
  cases t.definition? node.tag <;> rfl

theorem bareOutbound_links : (t.bareOutbound node).detour = none ∧
    (t.bareOutbound node).outbounds = [] ∧ (t.bareOutbound node).defaultOutbound = none := by
  rw [bareOutbound]
  cases t.definition? node.tag <;> exact ⟨rfl, rfl, rfl⟩

theorem ownOutbound_tag : (t.ownOutbound plan node).tag = node.tag := by
  rw [ownOutbound]
  cases plan.outputFor? node.tag with
  | some output => exact bareOutbound_tag
  | none => cases (t.kindOf node).isSelectorLike <;> exact bareOutbound_tag

/-- A node dials the output of a pool that it is in; else a leaf dials its first target, which is no
terminal then. -/
theorem detour_ownOutbound (h : NormalPlan t plan) {target : String}
    (htarget : (t.ownOutbound plan node).detour = some target) :
    (∃ source ∈ t.placed, ∃ output, t.InPool source node.tag ∧ t.IsOutput source output ∧
      plan.mapTag output = target) ∨
    ∃ first ∈ node.detours, plan.mapTag first = target ∧
      (t.index.targetKind? target).any NodeKind.isTerminal = false := by
  rw [ownOutbound] at htarget
  cases houtput : plan.outputFor? node.tag with
  | some output =>
      rw [houtput] at htarget
      obtain rfl := Option.some.inj htarget
      exact Or.inl (h.outputFor?_eq_some_iff.1 houtput)
  | none =>
      rw [houtput] at htarget
      cases hkind : (t.kindOf node).isSelectorLike with
      | true =>
          rw [hkind] at htarget
          have hnone : (t.bareOutbound node).detour = some target := htarget
          rw [bareOutbound_links.1] at hnone
          cases hnone
      | false =>
          rw [hkind] at htarget
          have hnext : nextHop? t.index (node.detours.map plan.mapTag) = some target := htarget
          rw [nextHop?, Option.filter_eq_some_iff] at hnext
          obtain ⟨first, hfirst, hmap⟩ := List.mem_map.1 (List.mem_of_mem_head? hnext.1)
          exact Or.inr ⟨first, hfirst, hmap, by simpa using hnext.2⟩

/-- A selector chooses among its targets. -/
theorem exists_mem_detours_of_mem_outbounds {target : String}
    (htarget : target ∈ (t.ownOutbound plan node).outbounds) :
    ∃ detour ∈ node.detours, plan.mapTag detour = target := by
  have hbare : target ∉ (t.bareOutbound node).outbounds := by simp [bareOutbound_links.2.1]
  rw [ownOutbound] at htarget
  cases houtput : plan.outputFor? node.tag with
  | some output => rw [houtput] at htarget; exact absurd htarget hbare
  | none =>
      rw [houtput] at htarget
      cases hkind : (t.kindOf node).isSelectorLike with
      | true =>
          rw [hkind] at htarget
          exact List.mem_map.1 (Tag.mem_unique.1 htarget).1
      | false => rw [hkind] at htarget; exact absurd htarget hbare

/-- What a selector chooses at first is one of its members. -/
theorem mem_outbounds_of_mem_defaultOutbound {target : String}
    (htarget : target ∈ (t.ownOutbound plan node).defaultOutbound) :
    target ∈ (t.ownOutbound plan node).outbounds := by
  have hbare : target ∉ (t.bareOutbound node).defaultOutbound := by simp [bareOutbound_links.2.2]
  rw [ownOutbound] at htarget ⊢
  cases houtput : plan.outputFor? node.tag with
  | some output => rw [houtput] at htarget; exact absurd htarget hbare
  | none =>
      rw [houtput] at htarget
      cases hkind : (t.kindOf node).isSelectorLike with
      | true => rw [hkind] at htarget; exact List.mem_of_mem_head? htarget
      | false => rw [hkind] at htarget; exact absurd htarget hbare

/-- The tags of these outbounds are the tags of their nodes. -/
theorem map_tag_ownOutbounds :
    (t.ownOutbounds plan).map Outbound.tag = t.ownNodes.map PlacedNode.tag := by
  rw [ownOutbounds, List.map_map]
  exact List.map_congr_left fun _ _ => ownOutbound_tag

theorem ownNodes_tags_sublist : (t.ownNodes.map PlacedNode.tag).Sublist t.placedTags := by
  have hsublist := (List.filter_sublist (l := t.placed.map Prod.snd)
    (p := fun node => t.kindOf node ≠ .roundRobin)).map PlacedNode.tag
  rwa [List.map_map] at hsublist

theorem tag_mem_placedTags {out : Outbound} (hout : out ∈ t.ownOutbounds plan) :
    out.tag ∈ t.placedTags := by
  refine ownNodes_tags_sublist.subset ?_
  rw [← @map_tag_ownOutbounds t plan]
  exact List.mem_map_of_mem hout

/-- In a planned topology a managed node is a leaf, so each node has its outbound. -/
theorem nodeOutbound_eq (h : NormalPlan t plan) {entry : Nat × PlacedNode}
    (hentry : entry ∈ t.placed) : nodeOutbound t t.index plan (t.kindOf entry.2) entry.2 =
      .ok (t.ownOutbound plan entry.2) := by
  rw [nodeOutbound, ownOutbound, h.dialled_node plan hentry]
  cases houtput : plan.outputFor? entry.2.tag with
  | some output =>
      have hleaf := NodeKind.isSelectorLike_of_leaf (h.role_of_outputFor? hentry houtput)
      simp only [hleaf]
      rfl
  | none =>
      cases (t.kindOf entry.2).isSelectorLike with
      | true => rfl
      | false => rfl

/-- Adding outbounds node by node gives one to each node that is to have one. -/
theorem foldlM_addNodeOutbound {index : Index} :
    ∀ {nodes : List PlacedNode} {outbounds : List Outbound},
      (∀ node ∈ nodes, outboundKind t index node = t.kindOf node ∧
        nodeOutbound t index plan (t.kindOf node) node = .ok (t.ownOutbound plan node)) →
      (outbounds.map Outbound.tag ++ nodes.map PlacedNode.tag).Nodup →
      nodes.foldlM (addNodeOutbound t index plan) outbounds =
        .ok (outbounds ++ (nodes.filter fun node => t.kindOf node ≠ .roundRobin).map
          (t.ownOutbound plan)) := by
  intro nodes
  induction nodes with
  | nil =>
      intro outbounds _ _
      rw [List.filter_nil, List.map_nil, List.append_nil]
      rfl
  | cons node rest ih =>
      intro outbounds hnodes hnodup
      obtain ⟨⟨hkind, hown⟩, hrest⟩ := List.forall_mem_cons.1 hnodes
      -- No tag is there before its node, so a node is passed over for its kind only.
      have hnew : outbounds.any (fun o => o.tag = node.tag) = false := by
        rw [List.any_eq_false]
        intro o ho htag
        rw [List.nodup_append] at hnodup
        exact hnodup.2.2 _ (List.mem_map_of_mem ho) _ List.mem_cons_self (by simpa using htag)
      rw [List.foldlM_cons, addNodeOutbound, hkind]
      by_cases hrr : t.kindOf node = .roundRobin
      · have hnodup : (outbounds.map Outbound.tag ++ rest.map PlacedNode.tag).Nodup :=
          ((List.sublist_cons_self _ _).append_left _).nodup hnodup
        rw [if_pos (Or.inl hrr), List.filter_cons_of_neg (by simpa using hrr)]
        exact ih hrest hnodup
      · have hnodup : ((outbounds ++ [t.ownOutbound plan node]).map Outbound.tag ++
            rest.map PlacedNode.tag).Nodup := by
          rw [List.map_append, List.map_singleton, ownOutbound_tag, List.append_assoc]
          exact hnodup
        have hstep := ih hrest hnodup
        rw [if_neg (by simp [hrr, hnew]), hown, List.filter_cons_of_pos (by simpa using hrr),
          List.map_cons]
        rw [List.append_assoc] at hstep
        exact hstep

theorem nodeOutbounds_eq (h : NormalPlan t plan) :
    nodeOutbounds t t.index plan = .ok (t.ownOutbounds plan) := by
  rw [nodeOutbounds, foldlM_addNodeOutbound]
  · rfl
  · intro node hnode
    obtain ⟨entry, hentry, rfl⟩ := List.mem_map.1 hnode
    refine ⟨?_, nodeOutbound_eq h hentry⟩
    rw [outboundKind, h.placedKind? hentry, Option.getD_some]
  · rw [List.map_nil, List.nil_append, List.map_map]
    exact h.placed_nodup

end

end Topology

/-! ### Outbounds of groups, and the Internet exit -/

/-- The client outbound of a group. -/
def RoundRobin.Group.client (group : Group) (settings : CompilerSettings) : Outbound :=
  .socksClient group.outboundTag settings.loopback group.listenPort

/-- The outbounds of nodes with those of the groups. -/
def withClients (settings : CompilerSettings) (plan : Plan) (nodes : List Outbound) :
    List Outbound :=
  plan.groups.foldl (fun outbounds group => setBy Outbound.tag (group.client settings) outbounds)
    nodes

theorem mem_withClients {settings : CompilerSettings} {plan : Plan} {nodes : List Outbound}
    {out : Outbound} (h : out ∈ withClients settings plan nodes) :
    (∃ group ∈ plan.groups, out = group.client settings) ∨ out ∈ nodes :=
  mem_foldl_setBy h

theorem outboundTag_ne_internet (group : Group) : group.outboundTag ≠ Tag.internet :=
  outboundTag_ne (by decide)

/-- No node and no client has the tag of the Internet exit, which is always added. -/
theorem addFixedOutbounds_eq (settings : CompilerSettings) (plan : Plan) {nodes : List Outbound}
    (hnodes : ∀ out ∈ nodes, out.tag ≠ Tag.internet) :
    addFixedOutbounds settings plan nodes = withClients settings plan nodes ++ [.direct] := by
  have hnone : (withClients settings plan nodes).any (fun o => o.tag = Tag.internet) = false := by
    rw [List.any_eq_false]
    intro out hout htag
    rcases mem_withClients hout with ⟨group, -, rfl⟩ | hout
    · exact outboundTag_ne_internet group (of_decide_eq_true htag)
    · exact hnodes out hout (of_decide_eq_true htag)
  show (if (withClients settings plan nodes).any (fun o => o.tag = Tag.internet) then _ else _) = _
  rw [hnone]
  rfl

theorem Topology.NodesSound.ownOutbounds_tag_ne_internet {t : Topology} (h : t.NodesSound)
    (plan : Plan) : ∀ out ∈ t.ownOutbounds plan, out.tag ≠ Tag.internet :=
  fun _ hout => (h.placed_allowed _ (tag_mem_placedTags hout)).2.1

/-! ### Inbounds -/

/-- The selector of an inbound with several targets. It chooses among all of them; what it chooses
at first is the default, or the first target if there is none. -/
def Inbound.HasSelector (plan : Plan) (inbound : Inbound) (out : Outbound) : Prop :=
  ∃ first second rest, inbound.detours = first :: second :: rest ∧
    out = .selector inbound.selectorTag (inbound.detours.map plan.mapTag)
      (plan.mapTag (inbound.selectorDefault.getD first))

namespace Topology.IsNormal

variable {t : Topology} (h : t.IsNormal) (plan : Plan) {inbound : Inbound}
  (hinbound : inbound ∈ t.inbounds)

include h hinbound

theorem routeTo?_eq : inbound.routeTo? plan =
    match inbound.detours with
    | [] => none
    | [only] => some (plan.mapTag only)
    | _ => some inbound.selectorTag := by
  rw [Inbound.routeTo?, h.dialled_inbound plan hinbound]
  match inbound.detours with
  | [] => rfl
  | [_] => rfl
  | _ :: _ :: _ => rfl

/-- The default of a selector is one of its members, so it is the one that is chosen. -/
theorem selector?_eq_some_iff {out : Outbound} :
    inbound.selector? plan = some out ↔ inbound.HasSelector plan out := by
  -- The default is a detour, so what it is dialled by passes the filter.
  have hchosen : (inbound.selectorDefault.map plan.mapTag).filter
      (inbound.detours.map plan.mapTag).contains = inbound.selectorDefault.map plan.mapTag := by
    have hdefault := h.inbound_default inbound hinbound
    cases hselected : inbound.selectorDefault with
    | none => rfl
    | some tag =>
        have hmem : plan.mapTag tag ∈ inbound.detours.map plan.mapTag :=
          List.mem_map_of_mem (hdefault tag hselected)
        rw [Option.map_some, Option.filter_some, if_pos (List.contains_iff_mem.2 hmem)]
  rw [Inbound.selector?, h.dialled_inbound plan hinbound, Inbound.HasSelector]
  revert hchosen
  match inbound.detours with
  | [] => simp
  | [_] => simp
  | first :: second :: rest =>
      intro hchosen
      simp only [List.map_cons] at hchosen ⊢
      rw [hchosen, Option.getD_map]
      simp [eq_comm]

end Topology.IsNormal

theorem selectorTag_ne_internet (inbound : Inbound) : inbound.selectorTag ≠ Tag.internet := by
  intro heq
  have hlength := congrArg String.length heq
  rw [Inbound.selectorTag, String.length_append] at hlength
  have hselector : "-selector".length = 9 := rfl
  have hinternet : Tag.internet.length = 6 := rfl
  omega

/-- The tags of clients and of selectors end differently. -/
theorem outboundTag_ne_selectorTag (group : Group) (inbound : Inbound) :
    group.outboundTag ≠ inbound.selectorTag := by
  intro heq
  have hclient : "-lb".toList <:+ group.outboundTag.toList := by
    rw [Group.outboundTag, String.toList_append]
    exact List.suffix_append _ _
  have hselector : "-selector".toList <:+ group.outboundTag.toList := by
    rw [heq, Inbound.selectorTag, String.toList_append]
    exact List.suffix_append _ _
  -- Of two endings of one text the shorter one ends the longer one.
  have hsuffix := List.suffix_of_suffix_length_le hclient hselector (by decide)
  exact absurd hsuffix (by decide)

/-! ### Backends -/

/-- A backend of a group is what its three lists have at one position. -/
theorem mem_backends_iff {plan : Plan} {group : Group} {backend : String × UInt16 × String} :
    backend ∈ backends plan group ↔ ∃ position port candidate,
      group.backendPorts[position]? = some port ∧
        group.candidates[position]? = some candidate ∧
        backend = (group.inboundTag position, port, plan.mapTag candidate) := by
  obtain ⟨tag, port, target⟩ := backend
  rw [List.mem_iff_getElem?]
  refine exists_congr fun position => ?_
  simp only [backends, Group.inboundTags, List.getElem?_zip_eq_some, List.getElem?_map,
    Option.map_eq_some_iff]
  constructor
  · rintro ⟨⟨index, hindex, rfl⟩, hport, candidate, hcandidate, rfl⟩
    obtain ⟨_, hindex⟩ := List.getElem?_eq_some_iff.1 hindex
    rw [List.getElem_range] at hindex
    subst hindex
    exact ⟨port, candidate, hport, hcandidate, rfl⟩
  · rintro ⟨port', candidate, hport, hcandidate, heq⟩
    cases heq
    obtain ⟨hposition, -⟩ := List.getElem?_eq_some_iff.1 hcandidate
    exact ⟨⟨position, List.getElem?_range hposition, rfl⟩, hport, candidate, hcandidate, rfl⟩

section

variable (plan : Plan) {group : Group}
  (hlength : group.backendPorts.length = group.candidates.length)

include hlength

theorem map_tag_backends : (backends plan group).map Prod.fst = group.inboundTags := by
  refine List.map_fst_zip ?_
  simp [Group.inboundTags, hlength]

theorem map_port_backends :
    (backends plan group).map (fun backend => backend.2.1) = group.backendPorts := by
  have hpairs : (backends plan group).map Prod.snd =
      group.backendPorts.zip (group.candidates.map plan.mapTag) := by
    refine List.map_snd_zip ?_
    simp [Group.inboundTags]
  have hports : (group.backendPorts.zip (group.candidates.map plan.mapTag)).map Prod.fst =
      group.backendPorts := by
    refine List.map_fst_zip ?_
    simp [hlength]
  rwa [← hpairs, List.map_map] at hports

end

/-! ### Compiling -/

/-- The config of a topology in normal form with a plan of it. -/
def assembled (settings : CompilerSettings) (t : Topology) (plan : Plan) : RuntimeConfig where
  log := { level := settings.logLevel, timestamp := settings.logTimestamp }
  inbounds := compileInbounds settings t plan
  outbounds := addFixedOutbounds settings plan (t.ownOutbounds plan)
    ++ t.inbounds.filterMap (Inbound.selector? plan)
  rules := compileRules t plan

theorem outbounds_assembled {t : Topology} (h : t.NodesSound) (settings : CompilerSettings)
    (plan : Plan) : (assembled settings t plan).outbounds =
      withClients settings plan (t.ownOutbounds plan) ++ [.direct]
        ++ t.inbounds.filterMap (Inbound.selector? plan) := by
  rw [assembled, addFixedOutbounds_eq settings plan (h.ownOutbounds_tag_ne_internet plan)]

/-- The outbounds, each with the part of the config that it is for. A node whose tag is that of a
client has none, as the client takes its place. -/
theorem RoundRobin.NormalPlan.outbound_cases {t : Topology} {plan : Plan} (h : NormalPlan t plan)
    {settings : CompilerSettings} {out : Outbound}
    (hout : out ∈ (assembled settings t plan).outbounds) :
    (∃ entry ∈ t.placed, t.kindOf entry.2 ≠ .roundRobin ∧
        (∀ group ∈ plan.groups, entry.2.tag ≠ group.outboundTag) ∧
        out = t.ownOutbound plan entry.2) ∨
      (∃ group ∈ plan.groups, out = group.client settings) ∨ out = .direct ∨
      ∃ inbound ∈ t.inbounds, inbound.HasSelector plan out := by
  rw [outbounds_assembled h.toNodesSound, List.mem_append, List.mem_append] at hout
  rcases hout with (hout | hout) | hout
  · have hnodup : ((t.ownOutbounds plan).map Outbound.tag).Nodup := by
      rw [map_tag_ownOutbounds]
      exact ownNodes_tags_sublist.nodup h.placed_nodup
    rcases mem_foldl_setBy_of_nodup hnodup hout with hclient | ⟨hown, hfree⟩
    · exact Or.inr (Or.inl hclient)
    · obtain ⟨node, hnode, rfl⟩ := List.mem_map.1 hown
      obtain ⟨⟨hop, hplaced⟩, hkind⟩ := mem_ownNodes_iff.1 hnode
      rw [ownOutbound_tag] at hfree
      exact Or.inl ⟨(hop, node), hplaced, hkind, hfree, rfl⟩
  · exact Or.inr (Or.inr (Or.inl (List.mem_singleton.1 hout)))
  · obtain ⟨inbound, hinbound, hselector⟩ := List.mem_filterMap.1 hout
    exact Or.inr (Or.inr (Or.inr
      ⟨inbound, hinbound, (h.selector?_eq_some_iff plan hinbound).1 hselector⟩))

section

variable {t : Topology} {plan : Plan} (settings : CompilerSettings)

theorem mixed_mem_inbounds_assembled {inbound : Inbound} (hinbound : inbound ∈ t.inbounds) :
    .mixed inbound.tag settings.loopback inbound.port settings.sniff ∈
      (assembled settings t plan).inbounds :=
  List.mem_append_left _ (List.mem_map_of_mem hinbound)

theorem socks_mem_inbounds_assembled {group : Group} (hgroup : group ∈ plan.groups)
    {backend : String × UInt16 × String} (hbackend : backend ∈ backends plan group) :
    .socks backend.1 settings.loopback backend.2.1 ∈ (assembled settings t plan).inbounds :=
  List.mem_append_right _
    (List.mem_flatMap.2 ⟨group, hgroup, List.mem_map.2 ⟨backend, hbackend, rfl⟩⟩)

end

/-- The rules, each with the part of the config that it is for. -/
theorem mem_rules_assembled_iff {settings : CompilerSettings} {t : Topology} {plan : Plan}
    {rule : RouteRule} : rule ∈ (assembled settings t plan).rules ↔ rule = .hijackDns ∨
      (∃ inbound ∈ t.inbounds, ∃ target, inbound.routeTo? plan = some target ∧
        .inboundTo inbound.tag target = rule) ∨
      ∃ group ∈ plan.groups, ∃ backend ∈ backends plan group,
        .inboundTo backend.1 backend.2.2 = rule := by
  simp only [assembled, compileRules, List.mem_append, List.mem_cons, List.mem_filterMap,
    List.mem_flatMap, List.mem_map, Option.map_eq_some_iff, or_assoc]

theorem normalPlan_of_planOf {settings : CompilerSettings} {t : Topology} {plan : Plan}
    (h : planOf settings t.normalize = .ok plan) : NormalPlan t.normalize plan :=
  have hnormal := isNormal_normalize t
  { hnormal, planOf_build hnormal.toNodesSound h with }

theorem plainPlan_of_planOf {settings : CompilerSettings} {t : Topology} {plan : Plan}
    (hplain : ∀ d ∈ t.library, Tag.isSystem d.tag = false)
    (h : planOf settings t.normalize = .ok plan) : PlainPlan t.normalize plan :=
  { normalPlan_of_planOf h with library_plain := library_normalize_plain hplain }

/-- Where planning succeeds, so does compiling. -/
theorem compile_eq_map (settings : CompilerSettings) (t : Topology) : compile settings t =
    (planOf settings t.normalize).map (assembled settings t.normalize) := by
  rw [compile]
  cases hplan : planOf settings t.normalize with
  | error e => rfl
  | ok plan =>
      show assemble settings t.normalize plan = _
      rw [assemble, nodeOutbounds_eq (normalPlan_of_planOf hplan)]
      rfl

theorem compile_eq_ok_iff {settings : CompilerSettings} {t : Topology} {config : RuntimeConfig} :
    compile settings t = .ok config ↔
      ∃ plan, planOf settings t.normalize = .ok plan ∧
        assembled settings t.normalize plan = config := by
  rw [compile_eq_map]
  cases planOf settings t.normalize with
  | error e => simp [Except.map]
  | ok plan => simp [Except.map]

/-- Two ways that meet: one over a round-robin node with an output, one over a selector. -/
def crossroads : Topology where
  layers := [
    { id := "layer-1"
      nodes := [
        { tag := "rr", detours := ["x", "y", "z"] },
        { tag := "s", detours := ["x", "y"] }] },
    { id := "layer-2", nodes := [{ tag := "x" }, { tag := "y" }] },
    { id := "layer-3", nodes := [{ tag := "z", detours := ["direct"] }] }]
  library := [.internet, .named "rr" .roundRobin, .named "s" .selector, .named "x" .vmess,
    .named "y" .trojan, .named "z" .socks]
  inbounds := [
    { tag := "a", port := 1080, detours := ["rr"] },
    { tag := "b", port := 1081, detours := ["rr", "s"], selectorDefault := some "s" }]

/-- What they are compiled into. -/
def crossroadsConfig : RuntimeConfig where
  inbounds := [.mixed "a" "127.0.0.1" 1080 true, .mixed "b" "127.0.0.1" 1081 true,
    .socks "sys-rr-4f546725-in-0" "127.0.0.1" 25100,
    .socks "sys-rr-4f546725-in-1" "127.0.0.1" 25101]
  outbounds := [
    { kind := "selector", tag := "s", outbounds := ["x", "y"], defaultOutbound := some "x" },
    { kind := "vmess", tag := "x", detour := some "z" },
    { kind := "trojan", tag := "y", detour := some "z" },
    { kind := "socks", tag := "z" },
    .socksClient "sys-rr-4f546725-lb" "127.0.0.1" 25080,
    .direct,
    .selector "b-selector" ["sys-rr-4f546725-lb", "s"] "s"]
  rules := [.hijackDns, .inboundTo "a" "sys-rr-4f546725-lb", .inboundTo "b" "b-selector",
    .inboundTo "sys-rr-4f546725-in-0" "x", .inboundTo "sys-rr-4f546725-in-1" "y"]

theorem compile_crossroads : compile {} crossroads = .ok crossroadsConfig := by
  decide +kernel

end ProxyChain
