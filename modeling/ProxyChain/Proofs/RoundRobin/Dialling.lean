import ProxyChain.Proofs.RoundRobin.Plan

/-!
# ProxyChain.Proofs.RoundRobin.Dialling

**How a plan dials what links lead to.** A round-robin node is dialled by the tag of its group,
every other target by its own (`NormalPlan.mapTag_cases`). Where no library tag looks like a made-up
one, different targets are dialled by different tags (`PlainPlan.mapTag_inj`). Managed nodes are
those in the pool of a node with an output, and the plan knows that output for them
(`NormalPlan.outputFor?_eq_some_iff`).
-/

namespace ProxyChain.RoundRobin

open ProxyChain.Topology

/-- A topology in normal form with a plan of it. -/
structure NormalPlan (t : Topology) (plan : Plan) : Prop extends t.IsNormal, PlanOf t plan

/-- No library tag begins like those that the compiler makes up. -/
structure PlainPlan (t : Topology) (plan : Plan) : Prop extends NormalPlan t plan where
  library_plain : ∀ d ∈ t.library, Tag.isSystem d.tag = false

variable {t : Topology} {plan : Plan}

/-! ### The parts of a group -/

namespace Group.StandsFor

variable {group : Group} {entry : Nat × PlacedNode} (h : group.StandsFor t entry)

include h

theorem candidates_eq : group.candidates = (t.index.splitPool entry.1 entry.2.detours).pool :=
  congrArg Index.PoolEdges.pool h.edges_eq

theorem output_eq : group.output = (t.index.splitPool entry.1 entry.2.detours).output :=
  congrArg Index.PoolEdges.output h.edges_eq

theorem mem_candidates_iff (hsound : t.NodesSound) {tag : String} :
    tag ∈ group.candidates ↔ t.InPool entry tag := by
  rw [h.candidates_eq, hsound.mem_pool_iff, InPool]
  exact (and_iff_right h.kind_eq).symm

theorem mem_output_iff (hnormal : t.IsNormal) (hentry : entry ∈ t.placed) {tag : String} :
    tag ∈ group.output ↔ t.IsOutput entry tag := by
  rw [h.output_eq, hnormal.mem_output_iff hentry h.kind_eq]

/-- The links of the node are the pool of the group, then its output. -/
theorem detours_eq (hnormal : t.IsNormal) (hentry : entry ∈ t.placed) :
    entry.2.detours = group.candidates ++ group.output.toList := by
  rw [h.candidates_eq, h.output_eq]
  exact (hnormal.detours_splitPool hentry h.kind_eq).symm

end Group.StandsFor

/-! ### The tags that are dialled -/

theorem outboundTag_ne {group : Group} {tag : String} (htag : Tag.isSystem tag = false) :
    group.outboundTag ≠ tag := by
  rintro rfl
  rw [isSystem_outboundTag] at htag
  cases htag

namespace NormalPlan

variable (h : NormalPlan t plan)

include h

theorem mapTag_group {group : Group} (hgroup : group ∈ plan.groups) :
    plan.mapTag group.tag = group.outboundTag :=
  dialTag_eq_outboundTag h.tags_nodup hgroup

/-- Whatever is no round-robin node is dialled by its own tag. -/
theorem mapTag_eq_self {tag : String} (hother : ∀ entry ∈ t.placed,
    t.kindOf entry.2 = .roundRobin → entry.2.tag ≠ tag) : plan.mapTag tag = tag := by
  refine dialTag_eq_self fun hmem => ?_
  obtain ⟨group, hgroup, htag⟩ := List.mem_map.1 hmem
  obtain ⟨entry, hentry, hstands⟩ := h.node_of_group group hgroup
  exact hother entry hentry hstands.kind_eq (hstands.tag_eq.symm.trans htag)

/-- The ids tell the groups apart, so their tags do. -/
theorem outboundTags_nodup : (plan.groups.map Group.outboundTag).Nodup :=
  h.ids_nodup.of_map.map_on fun _ ha _ hb heq =>
    List.inj_on_of_nodup_map h.ids_nodup ha hb (outboundTag_inj heq)

theorem mapTag_node {entry : Nat × PlacedNode} (hentry : entry ∈ t.placed)
    (hkind : t.kindOf entry.2 ≠ .roundRobin) : plan.mapTag entry.2.tag = entry.2.tag := by
  refine h.mapTag_eq_self fun other hother hother_kind htag => ?_
  have heq : other = entry := eq_of_tag_eq h.placed_nodup hother hentry htag
  exact hkind (heq ▸ hother_kind)

theorem mapTag_internet : plan.mapTag Tag.internet = Tag.internet :=
  h.mapTag_eq_self fun _ hentry _ htag => (h.placed_mem_allowed hentry).2 htag

/-- A target is dialled by the tag of its group if it has one, else by its own. -/
theorem mapTag_cases {tag : String} (htarget : t.IsTarget tag) :
    (∃ group ∈ plan.groups, group.tag = tag ∧ plan.mapTag tag = group.outboundTag) ∨
      plan.mapTag tag = tag ∧ (tag = Tag.internet ∨
        ∃ entry ∈ t.placed, t.kindOf entry.2 ≠ .roundRobin ∧ entry.2.tag = tag) := by
  rcases htarget with hplaced | rfl
  · obtain ⟨entry, hentry, rfl⟩ := List.mem_map.1 hplaced
    by_cases hkind : t.kindOf entry.2 = .roundRobin
    · obtain ⟨group, hgroup, hstands⟩ := h.group_of_node entry hentry hkind
      refine Or.inl ⟨group, hgroup, hstands.tag_eq, ?_⟩
      rw [← hstands.tag_eq, h.mapTag_group hgroup]
    · exact Or.inr ⟨h.mapTag_node hentry hkind, Or.inr ⟨entry, hentry, hkind, rfl⟩⟩
  · exact Or.inr ⟨h.mapTag_internet, Or.inl rfl⟩

theorem mapTag_ne_empty {tag : String} (htarget : t.IsTarget tag) : plan.mapTag tag ≠ "" := by
  rcases h.mapTag_cases htarget with ⟨group, -, -, hmap⟩ | ⟨hmap, -⟩
  · rw [hmap]
    exact outboundTag_ne (by decide)
  · rw [hmap]
    exact h.ne_empty_of_isTarget htarget

/-! ### Managed nodes -/

/-- A managed node is a leaf. -/
theorem role_of_outputFor? {entry : Nat × PlacedNode} (hentry : entry ∈ t.placed)
    {target : String} (htarget : plan.outputFor? entry.2.tag = some target) :
    (t.kindOf entry.2).role = .leaf := by
  rw [Plan.outputFor?, h.outputs_assigned] at htarget
  obtain ⟨group, hgroup, hmember, output, houtput, -⟩ := htarget
  exact h.members_leaf group hgroup (Option.isSome_of_mem houtput) entry hentry hmember

/-- A managed node sends traffic to the output of every pool that it is in, and nowhere else. -/
theorem outputFor?_eq_some_iff {tag target : String} : plan.outputFor? tag = some target ↔
    ∃ source ∈ t.placed, ∃ output, t.InPool source tag ∧ t.IsOutput source output ∧
      plan.mapTag output = target := by
  rw [Plan.outputFor?, h.outputs_assigned]
  constructor
  · rintro ⟨group, hgroup, hcandidate, output, houtput, rfl⟩
    obtain ⟨source, hsource, hstands⟩ := h.node_of_group group hgroup
    exact ⟨source, hsource, output, (hstands.mem_candidates_iff h.toNodesSound).1 hcandidate,
      (hstands.mem_output_iff h.toIsNormal hsource).1 houtput, rfl⟩
  · rintro ⟨source, hsource, output, hpool, houtput, rfl⟩
    obtain ⟨group, hgroup, hstands⟩ := h.group_of_node source hsource hpool.1
    exact ⟨group, hgroup, (hstands.mem_candidates_iff h.toNodesSound).2 hpool, output,
      (hstands.mem_output_iff h.toIsNormal hsource).2 houtput, rfl⟩

end NormalPlan

/-! ### Plain tags -/

namespace PlainPlan

variable (h : PlainPlan t plan)

include h

theorem placedTags_plain {tag : String} (htag : tag ∈ t.placedTags) :
    Tag.isSystem tag = false := by
  obtain ⟨d, hd, rfl⟩ := List.mem_map.1 (h.placed_allowed tag htag).2.2
  exact h.library_plain d hd

theorem outboundTag_not_placed (group : Group) : group.outboundTag ∉ t.placedTags :=
  fun hplaced => outboundTag_ne (h.placedTags_plain hplaced) rfl

/-- A plan dials different targets differently. -/
theorem mapTag_inj {a b : String} (ha : t.IsTarget a) (hb : t.IsTarget b)
    (heq : plan.mapTag a = plan.mapTag b) : a = b := by
  have hown : ∀ {tag : String}, t.IsTarget tag → Tag.isSystem tag = false := by
    rintro tag (hplaced | rfl)
    · exact h.placedTags_plain hplaced
    · decide
  -- Two groups of one tag have one id, and a made-up tag is none of a target.
  rcases h.mapTag_cases ha with ⟨ga, hga, rfl, hmapa⟩ | ⟨hmapa, -⟩ <;>
    rcases h.mapTag_cases hb with ⟨gb, hgb, rfl, hmapb⟩ | ⟨hmapb, -⟩ <;>
    rw [hmapa, hmapb] at heq
  · rw [List.inj_on_of_nodup_map h.ids_nodup hga hgb (outboundTag_inj heq)]
  · exact absurd heq (outboundTag_ne (hown hb))
  · exact absurd heq.symm (outboundTag_ne (hown ha))
  · exact heq

end PlainPlan

end ProxyChain.RoundRobin
