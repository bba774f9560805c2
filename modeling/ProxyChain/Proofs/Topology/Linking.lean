import ProxyChain.Proofs.Topology.Link

/-!
# ProxyChain.Proofs.Topology.Linking

**What becomes of a link.** Which links are allowed and which ones the normal form keeps is decided
apart from each other. Both look at the targets in reach, so for nodes they agree: a link is allowed
where normalizing would keep it (`canLink_allowed_iff_mem_normalize`).

They differ over one kind of source only. A round-robin node in the pool of another one with an
output may be linked, and loses the link when the topology is normalized; every other allowed link
stays (`link_kept_iff`).

Both rest on what normalizing does to a topology in normal form once the links of one node were
changed (`IsNormal.mem_detoursOf_normalize_modifyPlaced`): no other node loses or gains a link that
would count here, so the node has the legal ones among its links unless it is managed.
-/

namespace ProxyChain

namespace Topology

/-! ### The links of a source -/

section

variable {t : Topology} (h : t.NodesSound) {entry : Nat × PlacedNode} (hentry : entry ∈ t.placed)

include h hentry

theorem NodesSound.detoursOf_node : t.detoursOf ⟨entry.2.tag, false⟩ = entry.2.detours := by
  have hfind := (findPlaced?_eq_some_iff h.placed_nodup).2 ⟨hentry, rfl⟩
  show (t.findPlaced? entry.2.tag).elim [] (fun entry => entry.2.detours) = _
  rw [hfind]
  rfl

theorem NodesSound.detoursOf_relink (links : Nat → PlacedNode → List String) :
    (t.relink links).detoursOf ⟨entry.2.tag, false⟩ = links entry.1 entry.2 :=
  (h.relink links).detoursOf_node ((mem_placed_relink links t).2 ⟨entry.2, hentry, rfl⟩)

/-- Whether a node is managed does not depend on its own links. -/
theorem NodesSound.managed_relink_iff {links : Nat → PlacedNode → List String}
    (hother : ∀ source ∈ t.placed, source ≠ entry → links source.1 source.2 = source.2.detours) :
    (t.relink links).Managed entry.2.tag ↔ t.Managed entry.2.tag := by
  have hkept : ∀ source ∈ t.placed, t.PlacedIn entry.2.tag (source.1 + 1) →
      (source.1, { source.2 with detours := links source.1 source.2 }) = source := by
    intro source hsource hplaced
    have hne : source ≠ entry := by
      rintro rfl
      have := h.hop_unique (placedIn_of_mem hsource) hplaced
      omega
    rw [hother source hsource hne]
  constructor
  · rintro ⟨⟨hop, after⟩, hafter, hpool, output, houtput⟩
    obtain ⟨node, hnode, rfl⟩ := (mem_placed_relink links t).1 hafter
    rw [inPool_relink] at hpool
    rw [isOutput_relink] at houtput
    rw [hkept (hop, node) hnode hpool.2.2] at hpool houtput
    exact ⟨_, hnode, hpool, output, houtput⟩
  · rintro ⟨source, hsource, hpool, output, houtput⟩
    refine ⟨source, ?_, (inPool_relink ..).2 hpool, output, (isOutput_relink ..).2 houtput⟩
    rw [← hkept source hsource hpool.2.2]
    exact (mem_placed_relink links t).2 ⟨source.2, hsource, rfl⟩

end

/-! ### Normalizing after a change of one node -/

theorem mem_unmanagedDetours_iff {managed : List String} {node : PlacedNode} {tag : String} :
    tag ∈ unmanagedDetours managed node ↔ node.tag ∉ managed ∧ tag ∈ node.detours := by
  rw [unmanagedDetours]
  by_cases hmanaged : node.tag ∈ managed <;> simp [hmanaged]

namespace IsNormal

variable {t : Topology} (h : t.IsNormal)

include h

/-- Of new links the legal ones are left, all else being in order already. -/
theorem linked_relink (links : Nat → PlacedNode → List String) : (t.relink links).linked =
    t.relink fun hop node => t.index.legalDetours hop (t.kindOf node) (links hop node) := by
  have hinbounds : (t.relink links).InboundsSound := by
    simpa [InboundsSound] using h.inboundsSound
  rw [(h.toNodesSound.relink links).linked_eq_relink hinbounds, relink_relink, index_relink]
  rfl

theorem mem_detoursOf_normalize_modifyPlaced {entry : Nat × PlacedNode} (hentry : entry ∈ t.placed)
    (change : List String → List String) {tag : String} :
    tag ∈ (t.modifyPlaced entry.2.tag fun node =>
        { node with detours := change node.detours }).normalize.detoursOf ⟨entry.2.tag, false⟩ ↔
      ¬ t.Managed entry.2.tag ∧
        tag ∈ t.index.legalDetours entry.1 (t.kindOf entry.2) (change entry.2.detours) := by
  rw [modifyPlaced_eq_relink h.placed_nodup, normalize_eq_relink, h.linked_relink]
  generalize hlegal : (fun hop (node : PlacedNode) => t.index.legalDetours hop (t.kindOf node)
    (if node.tag = entry.2.tag then change node.detours else node.detours)) = legal
  have hsound := h.toNodesSound.relink legal
  have hchanged : legal entry.1 entry.2 =
      t.index.legalDetours entry.1 (t.kindOf entry.2) (change entry.2.detours) := by
    rw [← hlegal]
    dsimp only
    rw [if_pos rfl]
  have hother : ∀ source ∈ t.placed, source ≠ entry →
      legal source.1 source.2 = source.2.detours := by
    intro source hsource hne
    rw [← hlegal]
    dsimp only
    rw [if_neg fun htag => hne (eq_of_tag_eq h.placed_nodup hsource hentry htag)]
    exact h.legalDetours_eq_self (h.node_links source hsource)
  have hafter := (mem_placed_relink legal t).2 ⟨entry.2, hentry, rfl⟩
  rw [hsound.detoursOf_relink hafter, mem_unmanagedDetours_iff, hsound.mem_managedMembers_iff,
    ← hchanged]
  exact and_congr_left fun _ => not_congr (h.toNodesSound.managed_relink_iff hentry hother)

end IsNormal

/-! ### New links are legal -/

theorem mem_addDetour (index : Index) (hop : Nat) (kind : EdgeKind) (target : String)
    (detours : List String) : target ∈ addDetour index hop kind target detours := by
  cases kind with
  | single => exact List.mem_singleton_self target
  | output => exact List.mem_append_right _ (List.mem_singleton_self target)
  | inboundEntry | fanout | pool =>
      rw [addDetour]
      split
      · assumption
      · exact List.mem_append_right _ (List.mem_singleton_self target)

namespace NodesSound

variable {t : Topology} (h : t.NodesSound)

include h

/-- The other outputs make way for a new one, so it is the first. -/
theorem mem_output_addDetour {hop : Nat} {target : String} (hbehind : t.TwoAhead hop target)
    (detours : List String) : target ∈
      (t.index.splitPool hop (addDetour t.index hop .output target detours)).output := by
  have hmem := mem_addDetour t.index hop .output target detours
  obtain ⟨output, houtput⟩ :=
    Option.isSome_iff_exists.1 (h.isSome_output_iff.2 ⟨target, hmem, hbehind⟩)
  have hahead := h.twoAhead_of_mem_output houtput
  have hadded : output ∈ addDetour t.index hop .output target detours :=
    (Tag.mem_unique.1 (List.mem_of_find?_eq_some houtput)).1
  rcases List.mem_append.1 hadded with hold | hnew
  · -- What was kept of the old links is no target two steps ahead.
    have hkept := (List.mem_filter.1 hold).2
    simp only [Bool.and_eq_true, decide_eq_true_eq, Bool.not_eq_true'] at hkept
    rcases hahead with hplaced | ⟨hexit, -⟩
    · rw [h.inHop_iff.2 hplaced] at hkept
      exact absurd hkept.2 (by decide)
    · exact absurd hexit hkept.1.2
  · obtain rfl := List.mem_singleton.1 hnew
    exact houtput

/-- A link to a target in reach is among the legal ones, whatever links were there before. -/
theorem mem_legalDetours_addDetour {hop : Nat} {kind : NodeKind} {edge : EdgeKind}
    {target : String} (hreach : t.Reaches hop target kind.role edge) (detours : List String) :
    target ∈ t.index.legalDetours hop kind (addDetour t.index hop edge target detours) := by
  have hmem := mem_addDetour t.index hop edge target detours
  have hne := h.ne_empty_of_isTarget hreach.isTarget
  rw [Index.legalDetours]
  revert hreach
  generalize kind.role = role
  rintro (hahead | hahead | hpool | houtput)
  · have hsingle : (Tag.unique [target]).filter (t.index.isAdjacentTarget hop) = [target] :=
      h.filter_adjacent_eq_self (List.nodup_singleton target)
        fun tag htag => List.mem_singleton.1 htag ▸ hahead
    simp only [addDetour, hsingle]
    exact List.mem_singleton_self target
  · exact List.mem_filter.2 ⟨Tag.mem_unique.2 ⟨hmem, hne⟩, h.isAdjacentTarget_iff.2 hahead⟩
  · exact List.mem_append_left _ (h.mem_pool_iff.2 ⟨hmem, hpool⟩)
  · exact List.mem_append_right _ (Option.mem_toList.2 (h.mem_output_addDetour houtput detours))

theorem mem_legalDetours_singleton_iff {hop : Nat} {kind : NodeKind} {target : String} :
    target ∈ t.index.legalDetours hop kind [target] ↔
      ∃ edge, t.Reaches hop target kind.role edge := by
  constructor
  · exact (h.legalLinks_legalDetours hop kind [target]).reaches
  · rintro ⟨edge, hreach⟩
    have hnone : addDetour t.index hop edge target [] = [target] := by
      cases edge <;> simp [addDetour]
    rw [← hnone]
    exact h.mem_legalDetours_addDetour hreach []

end NodesSound

/-! ### Links from nodes -/

/-- A link from a node is allowed where normalizing would keep it as the only link of the node, but
for managed round-robin nodes. -/
theorem canLink_allowed_iff_mem_normalize {t : Topology} (h : t.normalize = t)
    {entry : Nat × PlacedNode} (hentry : entry ∈ t.placed)
    (hfree : ¬ (t.kindOf entry.2 = .roundRobin ∧ t.Managed entry.2.tag)) (target : String) :
    (t.canLink ⟨entry.2.tag, false⟩ target).Allowed ↔
      target ∈ (t.modifyPlaced entry.2.tag fun node =>
        { node with detours := [target] }).normalize.detoursOf ⟨entry.2.tag, false⟩ := by
  have hnormal := isNormal_of_normalize_eq_self h
  rw [hnormal.mem_detoursOf_normalize_modifyPlaced hentry fun _ => [target],
    hnormal.mem_legalDetours_singleton_iff]
  constructor
  · rintro ⟨kind, hallow⟩
    obtain ⟨hmanaged, hreach⟩ := (hnormal.canLink_entry_eq_allow_iff hentry).1 hallow
    exact ⟨fun hmember => hfree ⟨hmanaged hmember, hmember⟩, kind, hreach⟩
  · rintro ⟨hfree, kind, hreach⟩
    exact ⟨kind, (hnormal.canLink_entry_eq_allow_iff hentry).2
      ⟨fun hmember => absurd hmember hfree, hreach⟩⟩

/-- A round-robin node in the pool of another one, which has an output. -/
def nestedPools : Topology where
  layers := [
    { id := "layer-1", nodes := [{ tag := "outer", detours := ["inner", "x", "z"] }] },
    { id := "layer-2", nodes := [{ tag := "inner" }, { tag := "x" }] },
    { id := "layer-3", nodes := [{ tag := "z" }, { tag := "w" }] }]
  library := [.internet, .named "outer" .roundRobin, .named "inner" .roundRobin,
    .named "x" .vmess, .named "z" .socks, .named "w" .socks]
  inbounds := [{ tag := "in", port := 1080 }]

theorem managed_leaf_agrees : nestedPools.normalize = nestedPools ∧
    (1, { tag := "x" }) ∈ nestedPools.placed ∧
    ¬ (nestedPools.kindOf { tag := "x" } = .roundRobin ∧ nestedPools.Managed "x") ∧
    ((nestedPools.canLink ⟨"x", false⟩ "w").Allowed ↔
      "w" ∈ (nestedPools.modifyPlaced "x" fun node =>
        { node with detours := ["w"] }).normalize.detoursOf ⟨"x", false⟩) := by
  have hnormal : nestedPools.normalize = nestedPools := by decide
  have hentry : (1, { tag := "x" }) ∈ nestedPools.placed := by decide
  have hfree : ¬ (nestedPools.kindOf { tag := "x" } = .roundRobin ∧ nestedPools.Managed "x") :=
    fun hpool => absurd hpool.1 (by decide)
  exact ⟨hnormal, hentry, hfree,
    canLink_allowed_iff_mem_normalize hnormal hentry hfree "w"⟩

/-! ### Links from inbounds -/

/-- What is left of the links of an inbound in the normal form. -/
theorem detoursOf_normalize_inbound (t : Topology) (tag : String) :
    t.normalize.detoursOf ⟨tag, true⟩ = (Tag.unique (t.detoursOf ⟨tag, true⟩)).filter
      fun target => t.withNodes.index.inHop target 0 := by
  have hfind : t.normalize.inbound? tag = ((t.inbound? tag).map Inbound.repairDefault).map
      (Inbound.repairDetours t.withNodes.index) := by
    rw [inbound?, inbound?, inbounds_normalize, List.find?_map, List.find?_map]
    simp [Function.comp_def]
  show (t.normalize.inbound? tag).elim [] Inbound.detours =
    (Tag.unique ((t.inbound? tag).elim [] Inbound.detours)).filter _
  rw [hfind]
  cases t.inbound? tag with
  | none => rfl
  | some inbound => simp

theorem detoursOf_modifyInbound {t : Topology} {tag : String}
    (hfound : (t.inbound? tag).isSome = true) (change : List String → List String) :
    (t.modifyInbound tag fun inbound =>
      { inbound with detours := change inbound.detours }).detoursOf ⟨tag, true⟩ =
      change (t.detoursOf ⟨tag, true⟩) := by
  obtain ⟨inbound, hinbound⟩ := Option.isSome_iff_exists.1 hfound
  have hchanged : (t.modifyInbound tag fun inbound =>
      { inbound with detours := change inbound.detours }).inbound? tag =
      (t.inbound? tag).map fun inbound => { inbound with detours := change inbound.detours } :=
    find?_modifyFirst_key Inbound.tag (by intro _; rfl) tag t.inbounds
  show (inbound? _ tag).elim [] Inbound.detours =
    change ((t.inbound? tag).elim [] Inbound.detours)
  rw [hchanged, hinbound]
  rfl

/-! ### Links that are kept -/

/-- The source of a link is a round-robin node in the pool of another one with an output. -/
def FromManagedPool (t : Topology) (source : LinkSource) : Prop :=
  source.isInbound = false ∧ t.Managed source.tag ∧
    ∃ entry ∈ t.placed, entry.2.tag = source.tag ∧ t.kindOf entry.2 = .roundRobin

theorem link_denied (t : Topology) {source : LinkSource} {target : String} {denial : Denial}
    (h : (t.link source target).decision = .deny denial) : (t.link source target).topology = t := by
  rw [link] at h ⊢
  cases hdecision : t.decideLink t.index source target with
  | allow kind => rw [hdecision] at h; cases h
  | deny other => rfl

theorem link_of_allow {t : Topology} {source : LinkSource} {target : String} {kind : EdgeKind}
    (h : (t.link source target).decision = .allow kind) :
    t.canLink source target = .allow kind ∧
      (t.link source target).topology = t.addLink t.index source target kind := by
  rw [link] at h ⊢
  rw [canLink]
  cases hdecision : t.decideLink t.index source target with
  | deny denial => rw [hdecision] at h; cases h
  | allow other =>
      rw [hdecision] at h
      obtain rfl : other = kind := LinkDecision.allow.inj h
      exact ⟨rfl, rfl⟩

namespace IsNormal

variable {t : Topology} (h : t.IsNormal) {source target : String} {kind : EdgeKind}

include h

theorem link_kept_inbound (hallow : t.canLink ⟨source, true⟩ target = .allow kind) :
    target ∈ (t.addLink t.index ⟨source, true⟩ target kind).normalize.detoursOf ⟨source, true⟩ := by
  obtain ⟨rfl, -, hfound, hplaced⟩ := h.canLink_inbound_eq_allow_iff.1 hallow
  rw [addLink, if_pos rfl, detoursOf_normalize_inbound, detoursOf_modifyInbound hfound]
  refine List.mem_filter.2 ⟨Tag.mem_unique.2 ⟨mem_addDetour .., h.tag_ne_empty hplaced⟩, ?_⟩
  -- The inbounds do not show in the index.
  show t.withNodes.index.inHop target 0 = true
  rw [h.withNodes_eq_self]
  exact h.inHop_iff.2 hplaced

theorem link_kept_node (hallow : t.canLink ⟨source, false⟩ target = .allow kind) :
    target ∈ (t.addLink t.index ⟨source, false⟩ target kind).normalize.detoursOf ⟨source, false⟩ ↔
      ¬ t.Managed source := by
  obtain ⟨entry, hentry, rfl⟩ := h.placed_of_canLink_eq_allow hallow
  obtain ⟨-, hreach⟩ := (h.canLink_entry_eq_allow_iff hentry).1 hallow
  have hhop : t.index.hopOf? entry.2.tag = some entry.1 :=
    h.hopOf?_eq_some_iff.2 (placedIn_of_mem hentry)
  rw [addLink, if_neg hreach.ne_inboundEntry, hhop, Option.getD_some,
    h.mem_detoursOf_normalize_modifyPlaced hentry]
  exact and_iff_left (h.mem_legalDetours_addDetour hreach _)

end IsNormal

/-- An allowed link is kept when the topology is normalized, unless its source is a managed
round-robin node. -/
theorem link_kept_iff {t : Topology} (h : t.normalize = t) {source : LinkSource} {target : String}
    {kind : EdgeKind} (hallow : (t.link source target).decision = .allow kind) :
    target ∈ (t.link source target).topology.normalize.detoursOf source ↔
      ¬ t.FromManagedPool source := by
  have hnormal := isNormal_of_normalize_eq_self h
  obtain ⟨hallow, hlinked⟩ := link_of_allow hallow
  rw [hlinked]
  obtain ⟨source, isInbound⟩ := source
  cases isInbound with
  | true => exact iff_of_true (hnormal.link_kept_inbound hallow) fun hpool => nomatch hpool.1
  | false =>
      rw [hnormal.link_kept_node hallow]
      refine not_congr ⟨fun hmanaged => ?_, fun hpool => hpool.2.1⟩
      obtain ⟨entry, hentry, rfl⟩ := hnormal.placed_of_canLink_eq_allow hallow
      obtain ⟨hrole, -⟩ := (hnormal.canLink_entry_eq_allow_iff hentry).1 hallow
      exact ⟨rfl, hmanaged, entry, hentry, rfl, hrole hmanaged⟩

/-- The outer node gets another output, in whose place the old one was. -/
theorem output_link_kept : nestedPools.normalize = nestedPools ∧
    (nestedPools.link ⟨"outer", false⟩ "w").decision = .allow .output ∧
    "w" ∈
      (nestedPools.link ⟨"outer", false⟩ "w").topology.normalize.detoursOf ⟨"outer", false⟩ := by
  have hnormal : nestedPools.normalize = nestedPools := by decide
  have hallow : (nestedPools.link ⟨"outer", false⟩ "w").decision = .allow .output := by decide
  refine ⟨hnormal, hallow, (link_kept_iff hnormal hallow).2 ?_⟩
  -- A node in the first hop is in no pool.
  rintro ⟨-, ⟨source, -, hpool, -⟩, -⟩
  have hfirst : nestedPools.PlacedIn "outer" 0 := by decide
  have hhop := (isNormal_of_normalize_eq_self hnormal).hop_unique hfirst hpool.2.2
  omega

/-- The normal form takes from the inner node a link that was allowed. -/
theorem inner_pool_link_lost : nestedPools.normalize = nestedPools ∧
    (nestedPools.link ⟨"inner", false⟩ "z").decision = .allow .pool ∧
    "z" ∉
      (nestedPools.link ⟨"inner", false⟩ "z").topology.normalize.detoursOf ⟨"inner", false⟩ := by
  decide

end Topology

end ProxyChain
