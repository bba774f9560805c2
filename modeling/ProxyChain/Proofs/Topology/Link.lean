import ProxyChain.Proofs.Topology.Normalize
import ProxyChain.Topology.Link

/-!
# ProxyChain.Proofs.Topology.Link

**Which links are allowed**, said without the index and without the order of the checks. A node
reaches some targets from its hop, by a kind of link that its role has (`Topology.Reaches`). A link
from a node is allowed where its target is reached, unless the node is managed; that exception is
not made for round-robin nodes (`NodesSound.canLink_entry_eq_allow_iff`). A link from an inbound is
allowed into the first hop (`NodesSound.canLink_inbound_eq_allow_iff`).

The normal form says the same about the links that are there already, so each of them would be
allowed again. There is one exception: an inbound and a node may share a tag, and a link between
the two counts as a link of the tag to itself.
-/

namespace ProxyChain

/-- A link is allowed, of whatever kind it is. -/
def LinkDecision.Allowed (decision : LinkDecision) : Prop :=
  ∃ kind, decision = .allow kind

theorem NodeKind.role_eq_roundRobin_iff {kind : NodeKind} :
    kind.role = .roundRobin ↔ kind = .roundRobin := by
  cases kind <;> decide

namespace Topology

/-! ### Targets in reach -/

/-- A target that a node of some role reaches from its hop, and the kind of the link to it. -/
inductive Reaches (t : Topology) (hop : Nat) (tag : String) : NodeRole → EdgeKind → Prop
  | single : t.OneAhead hop tag → Reaches t hop tag .leaf .single
  | fanout : t.OneAhead hop tag → Reaches t hop tag .selector .fanout
  | pool : t.PlacedIn tag (hop + 1) → Reaches t hop tag .roundRobin .pool
  | output : t.TwoAhead hop tag → Reaches t hop tag .roundRobin .output

section

variable {t : Topology} {hop : Nat} {tag : String} {role : NodeRole} {kind : EdgeKind}

theorem Reaches.isTarget (h : t.Reaches hop tag role kind) : t.IsTarget tag := by
  cases h with
  | single h => exact h.isTarget
  | fanout h => exact h.isTarget
  | pool h => exact h.isTarget
  | output h => exact h.isTarget

theorem reaches_leaf_iff : t.Reaches hop tag .leaf kind ↔ kind = .single ∧ t.OneAhead hop tag := by
  constructor
  · rintro (hahead | _)
    exact ⟨rfl, hahead⟩
  · rintro ⟨rfl, hahead⟩
    exact .single hahead

theorem reaches_selector_iff :
    t.Reaches hop tag .selector kind ↔ kind = .fanout ∧ t.OneAhead hop tag := by
  constructor
  · rintro (_ | hahead)
    exact ⟨rfl, hahead⟩
  · rintro ⟨rfl, hahead⟩
    exact .fanout hahead

theorem reaches_roundRobin_iff : t.Reaches hop tag .roundRobin kind ↔
    kind = .pool ∧ t.PlacedIn tag (hop + 1) ∨ kind = .output ∧ t.TwoAhead hop tag := by
  constructor
  · rintro (_ | _ | hpool | houtput)
    · exact Or.inl ⟨rfl, hpool⟩
    · exact Or.inr ⟨rfl, houtput⟩
  · rintro (⟨rfl, hpool⟩ | ⟨rfl, houtput⟩)
    · exact .pool hpool
    · exact .output houtput

theorem Reaches.ne_inboundEntry (h : t.Reaches hop tag role kind) : kind ≠ .inboundEntry := by
  rintro rfl
  cases h

theorem Reaches.twoAhead (h : t.Reaches hop tag role .output) : t.TwoAhead hop tag := by
  cases h with
  | output h => exact h

theorem LegalLinks.reaches {detours : List String} (h : t.LegalLinks hop role detours)
    (htag : tag ∈ detours) : ∃ kind, t.Reaches hop tag role kind := by
  cases role with
  | leaf => exact ⟨.single, .single (h.2 tag htag)⟩
  | selector => exact ⟨.fanout, .fanout (h.2 tag htag)⟩
  | roundRobin =>
      obtain ⟨-, pool, output, rfl, hpool, houtput⟩ := h
      rcases List.mem_append.1 htag with htag | htag
      · exact ⟨.pool, .pool (hpool tag htag)⟩
      · exact ⟨.output, .output (houtput tag (Option.mem_toList.1 htag))⟩

end

namespace NodesSound

variable {t : Topology} (h : t.NodesSound)

include h

theorem ne_of_reaches {entry : Nat × PlacedNode} (hentry : entry ∈ t.placed) {tag : String}
    {role : NodeRole} {kind : EdgeKind} (hreach : t.Reaches entry.1 tag role kind) :
    entry.2.tag ≠ tag := by
  rintro rfl
  have hbehind : ∀ {distance : Nat}, 0 < distance →
      ¬ t.PlacedIn entry.2.tag (entry.1 + distance) := by
    intro distance hpos hplaced
    have := h.hop_unique (placedIn_of_mem hentry) hplaced
    omega
  have hexit := (h.placed_mem_allowed hentry).2
  cases hreach with
  | single hahead => exact hahead.elim (hbehind Nat.one_pos) fun hinternet => hexit hinternet.1
  | fanout hahead => exact hahead.elim (hbehind Nat.one_pos) fun hinternet => hexit hinternet.1
  | pool hplaced => exact hbehind Nat.one_pos hplaced
  | output hahead => exact hahead.elim (hbehind Nat.two_pos) fun hinternet => hexit hinternet.1

/-! ### Deciding on links from nodes -/

theorem decideStepLink_eq_allow_iff {source target : String} {hop : Nat} {kind other : EdgeKind} :
    decideStepLink t.index kind source hop target (t.index.hopOf? target) = .allow other ↔
      kind = other ∧ t.OneAhead hop target := by
  rw [← h.isAdjacentTarget_iff, Index.isAdjacentTarget, decideStepLink]
  by_cases htarget : target = Tag.internet
  · rw [if_pos htarget, if_pos htarget]
    cases t.index.isLastHop hop <;> simp
  · rw [if_neg htarget, if_neg htarget, Index.inHop, decide_eq_true_iff]
    by_cases hnext : t.index.hopOf? target = some (hop + 1) <;> simp [hnext]

theorem decidePoolLink_eq_allow_iff {source target : String} {hop : Nat} {kind : EdgeKind} :
    decidePoolLink t.index source hop target (t.index.hopOf? target) = .allow kind ↔
      t.Reaches hop target .roundRobin kind := by
  rw [reaches_roundRobin_iff, ← h.isOutputTarget_iff, Index.isOutputTarget, decidePoolLink]
  by_cases htarget : target = Tag.internet
  · have hexit : ¬ t.PlacedIn target (hop + 1) := fun hplaced => h.tag_ne_internet hplaced htarget
    rw [if_pos htarget, if_pos htarget]
    cases t.index.isSecondToLastHop hop <;> simp [hexit, eq_comm]
  · rw [if_neg htarget, if_neg htarget, Index.inHop, decide_eq_true_iff, ← h.hopOf?_eq_some_iff]
    by_cases hnext : t.index.hopOf? target = some (hop + 1)
    · simp [hnext, eq_comm]
    · by_cases hfar : t.index.hopOf? target = some (hop + 2) <;> simp [hnext, hfar, eq_comm]

/-- Whether a target is reached from a node depends on its role, and no more than that is checked
once the node may have links of its own. -/
theorem decideNodeLink_eq_allow_iff {entry : Nat × PlacedNode} (hentry : entry ∈ t.placed)
    {target : String} {kind : EdgeKind} :
    t.decideNodeLink t.index entry.2.tag target = .allow kind ↔
      (t.Managed entry.2.tag → t.kindOf entry.2 = .roundRobin) ∧
        t.Reaches entry.1 target (t.kindOf entry.2).role kind := by
  rw [decideNodeLink, h.lookup_placements_eq_some_iff.2 ⟨entry, hentry, rfl, rfl⟩]
  dsimp only
  by_cases hmanaged : t.Managed entry.2.tag ∧ t.kindOf entry.2 ≠ .roundRobin
  · rw [if_pos ⟨fun hrole => hmanaged.2 (NodeKind.role_eq_roundRobin_iff.1 hrole),
      h.mem_managedMembers_iff.2 hmanaged.1⟩]
    simp [hmanaged]
  · have hfree : t.Managed entry.2.tag → t.kindOf entry.2 = .roundRobin := by
      intro hmember
      by_contra hkind
      exact hmanaged ⟨hmember, hkind⟩
    rw [if_neg fun hdenied => hdenied.1 (NodeKind.role_eq_roundRobin_iff.2
      (hfree (h.mem_managedMembers_iff.1 hdenied.2))), and_iff_right hfree]
    by_cases hmissing : target ≠ Tag.internet ∧ t.index.hopOf? target = none
    · -- What is neither placed nor the exit is in nobody's reach.
      rw [if_pos hmissing]
      refine ⟨nofun, fun hreach => ?_⟩
      rcases hreach.isTarget with hplaced | hexit
      · obtain ⟨other, hother, htag⟩ := List.mem_map.1 hplaced
        have hhop := h.hopOf?_eq_some_iff.2 (htag ▸ placedIn_of_mem hother)
        rw [hmissing.2] at hhop
        cases hhop
      · exact absurd hexit hmissing.1
    · rw [if_neg hmissing]
      cases (t.kindOf entry.2).role with
      | roundRobin => exact h.decidePoolLink_eq_allow_iff
      | selector => rw [reaches_selector_iff, h.decideStepLink_eq_allow_iff, eq_comm]
      | leaf => rw [reaches_leaf_iff, h.decideStepLink_eq_allow_iff, eq_comm]

/-- A link from a node is allowed where its target is reached, unless the node is managed and no
round-robin node. -/
theorem canLink_entry_eq_allow_iff {entry : Nat × PlacedNode} (hentry : entry ∈ t.placed)
    {target : String} {kind : EdgeKind} :
    t.canLink ⟨entry.2.tag, false⟩ target = .allow kind ↔
      (t.Managed entry.2.tag → t.kindOf entry.2 = .roundRobin) ∧
        t.Reaches entry.1 target (t.kindOf entry.2).role kind := by
  by_cases hself : entry.2.tag = target
  · have hdenied : t.canLink ⟨entry.2.tag, false⟩ target = .deny (.selfLink entry.2.tag) :=
      if_pos hself
    rw [hdenied]
    exact ⟨nofun, fun hallowed => absurd hself (h.ne_of_reaches hentry hallowed.2)⟩
  · have hnode : t.canLink ⟨entry.2.tag, false⟩ target =
        t.decideNodeLink t.index entry.2.tag target := if_neg hself
    rw [hnode, h.decideNodeLink_eq_allow_iff hentry]

theorem placed_of_canLink_eq_allow {source target : String} {kind : EdgeKind}
    (hallow : t.canLink ⟨source, false⟩ target = .allow kind) :
    ∃ entry ∈ t.placed, entry.2.tag = source := by
  have hnode : t.canLink ⟨source, false⟩ target =
      if source = target then .deny (.selfLink source)
      else t.decideNodeLink t.index source target := rfl
  rw [hnode] at hallow
  split at hallow
  · cases hallow
  · cases hlookup : t.index.placements.lookup source with
    | none => rw [decideNodeLink, hlookup] at hallow; cases hallow
    | some placement =>
        obtain ⟨entry, hentry, htag, -⟩ := h.lookup_placements_eq_some_iff.1 hlookup
        exact ⟨entry, hentry, htag⟩

/-! ### Deciding on links from inbounds -/

/-- A link from an inbound is allowed into the first hop, but not to a node that has the tag of the
inbound. -/
theorem canLink_inbound_eq_allow_iff {source target : String} {kind : EdgeKind} :
    t.canLink ⟨source, true⟩ target = .allow kind ↔
      kind = .inboundEntry ∧ source ≠ target ∧ (t.inbound? source).isSome = true ∧
        t.PlacedIn target 0 := by
  have hinbound : t.canLink ⟨source, true⟩ target =
      if source = target then .deny (.selfLink source)
      else t.decideInboundLink t.index source target := rfl
  rw [hinbound, decideInboundLink, ← h.inHop_iff]
  by_cases hself : source = target
  · simp [hself]
  · rw [if_neg hself]
    cases hfind : t.inbound? source with
    | none => simp
    | some inbound =>
        by_cases htarget : target = Tag.internet
        · have hexit : t.index.inHop target 0 = false := by
            rw [← Bool.not_eq_true, h.inHop_iff]
            exact fun hplaced => h.tag_ne_internet hplaced htarget
          simp [htarget, htarget ▸ hexit]
        · cases t.index.inHop target 0 <;> simp [htarget, hself, eq_comm]

end NodesSound

/-! ### Links in normal form -/

namespace IsNormal

variable {t : Topology} (h : t.IsNormal)

include h

theorem canLink_node_allowed {entry : Nat × PlacedNode} (hentry : entry ∈ t.placed) {tag : String}
    (htag : tag ∈ entry.2.detours) : (t.canLink ⟨entry.2.tag, false⟩ tag).Allowed := by
  obtain ⟨kind, hreach⟩ := (h.node_links entry hentry).reaches htag
  refine ⟨kind, (h.canLink_entry_eq_allow_iff hentry).2 ⟨?_, hreach⟩⟩
  -- A node with a link is not managed.
  rintro ⟨source, hsource, hpool, output, houtput⟩
  rw [h.managed_idle source hsource output houtput entry hentry hpool] at htag
  exact absurd htag List.not_mem_nil

theorem canLink_inbound_allowed_iff {inbound : Inbound} (hinbound : inbound ∈ t.inbounds)
    {tag : String} (htag : tag ∈ inbound.detours) :
    (t.canLink ⟨inbound.tag, true⟩ tag).Allowed ↔ tag ≠ inbound.tag := by
  have hfound : (t.inbound? inbound.tag).isSome = true :=
    List.find?_isSome.2 ⟨inbound, hinbound, decide_eq_true rfl⟩
  have hplaced := (h.inbound_links inbound hinbound).2 tag htag
  constructor
  · rintro ⟨kind, hallow⟩
    exact (h.canLink_inbound_eq_allow_iff.1 hallow).2.1.symm
  · intro hne
    exact ⟨_, h.canLink_inbound_eq_allow_iff.2 ⟨rfl, hne.symm, hfound, hplaced⟩⟩

end IsNormal

/-- Each link that is left after normalizing would be allowed again, unless it leads from an inbound
to a node of the same tag. -/
theorem normalize_links_allowed (t : Topology) :
    (∀ entry ∈ t.normalize.placed, ∀ tag ∈ entry.2.detours,
      (t.normalize.canLink ⟨entry.2.tag, false⟩ tag).Allowed) ∧
    ∀ inbound ∈ t.normalize.inbounds, ∀ tag ∈ inbound.detours,
      ((t.normalize.canLink ⟨inbound.tag, true⟩ tag).Allowed ↔ tag ≠ inbound.tag) :=
  have hnormal := isNormal_normalize t
  ⟨fun _ hentry _ htag => hnormal.canLink_node_allowed hentry htag,
    fun _ hinbound _ htag => hnormal.canLink_inbound_allowed_iff hinbound htag⟩

/-- An inbound and a node of one tag, which are linked. -/
def namesakes : Topology where
  layers := [
    { id := "layer-1", nodes := [{ tag := "a", detours := ["direct"] }, { tag := "b" }] }]
  library := [.internet, .named "a" .vmess, .named "b" .trojan]
  inbounds := [{ tag := "a", port := 1080, detours := ["a", "b"] }]

theorem namesakes_links_allowed :
    (0, { tag := "a", detours := ["direct"] }) ∈ namesakes.normalize.placed ∧
      (namesakes.normalize.canLink ⟨"a", false⟩ "direct").Allowed ∧
      { tag := "a", port := 1080, detours := ["a", "b"] } ∈ namesakes.normalize.inbounds ∧
      (namesakes.normalize.canLink ⟨"a", true⟩ "b").Allowed :=
  have hnode : (0, { tag := "a", detours := ["direct"] }) ∈ namesakes.normalize.placed := by
    decide
  have hinbound : { tag := "a", port := 1080, detours := ["a", "b"] } ∈
      namesakes.normalize.inbounds := by decide
  ⟨hnode, (normalize_links_allowed namesakes).1 _ hnode "direct" (by decide), hinbound,
    ((normalize_links_allowed namesakes).2 _ hinbound "b" (by decide)).2 (by decide)⟩

theorem namesake_link_denied : namesakes.normalize = namesakes ∧
    ¬ ∀ inbound ∈ namesakes.normalize.inbounds, ∀ tag ∈ inbound.detours,
      (namesakes.normalize.canLink ⟨inbound.tag, true⟩ tag).Allowed := by
  refine ⟨by decide, fun hall => ?_⟩
  have hdenied : namesakes.normalize.canLink ⟨"a", true⟩ "a" = .deny (.selfLink "a") := by decide
  obtain ⟨kind, hallowed⟩ :=
    hall { tag := "a", port := 1080, detours := ["a", "b"] } (by decide) "a" (by decide)
  rw [hdenied] at hallowed
  cases hallowed

end Topology

end ProxyChain
