import ProxyChain.Proofs.Topology.Survivors

/-!
# ProxyChain.Proofs.Topology.Clearing

**Which links normalizing clears.** A round-robin node claims the members of its pool if its legal
links give it an output. All nodes that are claimed lose their links at once
(`Topology.linksAfter_normalize`), so a node that claims others may itself lose the output by which
it claims them. What it claims is cleared nevertheless, and is then managed by no one.
-/

namespace ProxyChain

namespace Topology

variable (t : Topology)

/-- By its legal detours a round-robin node has a tag in its pool, and an output. -/
def Claims (source : Nat × PlacedNode) (tag : String) : Prop :=
  t.normalize.InPool (t.legalNode source) tag ∧
    ∃ output, t.normalize.IsOutput (t.legalNode source) output

/-- Some node that stays claims the tag. -/
def Claimed (tag : String) : Prop :=
  ∃ source ∈ t.survivors, t.Claims source tag

/-- What becomes of the links of a node that stays. -/
structure LinksAfter (before after : Nat × PlacedNode) : Prop where
  hop : after.1 = before.1
  tag : after.2.tag = before.2.tag
  kept : ¬ t.Claimed before.2.tag → after.2.detours = t.legalDetoursOf before
  cleared : t.Claimed before.2.tag → after.2.detours = []
  /-- Only nodes that are not claimed themselves still manage what they claim. -/
  managed_iff : t.normalize.Managed before.2.tag ↔
    ∃ source ∈ t.survivors, t.Claims source before.2.tag ∧ ¬ t.Claimed source.2.tag

theorem inPool_normalize {source : Nat × PlacedNode} {tag : String} :
    t.normalize.InPool source tag ↔ t.linked.InPool source tag := by
  rw [normalize_eq_relink, inPool_relink]

theorem isOutput_normalize {source : Nat × PlacedNode} {tag : String} :
    t.normalize.IsOutput source tag ↔ t.linked.IsOutput source tag := by
  rw [normalize_eq_relink, isOutput_relink]

variable {t}

/-- The nodes that are cleared are those that are claimed. -/
theorem mem_managedTags_iff {tag : String} : tag ∈ t.managedTags ↔ t.Claimed tag := by
  rw [managedTags, (nodesSound_linked t).mem_managedMembers_iff, Managed, placed_linked, Claimed]
  simp only [List.mem_map, exists_exists_and_eq_and, Claims, inPool_normalize, isOutput_normalize]

theorem managed_normalize_iff {tag : String} : t.normalize.Managed tag ↔
    ∃ source ∈ t.survivors, t.Claims source tag ∧ ¬ t.Claimed source.2.tag := by
  rw [Managed, placed_normalize]
  simp only [List.mem_map, exists_exists_and_eq_and]
  refine exists_congr fun source => and_congr_right fun _ => ?_
  rw [← mem_managedTags_iff]
  by_cases hclaimed : source.2.tag ∈ t.managedTags
  · simp only [List.contains_iff_mem, hclaimed, if_true, not_true, and_false, iff_false]
    rintro ⟨⟨-, hmem, -⟩, -⟩
    exact List.not_mem_nil hmem
  · simp only [List.contains_iff_mem, hclaimed, if_false, not_false_iff, and_true]
    rfl

variable (t) in
/-- A node keeps its legal links, unless it is claimed. -/
theorem linksAfter_normalize : List.Forall₂ t.LinksAfter t.survivors t.normalize.placed := by
  rw [placed_normalize, List.forall₂_map_right_iff, List.forall₂_same]
  intro entry _
  refine ⟨rfl, rfl, ?_, ?_, managed_normalize_iff⟩
  · rw [← mem_managedTags_iff]
    exact fun hfree => if_neg (by simpa using hfree)
  · rw [← mem_managedTags_iff]
    exact fun hclaimed => if_pos (by simpa using hclaimed)

/-- Two round-robin nodes in a row: the outer one claims the inner one, and the inner one the node
behind it, which has a link of its own. -/
def claimedClaimer : Topology where
  layers := [
    { id := "layer-1", nodes := [{ tag := "outer", detours := ["inner", "a"] }] },
    { id := "layer-2", nodes := [{ tag := "inner", detours := ["a", "z"] }] },
    { id := "layer-3", nodes := [{ tag := "a", detours := ["z"] }] },
    { id := "layer-4", nodes := [{ tag := "z" }] }]
  library := [.internet, .named "outer" .roundRobin, .named "inner" .roundRobin,
    .named "a" .vmess, .named "z" .socks]

/-- A node that nothing manages any more can still have lost its legal links. -/
theorem not_forall_unmanaged_kept : ¬ ∀ (t : Topology) (before after : Nat × PlacedNode),
    (before, after) ∈ t.survivors.zip t.normalize.placed →
      ¬ t.normalize.Managed after.2.tag → after.2.detours = t.legalDetoursOf before := by
  intro h
  have hfree : ¬ claimedClaimer.normalize.Managed "a" := by
    rw [← (isNormal_normalize claimedClaimer).toNodesSound.mem_managedMembers_iff]
    decide
  have hlost := h claimedClaimer (2, { tag := "a", detours := ["z"] }) (2, { tag := "a" })
    (by decide) hfree
  exact absurd hlost (by decide)

end Topology

end ProxyChain
