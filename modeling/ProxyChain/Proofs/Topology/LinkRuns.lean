import Mathlib.Data.List.Perm.Basic
import ProxyChain.Proofs.Topology.Layers
import ProxyChain.Proofs.Topology.Linking

/-!
# ProxyChain.Proofs.Topology.LinkRuns

**Runs of link calls.** Between two links a topology need not be in normal form: a new member of a
pool is put behind the output, and a leaf that gets managed still has a link of its own. More than
that cannot go wrong, however many links are asked for (`normalize_linkAll`).

What one link keeps is `Topology.Linkable`: apart from the links of nodes all is as in normal form,
and the links of each node are legal ones *in some order*. Each kind of link has its own way into
the detours, and each of them keeps this (`LegalInSomeOrder.addDetour`). On the other side, legal
links in some order are brought into their order by the normal form and none of them is dropped
(`LegalInSomeOrder.legalDetours_eq`), so only managed nodes lose links.
-/

namespace ProxyChain

theorem toList_find?_eq_filter {p : α → Bool} {xs : List α} (h : (xs.filter p).length ≤ 1) :
    (xs.find? p).toList = xs.filter p := by
  rw [← List.head?_filter]
  match xs.filter p, h with
  | [], _ => rfl
  | [_], _ => rfl

namespace Topology

/-! ### Runs -/

/-- A topology after some links were asked for, one after the other. -/
def linkAll (t : Topology) (links : List (LinkSource × String)) : Topology :=
  links.foldl (fun t link => (t.link link.1 link.2).topology) t

/-! ### The order of links -/

instance (t : Topology) (hop : Nat) (tag : String) : Decidable (t.TwoAhead hop tag) :=
  inferInstanceAs (Decidable (_ ∨ _))

instance (t : Topology) (tag : String) : Decidable (t.Managed tag) :=
  decidable_of_iff (∃ source ∈ t.placed,
      (t.kindOf source.2 = .roundRobin ∧ tag ∈ source.2.detours ∧ t.PlacedIn tag (source.1 + 1)) ∧
        ∃ output ∈ source.2.detours, t.TwoAhead source.1 output) <| by
    refine exists_congr fun source => and_congr_right fun _ => and_congr_right fun hpool => ?_
    exact exists_congr fun output => (and_iff_right hpool.1).symm

/-- The targets of a round-robin node that can be its output. -/
def outputs (t : Topology) (source : Nat × PlacedNode) : List String :=
  source.2.detours.filter fun tag => t.TwoAhead source.1 tag

/-- The detours of a node in their order: for a round-robin node the pool comes first. -/
def orderedDetours (t : Topology) (source : Nat × PlacedNode) : List String :=
  if t.kindOf source.2 = .roundRobin then t.poolMembers source ++ t.outputs source
  else source.2.detours

/-- What normalizing leaves of the detours of a node after links only: all of them in their order,
or none if the node is managed. -/
def tidyDetours (t : Topology) (hop : Nat) (node : PlacedNode) : List String :=
  if t.Managed node.tag then [] else t.orderedDetours (hop, node)

/-- The detours are legal ones, but perhaps not in their order. -/
def LegalInSomeOrder (t : Topology) (hop : Nat) (role : NodeRole) (detours : List String) : Prop :=
  ∃ legal, t.LegalLinks hop role legal ∧ detours.Perm legal

/-- All is as in normal form but for the order of links, and managed nodes may have links. -/
structure Linkable (t : Topology) : Prop extends NodesSound t where
  inboundsSound : t.InboundsSound
  node_links : ∀ entry ∈ t.placed,
    t.LegalInSomeOrder entry.1 (t.kindOf entry.2).role entry.2.detours

theorem IsNormal.linkable {t : Topology} (h : t.IsNormal) : t.Linkable :=
  { h.toNodesSound with
    inboundsSound := h.inboundsSound
    node_links := fun entry hentry => ⟨_, h.node_links entry hentry, .refl _⟩ }

/-! ### What a link keeps -/

/-- When a round-robin node gets an output, it keeps its pool and gives up the output it had. -/
theorem NodesSound.filter_eq_pool {t : Topology} (hsound : t.NodesSound) {hop : Nat}
    {pool : List String} {output : Option String} (hpool : ∀ tag ∈ pool, t.PlacedIn tag (hop + 1))
    (houtput : ∀ tag ∈ output, t.TwoAhead hop tag) :
    (pool ++ output.toList).filter (fun tag => tag ≠ "" && tag ≠ Tag.internet &&
      !t.index.inHop tag (hop + 2)) = pool := by
  have hkept : ∀ tag ∈ pool, (tag ≠ "" && tag ≠ Tag.internet &&
      !t.index.inHop tag (hop + 2)) = true := by
    intro tag htag
    have hnot : t.index.inHop tag (hop + 2) = false := by
      rw [← Bool.not_eq_true, hsound.inHop_iff]
      exact fun hplaced => hsound.not_twoAhead (hpool tag htag) (Or.inl hplaced)
    simp [hsound.tag_ne_empty (hpool tag htag), hsound.tag_ne_internet (hpool tag htag), hnot]
  have hdropped : ∀ tag ∈ output.toList, (tag ≠ "" && tag ≠ Tag.internet &&
      !t.index.inHop tag (hop + 2)) = false := by
    intro tag htag
    rcases houtput tag (Option.mem_toList.1 htag) with hplaced | ⟨hexit, -⟩
    · simp [hsound.inHop_iff.2 hplaced]
    · simp [hexit]
  rw [List.filter_append, List.filter_eq_self.2 hkept,
    List.filter_eq_nil_iff.2 fun tag htag => by simpa using hdropped tag htag, List.append_nil]

namespace LegalInSomeOrder

variable {t : Topology} {hop : Nat} {detours : List String}

/-- A new member goes behind the output, where it is behind the pool in normal form. -/
theorem append_member (h : t.LegalInSomeOrder hop .roundRobin detours) {target : String}
    (hplaced : t.PlacedIn target (hop + 1)) (hnew : target ∉ detours) :
    t.LegalInSomeOrder hop .roundRobin (detours ++ [target]) := by
  obtain ⟨legal, ⟨hnodup, pool, output, rfl, hpool, houtput⟩, hperm⟩ := h
  have hmoved : (pool ++ output.toList ++ [target]).Perm (pool ++ [target] ++ output.toList) := by
    rw [List.append_assoc, List.append_assoc]
    exact List.perm_append_comm.append_left pool
  have hadded : (pool ++ output.toList ++ [target]).Nodup :=
    nodup_append_singleton hnodup fun hmem => hnew (hperm.mem_iff.2 hmem)
  refine ⟨_, ⟨hmoved.nodup_iff.1 hadded, pool ++ [target], output, rfl, ?_, houtput⟩,
    (hperm.append_right _).trans hmoved⟩
  exact List.forall_mem_append.2 ⟨hpool, by simpa using hplaced⟩

/-- An allowed link, added in the way of its kind, keeps the links legal up to their order. -/
theorem addDetour {role : NodeRole} (h : t.LegalInSomeOrder hop role detours)
    (hsound : t.NodesSound) {target : String} {kind : EdgeKind}
    (hreach : t.Reaches hop target role kind) :
    t.LegalInSomeOrder hop role (addDetour t.index hop kind target detours) := by
  cases hreach with
  | single hahead =>
      exact ⟨[target], ⟨Nat.le_refl 1, by simpa using hahead⟩, .refl _⟩
  | fanout hahead =>
      rw [Topology.addDetour]
      split
      · exact h
      · rename_i hnew
        obtain ⟨legal, ⟨hnodup, hlinks⟩, hperm⟩ := h
        refine ⟨legal ++ [target], ⟨?_, ?_⟩, hperm.append_right _⟩
        · exact nodup_append_singleton hnodup fun hmem => hnew (hperm.mem_iff.2 hmem)
        · exact List.forall_mem_append.2 ⟨hlinks, by simpa using hahead⟩
  | pool hplaced =>
      rw [Topology.addDetour]
      split
      · exact h
      · exact h.append_member hplaced ‹_›
  | output hbehind =>
      obtain ⟨legal, ⟨hnodup, pool, output, rfl, hpool, houtput⟩, hperm⟩ := h
      have hleft := hsound.filter_eq_pool hpool houtput
      have hnew : target ∉ pool := fun hmem => hsound.not_twoAhead (hpool target hmem) hbehind
      have hadded := nodup_append_singleton (List.nodup_append.1 hnodup).1 hnew
      exact ⟨pool ++ [target], ⟨hadded, pool, some target, rfl, hpool, by simpa using hbehind⟩,
        (hleft ▸ hperm.filter _).append_right _⟩

end LegalInSomeOrder

namespace Linkable

variable {t : Topology} (h : t.Linkable)

include h

theorem addLink_inbound {source target : String} (hplaced : t.PlacedIn target 0) :
    (t.addLink t.index ⟨source, true⟩ target .inboundEntry).Linkable := by
  refine { h.toNodesSound with inboundsSound := ?_, node_links := h.node_links }
  intro inbound hinbound
  show _ ∧ _
  rcases mem_modifyFirst hinbound with hold | ⟨before, hbefore, -, rfl⟩
  · exact h.inboundsSound inbound hold
  · obtain ⟨⟨hnodup, hlinks⟩, hdefault⟩ := h.inboundsSound before hbefore
    dsimp only [addDetour]
    split
    · exact ⟨⟨hnodup, hlinks⟩, hdefault⟩
    · refine ⟨⟨?_, List.forall_mem_append.2 ⟨hlinks, List.forall_mem_singleton.2 hplaced⟩⟩, ?_⟩
      · exact nodup_append_singleton hnodup ‹_›
      · intro tag htag
        exact List.mem_append_left _ (hdefault tag htag)

theorem addLink_node {entry : Nat × PlacedNode} (hentry : entry ∈ t.placed) {target : String}
    {kind : EdgeKind} (hreach : t.Reaches entry.1 target (t.kindOf entry.2).role kind) :
    (t.addLink t.index ⟨entry.2.tag, false⟩ target kind).Linkable := by
  have hhop : t.index.hopOf? entry.2.tag = some entry.1 :=
    h.hopOf?_eq_some_iff.2 (placedIn_of_mem hentry)
  rw [addLink, if_neg hreach.ne_inboundEntry, modifyPlaced_eq_relink h.placed_nodup, hhop,
    Option.getD_some]
  refine { h.toNodesSound.relink _ with inboundsSound := ?_, node_links := ?_ }
  · simpa [InboundsSound] using h.inboundsSound
  · rintro ⟨hop, after⟩ hafter
    obtain ⟨node, hnode, rfl⟩ := (mem_placed_relink _ _).1 hafter
    simp only [LegalInSomeOrder, legalLinks_relink, kindOf_relink]
    have hlinks := h.node_links (hop, node) hnode
    show t.LegalInSomeOrder hop (t.kindOf node).role (if _ then _ else _)
    split
    · obtain rfl : entry = (hop, node) := eq_of_tag_eq h.placed_nodup hentry hnode (Eq.symm ‹_›)
      exact hlinks.addDetour h.toNodesSound hreach
    · exact hlinks

/-- A link, allowed or denied, keeps a topology linkable. -/
theorem link (source : LinkSource) (target : String) :
    (t.link source target).topology.Linkable := by
  cases hdecision : (t.link source target).decision with
  | deny denial =>
      rw [link_denied t hdecision]
      exact h
  | allow kind =>
      obtain ⟨hallow, hlinked⟩ := link_of_allow hdecision
      rw [hlinked]
      obtain ⟨source, isInbound⟩ := source
      cases isInbound with
      | true =>
          obtain ⟨rfl, -, -, hplaced⟩ := h.canLink_inbound_eq_allow_iff.1 hallow
          exact h.addLink_inbound hplaced
      | false =>
          obtain ⟨entry, hentry, rfl⟩ := h.placed_of_canLink_eq_allow hallow
          exact h.addLink_node hentry ((h.canLink_entry_eq_allow_iff hentry).1 hallow).2

theorem linkAll (links : List (LinkSource × String)) : (t.linkAll links).Linkable := by
  induction links generalizing t with
  | nil => exact h
  | cons link rest ih => exact ih (h.link link.1 link.2)

end Linkable

/-! ### What normalizing makes of it -/

section

variable {t : Topology} (hsound : t.NodesSound) {entry : Nat × PlacedNode}
  (h : t.LegalInSomeOrder entry.1 (t.kindOf entry.2).role entry.2.detours)

include hsound h

/-- Of the links of a round-robin node at most one is an output, and the others are its pool. -/
theorem LegalInSomeOrder.outputs_length_le (hkind : t.kindOf entry.2 = .roundRobin) :
    (t.outputs entry).length ≤ 1 := by
  rw [hkind] at h
  obtain ⟨legal, ⟨-, pool, output, rfl, hpool, houtput⟩, hperm⟩ := h
  have hnone : pool.filter (fun tag => t.TwoAhead entry.1 tag) = [] := by
    refine List.filter_eq_nil_iff.2 fun tag htag hbehind => ?_
    exact hsound.not_twoAhead (hpool tag htag) (of_decide_eq_true hbehind)
  have hlength := (hperm.filter fun tag => t.TwoAhead entry.1 tag).length_eq
  rw [List.filter_append, hnone, List.nil_append] at hlength
  rw [outputs, hlength]
  exact Nat.le_trans (List.length_filter_le _ _) Option.length_toList_le

theorem LegalInSomeOrder.orderedDetours_perm : (t.orderedDetours entry).Perm entry.2.detours := by
  rw [orderedDetours]
  split
  · rename_i hkind
    rw [hkind] at h
    obtain ⟨legal, ⟨-, pool, output, rfl, hpool, houtput⟩, hperm⟩ := h
    have houtputs : t.outputs entry =
        entry.2.detours.filter fun tag => !decide (t.PlacedIn tag (entry.1 + 1)) := by
      refine List.filter_congr fun tag htag => ?_
      rw [← decide_not, decide_eq_decide]
      rcases List.mem_append.1 (hperm.mem_iff.1 htag) with hmem | hmem
      · have hplaced := hpool tag hmem
        exact iff_of_false (hsound.not_twoAhead hplaced) fun hnot => hnot hplaced
      · have hbehind := houtput tag (Option.mem_toList.1 hmem)
        exact iff_of_true hbehind fun hplaced => hsound.not_twoAhead hplaced hbehind
    rw [poolMembers, houtputs]
    exact List.filter_append_perm _ _
  · exact .refl _

/-- Legal links in some order are brought into their order, and none is dropped. -/
theorem LegalInSomeOrder.legalDetours_eq :
    t.index.legalDetours entry.1 (t.kindOf entry.2) entry.2.detours = t.orderedDetours entry := by
  obtain ⟨legal, hlegal, hperm⟩ := id h
  rw [orderedDetours]
  split
  · rename_i hkind
    have hunique : Tag.unique entry.2.detours = entry.2.detours :=
      Tag.unique_eq_self (hperm.nodup_iff.2 hlegal.nodup) fun tag htag =>
        hsound.ne_empty_of_isTarget (hlegal.isTarget (hperm.mem_iff.1 htag))
    have hpool : entry.2.detours.filter (fun tag => t.index.inHop tag (entry.1 + 1)) =
        t.poolMembers entry := by
      refine List.filter_congr fun tag _ => ?_
      rw [Bool.eq_iff_iff, hsound.inHop_iff, decide_eq_true_iff]
    have houtputs : entry.2.detours.filter (t.index.isOutputTarget entry.1) = t.outputs entry := by
      refine List.filter_congr fun tag _ => ?_
      rw [Bool.eq_iff_iff, hsound.isOutputTarget_iff, decide_eq_true_iff]
    have hlength := h.outputs_length_le hsound hkind
    rw [← houtputs] at hlength
    simp only [hkind, Index.legalDetours, NodeKind.role, Index.splitPool, Index.PoolEdges.detours,
      hunique, hpool, toList_find?_eq_filter hlength, houtputs]
  · rename_i hkind
    refine hsound.legalDetours_eq_self ?_
    cases hrole : (t.kindOf entry.2).role with
    | roundRobin => exact absurd (NodeKind.role_eq_roundRobin_iff.1 hrole) hkind
    | leaf =>
        rw [hrole] at hlegal
        exact ⟨hperm.length_eq ▸ hlegal.1, fun tag htag => hlegal.2 tag (hperm.mem_iff.1 htag)⟩
    | selector =>
        rw [hrole] at hlegal
        exact ⟨hperm.nodup_iff.2 hlegal.1, fun tag htag => hlegal.2 tag (hperm.mem_iff.1 htag)⟩

end

/-- Which nodes are managed does not depend on the order of links. -/
theorem managed_relink_iff_of_perm {t : Topology} {links : Nat → PlacedNode → List String}
    (hperm : ∀ entry ∈ t.placed, (links entry.1 entry.2).Perm entry.2.detours) {tag : String} :
    (t.relink links).Managed tag ↔ t.Managed tag := by
  have hsame : ∀ {hop : Nat} {node : PlacedNode}, (hop, node) ∈ t.placed → ∀ {target : String},
      target ∈ links hop node ↔ target ∈ node.detours :=
    fun hnode => (hperm _ hnode).mem_iff
  constructor
  · rintro ⟨⟨hop, after⟩, hafter, hpool, output, houtput⟩
    obtain ⟨node, hnode, rfl⟩ := (mem_placed_relink links t).1 hafter
    rw [inPool_relink] at hpool
    rw [isOutput_relink] at houtput
    exact ⟨(hop, node), hnode, ⟨hpool.1, (hsame hnode).1 hpool.2.1, hpool.2.2⟩, output,
      houtput.1, (hsame hnode).1 houtput.2.1, houtput.2.2⟩
  · rintro ⟨⟨hop, node⟩, hnode, hpool, output, houtput⟩
    refine ⟨_, (mem_placed_relink links t).2 ⟨node, hnode, rfl⟩, ?_, output, ?_⟩
    · exact (inPool_relink ..).2 ⟨hpool.1, (hsame hnode).2 hpool.2.1, hpool.2.2⟩
    · exact (isOutput_relink ..).2 ⟨houtput.1, (hsame hnode).2 houtput.2.1, houtput.2.2⟩

/-- Normalizing a linkable topology tidies the links of its nodes and does nothing else. -/
theorem Linkable.normalize_eq {t : Topology} (h : t.Linkable) :
    t.normalize = t.relink t.tidyDetours := by
  have hlinked : t.linked = t.relink fun hop node => t.orderedDetours (hop, node) := by
    rw [h.toNodesSound.linked_eq_relink h.inboundsSound]
    exact relink_congr fun entry hentry =>
      (h.node_links entry hentry).legalDetours_eq h.toNodesSound
  have hmanaged : ∀ tag, tag ∈ t.linked.managedMembers t.linked.index ↔ t.Managed tag := by
    intro tag
    rw [(nodesSound_linked t).mem_managedMembers_iff, hlinked]
    exact managed_relink_iff_of_perm fun entry hentry =>
      (h.node_links entry hentry).orderedDetours_perm h.toNodesSound
  rw [normalize_eq_relink]
  generalize t.linked.managedMembers t.linked.index = managed at hmanaged
  rw [hlinked, relink_relink]
  refine relink_congr fun entry _ => ?_
  simp only [unmanagedDetours, tidyDetours, List.contains_iff_mem, hmanaged]

/-- After a run of links from a topology in normal form, whether allowed or denied, normalizing
takes the links from managed nodes, puts the pool of each other round-robin node in front of its
output, and does nothing else. -/
theorem normalize_linkAll {t : Topology} (h : t.normalize = t)
    (links : List (LinkSource × String)) :
    (t.linkAll links).normalize = (t.linkAll links).relink (t.linkAll links).tidyDetours ∧
      ∀ source ∈ (t.linkAll links).roundRobins,
        ((t.linkAll links).poolMembers source ++ (t.linkAll links).outputs source).Perm
            source.2.detours ∧
          ((t.linkAll links).outputs source).length ≤ 1 := by
  have hlinkable := (isNormal_of_normalize_eq_self h).linkable.linkAll links
  refine ⟨hlinkable.normalize_eq, fun source hsource => ?_⟩
  obtain ⟨hplaced, hkind⟩ := mem_roundRobins_iff.1 hsource
  have hlinks := hlinkable.node_links source hplaced
  have hperm := hlinks.orderedDetours_perm hlinkable.toNodesSound
  rw [orderedDetours, if_pos hkind] at hperm
  exact ⟨hperm, hlinks.outputs_length_le hlinkable.toNodesSound hkind⟩

/-- A round-robin node without links in front of a leaf that has one. -/
def looseEnds : Topology where
  layers := [
    { id := "layer-1", nodes := [{ tag := "rr" }] },
    { id := "layer-2", nodes := [{ tag := "x", detours := ["z"] }, { tag := "y" }] },
    { id := "layer-3", nodes := [{ tag := "z" }, { tag := "w" }] }]
  library := [.internet, .named "rr" .roundRobin, .named "x" .vmess, .named "y" .trojan,
    .named "z" .socks, .named "w" .socks]
  inbounds := [{ tag := "in", port := 1080 }]

/-- Links that make the leaf a managed one; the next to last one is denied for that. -/
def looseLinks : List (LinkSource × String) :=
  [(⟨"rr", false⟩, "z"), (⟨"rr", false⟩, "y"), (⟨"rr", false⟩, "x"), (⟨"x", false⟩, "w"),
    (⟨"in", true⟩, "rr")]

theorem looseEnds_tidied : looseEnds.normalize = looseEnds ∧
    (looseEnds.linkAll looseLinks).nodes =
      [{ tag := "rr", detours := ["z", "y", "x"] }, { tag := "x", detours := ["z"] },
        { tag := "y" }, { tag := "z" }, { tag := "w" }] ∧
    (looseEnds.linkAll looseLinks).normalize.nodes =
      [{ tag := "rr", detours := ["y", "x", "z"] }, { tag := "x" }, { tag := "y" },
        { tag := "z" }, { tag := "w" }] := by
  have hnormal : looseEnds.normalize = looseEnds := by decide
  refine ⟨hnormal, by decide, ?_⟩
  rw [(normalize_linkAll hnormal looseLinks).1]
  decide

end Topology

end ProxyChain
