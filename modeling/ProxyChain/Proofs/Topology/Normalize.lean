import ProxyChain.Proofs.Topology.Repair

/-!
# ProxyChain.Proofs.Topology.Normalize

**Normalizing a topology.** `Topology.normalize` brings every topology into normal form
(`isNormal_normalize`), and a topology in normal form passes through it unchanged, with nothing to
count (`IsNormal.normalize_eq_self`, `IsNormal.repairs_eq`).

A pass touches only the library, the inbounds, the placements or the links, so what an earlier
pass established stays. That no two passes cancel each other out needs no argument of its own: a
topology that comes back unchanged is in normal form, because every result is, and then each pass
alone does nothing.
-/

namespace ProxyChain

namespace Topology

/-! ### Nodes -/

theorem NodesSound.librarySound {t : Topology} (h : t.NodesSound) : LibrarySound t.library :=
  ⟨h.library_nodup, h.exit_defined⟩

theorem NodesSound.mayBePlaced {t : Topology} (h : t.NodesSound) {entry : Nat × PlacedNode}
    (hentry : entry ∈ t.placed) : mayBePlaced t.library entry.2.tag = true :=
  mayBePlaced_iff.2 (h.placed_allowed _ (List.mem_map_of_mem hentry))

/-- After the passes over library and placements both are in order. -/
theorem nodesSound_withNodes (t : Topology) : t.withNodes.NodesSound := by
  have hlibrary := librarySound_repairLibrary t.library
  obtain ⟨hnodup, hkept⟩ := pruneLayers_spec (mayBePlaced (repairLibrary t.library)) 0 [] t.layers
  refine ⟨hlibrary.1, hlibrary.2, hnodup, ?_⟩
  intro tag htag
  obtain ⟨entry, hentry, rfl⟩ := List.mem_map.1 htag
  exact mayBePlaced_iff.1 (hkept entry hentry).1

/-- The passes over library, defaults and placements, where each finds its part in order. -/
theorem withNodes_eq_self {t : Topology} (hlibrary : repairLibrary t.library = t.library)
    (hinbounds : t.inbounds.map Inbound.repairDefault = t.inbounds)
    (hlayers : pruneLayers (ProxyChain.mayBePlaced t.library) [] t.layers = t.layers) :
    t.withNodes = t := by
  simp only [withNodes, withLibrary, withDefaults, withPlacements, hlibrary, hinbounds, hlayers]

/-! ### Links -/

theorem withNodeLinks_eq_relink (index : Index) (t : Topology) : t.withNodeLinks index =
    t.relink fun hop node => index.legalDetours hop (t.kindOf node) node.detours := rfl

/-- A node's own detours unless it is managed. -/
def unmanagedDetours (managed : List String) (node : PlacedNode) : List String :=
  if managed.contains node.tag then [] else node.detours

theorem withoutManagedLinks_eq_relink (index : Index) (t : Topology) :
    t.withoutManagedLinks index =
      t.relink fun _ node => unmanagedDetours (t.managedMembers index) node := by
  rw [withoutManagedLinks, relink]
  congr 1
  funext _ node
  rw [unmanagedDetours]
  split <;> rfl

@[simp] theorem index_withLegalLinks (index : Index) (t : Topology) :
    (t.withLegalLinks index).index = t.index :=
  index_relink _ (t.withInboundLinks index)

theorem NodesSound.withLegalLinks {t : Topology} (h : t.NodesSound) (index : Index) :
    (t.withLegalLinks index).NodesSound := by
  have hinbounds : (t.withInboundLinks index).NodesSound :=
    ⟨h.library_nodup, h.exit_defined, h.placed_nodup, h.placed_allowed⟩
  exact hinbounds.relink _

theorem legalLinks_nil (t : Topology) (hop : Nat) (role : NodeRole) :
    t.LegalLinks hop role [] := by
  cases role with
  | leaf => exact ⟨Nat.zero_le 1, by simp⟩
  | selector => exact ⟨List.nodup_nil, by simp⟩
  | roundRobin => exact ⟨List.nodup_nil, [], none, rfl, by simp, by simp⟩

/-- The managed nodes are the members of pools with an output. -/
theorem NodesSound.mem_managedMembers_iff {t : Topology} (h : t.NodesSound) {tag : String} :
    tag ∈ t.managedMembers t.index ↔ t.Managed tag := by
  rw [managedMembers, List.mem_flatMap, Managed]
  refine exists_congr fun source => and_congr_right fun hsource => ?_
  have hkind := h.placedKind? hsource
  by_cases hrr : t.kindOf source.2 = .roundRobin
  · have hpool : t.index.poolOf? source.1 source.2 =
        some (t.index.splitPool source.1 source.2.detours) := by
      rw [Index.poolOf?, hkind, hrr, if_pos rfl]
    have hmember : tag ∈ (t.index.splitPool source.1 source.2.detours).pool ↔
        t.InPool source tag := by
      rw [h.mem_pool_iff, InPool]
      exact (and_iff_right hrr).symm
    have houtput : (t.index.splitPool source.1 source.2.detours).output.isSome = true ↔
        ∃ output, t.IsOutput source output := by
      rw [h.isSome_output_iff]
      exact exists_congr fun output => (and_iff_right hrr).symm
    simp only [hpool]
    rw [← houtput, ← hmember]
    split <;> simp_all
  · have hpool : t.index.poolOf? source.1 source.2 = none := by
      rw [Index.poolOf?, hkind, if_neg fun heq => hrr (Option.some.inj heq)]
    simp only [hpool, InPool]
    simp [hrr]

/-! ### Normal form is reached -/

section

variable (t : Topology)

/-- A topology with legal links, as `normalize` has it before managed links are dropped. -/
def linked : Topology :=
  t.withNodes.withLegalLinks t.withNodes.index

theorem nodesSound_linked : t.linked.NodesSound :=
  (nodesSound_withNodes t).withLegalLinks _

theorem normalize_eq_relink :
    t.normalize = t.linked.relink fun _ node =>
      unmanagedDetours (t.linked.managedMembers t.linked.index) node := by
  rw [linked, index_withLegalLinks, ← withoutManagedLinks_eq_relink]
  rfl

theorem legalLinks_linked {entry : Nat × PlacedNode} (hentry : entry ∈ t.linked.placed) :
    t.linked.LegalLinks entry.1 (t.linked.kindOf entry.2).role entry.2.detours := by
  obtain ⟨node, -, hnode⟩ := (mem_placed_relink _ _).1 hentry
  have hlegal := (nodesSound_linked t).legalLinks_legalDetours entry.1 (t.linked.kindOf node)
    node.detours
  rw [← hnode]
  rwa [linked, index_withLegalLinks] at hlegal

theorem inboundsSound_linked : t.linked.InboundsSound := by
  intro inbound hinbound
  obtain ⟨before, -, rfl⟩ := List.mem_map.1 hinbound
  refine ⟨?_, Inbound.mem_detours_of_mem_repairDefault _⟩
  rw [Inbound.detours_repairDetours]
  refine ⟨List.filter_sublist.nodup (Tag.nodup_unique _), fun tag htag => ?_⟩
  have hin := (List.mem_filter.1 htag).2
  rw [← index_withLegalLinks t.withNodes.index t.withNodes] at hin
  exact (nodesSound_linked t).inHop_iff.1 hin

/-- Every topology is brought into normal form. -/
theorem isNormal_normalize : t.normalize.IsNormal := by
  have hsound := nodesSound_linked t
  rw [normalize_eq_relink]
  refine { hsound.relink _ with
    inbound_links := ?_, inbound_default := ?_, node_links := ?_, managed_idle := ?_ }
  · intro inbound hinbound
    simp only [placedIn_relink]
    exact (inboundsSound_linked t inbound hinbound).1
  · intro inbound hinbound
    exact (inboundsSound_linked t inbound hinbound).2
  · rintro ⟨hop, after⟩ hentry
    obtain ⟨node, hnode, rfl⟩ := (mem_placed_relink _ _).1 hentry
    rw [legalLinks_relink]
    show t.linked.LegalLinks hop (t.linked.kindOf node).role (unmanagedDetours _ node)
    rw [unmanagedDetours]
    split
    · exact legalLinks_nil _ _ _
    · exact legalLinks_linked t hnode
  · rintro ⟨i, source⟩ hsource output houtput ⟨j, after⟩ hentry hpool
    obtain ⟨before, hbefore, rfl⟩ := (mem_placed_relink _ _).1 hsource
    obtain ⟨node, hnode, rfl⟩ := (mem_placed_relink _ _).1 hentry
    -- A node that still has an output was not managed, so it manages its pool as before.
    have hkept : unmanagedDetours (t.linked.managedMembers t.linked.index) before =
        before.detours := by
      rw [unmanagedDetours]
      split
      · rename_i hmanaged
        have hmem := houtput.2.1
        simp only [unmanagedDetours, hmanaged, if_true] at hmem
        exact absurd hmem List.not_mem_nil
      · rfl
    have hmanaged : node.tag ∈ t.linked.managedMembers t.linked.index := by
      refine hsound.mem_managedMembers_iff.2 ⟨(i, before), hbefore, ?_, output, ?_⟩
      · obtain ⟨hkind, hmem, hplaced⟩ := hpool
        exact ⟨hkind, hkept ▸ hmem, (placedIn_relink _ _ _ _).1 hplaced⟩
      · obtain ⟨hkind, hmem, hbehind⟩ := houtput
        exact ⟨hkind, hkept ▸ hmem, (twoAhead_relink _ _ _ _).1 hbehind⟩
    show unmanagedDetours _ node = []
    rw [unmanagedDetours, if_pos (by simpa using hmanaged)]

end

theorem library_normalize (t : Topology) : t.normalize.library = repairLibrary t.library :=
  rfl

/-- Apart from the Internet exit, the tags of the library are still those that were there. -/
theorem library_normalize_plain {t : Topology}
    (hplain : ∀ d ∈ t.library, Tag.isSystem d.tag = false) :
    ∀ d ∈ t.normalize.library, Tag.isSystem d.tag = false := by
  intro d hd
  rw [library_normalize] at hd
  rcases mem_map_tag_repairLibrary.1 (List.mem_map_of_mem hd) with hmem | htag
  · obtain ⟨before, hbefore, htag⟩ := List.mem_map.1 hmem
    rw [← htag]
    exact hplain before hbefore
  · rw [htag]
    decide

theorem placedTags_normalize (t : Topology) : t.normalize.placedTags = t.withNodes.placedTags := by
  rw [normalize_eq_relink, placedTags_relink, linked, withLegalLinks, withNodeLinks_eq_relink,
    placedTags_relink]
  rfl

/-- Nothing is placed that was not placed before. -/
theorem placedTags_normalize_sublist (t : Topology) :
    t.normalize.placedTags.Sublist t.placedTags := by
  rw [placedTags_normalize]
  exact (pruneLayers_sublist _ 0 [] t.layers).map _

theorem hopCount_normalize (t : Topology) : t.normalize.hopCount = t.hopCount := by
  rw [normalize_eq_relink, hopCount_relink, linked, withLegalLinks, withNodeLinks_eq_relink,
    hopCount_relink]
  exact length_pruneLayers _ [] t.layers

theorem inbounds_normalize (t : Topology) : t.normalize.inbounds =
    (t.inbounds.map Inbound.repairDefault).map (Inbound.repairDetours t.withNodes.index) :=
  rfl

/-- What does not depend on links is the same for all inbounds. -/
theorem map_inbounds_normalize {key : Inbound → α}
    (hdefault : ∀ inbound, key inbound.repairDefault = key inbound)
    (hdetours : ∀ index inbound, key (inbound.repairDetours index) = key inbound)
    (t : Topology) : t.normalize.inbounds.map key = t.inbounds.map key := by
  rw [inbounds_normalize, List.map_map, List.map_map]
  exact List.map_congr_left fun inbound _ => (hdetours _ _).trans (hdefault inbound)

theorem exists_inbound_of_mem_normalize {t : Topology} {inbound : Inbound}
    (hinbound : inbound ∈ t.normalize.inbounds) :
    ∃ original ∈ t.inbounds, original.tag = inbound.tag := by
  have hmem : inbound.tag ∈ t.normalize.inbounds.map Inbound.tag := List.mem_map_of_mem hinbound
  rw [map_inbounds_normalize (by simp) (by simp)] at hmem
  exact List.mem_map.1 hmem

/-! ### Normal form is kept -/

/-- Where nodes and defaults are in order, the passes over them do nothing. -/
theorem NodesSound.withNodes_eq_self {t : Topology} (h : t.NodesSound)
    (hdefault : ∀ inbound ∈ t.inbounds, ∀ tag ∈ inbound.selectorDefault,
      tag ∈ inbound.detours) : t.withNodes = t := by
  refine Topology.withNodes_eq_self (repairLibrary_eq_self h.librarySound) ?_ ?_
  · exact map_eq_self_iff.2 fun inbound hinbound =>
      Inbound.repairDefault_eq_self (hdefault inbound hinbound)
  · exact pruneLayers_eq_self _ h.placed_nodup fun entry hentry =>
      ⟨h.mayBePlaced hentry, List.not_mem_nil⟩

namespace NodesSound

variable {t : Topology} (h : t.NodesSound) (hinbounds : t.InboundsSound)

include h hinbounds

theorem withInboundLinks_eq_self : t.withInboundLinks t.index = t := by
  have hkept : t.inbounds.map (Inbound.repairDetours t.index) = t.inbounds := by
    refine map_eq_self_iff.2 fun inbound hinbound => ?_
    obtain ⟨⟨hnodup, hplaced⟩, hdefault⟩ := hinbounds inbound hinbound
    have hlinks : (Tag.unique inbound.detours).filter (fun tag => t.index.inHop tag 0) =
        inbound.detours := by
      rw [Tag.unique_eq_self hnodup fun tag htag => h.tag_ne_empty (hplaced tag htag)]
      exact List.filter_eq_self.2 fun tag htag => h.inHop_iff.2 (hplaced tag htag)
    rw [Inbound.repairDetours, hlinks]
    exact Inbound.repairDefault_eq_self hdefault
  rw [withInboundLinks, hkept]

/-- Where all but the links of nodes is in order, only these are looked at. -/
theorem linked_eq_relink : t.linked =
    t.relink fun hop node => t.index.legalDetours hop (t.kindOf node) node.detours := by
  have hnodes : t.withNodes = t :=
    h.withNodes_eq_self fun inbound hinbound => (hinbounds inbound hinbound).2
  rw [linked, hnodes, Topology.withLegalLinks, h.withInboundLinks_eq_self hinbounds,
    withNodeLinks_eq_relink]

end NodesSound

namespace IsNormal

variable {t : Topology} (h : t.IsNormal)

include h

theorem withNodes_eq_self : t.withNodes = t :=
  h.toNodesSound.withNodes_eq_self h.inbound_default

theorem linked_eq_self : t.linked = t := by
  rw [h.toNodesSound.linked_eq_relink h.inboundsSound]
  exact relink_eq_self _ _ fun entry hentry => h.legalDetours_eq_self (h.node_links entry hentry)

theorem normalize_eq_self : t.normalize = t := by
  rw [normalize_eq_relink, h.linked_eq_self]
  refine relink_eq_self _ _ fun entry hentry => ?_
  rw [unmanagedDetours]
  split
  · rename_i hmanaged
    obtain ⟨source, hsource, hpool, output, houtput⟩ :=
      h.mem_managedMembers_iff.1 (by simpa using hmanaged)
    exact (h.managed_idle source hsource output houtput entry hentry hpool).symm
  · rfl

end IsNormal

/-! ### What the report counts -/

theorem repairs_eq_counts (t : Topology) : t.repairs =
    { libraryRepaired := libraryRepairs t.library
      placementsPruned := t.placed.length - t.withNodes.placed.length
      inboundsChanged := countChanges t.inbounds t.withNodes.inbounds
        + countChanges t.withNodes.inbounds t.linked.inbounds
      nodesChanged := countChanges t.withNodes.placed t.linked.placed
      managedCleared := countChanges t.linked.placed t.normalize.placed } := rfl

/-- In normal form there is nothing to repair. -/
theorem IsNormal.repairs_eq {t : Topology} (h : t.IsNormal) : t.repairs = {} := by
  rw [repairs_eq_counts, h.normalize_eq_self, h.linked_eq_self, h.withNodes_eq_self,
    libraryRepairs_eq_zero_iff.2 h.librarySound, (countChanges_eq_zero_iff rfl).2 rfl,
    (countChanges_eq_zero_iff rfl).2 rfl, Nat.sub_self]

theorem relink_eq_self_of_countChanges {links : Nat → PlacedNode → List String} {t : Topology}
    (h : countChanges t.placed (t.relink links).placed = 0) : t.relink links = t := by
  have hlength : (t.relink links).placed.length = t.placed.length := by
    rw [placed_relink, List.length_map]
  exact mapPlaced_eq_self_of_placed ((countChanges_eq_zero_iff hlength).1 h)

/-- Where the report counts nothing, no pass did anything. -/
theorem normalize_eq_self_of_unchanged {t : Topology} (h : t.repairs.changed = false) :
    t.normalize = t := by
  have hcounts : libraryRepairs t.library = 0 ∧
      t.placed.length - t.withNodes.placed.length = 0 ∧
      countChanges t.inbounds t.withNodes.inbounds = 0 ∧
      countChanges t.withNodes.inbounds t.linked.inbounds = 0 ∧
      countChanges t.withNodes.placed t.linked.placed = 0 ∧
      countChanges t.linked.placed t.normalize.placed = 0 := by
    rw [repairs_eq_counts, NormalizeReport.changed, decide_eq_false_iff_not] at h
    dsimp only at h
    omega
  obtain ⟨hlibrary, hplaced, hdefaults, hinbounds, hlinks, hmanaged⟩ := hcounts
  have hlibrary := repairLibrary_eq_self (libraryRepairs_eq_zero_iff.1 hlibrary)
  have hdefaults : t.inbounds.map Inbound.repairDefault = t.inbounds :=
    (countChanges_eq_zero_iff (List.length_map _)).1 hdefaults
  have hlayers : pruneLayers (mayBePlaced t.library) [] t.layers = t.layers := by
    have hpruned : t.withNodes.layers = pruneLayers (mayBePlaced t.library) [] t.layers := by
      rw [← congrArg mayBePlaced hlibrary]
      rfl
    refine pruneLayers_eq_self_of_length _ 0 ?_
    rw [← hpruned]
    exact Nat.sub_eq_zero_iff_le.1 hplaced
  have hnodes : t.withNodes = t := withNodes_eq_self hlibrary hdefaults hlayers
  rw [hnodes] at hinbounds hlinks
  have hinbounds : t.inbounds.map (Inbound.repairDetours t.index) = t.inbounds := by
    have hlinked : t.linked.inbounds = t.inbounds.map (Inbound.repairDetours t.index) := by
      rw [linked, hnodes]
      rfl
    rw [hlinked] at hinbounds
    exact (countChanges_eq_zero_iff (List.length_map _)).1 hinbounds
  have hlinked : t.linked = t := by
    have hrelink : t.linked = t.relink fun hop node =>
        t.index.legalDetours hop (t.kindOf node) node.detours := by
      rw [linked, hnodes, withLegalLinks, withInboundLinks, hinbounds, withNodeLinks_eq_relink]
    rw [hrelink] at hlinks ⊢
    exact relink_eq_self_of_countChanges hlinks
  rw [normalize_eq_relink, hlinked] at hmanaged ⊢
  exact relink_eq_self_of_countChanges hmanaged

/-! ### Fixed points -/

theorem isNormal_of_normalize_eq_self {t : Topology} (h : t.normalize = t) : t.IsNormal := by
  rw [← h]
  exact isNormal_normalize t

/-- The topologies that `normalize` leaves as they are, are those in normal form. -/
theorem normalize_eq_self_iff (t : Topology) : t.normalize = t ↔ t.IsNormal :=
  ⟨isNormal_of_normalize_eq_self, IsNormal.normalize_eq_self⟩

/-- Normalizing again changes nothing and counts nothing, and the first report tells exactly
whether anything changed. -/
theorem normalize_idempotent_changed_exact (t : Topology) :
    t.normalize.normalize = t.normalize ∧
      t.normalize.repairs = {} ∧ t.normalize.repairs.changed = false ∧
      (t.repairs.changed = true ↔ t.normalize ≠ t) := by
  have hnormal := isNormal_normalize t
  refine ⟨hnormal.normalize_eq_self, hnormal.repairs_eq, ?_, ?_⟩
  · rw [hnormal.repairs_eq]
    rfl
  · constructor
    · intro hchanged heq
      rw [heq] at hnormal
      rw [hnormal.repairs_eq] at hchanged
      exact absurd hchanged (by decide)
    · intro hne
      by_contra hunchanged
      exact hne (normalize_eq_self_of_unchanged (Bool.eq_false_iff.2 hunchanged))

end Topology

end ProxyChain
