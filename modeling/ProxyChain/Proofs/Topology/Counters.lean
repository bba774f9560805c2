import ProxyChain.Proofs.Topology.Survivors

/-!
# ProxyChain.Proofs.Topology.Counters

**What the report of normalizing counts.** A pass changes what it finds in need of it: an inbound if
its default is stale, a node if its links are not all legal, a managed node if it has links. So it
comes to the same whether a pass is compared with what was there before or counts while it runs
(`Topology.repairs_eq_counted`). Said by what a topology is before and after all passes
(`Topology.repairs_eq_exact`), that comes to the definitions that are dropped, the nodes that do not
stay, the nodes whose links were not all legal, and the nodes whose legal links are cleared.

Inbounds are the exception. Defaults are repaired before links are, so an inbound with a stale
default whose links change as well is counted twice.
-/

namespace ProxyChain

/-! ### The library -/

/-- Whether the Internet exit is missing in a library, or is not what it has to be. Its first
definition counts. -/
def exitIsWrong (library : List NodeDefinition) : Bool :=
  (library.find? fun d => d.tag = Tag.internet).map NodeDefinition.kind ≠ some .direct

theorem libraryRepairs_eq (library : List NodeDefinition) : libraryRepairs library =
    (library.zipIdx.countP fun place => ¬ IsFirst NodeDefinition.tag library place) +
      if exitIsWrong library then 1 else 0 := by
  have hright : ((distinctBy NodeDefinition.tag library).any fun d =>
      d.tag = Tag.internet && d.kind = .direct) = !exitIsWrong library := by
    have hfind : ∀ d, library.find? (fun d => d.tag = Tag.internet) = some d ↔
        d ∈ distinctBy NodeDefinition.tag library ∧ d.tag = Tag.internet := fun d => by
      rw [← find?_distinctBy, find?_key_eq_some_iff (nodup_map_distinctBy library)]
    rw [Bool.eq_iff_iff, List.any_eq_true, exitIsWrong]
    simp only [ne_eq, decide_not, Bool.not_not, decide_eq_true_eq, Option.map_eq_some_iff, hfind,
      Bool.and_eq_true, and_assoc]
  rw [libraryRepairs, hright, distinctBy_eq_firstsBy, firstsBy, length_sub_length_filter_zipIdx]
  cases exitIsWrong library <;> rfl

/-! ### Inbounds -/

namespace Inbound

/-- The pass over defaults changes an inbound exactly if its default is stale. -/
theorem hasStaleDefault_iff {inbound : Inbound} :
    inbound.hasStaleDefault = true ↔ inbound ≠ inbound.repairDefault := by
  rw [← Bool.not_eq_false, not_iff_not, hasStaleDefault_eq_false_iff]
  refine ⟨fun h => (repairDefault_eq_self h).symm, fun h => ?_⟩
  have hfresh := mem_detours_of_mem_repairDefault inbound
  rwa [← h] at hfresh

theorem countChanges_repairDefault (inbounds : List Inbound) :
    countChanges inbounds (inbounds.map repairDefault) = inbounds.countP hasStaleDefault :=
  countChanges_map_eq_countP (fun _ => hasStaleDefault_iff) inbounds

/-- An inbound with its links to the first hop, each once, and with the default that it had. -/
def cut (index : Index) (inbound : Inbound) : Inbound :=
  { inbound with detours := (Tag.unique inbound.detours).filter fun tag => index.inHop tag 0 }

/-- What the pass over the links of inbounds looks for: links that are dropped, or a default that is
stale among those that are left. -/
def isRewritten (index : Index) (inbound : Inbound) : Bool :=
  inbound.detours ≠ (inbound.cut index).detours || (inbound.cut index).hasStaleDefault

variable {index : Index} {inbound : Inbound}

theorem cut_eq_self (h : inbound.detours = (inbound.cut index).detours) :
    inbound.cut index = inbound := by
  show { inbound with detours := (inbound.cut index).detours } = inbound
  rw [← h]

/-- The pass over the links of inbounds changes an inbound exactly if it finds it rewritten. -/
theorem isRewritten_iff :
    inbound.isRewritten index = true ↔ inbound ≠ inbound.repairDetours index := by
  have hrepair : inbound.repairDetours index = (inbound.cut index).repairDefault := rfl
  rw [isRewritten, Bool.or_eq_true, decide_eq_true_iff, hrepair]
  by_cases hdetours : inbound.detours = (inbound.cut index).detours
  · rw [cut_eq_self hdetours, hasStaleDefault_iff]
    exact or_iff_right fun hne => hne rfl
  · refine iff_of_true (Or.inl hdetours) fun heq => hdetours ?_
    rw [← detours_repairDefault (inbound.cut index), ← heq]

theorem countChanges_repairDetours (index : Index) (inbounds : List Inbound) :
    countChanges inbounds (inbounds.map (repairDetours index)) =
      inbounds.countP (isRewritten index) :=
  countChanges_map_eq_countP (fun _ => isRewritten_iff) inbounds

/-- A default that is repaired already does not become stale unless links are dropped. -/
theorem isRewritten_repairDefault_iff : inbound.repairDefault.isRewritten index = true ↔
    inbound.detours ≠ (inbound.cut index).detours := by
  have hlinks : (inbound.repairDefault.cut index).detours = (inbound.cut index).detours := by
    rw [cut, cut, detours_repairDefault]
  rw [isRewritten, hlinks, detours_repairDefault, Bool.or_eq_true, decide_eq_true_iff]
  refine or_iff_left_of_imp fun hstale hdetours => ?_
  have hcut : inbound.repairDefault.cut index = inbound.repairDefault :=
    cut_eq_self (by rw [hlinks, detours_repairDefault, hdetours])
  rw [hcut, hasStaleDefault_eq_false_iff.2 (mem_detours_of_mem_repairDefault inbound)] at hstale
  cases hstale

/-- Whether the links or the default of an inbound are others than before. -/
def RewrittenAs (before after : Inbound) : Prop :=
  before.detours ≠ after.detours ∨ before.selectorDefault ≠ after.selectorDefault

instance (before after : Inbound) : Decidable (before.RewrittenAs after) :=
  inferInstanceAs (Decidable (_ ∨ _))

variable (t : Topology)

theorem repairDefault_eq_rest (h : inbound.detours = (inbound.rest t).detours) :
    inbound.repairDefault = inbound.rest t := by
  have hlinks : inbound.linksInto t = inbound.detours := h.symm
  rw [repairDefault_eq, rest, hlinks]

/-- An inbound is rewritten if its default is stale, or if its links change. -/
theorem rewrittenAs_rest_iff : inbound.RewrittenAs (inbound.rest t) ↔
    inbound.hasStaleDefault = true ∨ inbound.detours ≠ (inbound.rest t).detours := by
  by_cases hdetours : inbound.detours = (inbound.rest t).detours
  · rw [hasStaleDefault_iff, RewrittenAs, ← repairDefault_eq_rest t hdetours,
      detours_repairDefault, repairDefault_eq]
    obtain ⟨tag, port, detours, former⟩ := inbound
    simp
  · exact iff_of_true (Or.inl hdetours) (Or.inr hdetours)

/-- What the two passes over inbounds find, one by one: an inbound once if it is rewritten, and once
more if its default is stale and its links change. -/
theorem countP_stale_add_countP_relinked (inbounds : List Inbound) :
    inbounds.countP hasStaleDefault +
        (inbounds.countP fun inbound => inbound.detours ≠ (inbound.rest t).detours) =
      (inbounds.countP fun inbound => inbound.RewrittenAs (inbound.rest t)) +
        inbounds.countP fun inbound =>
          inbound.hasStaleDefault && inbound.detours ≠ (inbound.rest t).detours := by
  rw [countP_add_countP]
  congr 1
  refine List.countP_congr fun inbound _ => ?_
  rw [decide_eq_true_iff, rewrittenAs_rest_iff, Bool.or_eq_true, decide_eq_true_iff]

end Inbound

namespace Topology

variable (t : Topology)

/-- The inbounds, each with what normalizing makes of it. -/
def inboundsAfter : List (Inbound × Inbound) :=
  t.inbounds.zip t.normalize.inbounds

/-- Once defaults are repaired, an inbound is found rewritten exactly if its links are cut. -/
theorem countP_isRewritten_withNodes :
    t.withNodes.inbounds.countP (Inbound.isRewritten t.withNodes.index) =
      t.inbounds.countP fun inbound => inbound.detours ≠ (inbound.rest t.normalize).detours := by
  have hsound := (isNormal_normalize t).toNodesSound
  show (t.inbounds.map Inbound.repairDefault).countP _ = _
  rw [List.countP_map, ← index_normalize]
  refine List.countP_congr fun inbound _ => ?_
  rw [Function.comp_apply, Inbound.isRewritten_repairDefault_iff, decide_eq_true_iff, Inbound.cut,
    hsound.filter_unique_eq_linksInto, Inbound.rest]

theorem inboundsChanged_eq : t.inbounds.countP Inbound.hasStaleDefault +
    t.withNodes.inbounds.countP (Inbound.isRewritten t.withNodes.index) =
      (t.inboundsAfter.countP fun (before, after) => before.RewrittenAs after) +
        t.inboundsAfter.countP fun (before, after) =>
          before.hasStaleDefault && before.detours ≠ after.detours := by
  rw [countP_isRewritten_withNodes, Inbound.countP_stale_add_countP_relinked, inboundsAfter,
    inbounds_normalize_eq_rest, zip_map_self, List.countP_map, List.countP_map]
  rfl

/-! ### Nodes -/

/-- A pass over links changes the nodes whose links it changes. -/
theorem countChanges_relink (links : Nat → PlacedNode → List String) :
    countChanges t.placed (t.relink links).placed =
      t.placed.countP fun entry => links entry.1 entry.2 ≠ entry.2.detours := by
  rw [placed_relink]
  refine countChanges_map_eq_countP (fun entry => ?_) t.placed
  obtain ⟨hop, id, tag, detours, kind⟩ := entry
  rw [decide_eq_true_iff, not_iff_not]
  simp only [Prod.mk.injEq, PlacedNode.mk.injEq, true_and, and_true, eq_comm]

/-- The pass over managed nodes changes a node exactly if it is managed and has links. -/
theorem unmanagedDetours_ne_iff {managed : List String} {node : PlacedNode} :
    unmanagedDetours managed node ≠ node.detours ↔
      managed.contains node.tag = true ∧ node.detours ≠ [] := by
  rw [unmanagedDetours]
  split
  · rename_i hmanaged
    rw [and_iff_right hmanaged, ne_comm]
  · rename_i hfree
    exact iff_of_false (fun hne => hne rfl) fun h => hfree h.1

theorem countChanges_withoutManagedLinks (index : Index) :
    countChanges t.placed (t.withoutManagedLinks index).placed = t.placed.countP fun entry =>
      (t.managedMembers index).contains entry.2.tag && entry.2.detours ≠ [] := by
  rw [withoutManagedLinks_eq_relink, countChanges_relink]
  refine List.countP_congr fun entry _ => ?_
  rw [decide_eq_true_iff, unmanagedDetours_ne_iff, Bool.and_eq_true, decide_eq_true_iff]

theorem nodesChanged_eq : (t.withNodes.placed.countP fun entry =>
    t.withNodes.index.legalDetours entry.1 (t.withNodes.kindOf entry.2) entry.2.detours ≠
      entry.2.detours) =
    t.survivors.countP fun entry => t.legalDetoursOf entry ≠ entry.2.detours := by
  rw [placed_withNodes]
  refine List.countP_congr fun entry _ => ?_
  rw [legalDetoursOf, index_normalize, kindOf_normalize]

theorem managedCleared_eq : (t.linked.placed.countP fun entry =>
    t.managedTags.contains entry.2.tag && entry.2.detours ≠ []) =
    (t.survivors.zip t.normalize.placed).countP fun (before, after) =>
      t.legalDetoursOf before ≠ [] && after.2.detours = [] := by
  rw [placed_linked, placed_normalize, zip_map_self, List.countP_map, List.countP_map]
  refine List.countP_congr fun entry _ => ?_
  simp only [Function.comp_apply, Bool.and_eq_true, decide_eq_true_eq]
  rw [legalNode]
  split
  · rename_i hmanaged
    rw [and_iff_right hmanaged, and_iff_left rfl]
  · rename_i hfree
    exact iff_of_false (fun h => hfree h.1) fun h => h.1 h.2

/-! ### The report -/

/-- The report as the passes count while they run: each what it looks for and then changes. -/
theorem repairs_eq_counted : t.repairs =
    { libraryRepaired := libraryRepairs t.library
      placementsPruned := t.placed.length - t.withNodes.placed.length
      inboundsChanged := t.inbounds.countP Inbound.hasStaleDefault +
        t.withNodes.inbounds.countP (Inbound.isRewritten t.withNodes.index)
      nodesChanged := t.withNodes.placed.countP fun entry =>
        t.withNodes.index.legalDetours entry.1 (t.withNodes.kindOf entry.2) entry.2.detours ≠
          entry.2.detours
      managedCleared := t.linked.placed.countP fun entry =>
        t.managedTags.contains entry.2.tag && entry.2.detours ≠ [] } := by
  have hdefaults : countChanges t.inbounds t.withNodes.inbounds =
      t.inbounds.countP Inbound.hasStaleDefault := Inbound.countChanges_repairDefault t.inbounds
  have hlinks : countChanges t.withNodes.inbounds t.linked.inbounds =
      t.withNodes.inbounds.countP (Inbound.isRewritten t.withNodes.index) :=
    Inbound.countChanges_repairDetours t.withNodes.index t.withNodes.inbounds
  have hnodes : countChanges t.withNodes.placed t.linked.placed =
      t.withNodes.placed.countP fun entry =>
        t.withNodes.index.legalDetours entry.1 (t.withNodes.kindOf entry.2) entry.2.detours ≠
          entry.2.detours :=
    countChanges_relink (t.withNodes.withInboundLinks t.withNodes.index) _
  have hmanaged : countChanges t.linked.placed t.normalize.placed =
      t.linked.placed.countP fun entry =>
        t.managedTags.contains entry.2.tag && entry.2.detours ≠ [] := by
    rw [managedTags, index_linked]
    exact t.linked.countChanges_withoutManagedLinks t.withNodes.index
  rw [repairs_eq_counts, hdefaults, hlinks, hnodes, hmanaged]

/-- What the report of normalizing counts. -/
theorem repairs_eq_exact : t.repairs =
    { libraryRepaired :=
        (t.library.zipIdx.countP fun place => ¬ IsFirst NodeDefinition.tag t.library place) +
          if exitIsWrong t.library then 1 else 0
      placementsPruned := t.placed.zipIdx.countP fun place => ¬ t.Survives place
      inboundsChanged := (t.inboundsAfter.countP fun (before, after) => before.RewrittenAs after) +
        t.inboundsAfter.countP fun (before, after) =>
          before.hasStaleDefault && before.detours ≠ after.detours
      nodesChanged := t.survivors.countP fun entry => t.legalDetoursOf entry ≠ entry.2.detours
      managedCleared := (t.survivors.zip t.normalize.placed).countP fun (before, after) =>
        t.legalDetoursOf before ≠ [] && after.2.detours = [] } := by
  rw [repairs_eq_counted, libraryRepairs_eq, inboundsChanged_eq, nodesChanged_eq, managedCleared_eq,
    placed_withNodes, survivors, length_sub_length_filter_zipIdx]

/-- An inbound whose one link leads nowhere, and whose default is none of its links. -/
def strayInbound : Topology where
  layers := [{ id := "layer-1", title := "HOP 1" }]
  library := [.internet]
  inbounds := [{ tag := "in", port := 1080, detours := ["ghost"], selectorDefault := "other" }]

/-- The report does not tell how many inbounds are rewritten. -/
theorem not_forall_inboundsChanged_eq : ¬ ∀ t : Topology, t.repairs.inboundsChanged =
    t.inboundsAfter.countP fun (before, after) => before.RewrittenAs after := fun h =>
  absurd (h strayInbound) (by decide)

end Topology

end ProxyChain
