import ProxyChain.Proofs.Topology.Edit

/-!
# ProxyChain.Proofs.Topology.Deletion

**What deleting a definition leaves, and what it counts.** After a tag is deleted nothing is left of
it, and all the rest is as it was (`Deleted`). The counts are kept while the layers are gone through
one by one, and the links of a layer are counted after its placements are gone. So a link counts
where its source stays, as often as it is there, and the links of the deleted nodes do not count
(`ofDropping_eq`).
-/

namespace ProxyChain

/-! ### Without a tag -/

/-- A placed node that stays when a tag goes. -/
structure PlacedNode.Without (tag : String) (before after : PlacedNode) : Prop where
  id_eq : after.id = before.id
  tag_eq : after.tag = before.tag
  kind_eq : after.kind = before.kind
  detours_eq : after.detours = before.detours.filter (· ≠ tag)

/-- A layer when a tag goes: the nodes of other tags stay. -/
structure Layer.Without (tag : String) (before after : Layer) : Prop where
  id_eq : after.id = before.id
  title_eq : after.title = before.title
  nodes : List.Forall₂ (PlacedNode.Without tag) (before.nodes.filter fun node => node.tag ≠ tag)
    after.nodes

/-- An inbound when a tag goes. If the tag was its default, the first detour that is left takes its
place. -/
structure Inbound.Without (tag : String) (before after : Inbound) : Prop where
  tag_eq : after.tag = before.tag
  port_eq : after.port = before.port
  detours_eq : after.detours = before.detours.filter (· ≠ tag)
  default_replaced : before.selectorDefault = some tag →
    after.selectorDefault = after.detours.head?
  default_kept : before.selectorDefault ≠ some tag →
    after.selectorDefault = before.selectorDefault

namespace Topology

/-- The detours of the placed nodes of other tags, and those of the inbounds. -/
def detoursBeside (t : Topology) (tag : String) : List String :=
  (t.nodes.filter fun node => node.tag ≠ tag).flatMap PlacedNode.detours ++
    t.inbounds.flatMap Inbound.detours

/-- A tag was deleted from a topology, and what was removed with it was counted. -/
structure Deleted (tag : String) (report : RemovalReport) (before after : Topology) : Prop where
  undefined : tag ∉ after.library.map NodeDefinition.tag
  unreferenced : tag ∉ after.references
  placements_removed : report.placementsRemoved = before.placedTags.count tag
  links_removed : report.linksRemoved = (before.detoursBeside tag).count tag
  library_kept : after.library = before.library.filter fun d => d.tag ≠ tag
  layers_kept : List.Forall₂ (Layer.Without tag) before.layers after.layers
  inbounds_kept : List.Forall₂ (Inbound.Without tag) before.inbounds after.inbounds

/-! ### Counting -/

namespace RemovalReport

variable (tag : String) (report : RemovalReport)

/-- Some detours lose a tag as often as they have it. -/
theorem countLinks_eq (detours : List String) : countLinks tag report detours =
    { report with linksRemoved := report.linksRemoved + detours.count tag } := by
  have hlost : detours.length - (detours.filter (· ≠ tag)).length = detours.count tag := by
    rw [length_sub_length_filter, List.count]
    exact List.countP_congr fun other _ => by simp
  rw [countLinks, hlost]

theorem foldl_countLinks (lists : List (List String)) : lists.foldl (countLinks tag) report =
    { report with linksRemoved := report.linksRemoved + lists.flatten.count tag } := by
  induction lists generalizing report with
  | nil => rfl
  | cons detours rest ih =>
      rw [List.foldl_cons, countLinks_eq, ih, List.flatten_cons, List.count_append, Nat.add_assoc]

/-- A layer loses a tag's placements, and the links of the nodes of other tags. -/
theorem countLayer_eq (layer : Layer) : countLayer tag report layer =
    { placementsRemoved :=
        report.placementsRemoved + (layer.nodes.map PlacedNode.tag).count tag
      linksRemoved := report.linksRemoved +
        ((layer.nodes.filter fun node => node.tag ≠ tag).flatMap PlacedNode.detours).count tag } := by
  have hlost : layer.nodes.length - (layer.nodes.filter fun node => node.tag ≠ tag).length =
      (layer.nodes.map PlacedNode.tag).count tag := by
    rw [length_sub_length_filter, List.count, List.countP_map]
    exact List.countP_congr fun node _ => by simp
  rw [countLayer, foldl_countLinks, hlost, ← List.flatMap_def]

/-- What was counted layer by layer is what there is in all layers together. -/
theorem foldl_countLayer (layers : List Layer) : layers.foldl (countLayer tag) report =
    { placementsRemoved := report.placementsRemoved +
        ((layers.flatMap Layer.nodes).map PlacedNode.tag).count tag
      linksRemoved := report.linksRemoved +
        (((layers.flatMap Layer.nodes).filter fun node => node.tag ≠ tag).flatMap
          PlacedNode.detours).count tag } := by
  induction layers generalizing report with
  | nil => rfl
  | cons layer rest ih =>
      rw [List.foldl_cons, countLayer_eq, ih, List.flatMap_cons, List.map_append,
        List.filter_append, List.flatMap_append, List.count_append, List.count_append,
        Nat.add_assoc, Nat.add_assoc]

theorem ofDropping_eq (t : Topology) :
    ofDropping tag t = ⟨t.placedTags.count tag, (t.detoursBeside tag).count tag⟩ := by
  rw [ofDropping, foldl_countLayer, foldl_countLinks, ← List.flatMap_def, placedTags_eq,
    detoursBeside, List.count_append, Nat.zero_add, Nat.zero_add]
  rfl

end RemovalReport

/-! ### Dropping -/

section

variable (tag : String)

theorem without_dropFromLayer (layer : Layer) : layer.Without tag (dropFromLayer tag layer) where
  id_eq := rfl
  title_eq := rfl
  nodes := List.forall₂_map_right_iff.2 (List.forall₂_same.2 fun _ _ => ⟨rfl, rfl, rfl, rfl⟩)

theorem without_dropInboundLinks (inbound : Inbound) :
    inbound.Without tag (dropInboundLinks tag inbound) where
  tag_eq := rfl
  port_eq := rfl
  detours_eq := rfl
  default_replaced := fun hdefault => if_pos hdefault
  default_kept := fun hdefault => if_neg hdefault

/-- An inbound has neither a link to the tag nor the tag for its default. -/
theorem not_mem_of_without {before after : Inbound} (h : before.Without tag after) :
    tag ∉ after.detours ∧ tag ∉ after.selectorDefault := by
  have hdetours : tag ∉ after.detours := by simp [h.detours_eq]
  refine ⟨hdetours, fun hdefault => ?_⟩
  by_cases hbefore : before.selectorDefault = some tag
  · rw [h.default_replaced hbefore] at hdefault
    exact hdetours (List.mem_of_mem_head? hdefault)
  · rw [h.default_kept hbefore] at hdefault
    exact hbefore hdefault

/-- Nothing refers to a tag that was dropped. -/
theorem not_mem_references_dropReferences (t : Topology) :
    tag ∉ (t.dropReferences tag).references := by
  rw [references, List.mem_append, not_or]
  constructor
  · intro hmem
    obtain ⟨after, hafter, htag⟩ := List.mem_flatMap.1 hmem
    obtain ⟨hop, hplaced⟩ := exists_placed_of_mem_nodes hafter
    obtain ⟨node, -, hne, rfl⟩ := mem_placed_dropReferences.1 hplaced
    rcases List.mem_cons.1 htag with heq | htag
    · exact hne heq.symm
    · exact absurd (List.mem_filter.1 htag).2 (by simp)
  · intro hmem
    obtain ⟨after, hafter, htag⟩ := List.mem_flatMap.1 hmem
    obtain ⟨inbound, -, rfl⟩ := List.mem_map.1 hafter
    obtain ⟨hdetours, hdefault⟩ := not_mem_of_without tag (without_dropInboundLinks tag inbound)
    rcases List.mem_append.1 htag with htag | htag
    · exact hdetours htag
    · exact hdefault (Option.mem_toList.1 htag)

end

/-! ### Deleting -/

/-- Deleting a definition removes all that refers to it and keeps the rest; the report counts the
placements, and the links from what is kept. -/
theorem deleteDefinition_deleted {t : Topology} {tag : String} {report : RemovalReport}
    (hok : (t.deleteDefinition tag).outcome = .ok report) :
    Deleted tag report t (t.deleteDefinition tag).topology := by
  obtain ⟨-, -, -, hreport, hafter⟩ := (deleteDefinition_follows t tag).of_ok hok
  rw [hafter, hreport, RemovalReport.ofDropping_eq]
  exact {
    undefined := by simp
    unreferenced := not_mem_references_dropReferences tag t
    placements_removed := rfl
    links_removed := rfl
    library_kept := rfl
    layers_kept := List.forall₂_map_right_iff.2
      (List.forall₂_same.2 fun layer _ => without_dropFromLayer tag layer)
    inbounds_kept := List.forall₂_map_right_iff.2
      (List.forall₂_same.2 fun inbound _ => without_dropInboundLinks tag inbound) }

/-- A topology in which a tag is defined, placed and linked to more than once. -/
def tangled : Topology where
  layers := [
    { id := "layer-1"
      nodes := [
        { id := "node-1", tag := "x", detours := ["x", "y"] },
        { id := "node-2", tag := "y", detours := ["x", "z", "x"] }] },
    { id := "layer-2"
      nodes := [{ id := "node-3", tag := "x", detours := ["ghost"] }, { id := "node-4", tag := "z" }] }]
  library := [.internet, .named "x" .vmess, .named "y" .selector, .named "x" .trojan]
  inbounds := [
    { tag := "a", port := 1080, detours := ["x", "y"], selectorDefault := some "x" },
    { tag := "b", port := 1081, detours := ["x"], selectorDefault := some "x" },
    { tag := "c", port := 1082, detours := ["y"], selectorDefault := some "ghost" }]

/-- The links of the two nodes that are deleted do not count. -/
theorem tangled_deleted : (tangled.deleteDefinition "x").outcome = .ok ⟨2, 4⟩ ∧
    Deleted "x" ⟨2, 4⟩ tangled (tangled.deleteDefinition "x").topology := by
  have hok : (tangled.deleteDefinition "x").outcome = .ok ⟨2, 4⟩ := by decide
  exact ⟨hok, deleteDefinition_deleted hok⟩

end Topology

end ProxyChain
