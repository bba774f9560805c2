import ProxyChain.Proofs.Topology.NormalForm
import ProxyChain.Topology.Normalize

/-!
# ProxyChain.Proofs.Topology.Repair

The repairs that `Topology.normalize` is made of, each by itself: of a library, of the default of
an inbound, of the layers. Each repair is treated in the same steps: what it establishes, and that
it does nothing where that is established already. What is left of a library and of the layers is
read off their first occurrences (`repairLibrary_eq`, `Topology.placedFrom_pruneLayers`).
-/

namespace ProxyChain

/-! ### The library -/

/-- Each tag is defined once, and the Internet exit is among the definitions. -/
def LibrarySound (library : List NodeDefinition) : Prop :=
  (library.map NodeDefinition.tag).Nodup ∧
    ∃ d ∈ library, d.tag = Tag.internet ∧ d.kind = .direct

/-- A definition with the right kind if it is that of the Internet exit. -/
def NodeDefinition.withExitKind (d : NodeDefinition) : NodeDefinition :=
  if d.tag = Tag.internet then { d with kind := .direct } else d

@[simp] theorem NodeDefinition.tag_withExitKind (d : NodeDefinition) :
    d.withExitKind.tag = d.tag := by
  rw [withExitKind]
  split <;> rfl

theorem map_tag_withExitKind (library : List NodeDefinition) :
    (library.map NodeDefinition.withExitKind).map NodeDefinition.tag =
      library.map NodeDefinition.tag := by
  rw [List.map_map]
  exact List.map_congr_left fun d _ => d.tag_withExitKind

/-- The Internet exit, if it is missing in a library. -/
def missingExit (library : List NodeDefinition) : List NodeDefinition :=
  if Tag.internet ∈ library.map NodeDefinition.tag then [] else [.internet]

/-- A repaired library has the first definition of each tag, and the Internet exit at its end if it
was missing. -/
theorem repairLibrary_eq (library : List NodeDefinition) : repairLibrary library =
    (distinctBy NodeDefinition.tag library).map NodeDefinition.withExitKind ++
      missingExit library := by
  have hexit : ((distinctBy NodeDefinition.tag library).any fun d => d.tag = Tag.internet) = true ↔
      Tag.internet ∈ library.map NodeDefinition.tag := by
    rw [← mem_map_key_distinctBy, List.any_eq_true, List.mem_map]
    simp only [decide_eq_true_eq]
  rw [repairLibrary, missingExit]
  by_cases hmem : Tag.internet ∈ library.map NodeDefinition.tag
  · rw [if_pos (hexit.2 hmem), if_pos hmem, List.append_nil]
    rfl
  · have hkept : (distinctBy NodeDefinition.tag library).map NodeDefinition.withExitKind =
        distinctBy NodeDefinition.tag library := by
      refine map_eq_self_iff.2 fun d hd => if_neg fun htag => hmem (hexit.1 ?_)
      exact List.any_eq_true.2 ⟨d, hd, decide_eq_true htag⟩
    rw [if_neg fun hany => hmem (hexit.1 hany), if_neg hmem, hkept]

/-- A repaired library has the tags that it had, and that of the Internet exit. -/
theorem mem_map_tag_repairLibrary {library : List NodeDefinition} {tag : String} :
    tag ∈ (repairLibrary library).map NodeDefinition.tag ↔
      tag ∈ library.map NodeDefinition.tag ∨ tag = Tag.internet := by
  rw [repairLibrary_eq, List.map_append, map_tag_withExitKind, List.mem_append,
    mem_map_key_distinctBy, missingExit]
  split
  · rename_i hexit
    simp only [List.map_nil, List.not_mem_nil, or_false, iff_self_or]
    exact fun htag => htag ▸ hexit
  · rw [List.map_singleton, List.mem_singleton]
    rfl

theorem librarySound_repairLibrary (library : List NodeDefinition) :
    LibrarySound (repairLibrary library) := by
  have hnodup : (((distinctBy NodeDefinition.tag library).map NodeDefinition.withExitKind).map
      NodeDefinition.tag).Nodup := by
    rw [map_tag_withExitKind]
    exact nodup_map_distinctBy library
  rw [repairLibrary_eq, missingExit]
  split
  · rename_i hexit
    rw [List.append_nil]
    obtain ⟨d, hd, htag⟩ := List.mem_map.1 (mem_map_key_distinctBy.2 hexit)
    refine ⟨hnodup, d.withExitKind, List.mem_map_of_mem hd, d.tag_withExitKind.trans htag, ?_⟩
    rw [NodeDefinition.withExitKind, if_pos htag]
  · rename_i hexit
    refine ⟨?_, .internet, List.mem_append_right _ (List.mem_singleton_self _), rfl, rfl⟩
    rw [List.map_append]
    refine nodup_append_singleton hnodup fun hmem => hexit ?_
    rwa [map_tag_withExitKind, mem_map_key_distinctBy] at hmem

/-- Apart from the Internet exit, a tag has the definition that it had. -/
theorem find?_repairLibrary {library : List NodeDefinition} {tag : String}
    (htag : tag ≠ Tag.internet) :
    (repairLibrary library).find? (fun d => d.tag = tag) = library.find? fun d => d.tag = tag := by
  have hexit : (missingExit library).find? (fun d => d.tag = tag) = none := by
    refine List.find?_eq_none.2 fun d hd => ?_
    rw [missingExit] at hd
    split at hd
    · cases hd
    · rw [List.mem_singleton.1 hd, decide_eq_true_eq]
      exact htag.symm
  rw [repairLibrary_eq, List.find?_append, hexit, Option.or_none, List.find?_map]
  simp only [Function.comp_def, NodeDefinition.tag_withExitKind]
  rw [find?_distinctBy]
  cases hfound : library.find? fun d => d.tag = tag with
  | none => rfl
  | some d =>
      have hd : d.tag = tag := by simpa using List.find?_some hfound
      exact congrArg some (if_neg fun hinternet => htag (hd.symm.trans hinternet))

theorem repairLibrary_eq_self {library : List NodeDefinition} (h : LibrarySound library) :
    repairLibrary library = library := by
  obtain ⟨hnodup, exit, hexit, htag, hkind⟩ := h
  have hdefined : Tag.internet ∈ library.map NodeDefinition.tag :=
    htag ▸ List.mem_map_of_mem hexit
  rw [repairLibrary_eq, distinctBy_eq_self hnodup, missingExit, if_pos hdefined, List.append_nil]
  refine map_eq_self_iff.2 fun d hd => ?_
  rw [NodeDefinition.withExitKind]
  split
  · rename_i hd'
    rw [List.inj_on_of_nodup_map hnodup hd hexit (hd'.trans htag.symm), ← hkind]
  · rfl

theorem libraryRepairs_eq_zero_iff {library : List NodeDefinition} :
    libraryRepairs library = 0 ↔ LibrarySound library := by
  rw [libraryRepairs, Nat.add_eq_zero_iff, LibrarySound, ← distinctBy_eq_self_iff]
  constructor
  · rintro ⟨hlength, hexit⟩
    have hkept := distinctBy_eq_self_of_length hlength
    rw [hkept] at hexit
    refine ⟨hkept, ?_⟩
    by_contra hnone
    rw [if_neg] at hexit
    · exact absurd hexit Nat.one_ne_zero
    · intro hany
      obtain ⟨d, hd, h⟩ := List.any_eq_true.1 hany
      exact hnone ⟨d, hd, by simpa using h⟩
  · rintro ⟨hkept, d, hd, htag, hkind⟩
    rw [hkept, if_pos]
    · exact ⟨Nat.sub_self _, rfl⟩
    · exact List.any_eq_true.2 ⟨d, hd, by simp [htag, hkind]⟩

/-! ### Selector defaults -/

namespace Inbound

@[simp] theorem detours_repairDefault (inbound : Inbound) :
    inbound.repairDefault.detours = inbound.detours := by
  rw [repairDefault]
  split <;> rfl

@[simp] theorem tag_repairDefault (inbound : Inbound) :
    inbound.repairDefault.tag = inbound.tag := by
  rw [repairDefault]
  split <;> rfl

@[simp] theorem port_repairDefault (inbound : Inbound) :
    inbound.repairDefault.port = inbound.port := by
  rw [repairDefault]
  split <;> rfl

theorem hasStaleDefault_eq_false_iff {inbound : Inbound} :
    inbound.hasStaleDefault = false ↔ ∀ tag ∈ inbound.selectorDefault, tag ∈ inbound.detours := by
  rw [hasStaleDefault]
  cases inbound.selectorDefault with
  | none => simp
  | some tag => simp

theorem repairDefault_eq_self {inbound : Inbound}
    (h : ∀ tag ∈ inbound.selectorDefault, tag ∈ inbound.detours) :
    inbound.repairDefault = inbound := by
  rw [repairDefault, hasStaleDefault_eq_false_iff.2 h]
  rfl

theorem mem_detours_of_mem_repairDefault (inbound : Inbound) :
    ∀ tag ∈ inbound.repairDefault.selectorDefault, tag ∈ inbound.repairDefault.detours := by
  intro tag htag
  rw [detours_repairDefault]
  rw [repairDefault] at htag
  split at htag
  · exact List.mem_of_head? htag
  · rename_i hfresh
    exact hasStaleDefault_eq_false_iff.1 (Bool.eq_false_iff.2 hfresh) tag htag

@[simp] theorem detours_repairDetours (index : Index) (inbound : Inbound) :
    (inbound.repairDetours index).detours =
      (Tag.unique inbound.detours).filter fun tag => index.inHop tag 0 :=
  detours_repairDefault _

@[simp] theorem tag_repairDetours (index : Index) (inbound : Inbound) :
    (inbound.repairDetours index).tag = inbound.tag :=
  tag_repairDefault _

@[simp] theorem port_repairDetours (index : Index) (inbound : Inbound) :
    (inbound.repairDetours index).port = inbound.port :=
  port_repairDefault _

end Inbound

/-! ### Placements -/

section

variable (allowed : String → Bool)

/-- Of a layer the first node of each tag is kept, if its tag is allowed and was not seen before. -/
theorem keepNodes_eq_filter : ∀ (seen : List String) (nodes : List PlacedNode),
    keepNodes allowed seen nodes = (distinctBy PlacedNode.tag nodes).filter fun node =>
      allowed node.tag && !seen.contains node.tag
  | _, [] => rfl
  | seen, node :: rest => by
      rw [keepNodes, distinctBy, List.filter_cons, List.filter_filter]
      split
      · rw [keepNodes_eq_filter (node.tag :: seen) rest]
        congr 1
        refine List.filter_congr fun other _ => ?_
        by_cases hother : other.tag = node.tag <;> simp [hother]
      · rename_i hnode
        rw [keepNodes_eq_filter seen rest]
        -- What is not kept here is not kept later either.
        refine List.filter_congr fun other _ => ?_
        by_cases hother : other.tag = node.tag
        · simpa [hother] using hnode
        · simp [hother]

theorem keepNodes_sublist (seen : List String) (nodes : List PlacedNode) :
    (keepNodes allowed seen nodes).Sublist nodes := by
  rw [keepNodes_eq_filter]
  exact List.filter_sublist.trans (distinctBy_sublist nodes)

theorem mem_map_tag_keepNodes {seen : List String} {nodes : List PlacedNode} {tag : String} :
    tag ∈ (keepNodes allowed seen nodes).map PlacedNode.tag ↔
      tag ∈ nodes.map PlacedNode.tag ∧ allowed tag = true ∧ tag ∉ seen := by
  have hfirsts : tag ∈ nodes.map PlacedNode.tag ↔
      tag ∈ (distinctBy PlacedNode.tag nodes).map PlacedNode.tag := mem_map_key_distinctBy.symm
  rw [keepNodes_eq_filter, hfirsts, List.mem_map, List.mem_map]
  constructor
  · rintro ⟨node, hnode, rfl⟩
    obtain ⟨hfirst, hkept⟩ := List.mem_filter.1 hnode
    exact ⟨⟨node, hfirst, rfl⟩, by simpa using hkept⟩
  · rintro ⟨⟨node, hfirst, rfl⟩, hkept⟩
    exact ⟨node, List.mem_filter.2 ⟨hfirst, by simpa using hkept⟩, rfl⟩

namespace Topology

/-- `keepNodes_eq_filter` through all layers. -/
theorem placedFrom_pruneLayers : ∀ (hop : Nat) (seen : List String) (layers : List Layer),
    placedFrom hop (pruneLayers allowed seen layers) =
      (distinctBy (fun entry => entry.2.tag) (placedFrom hop layers)).filter fun entry =>
        allowed entry.2.tag && !seen.contains entry.2.tag
  | _, _, [] => rfl
  | hop, seen, layer :: rest => by
      rw [pruneLayers, placedFrom, placedFrom, placedFrom_pruneLayers (hop + 1), distinctBy_append,
        List.filter_append, distinctBy_map, List.filter_map, List.filter_filter]
      congr 1
      · exact congrArg (List.map (Prod.mk hop)) (keepNodes_eq_filter allowed seen layer.nodes)
      refine List.filter_congr fun entry _ => ?_
      rw [Bool.eq_iff_iff]
      simp only [Bool.and_eq_true, Bool.not_eq_true', ← Bool.not_eq_true, List.contains_iff_mem,
        List.mem_append, mem_map_tag_keepNodes, List.map_map, decide_eq_true_eq]
      -- A tag of this layer that is not kept is not allowed, or it was seen before.
      constructor
      · rintro ⟨hallowed, hnew⟩
        rw [not_or] at hnew
        exact ⟨⟨hallowed, hnew.2⟩, fun hmem => hnew.1 ⟨hmem, hallowed, hnew.2⟩⟩
      · rintro ⟨⟨hallowed, hnew⟩, hlayer⟩
        exact ⟨hallowed, not_or.2 ⟨fun hkept => hlayer hkept.1, hnew⟩⟩

/-- What is kept is allowed, was not seen before, and is kept once. -/
theorem pruneLayers_spec (hop : Nat) (seen : List String) (layers : List Layer) :
    ((placedFrom hop (pruneLayers allowed seen layers)).map fun entry => entry.2.tag).Nodup ∧
      ∀ entry ∈ placedFrom hop (pruneLayers allowed seen layers),
        allowed entry.2.tag = true ∧ entry.2.tag ∉ seen := by
  rw [placedFrom_pruneLayers]
  refine ⟨(List.filter_sublist.map _).nodup (nodup_map_distinctBy _), fun entry hentry => ?_⟩
  simpa using (List.mem_filter.1 hentry).2

/-- Pruning only drops nodes, and the others stay in their hops and in order. -/
theorem pruneLayers_sublist (hop : Nat) (seen : List String) (layers : List Layer) :
    (placedFrom hop (pruneLayers allowed seen layers)).Sublist (placedFrom hop layers) := by
  rw [placedFrom_pruneLayers]
  exact List.filter_sublist.trans (distinctBy_sublist _)

/-- What does not depend on its nodes is the same for each layer. -/
theorem map_pruneLayers {key : Layer → β}
    (hkey : ∀ layer nodes, key { layer with nodes := nodes } = key layer) :
    ∀ (seen : List String) (layers : List Layer),
      (pruneLayers allowed seen layers).map key = layers.map key
  | _, [] => rfl
  | _, layer :: rest => by
      rw [pruneLayers, List.map_cons, List.map_cons, hkey, map_pruneLayers hkey]

theorem length_pruneLayers (seen : List String) (layers : List Layer) :
    (pruneLayers allowed seen layers).length = layers.length := by
  have hids : (pruneLayers allowed seen layers).map Layer.id = layers.map Layer.id :=
    map_pruneLayers allowed (fun _ _ => rfl) seen layers
  simpa using congrArg List.length hids

/-- Pruning that drops no node does nothing. -/
theorem pruneLayers_eq_self_of_length :
    ∀ (hop : Nat) {seen : List String} {layers : List Layer},
      (placedFrom hop layers).length ≤ (placedFrom hop (pruneLayers allowed seen layers)).length →
      pruneLayers allowed seen layers = layers
  | _, _, [], _ => rfl
  | hop, seen, layer :: rest, h => by
      have hnodes := keepNodes_sublist allowed seen layer.nodes
      have hrest := (pruneLayers_sublist allowed (hop + 1)
        ((keepNodes allowed seen layer.nodes).map PlacedNode.tag ++ seen) rest).length_le
      have hlength := hnodes.length_le
      simp only [pruneLayers, placedFrom, List.length_append, List.length_map] at h
      have hkeep : keepNodes allowed seen layer.nodes = layer.nodes :=
        hnodes.eq_of_length_le (by omega)
      rw [pruneLayers, pruneLayers_eq_self_of_length (hop + 1) (by omega), hkeep]

theorem pruneLayers_eq_self {hop : Nat} {seen : List String} {layers : List Layer}
    (hnodup : ((placedFrom hop layers).map fun entry => entry.2.tag).Nodup)
    (h : ∀ entry ∈ placedFrom hop layers, allowed entry.2.tag = true ∧ entry.2.tag ∉ seen) :
    pruneLayers allowed seen layers = layers := by
  have hkept : placedFrom hop (pruneLayers allowed seen layers) = placedFrom hop layers := by
    rw [placedFrom_pruneLayers, distinctBy_eq_self hnodup]
    exact List.filter_eq_self.2 fun entry hentry => by simpa using h entry hentry
  exact pruneLayers_eq_self_of_length allowed hop (Nat.le_of_eq (congrArg List.length hkept.symm))

end Topology

end

theorem mayBePlaced_iff {library : List NodeDefinition} {tag : String} :
    mayBePlaced library tag = true ↔
      tag ≠ "" ∧ tag ≠ Tag.internet ∧ tag ∈ library.map NodeDefinition.tag := by
  simp [mayBePlaced, and_assoc]

end ProxyChain
