import ProxyChain.Proofs.Topology.Renaming

/-!
# ProxyChain.Proofs.Topology.Relabelling

**Giving a node another tag, and taking it back.** Where each tag is defined once and all references
are to definitions, nothing has the new tag yet: it is not defined, or the edit would be refused, and
what is not defined is not referred to. So no other reference becomes one to the node, and giving the
old tag back restores the topology (`renameTag_reversible`). This is refused only if the old tag is
blank, as no node is given such a tag.
-/

namespace ProxyChain.Topology

/-! ### One renaming after another -/

theorem mapTags_mapTags (f g : String → String) (t : Topology) :
    (t.mapTags f).mapTags g = t.mapTags (g ∘ f) := by
  have hlayers : mapPlacedFrom (fun _ => PlacedNode.mapTags g) 0
        (mapPlacedFrom (fun _ => PlacedNode.mapTags f) 0 t.layers) =
      mapPlacedFrom (fun _ => PlacedNode.mapTags (g ∘ f)) 0 t.layers := by
    rw [mapPlacedFrom_mapPlacedFrom]
    congr 1
    funext _ node
    simp [PlacedNode.mapTags]
  have hlibrary : (t.library.map (NodeDefinition.mapTag f)).map (NodeDefinition.mapTag g) =
      t.library.map (NodeDefinition.mapTag (g ∘ f)) := by
    rw [List.map_map]
    rfl
  have hinbounds : (t.inbounds.map (Inbound.mapTags f)).map (Inbound.mapTags g) =
      t.inbounds.map (Inbound.mapTags (g ∘ f)) := by
    rw [List.map_map]
    exact List.map_congr_left fun inbound _ => by simp [Inbound.mapTags]
  simp only [mapTags, mapPlaced, hlayers, hlibrary, hinbounds]

/-! ### Taking a tag back -/

/-- The old tag is free once the node has the new one. -/
theorem old_free {old new : String} {tags : List String} :
    new = old ∨ old ∉ tags.map (retag old new) := by
  refine or_iff_not_imp_left.2 fun hne hmem => ?_
  obtain ⟨tag, -, htag⟩ := List.mem_map.1 hmem
  rw [retag] at htag
  split at htag
  · exact hne htag
  · exact absurd htag ‹_›

variable {t : Topology} {old new : String}

/-- What a tag is defined as may be given another tag as long as the checks of saving say so. -/
theorem renameTag_eq_ok_iff : (t.renameTag old new).outcome = .ok () ↔
    ∃ definition, t.definition? old = some definition ∧
      t.MayBeSaved { definition with tag := new } old := by
  rw [renameTag]
  cases t.definition? old with
  | none => simp [refuse]
  | some definition =>
      simp only [Option.some.injEq, exists_eq_left']
      constructor
      · intro hok
        exact ((upsertDefinition_follows t _ _).of_ok hok).1
      · intro hsave
        rw [upsertDefinition, Option.getD_some, upsertRefusal?_eq_none_iff.2 hsave]
        rfl

/-- A tag that was given to a node can be taken back unless the one before is blank. -/
theorem MayBeSaved.back {definition other : NodeDefinition}
    (h : t.MayBeSaved { definition with tag := new } old) :
    (t.mapTags (retag old new)).MayBeSaved { other with tag := old } new ↔
      Text.allBlank old = false := by
  refine ⟨fun hback => hback.tag_not_blank, fun hblank => ?_⟩
  refine ⟨hblank, h.former_ne_internet, h.former_plain, h.tag_ne_internet, h.tag_plain, ?_⟩
  rw [map_tag_library_mapTags]
  exact old_free

/-- Giving a node another tag replaces the tag in its definition and wherever it is referred to, and
changes nothing else. It can be undone unless the old tag is blank, and that restores the topology. -/
theorem renameTag_reversible (hnodup : (t.library.map NodeDefinition.tag).Nodup)
    (hdefined : t.ReferencesDefined) (hok : (t.renameTag old new).outcome = .ok ()) :
    (t.renameTag old new).topology = t.mapTags (retag old new) ∧
      let back := (t.renameTag old new).topology.renameTag new old
      (back.outcome = .ok () ↔ Text.allBlank old = false) ∧
        (back.outcome = .ok () → back.topology = t) := by
  obtain ⟨-, definition, hdefinition, rfl, hsave, hrenamed⟩ := renameTag_eq_mapTags hnodup hok
  rw [hrenamed]
  have hlibrary := map_tag_library_mapTags (retag definition.tag new) t
  refine ⟨rfl, ?_, fun hback => ?_⟩
  · have hnew : new ∈ (t.mapTags (retag definition.tag new)).library.map NodeDefinition.tag := by
      rw [hlibrary]
      exact List.mem_map.2 ⟨_, List.mem_map_of_mem hdefinition, if_pos rfl⟩
    obtain ⟨renamed, hfound⟩ :=
      Option.isSome_iff_exists.1 (isSome_definition?_iff.2 ⟨hsave.tag_ne_empty, hnew⟩)
    rw [renameTag_eq_ok_iff, hfound]
    simpa using hsave.back
  · have hnodup' : ((t.mapTags (retag definition.tag new)).library.map
        NodeDefinition.tag).Nodup := by
      rw [hlibrary]
      exact hnodup.map_on (retag_injOn hsave.tag_free)
    obtain ⟨-, -, -, -, -, hrestored⟩ := renameTag_eq_mapTags hnodup' hback
    -- On the tags of the library the second replacement undoes the first.
    calc _ = (t.mapTags (retag definition.tag new)).mapTags (retag new definition.tag) := hrestored
      _ = t.mapTags (retag new definition.tag ∘ retag definition.tag new) := mapTags_mapTags _ _ t
      _ = t.mapTags id :=
        hdefined.mapTags_congr fun tag htag => retag_retag hsave.tag_free htag
      _ = t := mapTags_id t

/-- A topology that refers to one node in every way, and to defined nodes only. -/
def pinned : Topology where
  layers := [
    { id := "layer-1"
      nodes := [
        { id := "node-1", tag := "x", detours := ["y", "x"] },
        { id := "node-2", tag := "y", detours := ["x", "direct", "x"] }] },
    { id := "layer-2", nodes := [{ id := "node-3", tag := "x" }] }]
  library := [.internet, .named "x" .vmess, .named "y" .selector]
  inbounds := [{ tag := "x", port := 1080, detours := ["y", "x"], selectorDefault := some "x" }]

/-- The inbound has the same name as the node and keeps it. -/
theorem pinned_restored : (pinned.renameTag "x" "w").outcome = .ok () ∧
    (pinned.library.map NodeDefinition.tag).Nodup ∧ pinned.ReferencesDefined ∧
    (pinned.renameTag "x" "w").topology = pinned.mapTags (retag "x" "w") ∧
    ((pinned.renameTag "x" "w").topology.renameTag "w" "x").topology = pinned := by
  have hok : (pinned.renameTag "x" "w").outcome = .ok () := by decide
  have hnodup : (pinned.library.map NodeDefinition.tag).Nodup := by decide
  have hdefined : pinned.ReferencesDefined := by unfold ReferencesDefined; decide
  obtain ⟨hrenamed, hback, hrestored⟩ := renameTag_reversible hnodup hdefined hok
  exact ⟨hok, hnodup, hdefined, hrenamed, hrestored (hback.2 (by decide))⟩

end ProxyChain.Topology
