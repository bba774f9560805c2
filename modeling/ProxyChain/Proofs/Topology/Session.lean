import Mathlib.Data.List.Flatten
import ProxyChain.Proofs.Topology.Consistency
import ProxyChain.Proofs.Topology.Linking
import ProxyChain.Topology.Session

/-!
# ProxyChain.Proofs.Topology.Session

**Editing keeps a topology consistent.** Every operation, refused or done, takes a consistent
topology to a consistent one (`Consistent.perform`), so after any session that starts from the
default profile the topology is consistent (`consistent_performAll`).
-/

namespace ProxyChain

/-- What an allowed link adds is a tag of the library and comes once. -/
theorem DetoursConsistent.addDetour {tags detours : List String}
    (h : DetoursConsistent tags detours) {index : Index} {hop : Nat} {kind : EdgeKind}
    {target : String} (htarget : target ∈ tags)
    (houtput : kind = .output → index.isOutputTarget hop target = true) :
    DetoursConsistent tags (Topology.addDetour index hop kind target detours) := by
  cases kind with
  | single => exact (detoursConsistent_nil _).append htarget List.not_mem_nil
  | output =>
      refine (h.sublist List.filter_sublist).append htarget fun hmem => ?_
      -- The old outputs were taken out, so the new one would have been.
      have hkept := (List.mem_filter.1 hmem).2
      simp only [Bool.and_eq_true, decide_eq_true_eq, Bool.not_eq_true'] at hkept
      have hbehind := houtput rfl
      rw [Index.isOutputTarget, if_neg hkept.1.2, hkept.2] at hbehind
      cases hbehind
  | inboundEntry | fanout | pool =>
      rw [Topology.addDetour]
      split
      · exact h
      · exact h.append htarget ‹_›

namespace Topology

namespace Consistent

variable {t : Topology} (h : t.Consistent)

include h

/-! ### The library -/

theorem upsertDefinition (definition : NodeDefinition) (former : Option String) :
    (t.upsertDefinition definition former).topology.Consistent := by
  refine (upsertDefinition_follows t definition former).preserves (motive := Consistent) h ?_
  rintro - after ⟨hsave, rfl⟩
  generalize former.getD definition.tag = former at hsave ⊢
  have hlibrary := h.library.saveDefinition hsave
  have htags : (t.library.map NodeDefinition.tag).map (retag former definition.tag) ⊆
      (saveDefinition definition former t.library).map NodeDefinition.tag :=
    map_retag_subset h.library.tags_nodup
  have hnodes := (h.nodes.retag hsave.tag_free hsave.tag_ne_internet).mono htags
  have hinbounds := (h.inbounds.retag hsave.tag_free).mono htags
  rw [retagReferences]
  by_cases hempty : former = ""
  · -- No tag is empty, so there is nothing to follow.
    have hformer : former ∉ t.library.map NodeDefinition.tag := fun hmem =>
      h.library.tag_ne_empty hmem hempty
    rw [map_retag_eq_self hformer] at htags
    rw [if_pos hempty]
    exact ⟨hlibrary, h.layers, h.nodes.mono htags, h.inbounds.mono htags⟩
  · rw [if_neg hempty]
    exact ⟨hlibrary, (layerIds_mapPlaced _ _).symm ▸ h.layers, (nodes_mapPlaced _ _).symm ▸ hnodes,
      hinbounds⟩

theorem renameTag (old new : String) : (t.renameTag old new).topology.Consistent := by
  rw [Topology.renameTag]
  cases t.definition? old with
  | none => exact h
  | some definition => exact h.upsertDefinition _ _

theorem dropReferences (tag : String) : (t.dropReferences tag).layerIds.Nodup ∧
    NodesConsistent ((t.library.map NodeDefinition.tag).filter (· ≠ tag))
      (t.dropReferences tag).nodes ∧
    InboundsConsistent ((t.library.map NodeDefinition.tag).filter (· ≠ tag))
      (t.dropReferences tag).inbounds := by
  have hlayers : (t.dropReferences tag).layerIds = t.layerIds := by
    show (t.layers.map (dropFromLayer tag)).map Layer.id = t.layers.map Layer.id
    rw [List.map_map]
    rfl
  have hnodes : (t.dropReferences tag).nodes = (t.nodes.filter fun node => node.tag ≠ tag).map
      fun node => { node with detours := node.detours.filter (· ≠ tag) } := by
    show (t.layers.map (dropFromLayer tag)).flatMap Layer.nodes = _
    rw [Topology.nodes, List.filter_flatMap, List.map_flatMap, List.flatMap_map]
    rfl
  exact ⟨hlayers ▸ h.layers, hnodes ▸ h.nodes.drop tag, h.inbounds.drop tag⟩

theorem removeReferences (tag : String) : (t.removeReferences tag).1.Consistent := by
  rw [Topology.removeReferences]
  split
  · exact h
  · obtain ⟨hlayers, hnodes, hinbounds⟩ := h.dropReferences tag
    exact ⟨h.library, hlayers, hnodes.mono List.filter_sublist.subset,
      hinbounds.mono List.filter_sublist.subset⟩

theorem deleteDefinition (tag : String) : (t.deleteDefinition tag).topology.Consistent := by
  refine (deleteDefinition_follows t tag).preserves (motive := Consistent) h ?_
  rintro - after ⟨hinternet, -, -, -, rfl⟩
  obtain ⟨hlayers, hnodes, hinbounds⟩ := h.dropReferences tag
  have htags : (t.library.filter fun d => d.tag ≠ tag).map NodeDefinition.tag =
      (t.library.map NodeDefinition.tag).filter (· ≠ tag) := by
    rw [List.filter_map]
    rfl
  have hlibrary : LibraryConsistent (t.library.filter fun d => d.tag ≠ tag) :=
    h.library.sublist List.filter_sublist
      (List.mem_filter.2 ⟨h.library.exit_mem, decide_eq_true hinternet.symm⟩)
  exact ⟨hlibrary, hlayers, htags ▸ hnodes, htags ▸ hinbounds⟩

/-! ### Placements and layers -/

theorem modifyLayer {position : Nat} {f : Layer → Layer} (hid : ∀ layer, (f layer).id = layer.id)
    (hnodes : NodesConsistent (t.library.map NodeDefinition.tag) (t.modifyLayer position f).nodes) :
    (t.modifyLayer position f).Consistent :=
  ⟨h.library, (layerIds_modifyLayer hid position t).symm ▸ h.layers, hnodes, h.inbounds⟩

theorem placeNode (layer tag : String) : (t.placeNode layer tag).topology.Consistent := by
  refine (placeNode_follows t layer tag).preserves (motive := Consistent) h ?_
  rintro id after ⟨position, hposition, hinternet, -, hdefined, hplaced, hid, rfl⟩
  rw [placedTags_eq] at hplaced
  exact h.modifyLayer (fun _ => rfl)
    ((h.nodes.cons hid hplaced ⟨hdefined, hinternet⟩).perm (nodes_append_perm hposition _))

theorem removePlacement (layer node : String) :
    (t.removePlacement layer node).topology.Consistent := by
  refine (removePlacement_follows t layer node).preserves (motive := Consistent) h ?_
  rintro - after ⟨position, rfl⟩
  exact h.modifyLayer (fun _ => rfl) (h.nodes.sublist (nodes_filter_sublist position _ t))

theorem moveNode (node layer : String) : (t.moveNode node layer).topology.Consistent := by
  refine (moveNode_follows t node layer).preserves (motive := Consistent) h ?_
  rintro - after ⟨source, target, found, moved, hfound, htarget, hmoved, rfl⟩
  refine ⟨h.library, ?_, h.nodes.perm (nodes_move_perm hfound hmoved htarget), h.inbounds⟩
  rw [layerIds_modifyLayer (by intro _; rfl), layerIds_modifyLayer (by intro _; rfl)]
  exact h.layers

theorem moveLayer (source target : Nat) : (t.moveLayer source target).topology.Consistent := by
  refine (moveLayer_follows t source target).preserves (motive := Consistent) h ?_
  rintro - after ⟨hsource, htarget, rfl⟩
  exact ⟨h.library, ((moveItem_perm hsource htarget).map Layer.id).nodup_iff.2 h.layers,
    h.nodes.perm (nodes_moveItem_perm hsource htarget), h.inbounds⟩

theorem addLayer (title : String) : (t.addLayer title).topology.Consistent := by
  refine (addLayer_follows t title).preserves (motive := Consistent) h ?_
  rintro id after ⟨hid, front, back, layer, hlayers, -, rfl, hempty, rfl⟩
  have hperm : (front ++ layer :: back).Perm (layer :: t.layers) :=
    hlayers ▸ List.perm_middle
  have hids : (layer.id :: t.layerIds).Nodup := List.nodup_cons.2 ⟨hid, h.layers⟩
  exact ⟨h.library, (hperm.map Layer.id).nodup_iff.2 hids,
    (nodes_insert hlayers hempty).symm ▸ h.nodes, h.inbounds⟩

theorem removeLayer (layer : String) : (t.removeLayer layer).topology.Consistent := by
  refine (removeLayer_follows t layer).preserves (motive := Consistent) h ?_
  rintro - after ⟨position, rfl⟩
  have hsublist := List.eraseIdx_sublist t.layers position
  exact ⟨h.library, (hsublist.map Layer.id).nodup h.layers,
    h.nodes.sublist (hsublist.flatMap Layer.nodes), h.inbounds⟩

/-! ### Inbounds -/

theorem addInbound (tag : Option String) (port : UInt16) :
    (t.addInbound tag port).topology.Consistent := by
  refine (addInbound_follows t tag port).preserves (motive := Consistent) h ?_
  rintro tag after ⟨hne, hslot, rfl⟩
  have hadded : InboundsConsistent (t.library.map NodeDefinition.tag)
      ({ tag := tag, port := port } :: t.inbounds) :=
    h.inbounds.cons hne hslot (detoursConsistent_nil _) nofun
  exact ⟨h.library, h.layers, h.nodes, hadded.perm (List.perm_append_singleton _ _)⟩

theorem updateInbound (tag : String) (newTag : Option String) (port : UInt16) :
    (t.updateInbound tag newTag port).topology.Consistent := by
  refine (updateInbound_follows t tag newTag port).preserves (motive := Consistent) h ?_
  rintro - after ⟨inbound, hinbound, rfl, newTag, hnew, hslot, rfl⟩
  have hothers := h.inbounds.sublist
    (List.filter_sublist (p := fun other => other.tag ≠ inbound.tag))
  have hne : newTag ≠ "" := hnew.elim (fun heq => heq ▸ h.inbounds.tags_ne_empty _ hinbound) id
  have hupdated : InboundsConsistent (t.library.map NodeDefinition.tag)
      ({ inbound with tag := newTag, port := port } ::
        t.inbounds.filter fun other => other.tag ≠ inbound.tag) :=
    hothers.cons hne hslot (h.inbounds.detours inbound hinbound)
      (h.inbounds.default_mem inbound hinbound)
  exact ⟨h.library, h.layers, h.nodes,
    hupdated.perm (modifyFirst_key_perm _ h.inbounds.tags_nodup hinbound)⟩

theorem deleteInbound (tag : String) : (t.deleteInbound tag).topology.Consistent := by
  refine (deleteInbound_follows t tag).preserves (motive := Consistent) h ?_
  rintro - after rfl
  exact ⟨h.library, h.layers, h.nodes, h.inbounds.sublist List.filter_sublist⟩

theorem setSelectorDefault (tag target : String) :
    (t.setSelectorDefault tag target).topology.Consistent := by
  refine (setSelectorDefault_follows t tag target).preserves (motive := Consistent) h ?_
  rintro - after ⟨chosen, hchosen, htarget, rfl⟩
  refine ⟨h.library, h.layers, h.nodes, h.inbounds.modifyFirst (fun _ => rfl) (fun _ => rfl) ?_⟩
  intro inbound hinbound htag
  obtain rfl : chosen = inbound := by
    have hfound := mem_of_inbound? hchosen
    exact List.inj_on_of_nodup_map h.inbounds.tags_nodup hfound.1 hinbound
      (hfound.2.trans htag.symm)
  refine ⟨h.inbounds.detours chosen hinbound, fun tag hdefault => ?_⟩
  obtain rfl := Option.some.inj hdefault
  exact htarget

/-! ### Links -/

theorem relink {links : Nat → PlacedNode → List String} (hlinks : ∀ entry ∈ t.placed,
    DetoursConsistent (t.library.map NodeDefinition.tag) (links entry.1 entry.2)) :
    (t.relink links).Consistent := by
  refine ⟨h.library, (layerIds_relink links t).symm ▸ h.layers, ?_, h.inbounds⟩
  refine h.nodes.relinked (map_nodes_relink (fun _ _ => rfl) links t)
    (map_nodes_relink (fun _ _ => rfl) links t) ?_
  intro after hafter
  obtain ⟨hop, hplaced⟩ := exists_placed_of_mem_nodes hafter
  obtain ⟨node, hnode, rfl⟩ := (mem_placed_relink links t).1 hplaced
  exact hlinks (hop, node) hnode

theorem modifyPlaced {source : String} {change : List String → List String}
    (hchange : ∀ entry ∈ t.placed, entry.2.tag = source →
      DetoursConsistent (t.library.map NodeDefinition.tag) (change entry.2.detours)) :
    (t.modifyPlaced source fun node =>
      { node with detours := change node.detours }).Consistent := by
  rw [modifyPlaced_eq_relink (placedTags_eq t ▸ h.nodes.tags_nodup)]
  refine h.relink fun entry hentry => ?_
  split
  · exact hchange entry hentry ‹_›
  · exact h.nodes.detours _ (mem_nodes_of_mem_placed hentry)

theorem unlink (source : LinkSource) (target : String) :
    (t.perform (.unlink source target)).topology.Consistent := by
  rw [perform]
  split
  · refine (unlinkInbound_follows t source.tag target).preserves (motive := Consistent) h ?_
    rintro - after rfl
    refine ⟨h.library, h.layers, h.nodes, h.inbounds.modifyFirst (fun _ => rfl) (fun _ => rfl) ?_⟩
    intro inbound hinbound _
    exact (h.inbounds.dropInboundLinks hinbound target).imp_left fun hdropped =>
      hdropped.mono List.filter_sublist.subset
  · refine (unlinkNode_follows t source.tag target).preserves (motive := Consistent) h ?_
    rintro - after rfl
    exact h.modifyPlaced fun entry hentry _ =>
      (h.nodes.detours _ (mem_nodes_of_mem_placed hentry)).sublist List.filter_sublist

/-! ### Normalizing and linking -/

theorem nodesSound : t.NodesSound where
  library_nodup := h.library.tags_nodup
  exit_defined := ⟨.internet, h.library.exit_mem, rfl, rfl⟩
  placed_nodup := placedTags_eq t ▸ h.nodes.tags_nodup
  placed_allowed := by
    intro tag htag
    rw [placedTags_eq] at htag
    obtain ⟨node, hnode, rfl⟩ := List.mem_map.1 htag
    obtain ⟨hdefined, hinternet⟩ := h.nodes.tags_allowed node hnode
    exact ⟨h.library.tag_ne_empty hdefined, hinternet, hdefined⟩

theorem addLink {source : LinkSource} {target : String} {kind : EdgeKind}
    (hallow : t.canLink source target = .allow kind) :
    (t.addLink t.index source target kind).Consistent := by
  have hsound := h.nodesSound
  obtain ⟨source, isInbound⟩ := source
  cases isInbound with
  | true =>
      obtain ⟨rfl, -, -, hplaced⟩ := hsound.canLink_inbound_eq_allow_iff.1 hallow
      rw [Topology.addLink, if_pos rfl]
      refine ⟨h.library, h.layers, h.nodes, h.inbounds.modifyFirst (fun _ => rfl) (fun _ => rfl) ?_⟩
      intro inbound hinbound _
      constructor
      · show DetoursConsistent _ (addDetour t.index ((t.index.hopOf? source).getD 0) .inboundEntry
          target inbound.detours)
        exact (h.inbounds.detours inbound hinbound).addDetour
          (h.nodesSound.mem_library_of_isTarget hplaced.isTarget) fun hkind => absurd hkind (by decide)
      · -- A link is only added, so the default is still a detour.
        intro tag hdefault
        have htag := h.inbounds.default_mem inbound hinbound tag hdefault
        show tag ∈ if target ∈ inbound.detours then inbound.detours else inbound.detours ++ [target]
        split
        · exact htag
        · exact List.mem_append_left _ htag
  | false =>
      obtain ⟨entry, hentry, rfl⟩ := hsound.placed_of_canLink_eq_allow hallow
      obtain ⟨-, hreach⟩ := (hsound.canLink_entry_eq_allow_iff hentry).1 hallow
      rw [Topology.addLink, if_neg hreach.ne_inboundEntry]
      have hhop : t.index.hopOf? entry.2.tag = some entry.1 :=
        hsound.hopOf?_eq_some_iff.2 (placedIn_of_mem hentry)
      refine h.modifyPlaced fun other hother _ => ?_
      rw [hhop]
      refine (h.nodes.detours _ (mem_nodes_of_mem_placed hother)).addDetour
        (h.nodesSound.mem_library_of_isTarget hreach.isTarget) ?_
      rintro rfl
      exact hsound.isOutputTarget_iff.2 hreach.twoAhead

theorem link (source : LinkSource) (target : String) :
    (t.link source target).topology.Consistent := by
  cases hdecision : (t.link source target).decision with
  | allow kind =>
      obtain ⟨hallow, hlinked⟩ := link_of_allow hdecision
      rw [hlinked]
      exact h.addLink hallow
  | deny denial =>
      rw [link_denied t hdecision]
      exact h

/-- In a consistent topology only links are to be repaired. -/
theorem exists_normalize_eq_relink : ∃ first second, t.normalize =
    ((t.withInboundLinks t.index).relink first).relink second := by
  have hnodes : t.withNodes = t := h.nodesSound.withNodes_eq_self h.inbounds.default_mem
  have hrelink := normalize_eq_relink t
  rw [linked, hnodes, withLegalLinks, withNodeLinks_eq_relink] at hrelink
  exact ⟨_, _, hrelink⟩

theorem normalize : t.normalize.Consistent := by
  have hnormal := isNormal_normalize t
  obtain ⟨first, second, hrelink⟩ := h.exists_normalize_eq_relink
  have hlibrary : t.normalize.library = t.library := by rw [hrelink]; rfl
  have htargets : ∀ {tag : String}, t.normalize.IsTarget tag →
      tag ∈ t.library.map NodeDefinition.tag := by
    rintro tag (hplaced | rfl)
    · exact hlibrary ▸ (hnormal.placed_allowed tag hplaced).2.2
    · exact h.library.internet_mem_tags
  have hkeys : ∀ {α : Type} {key : PlacedNode → α},
      (∀ node detours, key { node with detours := detours } = key node) →
      t.normalize.nodes.map key = t.nodes.map key := by
    intro α key hkey
    rw [hrelink, map_nodes_relink hkey, map_nodes_relink hkey]
    rfl
  -- Tags and ids are as before; the links are legal, so they are to tags of the library.
  refine ⟨hlibrary ▸ h.library, ?_, ?_, ?_⟩
  · rw [hrelink, layerIds_relink, layerIds_relink]
    exact h.layers
  · rw [hlibrary]
    refine h.nodes.relinked (hkeys fun _ _ => rfl) (hkeys fun _ _ => rfl) fun node hnode => ?_
    obtain ⟨hop, hplaced⟩ := exists_placed_of_mem_nodes hnode
    have hlinks := hnormal.node_links _ hplaced
    exact ⟨hlinks.nodup, fun tag htag => htargets (hlinks.isTarget htag)⟩
  · rw [hlibrary]
    refine h.inbounds.relinked (map_inbounds_normalize (by simp) (by simp) t)
      (map_inbounds_normalize (by simp) (by simp) t) fun inbound hinbound => ?_
    obtain ⟨hnodup, hplaced⟩ := hnormal.inbound_links inbound hinbound
    exact ⟨⟨hnodup, fun tag htag => htargets (hplaced tag htag).isTarget⟩,
      hnormal.inbound_default inbound hinbound⟩

/-! ### All operations -/

theorem perform (operation : Operation) : (t.perform operation).topology.Consistent := by
  cases operation with
  | upsertDefinition definition former => exact h.upsertDefinition definition former
  | renameTag old new => exact h.renameTag old new
  | removeReferences tag => exact h.removeReferences tag
  | deleteDefinition tag => exact h.deleteDefinition tag
  | placeNode layer tag => exact h.placeNode layer tag
  | removePlacement layer node => exact h.removePlacement layer node
  | moveNode node layer => exact h.moveNode node layer
  | moveLayer source target => exact h.moveLayer source target
  | addLayer title => exact h.addLayer title
  | removeLayer layer => exact h.removeLayer layer
  | addInbound tag port => exact h.addInbound tag port
  | updateInbound tag newTag port => exact h.updateInbound tag newTag port
  | deleteInbound tag => exact h.deleteInbound tag
  | setSelectorDefault inbound target => exact h.setSelectorDefault inbound target
  | unlink source target => exact h.unlink source target
  | link source target => exact h.link source target
  | normalize => exact h.normalize

theorem performAll (operations : List Operation) : (t.performAll operations).Consistent := by
  induction operations generalizing t with
  | nil => exact h
  | cons operation rest ih => exact ih (h.perform operation)

end Consistent

theorem consistent_defaultProfile : defaultProfile.Consistent where
  library := ⟨by decide, by decide, List.mem_singleton_self _, by decide⟩
  layers := by decide
  nodes := ⟨by decide, by decide, by decide, nofun⟩
  inbounds := ⟨by decide, by decide, by decide, by decide,
    fun _ hinbound => by rw [List.mem_singleton.1 hinbound]; exact detoursConsistent_nil _,
    by decide⟩

/-- After any session that starts from the default profile the topology is consistent. -/
theorem consistent_performAll (operations : List Operation) :
    (defaultProfile.performAll operations).Consistent :=
  consistent_defaultProfile.performAll operations

end Topology

end ProxyChain
