import ProxyChain.Proofs.Topology.Linking
import ProxyChain.Proofs.Topology.Renaming
import ProxyChain.Topology.Session

/-!
# ProxyChain.Proofs.Topology.NoRepair

**Edits after which there is nothing to repair.** Removing nodes and links, placing nodes without
links, and giving nodes other definitions of the same role add no link, and then every link that
is left is as legal as it was (`IsNormal.of_addsNoLinks`). An edit of the inbounds does not touch
the nodes, and giving a node another tag is a renaming.

The operations that do no more than this are the reference-safe ones. Each keeps the normal form
(`IsNormal.perform`), and so does a session of them (`IsNormal.performAll`). The others may move a
node out of reach of its links.
-/

namespace ProxyChain

namespace Topology

/-! ### Changes that add no links -/

/-- A change after which nodes have no links that they did not have before. Each link leads where it
led, and the nodes that have links have the role that they had. -/
structure AddsNoLinks (t after : Topology) : Prop where
  hopCount_eq : after.hopCount = t.hopCount
  node_cases : ∀ entry ∈ after.placed, entry.2.detours = [] ∨
    ∃ node, (entry.1, node) ∈ t.placed ∧ node.tag = entry.2.tag ∧
      entry.2.detours.Sublist node.detours ∧ (after.kindOf entry.2).role = (t.kindOf node).role
  placedIn_iff : ∀ entry ∈ after.placed, ∀ tag ∈ entry.2.detours, ∀ hop,
    after.PlacedIn tag hop ↔ t.PlacedIn tag hop

section

variable {t after : Topology}

/-- Some of the links that were legal are legal if they lead where they led. -/
theorem LegalLinks.sublist {hop : Nat} {role : NodeRole} {detours kept : List String}
    (h : t.LegalLinks hop role detours) (hcount : after.hopCount = t.hopCount)
    (hkept : kept.Sublist detours)
    (hplaced : ∀ tag ∈ kept, ∀ hop, t.PlacedIn tag hop → after.PlacedIn tag hop) :
    after.LegalLinks hop role kept := by
  have hone : ∀ tag ∈ kept, t.OneAhead hop tag → after.OneAhead hop tag := by
    intro tag htag
    rw [OneAhead, OneAhead, hcount]
    exact Or.imp_left (hplaced tag htag _)
  have htwo : ∀ tag ∈ kept, t.TwoAhead hop tag → after.TwoAhead hop tag := by
    intro tag htag
    rw [TwoAhead, TwoAhead, hcount]
    exact Or.imp_left (hplaced tag htag _)
  have hnodup : kept.Nodup := hkept.nodup h.nodup
  cases role with
  | leaf =>
      exact ⟨Nat.le_trans hkept.length_le h.1,
        fun tag htag => hone tag htag (h.2 tag (hkept.subset htag))⟩
  | selector =>
      exact ⟨hnodup, fun tag htag => hone tag htag (h.2 tag (hkept.subset htag))⟩
  | roundRobin =>
      obtain ⟨-, pool, output, rfl, hpool, houtput⟩ := h
      obtain ⟨members, rest, rfl, hmembers, hrest⟩ := List.sublist_append_iff.1 hkept
      -- What is left of the output is the output or nothing.
      have hrest_eq : rest = rest.head?.toList := by
        cases output with
        | none => rw [List.sublist_nil.1 hrest]; rfl
        | some tag =>
            rcases List.sublist_singleton.1 hrest with rfl | rfl <;> rfl
      refine ⟨hnodup, members, rest.head?, congrArg (members ++ ·) hrest_eq, ?_, ?_⟩
      · intro tag htag
        exact hplaced tag (List.mem_append_left _ htag) _ (hpool tag (hmembers.subset htag))
      · intro tag htag
        have hmem : tag ∈ rest := List.mem_of_head? htag
        exact htwo tag (List.mem_append_right _ hmem)
          (houtput tag (Option.mem_toList.1 (hrest.subset hmem)))

namespace AddsNoLinks

variable (h : AddsNoLinks t after)

include h

/-- A node with a link to an output was there, and it had that output. -/
theorem exists_isOutput {source : Nat × PlacedNode} (hsource : source ∈ after.placed)
    {output : String} (houtput : after.IsOutput source output) :
    ∃ node, (source.1, node) ∈ t.placed ∧ source.2.detours.Sublist node.detours ∧
      t.IsOutput (source.1, node) output := by
  obtain ⟨hkind, hmem, hahead⟩ := houtput
  rcases h.node_cases source hsource with hnone | ⟨node, hnode, -, hsublist, hrole⟩
  · rw [hnone] at hmem
    exact absurd hmem List.not_mem_nil
  · rw [hkind] at hrole
    exact ⟨node, hnode, hsublist, NodeKind.role_eq_roundRobin_iff.1 hrole.symm,
      hsublist.subset hmem, hahead.imp (h.placedIn_iff source hsource output hmem _).1
        (And.imp_right (·.trans h.hopCount_eq))⟩

end AddsNoLinks

/-- What adds no links keeps the normal form of links. -/
theorem IsNormal.of_addsNoLinks (ht : t.IsNormal) (h : AddsNoLinks t after)
    (hnodes : after.NodesSound) (hinbounds : after.InboundsSound) : after.IsNormal where
  toNodesSound := hnodes
  inbound_links := fun inbound hinbound => (hinbounds inbound hinbound).1
  inbound_default := fun inbound hinbound => (hinbounds inbound hinbound).2
  node_links := by
    intro entry hentry
    rcases h.node_cases entry hentry with hnone | ⟨node, hnode, -, hsublist, hrole⟩
    · rw [hnone]
      exact legalLinks_nil _ _ _
    · rw [hrole]
      exact (ht.node_links _ hnode).sublist h.hopCount_eq hsublist fun tag htag hop =>
        (h.placedIn_iff entry hentry tag htag hop).2
  managed_idle := by
    intro source hsource output houtput entry hentry hpool
    rcases h.node_cases entry hentry with hnone | ⟨node, hnode, htag, hsublist, -⟩
    · exact hnone
    · obtain ⟨before, hbefore, hkept, hwas⟩ := h.exists_isOutput hsource houtput
      obtain ⟨-, hmem, hplaced⟩ := hpool
      have hmember : t.InPool (source.1, before) node.tag := by
        rw [htag]
        exact ⟨hwas.1, hkept.subset hmem, (h.placedIn_iff source hsource _ hmem _).1 hplaced⟩
      have hidle := ht.managed_idle _ hbefore output hwas _ hnode hmember
      rwa [hidle, List.sublist_nil] at hsublist

end

namespace IsNormal

variable {t : Topology} (h : t.IsNormal)

include h

/-! ### Inbounds -/

/-- An edit of the inbounds need only be right about them. -/
theorem withInbounds {inbounds : List Inbound}
    (hinbounds : ({ t with inbounds := inbounds } : Topology).InboundsSound) :
    ({ t with inbounds := inbounds } : Topology).IsNormal :=
  { h with
    inbound_links := fun inbound hinbound => (hinbounds inbound hinbound).1
    inbound_default := fun inbound hinbound => (hinbounds inbound hinbound).2 }

theorem modifyInbound {source : String} {f : Inbound → Inbound}
    (hf : ∀ inbound, t.inbound? source = some inbound →
      ((f inbound).detours.Nodup ∧ ∀ tag ∈ (f inbound).detours, t.PlacedIn tag 0) ∧
        ∀ tag ∈ (f inbound).selectorDefault, tag ∈ (f inbound).detours) :
    (t.modifyInbound source f).IsNormal := by
  refine h.withInbounds fun after hafter => ?_
  rcases mem_modifyFirst_find? hafter with hold | ⟨inbound, hfound, rfl⟩
  · exact h.inboundsSound after hold
  · exact hf inbound hfound

theorem addInbound (tag : Option String) (port : UInt16) :
    (t.addInbound tag port).topology.IsNormal := by
  refine (addInbound_follows t tag port).preserves (motive := IsNormal) h ?_
  rintro tag after ⟨-, -, rfl⟩
  refine h.withInbounds fun inbound hinbound => ?_
  rcases List.mem_append.1 hinbound with hold | hnew
  · exact h.inboundsSound inbound hold
  · rw [List.mem_singleton.1 hnew]
    exact ⟨⟨List.nodup_nil, nofun⟩, nofun⟩

theorem updateInbound (tag : String) (newTag : Option String) (port : UInt16) :
    (t.updateInbound tag newTag port).topology.IsNormal := by
  refine (updateInbound_follows t tag newTag port).preserves (motive := IsNormal) h ?_
  rintro - after ⟨-, -, -, newTag, -, -, rfl⟩
  exact h.modifyInbound fun inbound hfound =>
    h.inboundsSound inbound (mem_of_inbound? hfound).1

theorem deleteInbound (tag : String) : (t.deleteInbound tag).topology.IsNormal := by
  refine (deleteInbound_follows t tag).preserves (motive := IsNormal) h ?_
  rintro - after rfl
  exact h.withInbounds fun inbound hinbound =>
    h.inboundsSound inbound (List.mem_filter.1 hinbound |>.1)

theorem setSelectorDefault (tag target : String) :
    (t.setSelectorDefault tag target).topology.IsNormal := by
  refine (setSelectorDefault_follows t tag target).preserves (motive := IsNormal) h ?_
  rintro - after ⟨chosen, hchosen, htarget, rfl⟩
  refine h.modifyInbound fun inbound hfound => ?_
  obtain rfl : chosen = inbound := Option.some.inj (hchosen.symm.trans hfound)
  refine ⟨h.inbound_links chosen (mem_of_inbound? hfound).1, fun tag hdefault => ?_⟩
  obtain rfl := Option.some.inj hdefault
  exact htarget

/-! ### Links -/

/-- Removing links of nodes. -/
theorem relink_sublist {links : Nat → PlacedNode → List String}
    (hlinks : ∀ entry ∈ t.placed, (links entry.1 entry.2).Sublist entry.2.detours) :
    (t.relink links).IsNormal := by
  have hadds : AddsNoLinks t (t.relink links) := by
    refine ⟨hopCount_relink links t, ?_, fun _ _ tag _ hop => placedIn_relink links t tag hop⟩
    rintro ⟨hop, after⟩ hafter
    obtain ⟨node, hnode, rfl⟩ := (mem_placed_relink links t).1 hafter
    exact Or.inr ⟨node, hnode, rfl, hlinks (hop, node) hnode, rfl⟩
  refine h.of_addsNoLinks hadds (h.toNodesSound.relink links) fun inbound hinbound => ?_
  simp only [placedIn_relink]
  exact h.inboundsSound inbound hinbound

theorem unlinkInbound (source target : String) :
    (t.unlinkInbound source target).topology.IsNormal := by
  refine (unlinkInbound_follows t source target).preserves (motive := IsNormal) h ?_
  rintro - after rfl
  refine h.modifyInbound fun inbound hfound => ?_
  obtain ⟨⟨hnodup, hplaced⟩, hdefault⟩ := h.inboundsSound inbound (mem_of_inbound? hfound).1
  exact ⟨⟨hnodup.filter _, fun tag htag => hplaced tag (List.mem_filter.1 htag).1⟩,
    default_mem_dropInboundLinks hdefault⟩

theorem unlinkNode (source target : String) :
    (t.unlinkNode source target).topology.IsNormal := by
  refine (unlinkNode_follows t source target).preserves (motive := IsNormal) h ?_
  rintro - after rfl
  rw [modifyPlaced_eq_relink h.placed_nodup]
  refine h.relink_sublist fun entry _ => ?_
  split
  · exact List.filter_sublist
  · exact .refl _

/-! ### The library -/

/-- Another library in which the Internet exit is right and placed nodes keep their roles. -/
theorem withLibrary {library : List NodeDefinition}
    (hnodup : (library.map NodeDefinition.tag).Nodup)
    (hexit : ∃ d ∈ library, d.tag = Tag.internet ∧ d.kind = .direct)
    (hkept : ∀ d ∈ t.library, d.tag ∈ t.placedTags →
      ∃ other ∈ library, other.tag = d.tag ∧ other.kind.role = d.kind.role) :
    ({ t with library := library } : Topology).IsNormal := by
  have hdefined : ∀ tag ∈ t.placedTags, ∃ d ∈ t.library, d.tag = tag ∧
      ∃ other ∈ library, other.tag = tag ∧ other.kind.role = d.kind.role := by
    intro tag htag
    obtain ⟨d, hd, rfl⟩ := List.mem_map.1 (h.placed_allowed tag htag).2.2
    exact ⟨d, hd, rfl, hkept d hd htag⟩
  have hsound : ({ t with library := library } : Topology).NodesSound := by
    refine ⟨hnodup, hexit, h.placed_nodup, fun tag htag => ?_⟩
    obtain ⟨-, -, -, other, hother, rfl, -⟩ := hdefined tag htag
    exact ⟨(h.placed_allowed _ htag).1, (h.placed_allowed _ htag).2.1, List.mem_map_of_mem hother⟩
  refine h.of_addsNoLinks ⟨rfl, ?_, fun _ _ _ _ _ => Iff.rfl⟩ hsound h.inboundsSound
  intro entry hentry
  refine Or.inr ⟨entry.2, hentry, rfl, .refl _, ?_⟩
  obtain ⟨d, hd, htag, other, hother, hother_tag, hrole⟩ :=
    hdefined entry.2.tag (List.mem_map_of_mem hentry)
  rw [hsound.kindOf_eq hother hother_tag, h.kindOf_eq hd htag, hrole]

/-- A tag that nothing refers to can be given up without anything following. -/
theorem retagReferences_eq_self {old new : String} {library : List NodeDefinition}
    (hold : old = "" ∨ old ∉ t.library.map NodeDefinition.tag) :
    ({ t with library := library } : Topology).retagReferences old new =
      { t with library := library } := by
  by_cases hempty : old = ""
  · exact if_pos hempty
  · have hself : t.mapTags (retag old new) = t.mapTags id := by
      refine h.referencesDefined.mapTags_congr fun tag htag => retag_of_ne fun heq => ?_
      exact (hold.resolve_left hempty) (heq ▸ htag)
    rw [mapTags_id] at hself
    have hparts : ({ t with library := library } : Topology).retagReferences old new =
        { t.mapTags (retag old new) with library := library } := if_neg hempty
    rw [hparts, hself]

/-- A definition of the same role in place of the one with the former tag, and still under that tag.
-/
theorem replaceDefinition {definition : NodeDefinition} {former : String}
    (hinternet : former ≠ Tag.internet)
    (hrole : ∀ d ∈ t.library, d.tag = former → d.kind.role = definition.kind.role) :
    ({ t with library := replaceDefinition definition former t.library } : Topology).IsNormal := by
  have hkept : ∀ d ∈ t.library, d.tag ≠ former →
      d ∈ Topology.replaceDefinition definition former t.library := fun d hd hne =>
    List.mem_map.2 ⟨d, hd, if_neg hne⟩
  obtain ⟨exit, hexit, hexit_tag, hexit_kind⟩ := h.exit_defined
  refine h.withLibrary ?_ ⟨exit, hkept exit hexit ?_, hexit_tag, hexit_kind⟩ fun d hd _ => ?_
  · rw [map_tag_replaceDefinition]
    exact h.library_nodup
  · rw [hexit_tag]
    exact hinternet.symm
  · by_cases htag : d.tag = former
    · refine ⟨_, List.mem_map.2 ⟨d, hd, if_pos htag⟩, htag.symm, ?_⟩
      rw [hrole d hd htag, ← definition.kind_withId d.id]
      rfl
    · exact ⟨d, hkept d hd htag, rfl, rfl⟩

/-- Saving a definition that is new, or has the role of the one that it takes the place of. -/
theorem upsertDefinition (definition : NodeDefinition) (former : Option String)
    (hrole : ∀ d ∈ t.library, d.tag = former.getD definition.tag →
      d.kind.role = definition.kind.role) :
    (t.upsertDefinition definition former).topology.IsNormal := by
  refine (upsertDefinition_follows t definition former).preserves (motive := IsNormal) h ?_
  rintro - after ⟨hsave, rfl⟩
  generalize former.getD definition.tag = former at hsave hrole ⊢
  have hkept : ∀ d ∈ t.library, d.tag ≠ former →
      d ∈ saveDefinition definition former t.library := fun d hd hne =>
    mem_saveDefinition_of_ne h.library_nodup hd hne
  by_cases hunused : former = "" ∨ former ∉ t.library.map NodeDefinition.tag
  · -- No placed node has the former tag, so all keep their definitions.
    rw [h.retagReferences_eq_self hunused]
    obtain ⟨exit, hexit, hexit_tag, hexit_kind⟩ := h.exit_defined
    refine h.withLibrary (nodup_saveDefinition h.library_nodup hsave.tag_free)
      ⟨exit, hkept exit hexit ?_, hexit_tag, hexit_kind⟩ fun d hd hplaced => ?_
    · rw [hexit_tag]
      exact hsave.former_ne_internet.symm
    · refine ⟨d, hkept d hd ?_, rfl, rfl⟩
      rintro rfl
      rcases hunused with hempty | hnone
      · exact (h.placed_allowed _ hplaced).1 hempty
      · exact hnone (List.mem_map_of_mem hd)
  · -- The definition takes the place of the one with the former tag, and then all is renamed.
    obtain ⟨hempty, hdefined⟩ := not_or.1 hunused
    rw [not_not] at hdefined
    have hreplaced := h.replaceDefinition hsave.former_ne_internet hrole
    rw [retagReferences_saveDefinition _ h.library_nodup hdefined hempty, hreplaced.mapTags_retag]
    · exact hreplaced.mapTags (hsave.renaming_swap hempty)
    · rw [map_tag_replaceDefinition]
      exact hsave.tag_free

theorem renameTag (old new : String) : (t.renameTag old new).topology.IsNormal := by
  rw [Topology.renameTag]
  cases hfound : t.definition? old with
  | none => exact h
  | some definition =>
      obtain ⟨-, hdefinition, htag⟩ := mem_of_definition? hfound
      refine h.upsertDefinition _ _ fun d hd hdtag => ?_
      rw [List.inj_on_of_nodup_map h.library_nodup hd hdefinition (hdtag.trans htag.symm)]

/-! ### Nodes -/

section

variable (tag : String) {library : List NodeDefinition} (hlibrary : library.Sublist t.library)
  (hexit : ∃ d ∈ library, d.tag = Tag.internet ∧ d.kind = .direct)
  (hkept : ∀ d ∈ t.library, d.tag ≠ tag → d ∈ library)

include hlibrary hexit hkept in
theorem nodesSound_dropReferences :
    ({ t.dropReferences tag with library := library } : Topology).NodesSound := by
  have htags : ({ t.dropReferences tag with library := library } : Topology).placedTags =
      t.placedTags.filter (· ≠ tag) := placedTags_dropReferences tag t
  refine ⟨(hlibrary.map _).nodup h.library_nodup, hexit, ?_, ?_⟩
  · rw [htags]
    exact h.placed_nodup.filter _
  · rw [htags]
    intro other hother
    obtain ⟨hplaced, hne⟩ := List.mem_filter.1 hother
    obtain ⟨hempty, hinternet, hdefined⟩ := h.placed_allowed other hplaced
    obtain ⟨d, hd, rfl⟩ := List.mem_map.1 hdefined
    exact ⟨hempty, hinternet, List.mem_map_of_mem (hkept d hd (of_decide_eq_true hne))⟩

theorem inboundsSound_dropReferences :
    ({ t.dropReferences tag with library := library } : Topology).InboundsSound := by
  intro after hafter
  obtain ⟨inbound, hinbound, rfl⟩ := List.mem_map.1 hafter
  obtain ⟨⟨hnodup, hplaced⟩, hdefault⟩ := h.inboundsSound inbound hinbound
  refine ⟨⟨hnodup.filter _, fun other hother => ?_⟩, default_mem_dropInboundLinks hdefault⟩
  obtain ⟨hmem, hne⟩ := List.mem_filter.1 hother
  exact placedIn_dropReferences.2 ⟨hplaced other hmem, of_decide_eq_true hne⟩

include hlibrary hexit hkept in
/-- Dropping a tag with all links to it, and at most its definition with it. -/
theorem dropReferences :
    ({ t.dropReferences tag with library := library } : Topology).IsNormal := by
  have hsound := h.nodesSound_dropReferences tag hlibrary hexit hkept
  refine h.of_addsNoLinks ⟨List.length_map _, ?_, ?_⟩ hsound (h.inboundsSound_dropReferences tag)
  · rintro ⟨hop, after⟩ hafter
    obtain ⟨node, hnode, hne, rfl⟩ := mem_placed_dropReferences.1 hafter
    refine Or.inr ⟨node, hnode, rfl, List.filter_sublist, ?_⟩
    -- A node that stays has another tag, so its definition stays too.
    have hplaced : node.tag ∈ t.placedTags :=
      List.mem_map_of_mem (f := fun entry => entry.2.tag) hnode
    obtain ⟨d, hd, hdtag⟩ := List.mem_map.1 (h.placed_allowed node.tag hplaced).2.2
    have hdkept : d ∈ library := hkept d hd fun heq => hne (hdtag.symm.trans heq)
    have hkind : kindOf _ { node with detours := node.detours.filter (· ≠ tag) } = d.kind :=
      hsound.kindOf_eq hdkept hdtag
    exact congrArg NodeKind.role (hkind.trans (h.kindOf_eq hd hdtag).symm)
  · rintro ⟨hop, after⟩ hafter other hother i
    obtain ⟨node, -, -, rfl⟩ := mem_placed_dropReferences.1 hafter
    have hne : other ≠ tag := of_decide_eq_true (List.mem_filter.1 hother).2
    exact placedIn_dropReferences.trans (and_iff_left hne)

end

theorem removeReferences (tag : String) : (t.removeReferences tag).1.IsNormal := by
  rw [Topology.removeReferences]
  split
  · exact h
  · exact h.dropReferences tag (.refl _) h.exit_defined fun d hd _ => hd

theorem deleteDefinition (tag : String) : (t.deleteDefinition tag).topology.IsNormal := by
  refine (deleteDefinition_follows t tag).preserves (motive := IsNormal) h ?_
  rintro - after ⟨hinternet, -, -, -, rfl⟩
  have hkept : ∀ d ∈ t.library, d.tag ≠ tag → d ∈ t.library.filter fun d => d.tag ≠ tag :=
    fun d hd hne => List.mem_filter.2 ⟨hd, decide_eq_true hne⟩
  obtain ⟨exit, hexit, hexit_tag, hexit_kind⟩ := h.exit_defined
  refine h.dropReferences tag List.filter_sublist
    ⟨exit, hkept exit hexit ?_, hexit_tag, hexit_kind⟩ hkept
  rw [hexit_tag]
  exact hinternet.symm

theorem placeNode (layer tag : String) : (t.placeNode layer tag).topology.IsNormal := by
  refine (placeNode_follows t layer tag).preserves (motive := IsNormal) h ?_
  rintro id after ⟨position, hposition, hinternet, hempty, hdefined, hplaced, -, rfl⟩
  have htags := (nodes_append_perm hposition { id := id, tag := tag }).map PlacedNode.tag
  rw [← placedTags_eq, List.map_cons, ← placedTags_eq] at htags
  refine h.of_addsNoLinks ⟨List.length_modify .., ?_, ?_⟩
    ⟨h.library_nodup, h.exit_defined, ?_, ?_⟩ ?_
  · intro entry hentry
    rcases (mem_placed_append hposition).1 hentry with hold | rfl
    · exact Or.inr ⟨entry.2, hold, rfl, .refl _, rfl⟩
    · exact Or.inl rfl
  · intro entry hentry target htarget hop
    rcases (mem_placed_append hposition).1 hentry with hold | rfl
    · -- What was linked to was there, so it is not the new node.
      have hne : target ≠ tag := by
        rintro rfl
        rcases h.isTarget_of_mem_detours hold htarget with hthere | hexit
        · exact hplaced hthere
        · exact hinternet hexit
      rw [placedIn_append hposition]
      exact or_iff_left fun hnew => hne hnew.2
    · exact absurd htarget List.not_mem_nil
  · exact htags.nodup_iff.2 (List.nodup_cons.2 ⟨hplaced, h.placed_nodup⟩)
  · intro other hother
    rcases List.mem_cons.1 (htags.mem_iff.1 hother) with rfl | hold
    · exact ⟨hempty, hinternet, hdefined⟩
    · exact h.placed_allowed other hold
  · intro inbound hinbound
    obtain ⟨⟨hnodup, hlinks⟩, hdefault⟩ := h.inboundsSound inbound hinbound
    exact ⟨⟨hnodup, fun target htarget => (placedIn_append hposition).2
      (Or.inl (hlinks target htarget))⟩, hdefault⟩

end IsNormal

/-! ### All operations -/

/-- The operations after which there is nothing to repair. A definition that takes the place of
another one has to keep its role. -/
def ReferenceSafe (t : Topology) : Operation → Prop
  | .placeNode _ _ | .deleteDefinition _ | .removeReferences _ | .renameTag _ _ | .unlink _ _
  | .setSelectorDefault _ _ | .addInbound _ _ | .updateInbound _ _ _ | .deleteInbound _ => True
  | .upsertDefinition definition former => ∀ d ∈ t.library, d.tag = former.getD definition.tag →
      d.kind.role = definition.kind.role
  | .removePlacement _ _ | .moveNode _ _ | .moveLayer _ _ | .addLayer _ | .removeLayer _
  | .link _ _ | .normalize => False

/-- A session of such operations. -/
def AllReferenceSafe : Topology → List Operation → Prop
  | _, [] => True
  | t, operation :: rest =>
    t.ReferenceSafe operation ∧ AllReferenceSafe (t.perform operation).topology rest

theorem IsNormal.perform {t : Topology} (h : t.IsNormal) {operation : Operation}
    (hsafe : t.ReferenceSafe operation) : (t.perform operation).topology.IsNormal := by
  cases operation with
  | upsertDefinition definition former => exact h.upsertDefinition definition former hsafe
  | renameTag old new => exact h.renameTag old new
  | removeReferences tag => exact h.removeReferences tag
  | deleteDefinition tag => exact h.deleteDefinition tag
  | placeNode layer tag => exact h.placeNode layer tag
  | addInbound tag port => exact h.addInbound tag port
  | updateInbound tag newTag port => exact h.updateInbound tag newTag port
  | deleteInbound tag => exact h.deleteInbound tag
  | setSelectorDefault inbound target => exact h.setSelectorDefault inbound target
  | unlink source target =>
      rw [Topology.perform]
      split
      · exact h.unlinkInbound source.tag target
      · exact h.unlinkNode source.tag target
  | removePlacement | moveNode | moveLayer | addLayer | removeLayer | link | normalize =>
      exact hsafe.elim

theorem IsNormal.performAll {t : Topology} (h : t.IsNormal) {operations : List Operation}
    (hsafe : t.AllReferenceSafe operations) : (t.performAll operations).IsNormal := by
  induction operations generalizing t with
  | nil => exact h
  | cons operation rest ih => exact ih (h.perform hsafe.1) hsafe.2

/-- After a reference-safe operation on a topology in normal form, whether it is done or refused,
normalizing changes nothing and counts nothing. -/
theorem normalize_perform_referenceSafe {t : Topology} (h : t.normalize = t)
    {operation : Operation} (hsafe : t.ReferenceSafe operation) :
    (t.perform operation).topology.normalize = (t.perform operation).topology ∧
      (t.perform operation).topology.repairs = {} := by
  have hnormal := (isNormal_of_normalize_eq_self h).perform hsafe
  exact ⟨hnormal.normalize_eq_self, hnormal.repairs_eq⟩

/-- A member of a pool becomes another leaf under another name. -/
theorem member_replaced_needs_no_repair : nestedPools.normalize = nestedPools ∧
    nestedPools.ReferenceSafe (.upsertDefinition (.named "u" .trojan) (some "x")) ∧
    (nestedPools.perform (.upsertDefinition (.named "u" .trojan) (some "x"))).topology.nodes =
      [{ tag := "outer", detours := ["inner", "u", "z"] }, { tag := "inner" }, { tag := "u" },
        { tag := "z" }, { tag := "w" }] ∧
    (nestedPools.perform (.upsertDefinition (.named "u" .trojan) (some "x"))).topology.repairs =
      {} := by
  have hnormal : nestedPools.normalize = nestedPools := by decide
  have hsafe : nestedPools.ReferenceSafe
      (.upsertDefinition (.named "u" .trojan) (some "x")) := by
    show ∀ d ∈ nestedPools.library, d.tag = "x" → d.kind.role = .leaf
    decide
  exact ⟨hnormal, hsafe, by decide, (normalize_perform_referenceSafe hnormal hsafe).2⟩

end Topology

end ProxyChain
