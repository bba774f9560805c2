import Mathlib.Logic.Equiv.Basic
import ProxyChain.Proofs.Topology.Consistency

/-!
# ProxyChain.Proofs.Topology.Renaming

**Other names for the same nodes.** Tags are compared with each other and with a few fixed ones,
and nothing else is ever done with them. So a renaming (`Tag.Renaming`), which keeps different tags
different and leaves the fixed ones alone, changes no kind, no hop and no look-up, and what it makes
of a topology in normal form is in normal form (`IsNormal.mapTags`).

Replacing one tag by another is no renaming, as it may make two tags equal. Where the new tag was
not there before, it does the same as exchanging the two tags, which is one
(`IsNormal.mapTags_retag`).
-/

namespace ProxyChain

/-! ### Renamings -/

/-- Other names for tags. No two tags get the same name, and those that are not given by the user
keep theirs. -/
structure Tag.Renaming (f : String → String) : Prop where
  injective : Function.Injective f
  empty : f "" = ""
  reserved : ∀ tag, Tag.isReserved tag = true → f tag = tag

namespace Tag

namespace Renaming

variable {f : String → String} (h : Renaming f)

include h

theorem eq_iff {a b : String} : f a = f b ↔ a = b :=
  h.injective.eq_iff

theorem eq_iff_of_fixed {a b : String} (hfixed : f b = b) : f a = b ↔ a = b := by
  conv_lhs => rw [← hfixed]
  exact h.eq_iff

theorem eq_empty_iff {tag : String} : f tag = "" ↔ tag = "" :=
  h.eq_iff_of_fixed h.empty

theorem internet : f Tag.internet = Tag.internet :=
  h.reserved _ (by decide)

theorem eq_internet_iff {tag : String} : f tag = Tag.internet ↔ tag = Tag.internet :=
  h.eq_iff_of_fixed h.internet

theorem system {tag : String} (htag : isSystem tag = true) : f tag = tag :=
  h.reserved tag (by simp [isReserved, htag])

end Renaming

/-- Two tags that a user may give can be exchanged. -/
theorem renaming_swap {a b : String} (ha : a ≠ "") (hb : b ≠ "")
    (hareserved : isReserved a = false) (hbreserved : isReserved b = false) :
    Renaming (Equiv.swap a b) where
  injective := (Equiv.swap a b).injective
  empty := Equiv.swap_apply_of_ne_of_ne ha.symm hb.symm
  reserved := by
    intro tag htag
    refine Equiv.swap_apply_of_ne_of_ne ?_ ?_
    · rintro rfl
      simp [htag] at hareserved
    · rintro rfl
      simp [htag] at hbreserved

/-- Where the new tag does not occur, replacing the old one is exchanging the two. -/
theorem retag_eq_swap {old new tag : String} (h : old = new ∨ tag ≠ new) :
    Topology.retag old new tag = Equiv.swap old new tag := by
  rw [Topology.retag, Equiv.swap_apply_def]
  split
  · rfl
  · rename_i hold
    rcases h with rfl | hnew
    · rw [if_neg hold]
    · rw [if_neg hnew]

theorem distinct_map {f : String → String} (hf : Function.Injective f) (tags : List String) :
    distinct (tags.map f) = (distinct tags).map f := by
  show distinctBy id (tags.map f) = (distinctBy id tags).map f
  induction tags with
  | nil => rfl
  | cons tag rest ih =>
      simp only [List.map_cons, distinctBy, ih, List.filter_map]
      congr 2
      refine List.filter_congr fun other _ => ?_
      simp [hf.eq_iff]

theorem unique_map {f : String → String} (h : Renaming f) (tags : List String) :
    unique (tags.map f) = (unique tags).map f := by
  rw [unique, unique, ← distinct_map h.injective, List.filter_map]
  congr 2
  refine List.filter_congr fun tag _ => ?_
  simp [h.eq_empty_iff]

end Tag

/-! ### Renaming a topology -/

/-- A placed node under another name. -/
def PlacedNode.mapTags (f : String → String) (node : PlacedNode) : PlacedNode :=
  { node with tag := f node.tag, detours := node.detours.map f }

/-- A definition under another name. -/
def NodeDefinition.mapTag (f : String → String) (d : NodeDefinition) : NodeDefinition :=
  { d with tag := f d.tag }

/-- An inbound whose targets have other names. -/
def Inbound.mapTags (f : String → String) (inbound : Inbound) : Inbound :=
  { inbound with
    detours := inbound.detours.map f
    selectorDefault := inbound.selectorDefault.map f }

namespace Topology

/-- A topology whose nodes have other names. The names of inbounds are no tags of nodes. -/
def mapTags (f : String → String) (t : Topology) : Topology :=
  { t.mapPlaced fun _ => PlacedNode.mapTags f with
    library := t.library.map (NodeDefinition.mapTag f)
    inbounds := t.inbounds.map (Inbound.mapTags f) }

theorem mapTags_id (t : Topology) : t.mapTags id = t := by
  have hplaced : t.mapPlaced (fun _ => PlacedNode.mapTags id) = t :=
    mapPlaced_eq_self fun entry _ => by rw [PlacedNode.mapTags, List.map_id]; rfl
  have hinbounds : t.inbounds.map (Inbound.mapTags id) = t.inbounds :=
    map_eq_self_iff.2 fun inbound _ => by rw [Inbound.mapTags, List.map_id, Option.map_id]; rfl
  have hlibrary : t.library.map (NodeDefinition.mapTag id) = t.library := List.map_id t.library
  rw [mapTags, hplaced, hinbounds, hlibrary]

/-- A placed node with its hop, under another name. -/
def mapEntry (f : String → String) (entry : Nat × PlacedNode) : Nat × PlacedNode :=
  (entry.1, entry.2.mapTags f)

section

variable (f : String → String) (t : Topology)

theorem placed_mapTags : (t.mapTags f).placed = t.placed.map (mapEntry f) :=
  placed_mapPlaced (fun _ => PlacedNode.mapTags f) t

@[simp] theorem hopCount_mapTags : (t.mapTags f).hopCount = t.hopCount :=
  hopCount_mapPlaced (fun _ => PlacedNode.mapTags f) t

@[simp] theorem placedTags_mapTags : (t.mapTags f).placedTags = t.placedTags.map f := by
  rw [placedTags, placed_mapTags, placedTags, List.map_map, List.map_map]
  rfl

theorem map_tag_library_mapTags :
    (t.mapTags f).library.map NodeDefinition.tag = (t.library.map NodeDefinition.tag).map f := by
  rw [mapTags, List.map_map, List.map_map]
  rfl

end

/-! ### Look-ups -/

section

variable {f : String → String} (h : Tag.Renaming f) (t : Topology)

include h

theorem find?_mapTags (tag : String) :
    ((t.mapTags f).library.find? fun d => d.tag = f tag) =
      (t.library.find? fun d => d.tag = tag).map (NodeDefinition.mapTag f) := by
  rw [mapTags, List.find?_map]
  congr 2
  funext d
  simp [NodeDefinition.mapTag, h.eq_iff]

theorem definition?_mapTags (tag : String) :
    (t.mapTags f).definition? (f tag) = (t.definition? tag).map (NodeDefinition.mapTag f) := by
  rw [definition?, definition?, find?_mapTags h]
  by_cases htag : tag = ""
  · rw [if_pos htag, if_pos (h.eq_empty_iff.2 htag)]
    rfl
  · rw [if_neg htag, if_neg fun hempty => htag (h.eq_empty_iff.1 hempty)]

@[simp] theorem kindOf_mapTags (node : PlacedNode) :
    (t.mapTags f).kindOf (node.mapTags f) = t.kindOf node := by
  have hfind : ((t.mapTags f).library.find? fun d => d.tag = (node.mapTags f).tag) =
      (t.library.find? fun d => d.tag = node.tag).map (NodeDefinition.mapTag f) :=
    find?_mapTags h t node.tag
  rw [kindOf, kindOf, kindIn, kindIn, hfind]
  cases t.library.find? fun d => d.tag = node.tag <;> rfl

theorem findPlaced?_mapTags (tag : String) :
    (t.mapTags f).findPlaced? (f tag) = (t.findPlaced? tag).map (mapEntry f) := by
  rw [findPlaced?, findPlaced?, placed_mapTags, List.find?_map]
  congr 2
  funext entry
  simp [mapEntry, PlacedNode.mapTags, h.eq_iff]

theorem lookup_placements_mapTags (tag : String) :
    (t.mapTags f).index.placements.lookup (f tag) = t.index.placements.lookup tag := by
  rw [lookup_placements, lookup_placements, findPlaced?_mapTags h, Option.map_map]
  by_cases htag : tag = ""
  · rw [if_pos htag, if_pos (h.eq_empty_iff.2 htag)]
  · rw [if_neg htag, if_neg fun hempty => htag (h.eq_empty_iff.1 hempty)]
    congr 1
    funext entry
    simp [mapEntry, h]

theorem inHop_mapTags (tag : String) (hop : Nat) :
    (t.mapTags f).index.inHop (f tag) hop = t.index.inHop tag hop := by
  rw [Index.inHop, Index.inHop, Index.hopOf?, Index.hopOf?, lookup_placements_mapTags h]

theorem placedKind?_mapTags (tag : String) :
    (t.mapTags f).index.placedKind? (f tag) = t.index.placedKind? tag := by
  rw [Index.placedKind?, Index.placedKind?, lookup_placements_mapTags h]

theorem targetKind?_mapTags (tag : String) :
    (t.mapTags f).index.targetKind? (f tag) = t.index.targetKind? tag := by
  rw [Index.targetKind?, Index.targetKind?, placedKind?_mapTags h, lookup_libraryKinds,
    lookup_libraryKinds, find?_mapTags h, Option.map_map]
  rfl

/-! ### Links -/

@[simp] theorem placedIn_mapTags (tag : String) (hop : Nat) :
    (t.mapTags f).PlacedIn (f tag) hop ↔ t.PlacedIn tag hop := by
  constructor
  · rintro ⟨after, hafter, htag⟩
    rw [placed_mapTags] at hafter
    obtain ⟨⟨_, node⟩, hnode, heq⟩ := List.mem_map.1 hafter
    obtain ⟨rfl, rfl⟩ := Prod.mk.inj heq
    exact ⟨node, hnode, h.injective htag⟩
  · rintro ⟨node, hnode, rfl⟩
    refine ⟨node.mapTags f, ?_, rfl⟩
    rw [placed_mapTags]
    exact List.mem_map_of_mem (f := mapEntry f) hnode

@[simp] theorem oneAhead_mapTags (hop : Nat) (tag : String) :
    (t.mapTags f).OneAhead hop (f tag) ↔ t.OneAhead hop tag := by
  simp [OneAhead, h, h.eq_internet_iff]

@[simp] theorem twoAhead_mapTags (hop : Nat) (tag : String) :
    (t.mapTags f).TwoAhead hop (f tag) ↔ t.TwoAhead hop tag := by
  simp [TwoAhead, h, h.eq_internet_iff]

variable {t}

theorem LegalLinks.mapTags {hop : Nat} {role : NodeRole} {detours : List String}
    (hlegal : t.LegalLinks hop role detours) :
    (t.mapTags f).LegalLinks hop role (detours.map f) := by
  have hnodup : (detours.map f).Nodup := hlegal.nodup.map h.injective
  cases role with
  | leaf =>
      refine ⟨by simpa using hlegal.1, List.forall_mem_map.2 fun tag htag => ?_⟩
      exact (oneAhead_mapTags h t hop tag).2 (hlegal.2 tag htag)
  | selector =>
      refine ⟨hnodup, List.forall_mem_map.2 fun tag htag => ?_⟩
      exact (oneAhead_mapTags h t hop tag).2 (hlegal.2 tag htag)
  | roundRobin =>
      obtain ⟨-, pool, output, rfl, hpool, houtput⟩ := hlegal
      refine ⟨hnodup, pool.map f, output.map f, ?_, List.forall_mem_map.2 fun tag htag => ?_, ?_⟩
      · cases output <;> simp
      · exact (placedIn_mapTags h t tag _).2 (hpool tag htag)
      · intro tag htag
        obtain ⟨target, htarget, rfl⟩ := Option.map_eq_some_iff.1 htag
        exact (twoAhead_mapTags h t hop target).2 (houtput target htarget)

theorem isOutput_mapTags {source : Nat × PlacedNode} {tag : String} :
    (t.mapTags f).IsOutput (mapEntry f source) (f tag) ↔ t.IsOutput source tag := by
  rw [IsOutput, IsOutput, mapEntry, kindOf_mapTags h, twoAhead_mapTags h]
  exact and_congr_right fun _ => and_congr_left fun _ => List.mem_map_of_injective h.injective

theorem inPool_mapTags {source : Nat × PlacedNode} {tag : String} :
    (t.mapTags f).InPool (mapEntry f source) (f tag) ↔ t.InPool source tag := by
  rw [InPool, InPool, mapEntry, kindOf_mapTags h, placedIn_mapTags h]
  exact and_congr_right fun _ => and_congr_left fun _ => List.mem_map_of_injective h.injective

/-! ### Normal form -/

theorem NodesSound.mapTags (ht : t.NodesSound) : (t.mapTags f).NodesSound where
  library_nodup := by
    rw [map_tag_library_mapTags]
    exact ht.library_nodup.map h.injective
  exit_defined := by
    obtain ⟨d, hd, htag, hkind⟩ := ht.exit_defined
    exact ⟨d.mapTag f, List.mem_map_of_mem hd, h.eq_internet_iff.2 htag, hkind⟩
  placed_nodup := by
    rw [placedTags_mapTags]
    exact ht.placed_nodup.map h.injective
  placed_allowed := by
    rw [placedTags_mapTags, map_tag_library_mapTags]
    refine List.forall_mem_map.2 fun tag htag => ?_
    obtain ⟨hempty, hinternet, hdefined⟩ := ht.placed_allowed tag htag
    exact ⟨fun heq => hempty (h.eq_empty_iff.1 heq),
      fun heq => hinternet (h.eq_internet_iff.1 heq), List.mem_map_of_mem hdefined⟩

/-- A topology in normal form is in normal form under other names. -/
theorem IsNormal.mapTags (ht : t.IsNormal) : (t.mapTags f).IsNormal := by
  refine { ht.toNodesSound.mapTags h with
    inbound_links := ?_, inbound_default := ?_, node_links := ?_, managed_idle := ?_ }
  · refine List.forall_mem_map.2 fun inbound hinbound => ?_
    obtain ⟨hnodup, hplaced⟩ := ht.inbound_links inbound hinbound
    refine ⟨hnodup.map h.injective, List.forall_mem_map.2 fun tag htag => ?_⟩
    exact (placedIn_mapTags h t tag 0).2 (hplaced tag htag)
  · refine List.forall_mem_map.2 fun inbound hinbound tag htag => ?_
    obtain ⟨default, hdefault, rfl⟩ := Option.map_eq_some_iff.1 htag
    exact List.mem_map_of_mem (ht.inbound_default inbound hinbound default hdefault)
  · rw [placed_mapTags]
    refine List.forall_mem_map.2 fun entry hentry => ?_
    have hlegal := (ht.node_links entry hentry).mapTags h
    rwa [← kindOf_mapTags h t entry.2] at hlegal
  · rw [placed_mapTags]
    refine List.forall_mem_map.2 fun source hsource output houtput => ?_
    refine List.forall_mem_map.2 fun entry hentry hpool => ?_
    obtain ⟨target, -, rfl⟩ := List.mem_map.1 houtput.2.1
    -- The managed node was managed by the same output under its old name.
    have hidle := ht.managed_idle source hsource target ((isOutput_mapTags h).1 houtput) entry
      hentry ((inPool_mapTags h).1 hpool)
    show entry.2.detours.map f = []
    rw [hidle, List.map_nil]

end

/-! ### Replacing a tag -/

/-- All that placed nodes and inbounds refer to is defined in the library. -/
def ReferencesDefined (t : Topology) : Prop :=
  t.references ⊆ t.library.map NodeDefinition.tag

/-- Where all references are to definitions, what a renaming does to other tags does not matter. -/
theorem ReferencesDefined.mapTags_congr {t : Topology} (h : t.ReferencesDefined)
    {f g : String → String} (hfg : ∀ tag ∈ t.library.map NodeDefinition.tag, f tag = g tag) :
    t.mapTags f = t.mapTags g := by
  have hlibrary : t.library.map (NodeDefinition.mapTag f) =
      t.library.map (NodeDefinition.mapTag g) := by
    refine List.map_congr_left fun d hd => ?_
    rw [NodeDefinition.mapTag, NodeDefinition.mapTag, hfg d.tag (List.mem_map_of_mem hd)]
  have hinbounds : t.inbounds.map (Inbound.mapTags f) = t.inbounds.map (Inbound.mapTags g) := by
    refine List.map_congr_left fun inbound hinbound => ?_
    have hdetours : ∀ tag ∈ inbound.detours, f tag = g tag := fun tag htag =>
      hfg tag (h (inbound_detour_mem_references hinbound htag))
    have hdefault : inbound.selectorDefault.map f = inbound.selectorDefault.map g :=
      Option.map_congr fun tag htag => hfg tag (h (default_mem_references hinbound htag))
    rw [Inbound.mapTags, Inbound.mapTags, List.map_congr_left hdetours, hdefault]
  have hplaced : t.mapPlaced (fun _ => PlacedNode.mapTags f) =
      t.mapPlaced fun _ => PlacedNode.mapTags g := by
    refine mapPlaced_congr fun entry hentry => ?_
    have hnode := mem_nodes_of_mem_placed hentry
    have hdetours : ∀ tag ∈ entry.2.detours, f tag = g tag := fun tag htag =>
      hfg tag (h (detour_mem_references hnode htag))
    rw [PlacedNode.mapTags, PlacedNode.mapTags, List.map_congr_left hdetours,
      hfg entry.2.tag (h (tag_mem_references hnode))]
  rw [Topology.mapTags, Topology.mapTags, hplaced, hlibrary, hinbounds]

section

variable {t : Topology} (ht : t.IsNormal)

include ht

theorem IsNormal.referencesDefined : t.ReferencesDefined := by
  refine List.append_subset.2 ⟨fun tag htag => ?_, fun tag htag => ?_⟩
  · obtain ⟨node, hnode, htag⟩ := List.mem_flatMap.1 htag
    obtain ⟨hop, hplaced⟩ := exists_placed_of_mem_nodes hnode
    rcases List.mem_cons.1 htag with rfl | htag
    · exact ht.mem_library_of_isTarget (Or.inl (List.mem_map_of_mem hplaced))
    · exact ht.mem_library_of_isTarget (ht.isTarget_of_mem_detours hplaced htag)
  · obtain ⟨inbound, hinbound, htag⟩ := List.mem_flatMap.1 htag
    have hdetours : inbound.detours ⊆ t.library.map NodeDefinition.tag := fun tag htag =>
      ht.mem_library_of_isTarget ((ht.inbound_links inbound hinbound).2 tag htag).isTarget
    rcases List.mem_append.1 htag with htag | htag
    · exact hdetours htag
    · exact hdetours (ht.inbound_default inbound hinbound tag (Option.mem_toList.1 htag))

/-- Replacing a tag by one that the library does not have is exchanging the two. -/
theorem IsNormal.mapTags_retag {old new : String}
    (hfree : old = new ∨ new ∉ t.library.map NodeDefinition.tag) :
    t.mapTags (retag old new) = t.mapTags (Equiv.swap old new) := by
  refine ht.referencesDefined.mapTags_congr fun tag htag =>
    Tag.retag_eq_swap (hfree.imp_right fun hnew => ?_)
  exact fun heq => hnew (heq ▸ htag)

end

/-! ### One definition in place of another -/

/-- A library with a definition in place of the ones with the former tag, but still under that tag.
-/
def replaceDefinition (definition : NodeDefinition) (former : String)
    (library : List NodeDefinition) : List NodeDefinition :=
  library.map fun d =>
    if d.tag = former then (definition.withId d.id).mapTag fun _ => former else d

theorem map_tag_replaceDefinition (definition : NodeDefinition) (former : String)
    (library : List NodeDefinition) :
    (replaceDefinition definition former library).map NodeDefinition.tag =
      library.map NodeDefinition.tag := by
  rw [replaceDefinition, List.map_map]
  refine List.map_congr_left fun d _ => ?_
  simp only [Function.comp_apply]
  split
  · rename_i htag
    exact htag.symm
  · rfl

/-- Saving a definition in place of one that is there is putting it there and then giving it its own
tag, with all that refers to it. -/
theorem retagReferences_saveDefinition {t : Topology} (definition : NodeDefinition)
    {former : String} (hnodup : (t.library.map NodeDefinition.tag).Nodup)
    (hformer : former ∈ t.library.map NodeDefinition.tag) (hempty : former ≠ "") :
    ({ t with library := saveDefinition definition former t.library } : Topology).retagReferences
        former definition.tag =
      ({ t with library := replaceDefinition definition former t.library } : Topology).mapTags
        (retag former definition.tag) := by
  have hlibrary : saveDefinition definition former t.library =
      (replaceDefinition definition former t.library).map
        (NodeDefinition.mapTag (retag former definition.tag)) := by
    rw [saveDefinition_of_mem hnodup hformer, replaceDefinition, List.map_map]
    refine List.map_congr_left fun d _ => ?_
    simp only [Function.comp_apply]
    split
    · have hretag : retag former definition.tag former = (definition.withId d.id).tag :=
        (if_pos rfl).trans (definition.tag_withId d.id).symm
      show definition.withId d.id =
        (definition.withId d.id).mapTag fun _ => retag former definition.tag former
      rw [hretag]
      rfl
    · rename_i htag
      rw [NodeDefinition.mapTag, retag_of_ne htag]
  rw [retagReferences, if_neg hempty, hlibrary]
  rfl

theorem MayBeSaved.renaming_swap {t : Topology} {definition : NodeDefinition} {former : String}
    (h : t.MayBeSaved definition former) (hformer : former ≠ "") :
    Tag.Renaming (Equiv.swap former definition.tag) := by
  refine Tag.renaming_swap hformer h.tag_ne_empty ?_ ?_
  · simp [Tag.isReserved, h.former_ne_internet, h.former_plain]
  · simp [Tag.isReserved, h.tag_ne_internet, h.tag_plain]

/-- A definition put in its own place under another tag changes nothing but that tag. -/
theorem replaceDefinition_eq_self {library : List NodeDefinition} {definition : NodeDefinition}
    (hnodup : (library.map NodeDefinition.tag).Nodup) (hdefinition : definition ∈ library)
    (new : String) :
    replaceDefinition { definition with tag := new } definition.tag library = library := by
  refine map_eq_self_iff.2 fun d hd => ?_
  split
  · rename_i htag
    obtain rfl := List.inj_on_of_nodup_map hnodup hd hdefinition htag
    rw [NodeDefinition.withId]
    split <;> rfl
  · rfl

/-- Giving a node another tag is renaming the whole topology. -/
theorem renameTag_eq_mapTags {t : Topology} (hnodup : (t.library.map NodeDefinition.tag).Nodup)
    {old new : String} (hdone : (t.renameTag old new).outcome = .ok ()) :
    old ≠ "" ∧ ∃ definition ∈ t.library, definition.tag = old ∧
      t.MayBeSaved { definition with tag := new } old ∧
      (t.renameTag old new).topology = t.mapTags (retag old new) := by
  rw [renameTag] at hdone ⊢
  cases hfound : t.definition? old with
  | none =>
      rw [hfound] at hdone
      cases hdone
  | some definition =>
      rw [hfound] at hdone
      obtain ⟨hempty, hdefinition, rfl⟩ := mem_of_definition? hfound
      refine ⟨hempty, definition, hdefinition, rfl, ?_⟩
      obtain ⟨hsave, hafter⟩ :=
        (upsertDefinition_follows t { definition with tag := new } (some definition.tag)).of_ok hdone
      have hretag := retagReferences_saveDefinition { definition with tag := new }
        hnodup (List.mem_map_of_mem hdefinition) hempty
      rw [replaceDefinition_eq_self hnodup hdefinition] at hretag
      exact ⟨hsave, hafter.trans hretag⟩

end Topology

end ProxyChain
