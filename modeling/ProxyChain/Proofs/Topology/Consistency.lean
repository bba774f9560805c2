import ProxyChain.Proofs.Topology.Edit

/-!
# ProxyChain.Proofs.Topology.Consistency

**Consistent topologies** (`Topology.Consistent`), part by part. Placements and inbounds refer to
the library by tag only, so what is said of them is said for a list of tags, and an edit of the
library is followed by following that list.

The part that is not local is giving a definition another tag. The new tag then stands wherever the
old one stood, and this makes no two references equal because the new one was no tag of the library
before and all references are (`retag_injOn`).
-/

namespace ProxyChain

/-! ### The parts -/

/-- A library in which each tag is defined once and only the Internet exit has a reserved tag. -/
structure LibraryConsistent (library : List NodeDefinition) : Prop where
  tags_nodup : (library.map NodeDefinition.tag).Nodup
  tags_not_blank : ∀ d ∈ library, Text.allBlank d.tag = false
  exit_mem : .internet ∈ library
  reserved_eq : ∀ d ∈ library, Tag.isReserved d.tag = true → d = .internet

/-- Detours that are all different, and all among some tags. -/
structure DetoursConsistent (tags detours : List String) : Prop where
  nodup : detours.Nodup
  subset : detours ⊆ tags

/-- Placed nodes that are told apart by tag and by id, with tags and detours among those of a
library. -/
structure NodesConsistent (tags : List String) (nodes : List PlacedNode) : Prop where
  tags_nodup : (nodes.map PlacedNode.tag).Nodup
  ids_nodup : (nodes.map PlacedNode.id).Nodup
  tags_allowed : ∀ node ∈ nodes, node.tag ∈ tags ∧ node.tag ≠ Tag.internet
  detours : ∀ node ∈ nodes, DetoursConsistent tags node.detours

/-- Inbounds that are told apart by tag and by port, with detours among the tags of a library, and
defaults among the detours. -/
structure InboundsConsistent (tags : List String) (inbounds : List Inbound) : Prop where
  tags_nodup : (inbounds.map Inbound.tag).Nodup
  tags_ne_empty : ∀ inbound ∈ inbounds, inbound.tag ≠ ""
  ports_nodup : (inbounds.map Inbound.port).Nodup
  ports_ne_zero : ∀ inbound ∈ inbounds, inbound.port ≠ 0
  detours : ∀ inbound ∈ inbounds, DetoursConsistent tags inbound.detours
  default_mem : ∀ inbound ∈ inbounds, ∀ tag ∈ inbound.selectorDefault, tag ∈ inbound.detours

/-- A consistent topology. -/
structure Topology.Consistent (t : Topology) : Prop where
  library : LibraryConsistent t.library
  layers : t.layerIds.Nodup
  nodes : NodesConsistent (t.library.map NodeDefinition.tag) t.nodes
  inbounds : InboundsConsistent (t.library.map NodeDefinition.tag) t.inbounds

/-! ### Giving another tag -/

section

variable {old new : String} {tags : List String}

theorem retag_of_ne {tag : String} (h : tag ≠ old) : Topology.retag old new tag = tag :=
  if_neg h

theorem map_retag_eq_self (h : old ∉ tags) : tags.map (Topology.retag old new) = tags :=
  map_eq_self_iff.2 fun _ htag => retag_of_ne fun heq => h (heq ▸ htag)

/-- Where the new tag did not stand before, the old one can be given back. -/
theorem retag_retag (h : old = new ∨ new ∉ tags) {tag : String} (htag : tag ∈ tags) :
    Topology.retag new old (Topology.retag old new tag) = tag := by
  by_cases hold : tag = old
  · rw [hold, Topology.retag, Topology.retag, if_pos rfl, if_pos rfl]
  · have hne : tag ≠ new := by
      rcases h with rfl | hfree
      · exact hold
      · exact fun heq => hfree (heq ▸ htag)
    rw [retag_of_ne hold, retag_of_ne hne]

/-- No two tags become one. -/
theorem retag_injOn (h : old = new ∨ new ∉ tags) :
    ∀ a ∈ tags, ∀ b ∈ tags, Topology.retag old new a = Topology.retag old new b → a = b := by
  intro a ha b hb heq
  have hback := congrArg (Topology.retag new old) heq
  rwa [retag_retag h ha, retag_retag h hb] at hback

end

/-! ### Detours -/

namespace DetoursConsistent

variable {tags detours : List String} (h : DetoursConsistent tags detours)

include h

theorem mono {others : List String} (hsubset : tags ⊆ others) : DetoursConsistent others detours :=
  ⟨h.nodup, fun _ htag => hsubset (h.subset htag)⟩

theorem map {f : String → String} (hinj : ∀ a ∈ tags, ∀ b ∈ tags, f a = f b → a = b) :
    DetoursConsistent (tags.map f) (detours.map f) :=
  ⟨h.nodup.map_on fun a ha b hb => hinj a (h.subset ha) b (h.subset hb),
    List.map_subset f h.subset⟩

theorem filter (p : String → Bool) : DetoursConsistent (tags.filter p) (detours.filter p) :=
  ⟨h.nodup.filter p, List.filter_subset p h.subset⟩

theorem sublist {others : List String} (hsublist : others.Sublist detours) :
    DetoursConsistent tags others :=
  ⟨hsublist.nodup h.nodup, List.Subset.trans hsublist.subset h.subset⟩

theorem append {target : String} (htarget : target ∈ tags) (hnew : target ∉ detours) :
    DetoursConsistent tags (detours ++ [target]) where
  nodup := nodup_append_singleton h.nodup hnew
  subset := List.append_subset.2 ⟨h.subset, by simpa using htarget⟩

end DetoursConsistent

theorem detoursConsistent_nil (tags : List String) : DetoursConsistent tags [] :=
  ⟨List.nodup_nil, List.nil_subset tags⟩

/-! ### The library -/

namespace LibraryConsistent

variable {library : List NodeDefinition} (h : LibraryConsistent library)

include h

theorem tag_ne_empty {tag : String} (htag : tag ∈ library.map NodeDefinition.tag) : tag ≠ "" := by
  obtain ⟨d, hd, rfl⟩ := List.mem_map.1 htag
  intro hempty
  have hblank := h.tags_not_blank d hd
  rw [hempty] at hblank
  exact absurd hblank (by decide)

theorem internet_mem_tags : Tag.internet ∈ library.map NodeDefinition.tag :=
  List.mem_map_of_mem (f := NodeDefinition.tag) h.exit_mem

theorem tag_plain {d : NodeDefinition} (hd : d ∈ library) : Tag.isSystem d.tag = false := by
  by_contra hsystem
  have hreserved : Tag.isReserved d.tag = true := by
    rw [Tag.isReserved, Bool.not_eq_false] at *
    rw [hsystem, Bool.or_true]
  rw [h.reserved_eq d hd hreserved] at hsystem
  exact absurd hsystem (by decide)

theorem sublist {others : List NodeDefinition} (hsublist : others.Sublist library)
    (hexit : .internet ∈ others) : LibraryConsistent others where
  tags_nodup := (hsublist.map _).nodup h.tags_nodup
  tags_not_blank := fun d hd => h.tags_not_blank d (hsublist.subset hd)
  exit_mem := hexit
  reserved_eq := fun d hd => h.reserved_eq d (hsublist.subset hd)

end LibraryConsistent

/-- A definition that takes the place of another one keeps the id of that one if it has none. -/
def NodeDefinition.withId (definition : NodeDefinition) (id : String) : NodeDefinition :=
  if definition.id = "" then { definition with id := id } else definition

@[simp] theorem NodeDefinition.tag_withId (definition : NodeDefinition) (id : String) :
    (definition.withId id).tag = definition.tag := by
  rw [withId]
  split <;> rfl

@[simp] theorem NodeDefinition.kind_withId (definition : NodeDefinition) (id : String) :
    (definition.withId id).kind = definition.kind := by
  rw [withId]
  split <;> rfl

section

variable {library : List NodeDefinition} {definition : NodeDefinition} {former : String}

theorem saveDefinition_of_mem (hnodup : (library.map NodeDefinition.tag).Nodup)
    (h : former ∈ library.map NodeDefinition.tag) :
    Topology.saveDefinition definition former library =
      library.map fun d => if d.tag = former then definition.withId d.id else d := by
  have hany : (library.any fun d => d.tag = former) = true := by simpa using h
  rw [Topology.saveDefinition, if_pos hany]
  exact modifyFirst_key_eq_map former hnodup

theorem saveDefinition_of_not_mem (h : former ∉ library.map NodeDefinition.tag) :
    Topology.saveDefinition definition former library =
      library ++ [definition.withId (NodeDefinition.idOf definition.tag)] := by
  have hany : ¬ (library.any fun d => d.tag = former) = true := by simpa using h
  rw [Topology.saveDefinition, if_neg hany]
  rfl

/-- What is saved, and the definitions of other tags. -/
theorem mem_saveDefinition (hnodup : (library.map NodeDefinition.tag).Nodup) {d : NodeDefinition}
    (h : d ∈ Topology.saveDefinition definition former library) :
    d.tag = definition.tag ∨ d ∈ library := by
  by_cases hformer : former ∈ library.map NodeDefinition.tag
  · rw [saveDefinition_of_mem hnodup hformer] at h
    obtain ⟨other, hother, rfl⟩ := List.mem_map.1 h
    split
    · exact Or.inl (definition.tag_withId other.id)
    · exact Or.inr hother
  · rw [saveDefinition_of_not_mem hformer] at h
    rcases List.mem_append.1 h with h | h
    · exact Or.inr h
    · rw [List.mem_singleton.1 h]
      exact Or.inl (definition.tag_withId _)

theorem mem_saveDefinition_of_ne (hnodup : (library.map NodeDefinition.tag).Nodup)
    {d : NodeDefinition} (hd : d ∈ library) (hne : d.tag ≠ former) :
    d ∈ Topology.saveDefinition definition former library := by
  by_cases hformer : former ∈ library.map NodeDefinition.tag
  · rw [saveDefinition_of_mem hnodup hformer]
    exact List.mem_map.2 ⟨d, hd, if_neg hne⟩
  · rw [saveDefinition_of_not_mem hformer]
    exact List.mem_append_left _ hd

/-- A new definition adds its tag, another one gives its tag to the one whose place it takes. -/
theorem map_tag_saveDefinition (hnodup : (library.map NodeDefinition.tag).Nodup) :
    (Topology.saveDefinition definition former library).map NodeDefinition.tag =
      if former ∈ library.map NodeDefinition.tag then
        (library.map NodeDefinition.tag).map (Topology.retag former definition.tag)
      else library.map NodeDefinition.tag ++ [definition.tag] := by
  split
  · rename_i hformer
    rw [saveDefinition_of_mem hnodup hformer, List.map_map, List.map_map]
    refine List.map_congr_left fun d _ => ?_
    simp only [Function.comp_apply, Topology.retag]
    split
    · exact definition.tag_withId d.id
    · rfl
  · rename_i hformer
    rw [saveDefinition_of_not_mem hformer, List.map_append, List.map_singleton,
      NodeDefinition.tag_withId]

theorem nodup_saveDefinition (hnodup : (library.map NodeDefinition.tag).Nodup)
    (hfree : former = definition.tag ∨ definition.tag ∉ library.map NodeDefinition.tag) :
    ((Topology.saveDefinition definition former library).map NodeDefinition.tag).Nodup := by
  rw [map_tag_saveDefinition hnodup]
  split
  · exact hnodup.map_on (retag_injOn hfree)
  · rename_i hformer
    have hnew : definition.tag ∉ library.map NodeDefinition.tag :=
      hfree.elim (fun heq => heq ▸ hformer) id
    exact nodup_append_singleton hnodup hnew

/-- References that follow the new tag are still among the tags of the library. -/
theorem map_retag_subset (hnodup : (library.map NodeDefinition.tag).Nodup) :
    (library.map NodeDefinition.tag).map (Topology.retag former definition.tag) ⊆
      (Topology.saveDefinition definition former library).map NodeDefinition.tag := by
  rw [map_tag_saveDefinition hnodup]
  split
  · exact List.Subset.refl _
  · rename_i hformer
    rw [map_retag_eq_self hformer]
    exact List.subset_append_left _ _

end

namespace LibraryConsistent

variable {t : Topology} (h : LibraryConsistent t.library) {definition : NodeDefinition}
  {former : String} (hsave : t.MayBeSaved definition former)

include h hsave

theorem saveDefinition :
    LibraryConsistent (Topology.saveDefinition definition former t.library) where
  tags_nodup := nodup_saveDefinition h.tags_nodup hsave.tag_free
  tags_not_blank := by
    intro d hd
    rcases mem_saveDefinition h.tags_nodup hd with htag | hd
    · rw [htag]
      exact hsave.tag_not_blank
    · exact h.tags_not_blank d hd
  exit_mem := mem_saveDefinition_of_ne h.tags_nodup h.exit_mem hsave.former_ne_internet.symm
  reserved_eq := by
    intro d hd hreserved
    rcases mem_saveDefinition h.tags_nodup hd with htag | hd
    · rw [htag, Tag.isReserved, hsave.tag_plain] at hreserved
      simp [hsave.tag_ne_internet] at hreserved
    · exact h.reserved_eq d hd hreserved

end LibraryConsistent

/-! ### Placed nodes -/

namespace NodesConsistent

variable {tags : List String} {nodes : List PlacedNode} (h : NodesConsistent tags nodes)

include h

theorem mono {others : List String} (hsubset : tags ⊆ others) : NodesConsistent others nodes where
  tags_nodup := h.tags_nodup
  ids_nodup := h.ids_nodup
  tags_allowed := fun node hnode => (h.tags_allowed node hnode).imp_left fun htag => hsubset htag
  detours := fun node hnode => (h.detours node hnode).mono hsubset

theorem perm {others : List PlacedNode} (hperm : others.Perm nodes) :
    NodesConsistent tags others where
  tags_nodup := (hperm.map _).nodup_iff.2 h.tags_nodup
  ids_nodup := (hperm.map _).nodup_iff.2 h.ids_nodup
  tags_allowed := fun node hnode => h.tags_allowed node (hperm.mem_iff.1 hnode)
  detours := fun node hnode => h.detours node (hperm.mem_iff.1 hnode)

theorem sublist {others : List PlacedNode} (hsublist : others.Sublist nodes) :
    NodesConsistent tags others where
  tags_nodup := (hsublist.map _).nodup h.tags_nodup
  ids_nodup := (hsublist.map _).nodup h.ids_nodup
  tags_allowed := fun node hnode => h.tags_allowed node (hsublist.subset hnode)
  detours := fun node hnode => h.detours node (hsublist.subset hnode)

theorem cons {id tag : String} (hid : id ∉ nodes.map PlacedNode.id)
    (htag : tag ∉ nodes.map PlacedNode.tag) (hallowed : tag ∈ tags ∧ tag ≠ Tag.internet) :
    NodesConsistent tags ({ id := id, tag := tag } :: nodes) where
  tags_nodup := List.nodup_cons.2 ⟨htag, h.tags_nodup⟩
  ids_nodup := List.nodup_cons.2 ⟨hid, h.ids_nodup⟩
  tags_allowed := List.forall_mem_cons.2 ⟨hallowed, h.tags_allowed⟩
  detours := List.forall_mem_cons.2 ⟨detoursConsistent_nil tags, h.detours⟩

/-- The same nodes with other detours. -/
theorem relinked {others : List PlacedNode}
    (htags : others.map PlacedNode.tag = nodes.map PlacedNode.tag)
    (hids : others.map PlacedNode.id = nodes.map PlacedNode.id)
    (hdetours : ∀ node ∈ others, DetoursConsistent tags node.detours) :
    NodesConsistent tags others where
  tags_nodup := htags ▸ h.tags_nodup
  ids_nodup := hids ▸ h.ids_nodup
  tags_allowed := forall_mem_of_map_eq
    (motive := fun tag => tag ∈ tags ∧ tag ≠ Tag.internet) htags h.tags_allowed
  detours := hdetours

theorem retag {old new : String} (hfree : old = new ∨ new ∉ tags) (hnew : new ≠ Tag.internet) :
    NodesConsistent (tags.map (Topology.retag old new)) (nodes.map fun node =>
      { node with
        tag := Topology.retag old new node.tag
        detours := node.detours.map (Topology.retag old new) }) where
  tags_nodup := by
    have hmap := h.tags_nodup.map_on fun a ha b hb => by
      obtain ⟨_, hnode, rfl⟩ := List.mem_map.1 ha
      obtain ⟨_, hother, rfl⟩ := List.mem_map.1 hb
      exact retag_injOn hfree _ (h.tags_allowed _ hnode).1 _ (h.tags_allowed _ hother).1
    rw [List.map_map] at hmap ⊢
    exact hmap
  ids_nodup := by
    rw [List.map_map]
    exact h.ids_nodup
  tags_allowed := by
    intro after hafter
    obtain ⟨node, hnode, rfl⟩ := List.mem_map.1 hafter
    obtain ⟨htag, hinternet⟩ := h.tags_allowed node hnode
    refine ⟨List.mem_map_of_mem htag, ?_⟩
    show Topology.retag old new node.tag ≠ Tag.internet
    rw [Topology.retag]
    split
    · exact hnew
    · exact hinternet
  detours := by
    intro after hafter
    obtain ⟨node, hnode, rfl⟩ := List.mem_map.1 hafter
    exact (h.detours node hnode).map (retag_injOn hfree)

theorem drop (tag : String) :
    NodesConsistent (tags.filter (· ≠ tag)) ((nodes.filter fun node => node.tag ≠ tag).map
      fun node => { node with detours := node.detours.filter (· ≠ tag) }) where
  tags_nodup := by
    rw [List.map_map]
    exact (List.filter_sublist.map _).nodup h.tags_nodup
  ids_nodup := by
    rw [List.map_map]
    exact (List.filter_sublist.map _).nodup h.ids_nodup
  tags_allowed := by
    intro after hafter
    obtain ⟨node, hnode, rfl⟩ := List.mem_map.1 hafter
    obtain ⟨hnode, hkept⟩ := List.mem_filter.1 hnode
    obtain ⟨htag, hinternet⟩ := h.tags_allowed node hnode
    exact ⟨List.mem_filter.2 ⟨htag, hkept⟩, hinternet⟩
  detours := by
    intro after hafter
    obtain ⟨node, hnode, rfl⟩ := List.mem_map.1 hafter
    exact (h.detours node (List.mem_filter.1 hnode).1).filter _

end NodesConsistent

/-! ### Inbounds -/

/-- A default that was dropped falls back to a detour that is left. -/
theorem default_mem_dropInboundLinks {tag : String} {inbound : Inbound}
    (h : ∀ chosen ∈ inbound.selectorDefault, chosen ∈ inbound.detours) :
    ∀ chosen ∈ (Topology.dropInboundLinks tag inbound).selectorDefault,
      chosen ∈ (Topology.dropInboundLinks tag inbound).detours := by
  intro chosen hchosen
  rw [Topology.dropInboundLinks] at hchosen ⊢
  dsimp only at hchosen ⊢
  split at hchosen
  · exact List.mem_of_head? hchosen
  · rename_i hne
    refine List.mem_filter.2 ⟨h chosen hchosen, decide_eq_true ?_⟩
    rintro rfl
    exact hne hchosen

namespace InboundsConsistent

variable {tags : List String} {inbounds : List Inbound} (h : InboundsConsistent tags inbounds)

include h

theorem mono {others : List String} (hsubset : tags ⊆ others) :
    InboundsConsistent others inbounds :=
  { h with detours := fun inbound hinbound => (h.detours inbound hinbound).mono hsubset }

theorem perm {others : List Inbound} (hperm : others.Perm inbounds) :
    InboundsConsistent tags others where
  tags_nodup := (hperm.map _).nodup_iff.2 h.tags_nodup
  tags_ne_empty := fun inbound hinbound => h.tags_ne_empty inbound (hperm.mem_iff.1 hinbound)
  ports_nodup := (hperm.map _).nodup_iff.2 h.ports_nodup
  ports_ne_zero := fun inbound hinbound => h.ports_ne_zero inbound (hperm.mem_iff.1 hinbound)
  detours := fun inbound hinbound => h.detours inbound (hperm.mem_iff.1 hinbound)
  default_mem := fun inbound hinbound => h.default_mem inbound (hperm.mem_iff.1 hinbound)

theorem sublist {others : List Inbound} (hsublist : others.Sublist inbounds) :
    InboundsConsistent tags others where
  tags_nodup := (hsublist.map _).nodup h.tags_nodup
  tags_ne_empty := fun inbound hinbound => h.tags_ne_empty inbound (hsublist.subset hinbound)
  ports_nodup := (hsublist.map _).nodup h.ports_nodup
  ports_ne_zero := fun inbound hinbound => h.ports_ne_zero inbound (hsublist.subset hinbound)
  detours := fun inbound hinbound => h.detours inbound (hsublist.subset hinbound)
  default_mem := fun inbound hinbound => h.default_mem inbound (hsublist.subset hinbound)

theorem cons {inbound : Inbound} (htag : inbound.tag ≠ "")
    (hslot : Topology.SlotFree inbounds inbound.tag inbound.port)
    (hdetours : DetoursConsistent tags inbound.detours)
    (hdefault : ∀ tag ∈ inbound.selectorDefault, tag ∈ inbound.detours) :
    InboundsConsistent tags (inbound :: inbounds) where
  tags_nodup := List.nodup_cons.2 ⟨hslot.tag_free, h.tags_nodup⟩
  tags_ne_empty := List.forall_mem_cons.2 ⟨htag, h.tags_ne_empty⟩
  ports_nodup := List.nodup_cons.2 ⟨hslot.port_free, h.ports_nodup⟩
  ports_ne_zero := List.forall_mem_cons.2 ⟨hslot.port_ne_zero, h.ports_ne_zero⟩
  detours := List.forall_mem_cons.2 ⟨hdetours, h.detours⟩
  default_mem := List.forall_mem_cons.2 ⟨hdefault, h.default_mem⟩

/-- The same inbounds with other links, which may be to other tags. -/
theorem relinked {targets : List String} {others : List Inbound}
    (htags : others.map Inbound.tag = inbounds.map Inbound.tag)
    (hports : others.map Inbound.port = inbounds.map Inbound.port)
    (hdetours : ∀ inbound ∈ others, DetoursConsistent targets inbound.detours ∧
      ∀ tag ∈ inbound.selectorDefault, tag ∈ inbound.detours) :
    InboundsConsistent targets others where
  tags_nodup := htags ▸ h.tags_nodup
  tags_ne_empty := forall_mem_of_map_eq (motive := fun tag => tag ≠ "") htags h.tags_ne_empty
  ports_nodup := hports ▸ h.ports_nodup
  ports_ne_zero := forall_mem_of_map_eq (motive := fun port => port ≠ 0) hports h.ports_ne_zero
  detours := fun inbound hinbound => (hdetours inbound hinbound).1
  default_mem := fun inbound hinbound => (hdetours inbound hinbound).2

theorem retag {old new : String} (hfree : old = new ∨ new ∉ tags) :
    InboundsConsistent (tags.map (Topology.retag old new)) (inbounds.map fun inbound =>
      { inbound with
        detours := inbound.detours.map (Topology.retag old new)
        selectorDefault := inbound.selectorDefault.map (Topology.retag old new) }) := by
  refine h.relinked (by rw [List.map_map]; rfl) (by rw [List.map_map]; rfl) ?_
  intro after hafter
  obtain ⟨inbound, hinbound, rfl⟩ := List.mem_map.1 hafter
  refine ⟨(h.detours inbound hinbound).map (retag_injOn hfree), ?_⟩
  intro tag htag
  obtain ⟨before, hbefore, rfl⟩ := Option.map_eq_some_iff.1 htag
  exact List.mem_map_of_mem (h.default_mem inbound hinbound before hbefore)

theorem dropInboundLinks {inbound : Inbound} (hinbound : inbound ∈ inbounds) (tag : String) :
    DetoursConsistent (tags.filter (· ≠ tag)) (Topology.dropInboundLinks tag inbound).detours ∧
      ∀ chosen ∈ (Topology.dropInboundLinks tag inbound).selectorDefault,
        chosen ∈ (Topology.dropInboundLinks tag inbound).detours :=
  ⟨(h.detours inbound hinbound).filter _,
    default_mem_dropInboundLinks (h.default_mem inbound hinbound)⟩

theorem drop (tag : String) : InboundsConsistent (tags.filter (· ≠ tag))
    (inbounds.map (Topology.dropInboundLinks tag)) := by
  refine h.relinked (by rw [List.map_map]; rfl) (by rw [List.map_map]; rfl) ?_
  intro after hafter
  obtain ⟨inbound, hinbound, rfl⟩ := List.mem_map.1 hafter
  exact h.dropInboundLinks hinbound tag

/-- A change of one inbound that keeps its tag and its port. -/
theorem modifyFirst {source : String} {f : Inbound → Inbound}
    (htag : ∀ inbound, (f inbound).tag = inbound.tag)
    (hport : ∀ inbound, (f inbound).port = inbound.port)
    (hf : ∀ inbound ∈ inbounds, inbound.tag = source → DetoursConsistent tags (f inbound).detours ∧
      ∀ tag ∈ (f inbound).selectorDefault, tag ∈ (f inbound).detours) :
    InboundsConsistent tags
      (ProxyChain.modifyFirst (fun inbound => inbound.tag = source) f inbounds) := by
  refine h.relinked (map_modifyFirst_eq htag _ _) (map_modifyFirst_eq hport _ _) ?_
  intro after hafter
  rcases mem_modifyFirst hafter with hafter | ⟨inbound, hinbound, hsource, rfl⟩
  · exact ⟨h.detours after hafter, h.default_mem after hafter⟩
  · exact hf inbound hinbound (of_decide_eq_true hsource)

end InboundsConsistent

end ProxyChain
