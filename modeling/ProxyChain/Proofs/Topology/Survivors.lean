import ProxyChain.Proofs.Topology.Normalize

/-!
# ProxyChain.Proofs.Topology.Survivors

**What normalizing leaves.** Normalizing only removes, and each part of a topology by a rule of its
own: of placed nodes the first one of each tag that may be placed stays (`Topology.survivors`), of
definitions the first one of each tag, of the links of an inbound those to nodes of the first hop.
What stays is what it was, in its order, but for the links of nodes, of which some are left
(`Topology.restOf_normalize`).

The passes keep lists of the tags that they have seen. That it is the first occurrences that come
through is said here by positions, with nothing seen on the way.
-/

namespace ProxyChain

/-! ### Links of inbounds -/

namespace Inbound

/-- The default of a selector: what it was if that is none or one of the links, else the first
one. -/
def defaultIn (links : List String) (former : Option String) : Option String :=
  if former.all links.contains then former else links.head?

theorem repairDefault_eq (inbound : Inbound) : inbound.repairDefault =
    { inbound with selectorDefault := defaultIn inbound.detours inbound.selectorDefault } := by
  obtain ⟨tag, port, detours, former⟩ := inbound
  cases former with
  | none => rfl
  | some former =>
      by_cases hmem : former ∈ detours <;>
        simp [repairDefault, hasStaleDefault, defaultIn, hmem]

/-- A default among more links first comes to the same if the first link does not change. -/
theorem defaultIn_defaultIn {before after : List String} (hsubset : after ⊆ before)
    (hhead : ∀ tag ∈ after, before.head? = some tag → after.head? = some tag)
    (former : Option String) :
    defaultIn after (defaultIn before former) = defaultIn after former := by
  cases former with
  | none => rfl
  | some tag =>
      by_cases hbefore : tag ∈ before
      · have hkept : defaultIn before (some tag) = some tag := if_pos (by simpa using hbefore)
        rw [hkept]
      · have hstale : defaultIn before (some tag) = before.head? :=
          if_neg (by simpa using hbefore)
        have hafter : defaultIn after (some tag) = after.head? :=
          if_neg (by simpa using fun hmem => hbefore (hsubset hmem))
        rw [hstale, hafter]
        cases hfirst : before.head? with
        | none =>
            rw [List.head?_eq_none_iff.1 hfirst] at hsubset
            rw [List.subset_nil.1 hsubset]
            rfl
        | some first =>
            by_cases hmem : first ∈ after
            · rw [hhead first hmem hfirst]
              exact if_pos (by simpa using hmem)
            · exact if_neg (by simpa using hmem)

/-- The links of an inbound to the first hop of a topology, each where it first occurs. -/
def linksInto (t : Topology) (inbound : Inbound) : List String :=
  (firstsBy id inbound.detours).filter fun tag => t.PlacedIn tag 0

/-- What is left of an inbound: its links to the first hop, and a default for these. -/
def rest (t : Topology) (inbound : Inbound) : Inbound :=
  { inbound with
    detours := inbound.linksInto t
    selectorDefault := defaultIn (inbound.linksInto t) inbound.selectorDefault }

theorem linksInto_subset (t : Topology) (inbound : Inbound) :
    inbound.linksInto t ⊆ inbound.detours := by
  rw [linksInto, ← distinctBy_eq_firstsBy]
  exact fun tag htag => mem_of_mem_distinctBy (List.mem_filter.1 htag).1

/-- If the first link is left, it is still the first one. -/
theorem head?_linksInto {t : Topology} {inbound : Inbound} {tag : String}
    (hhead : inbound.detours.head? = some tag) (htag : tag ∈ inbound.linksInto t) :
    (inbound.linksInto t).head? = some tag := by
  obtain ⟨later, hdetours⟩ := List.head?_eq_some_iff.1 hhead
  have hplaced : t.PlacedIn tag 0 := by simpa using (List.mem_filter.1 htag).2
  rw [linksInto, ← distinctBy_eq_firstsBy, hdetours, distinctBy, List.filter_cons,
    if_pos (decide_eq_true hplaced), List.head?_cons]

end Inbound

namespace Topology.NodesSound

variable {t : Topology} (h : t.NodesSound) (inbound : Inbound)

include h

theorem filter_unique_eq_linksInto :
    (Tag.unique inbound.detours).filter (fun tag => t.index.inHop tag 0) =
      inbound.linksInto t := by
  have hnonempty : distinctBy id (inbound.detours.filter (· ≠ "")) =
      (distinctBy id inbound.detours).filter (· ≠ "") :=
    distinctBy_filter (fun tag => decide (tag ≠ "")) inbound.detours
  rw [Inbound.linksInto, ← distinctBy_eq_firstsBy, Tag.unique, distinct, hnonempty,
    List.filter_filter]
  refine List.filter_congr fun tag _ => ?_
  rw [Bool.eq_iff_iff, Bool.and_eq_true, h.inHop_iff, decide_eq_true_iff, decide_eq_true_iff]
  exact and_iff_left_of_imp h.tag_ne_empty

/-- The passes over an inbound come to one: its links are cut, and its default is set among what is
left. -/
theorem repairDetours_eq_rest : inbound.repairDefault.repairDetours t.index = inbound.rest t := by
  have hdefault : Inbound.defaultIn (inbound.linksInto t)
      (Inbound.defaultIn inbound.detours inbound.selectorDefault) =
        Inbound.defaultIn (inbound.linksInto t) inbound.selectorDefault :=
    Inbound.defaultIn_defaultIn (inbound.linksInto_subset t)
      (fun _ htag hhead => Inbound.head?_linksInto hhead htag) inbound.selectorDefault
  rw [Inbound.repairDetours, Inbound.detours_repairDefault, h.filter_unique_eq_linksInto,
    Inbound.repairDefault_eq, Inbound.repairDefault_eq, Inbound.rest]
  dsimp only
  rw [hdefault]

end Topology.NodesSound

namespace Topology

variable (t : Topology)

/-! ### Placed nodes -/

/-- A placed node stays if its tag may be placed and is not placed before. It is given with its hop
and with its position among all placed nodes. -/
structure Survives (place : (Nat × PlacedNode) × Nat) : Prop where
  ne_empty : place.1.2.tag ≠ ""
  ne_internet : place.1.2.tag ≠ Tag.internet
  defined : place.1.2.tag ∈ t.library.map NodeDefinition.tag
  first : IsFirst (fun entry => entry.2.tag) t.placed place

theorem survives_iff {t : Topology} {place : (Nat × PlacedNode) × Nat} : t.Survives place ↔
    IsFirst (fun entry => entry.2.tag) t.placed place ∧
      mayBePlaced t.library place.1.2.tag = true := by
  rw [mayBePlaced_iff]
  constructor
  · exact fun h => ⟨h.first, h.ne_empty, h.ne_internet, h.defined⟩
  · exact fun ⟨hfirst, hempty, hinternet, hdefined⟩ => ⟨hempty, hinternet, hdefined, hfirst⟩

instance (place : (Nat × PlacedNode) × Nat) : Decidable (t.Survives place) :=
  decidable_of_iff _ survives_iff.symm

/-- The placed nodes that stay, each with its hop, in the order of placement. -/
def survivors : List (Nat × PlacedNode) :=
  (t.placed.zipIdx.filter fun place => t.Survives place).map Prod.fst

/-- That a node is the first of its tag and that its tag may be placed can be asked one after the
other. -/
theorem survivors_eq : t.survivors =
    (distinctBy (fun entry => entry.2.tag) t.placed).filter fun entry =>
      mayBePlaced t.library entry.2.tag := by
  rw [distinctBy_eq_firstsBy, firstsBy, List.filter_map, List.filter_filter, survivors]
  congr 1
  refine List.filter_congr fun place _ => ?_
  rw [Bool.eq_iff_iff, decide_eq_true_iff, survives_iff, Bool.and_eq_true, decide_eq_true_iff,
    and_comm]
  rfl

theorem placed_withNodes : t.withNodes.placed = t.survivors := by
  have hpruned := placedFrom_pruneLayers (mayBePlaced (repairLibrary t.library)) 0 [] t.layers
  rw [survivors_eq]
  refine hpruned.trans (List.filter_congr fun entry _ => ?_)
  rw [Bool.eq_iff_iff, Bool.and_eq_true, mayBePlaced_iff, mayBePlaced_iff,
    mem_map_tag_repairLibrary]
  -- The Internet exit may not be placed, so it does not matter that it is defined now.
  constructor
  · rintro ⟨⟨hempty, hinternet, hdefined⟩, -⟩
    exact ⟨hempty, hinternet, hdefined.resolve_right hinternet⟩
  · rintro ⟨hempty, hinternet, hdefined⟩
    exact ⟨⟨hempty, hinternet, Or.inl hdefined⟩, rfl⟩

/-- The legal detours of a node that stays, by the index of the normal form. -/
def legalDetoursOf (entry : Nat × PlacedNode) : List String :=
  t.normalize.index.legalDetours entry.1 (t.normalize.kindOf entry.2) entry.2.detours

theorem index_linked : t.linked.index = t.withNodes.index :=
  index_withLegalLinks t.withNodes.index t.withNodes

theorem index_normalize : t.normalize.index = t.withNodes.index := by
  rw [normalize_eq_relink, index_relink, index_linked]

theorem kindOf_normalize (node : PlacedNode) : t.normalize.kindOf node = t.withNodes.kindOf node :=
  rfl

/-- A node that stays, with its legal detours. -/
def legalNode (entry : Nat × PlacedNode) : Nat × PlacedNode :=
  (entry.1, { entry.2 with detours := t.legalDetoursOf entry })

theorem placed_linked : t.linked.placed = t.survivors.map t.legalNode := by
  have hrelink := placed_relink (fun hop node =>
    t.withNodes.index.legalDetours hop (t.withNodes.kindOf node) node.detours)
    (t.withNodes.withInboundLinks t.withNodes.index)
  have hlegal : t.legalNode = fun entry => (entry.1, { entry.2 with
      detours := t.withNodes.index.legalDetours entry.1 (t.withNodes.kindOf entry.2)
        entry.2.detours }) := by
    funext entry
    rw [legalNode, legalDetoursOf, index_normalize, kindOf_normalize]
  rw [← placed_withNodes, hlegal]
  exact hrelink

/-- The tags of the nodes that lose all their links, as a pool with an output decides for them. -/
def managedTags : List String :=
  t.linked.managedMembers t.linked.index

theorem placed_normalize : t.normalize.placed = t.survivors.map fun entry =>
    (entry.1, { entry.2 with detours :=
      if t.managedTags.contains entry.2.tag then [] else t.legalDetoursOf entry }) := by
  rw [normalize_eq_relink, placed_relink, placed_linked, List.map_map]
  rfl

end Topology

/-- No link is made legal by adding it. -/
theorem Index.legalDetours_subset (index : Index) (hop : Nat) (kind : NodeKind)
    (detours : List String) : index.legalDetours hop kind detours ⊆ detours := by
  intro tag htag
  have hunique : ∀ tag ∈ Tag.unique detours, tag ∈ detours := fun tag htag =>
    (Tag.mem_unique.1 htag).1
  rw [legalDetours] at htag
  split at htag
  · rcases List.mem_append.1 htag with hpool | houtput
    · exact hunique tag (List.mem_filter.1 hpool).1
    · exact hunique tag (List.mem_of_find?_eq_some (Option.mem_toList.1 houtput))
  · exact hunique tag (List.mem_filter.1 htag).1
  · exact hunique tag (List.mem_filter.1 (List.mem_of_mem_take htag)).1

/-! ### What is left -/

/-- A layer without its nodes. -/
def Layer.heading (layer : Layer) : String × String :=
  (layer.id, layer.title)

namespace Topology

/-- What is left of a placed node: all of it, in its hop, but for some of its links. -/
structure RestOfNode (before after : Nat × PlacedNode) : Prop where
  same : after = (before.1, { before.2 with detours := after.2.detours })
  links : after.2.detours ⊆ before.2.detours

/-- What is left of a topology. -/
structure RestOf (t rest : Topology) : Prop where
  layers : rest.layers.map Layer.heading = t.layers.map Layer.heading
  nodes : List.Forall₂ RestOfNode t.survivors rest.placed
  /-- The first definition of each tag, and behind them the Internet exit if it was missing. -/
  library : rest.library = (firstsBy NodeDefinition.tag t.library).map
    NodeDefinition.withExitKind ++ missingExit t.library
  inbounds : rest.inbounds = t.inbounds.map (Inbound.rest rest)

variable (t : Topology)

theorem map_heading_normalize :
    t.normalize.layers.map Layer.heading = t.layers.map Layer.heading := by
  have hheading : ∀ (layer : Layer) nodes,
      { layer with nodes := nodes }.heading = layer.heading := fun _ _ => rfl
  have hpruned : t.withNodes.layers.map Layer.heading = t.layers.map Layer.heading :=
    map_pruneLayers _ hheading [] t.layers
  rw [normalize_eq_relink, ← hpruned]
  exact (map_mapPlacedFrom hheading _ 0 _).trans (map_mapPlacedFrom hheading _ 0 _)

theorem inbounds_normalize_eq_rest :
    t.normalize.inbounds = t.inbounds.map (Inbound.rest t.normalize) := by
  rw [inbounds_normalize, ← index_normalize, List.map_map]
  exact List.map_congr_left fun inbound _ =>
    (isNormal_normalize t).toNodesSound.repairDetours_eq_rest inbound

/-- Normalizing only removes, and by these rules. -/
theorem restOf_normalize : t.RestOf t.normalize where
  layers := map_heading_normalize t
  nodes := by
    rw [placed_normalize, List.forall₂_map_right_iff, List.forall₂_same]
    intro entry _
    refine ⟨rfl, ?_⟩
    dsimp only
    split
    · exact List.nil_subset _
    · exact Index.legalDetours_subset _ _ _ _
  library := by rw [library_normalize, repairLibrary_eq, distinctBy_eq_firstsBy]
  inbounds := inbounds_normalize_eq_rest t

end Topology

end ProxyChain
