import ProxyChain.Proofs.Sequence
import ProxyChain.Topology.Index

/-!
# ProxyChain.Proofs.Topology.Placement

**Placements and the index.** The nodes of a topology are seen through the list `Topology.placed`
of hops and nodes. What rewrites every node rewrites that list entry by entry, and what the index
knows about a tag is what the first entry with that tag says.
-/

namespace ProxyChain

namespace Topology

/-! ### Rewriting every node -/

theorem placedFrom_mapPlacedFrom (f : Nat → PlacedNode → PlacedNode) :
    ∀ (hop : Nat) (layers : List Layer), placedFrom hop (mapPlacedFrom f hop layers) =
      (placedFrom hop layers).map fun entry => (entry.1, f entry.1 entry.2)
  | _, [] => rfl
  | hop, layer :: rest => by
      rw [mapPlacedFrom, placedFrom, placedFrom, List.map_append, List.map_map, List.map_map,
        placedFrom_mapPlacedFrom f (hop + 1) rest]
      rfl

theorem placed_mapPlaced (f : Nat → PlacedNode → PlacedNode) (t : Topology) :
    (t.mapPlaced f).placed = t.placed.map fun entry => (entry.1, f entry.1 entry.2) :=
  placedFrom_mapPlacedFrom f 0 t.layers

@[simp] theorem library_mapPlaced (f : Nat → PlacedNode → PlacedNode) (t : Topology) :
    (t.mapPlaced f).library = t.library := rfl

@[simp] theorem inbounds_mapPlaced (f : Nat → PlacedNode → PlacedNode) (t : Topology) :
    (t.mapPlaced f).inbounds = t.inbounds := rfl

/-- What does not depend on its nodes is the same for each layer. -/
theorem map_mapPlacedFrom {key : Layer → α}
    (hkey : ∀ layer nodes, key { layer with nodes := nodes } = key layer)
    (f : Nat → PlacedNode → PlacedNode) :
    ∀ (hop : Nat) (layers : List Layer), (mapPlacedFrom f hop layers).map key = layers.map key
  | _, [] => rfl
  | hop, layer :: rest => by
      rw [mapPlacedFrom, List.map_cons, List.map_cons, hkey, map_mapPlacedFrom hkey f (hop + 1)]

theorem length_mapPlacedFrom (f : Nat → PlacedNode → PlacedNode) (hop : Nat)
    (layers : List Layer) : (mapPlacedFrom f hop layers).length = layers.length := by
  have hids : (mapPlacedFrom f hop layers).map Layer.id = layers.map Layer.id :=
    map_mapPlacedFrom (fun _ _ => rfl) f hop layers
  simpa using congrArg List.length hids

@[simp] theorem hopCount_mapPlaced (f : Nat → PlacedNode → PlacedNode) (t : Topology) :
    (t.mapPlaced f).hopCount = t.hopCount :=
  length_mapPlacedFrom f 0 t.layers

theorem mapPlacedFrom_congr {f g : Nat → PlacedNode → PlacedNode} :
    ∀ {hop : Nat} {layers : List Layer},
      (∀ entry ∈ placedFrom hop layers, f entry.1 entry.2 = g entry.1 entry.2) →
      mapPlacedFrom f hop layers = mapPlacedFrom g hop layers
  | _, [], _ => rfl
  | hop, layer :: rest, h => by
      rw [placedFrom, List.forall_mem_append] at h
      have hnodes : layer.nodes.map (f hop) = layer.nodes.map (g hop) :=
        List.map_congr_left fun node hnode => h.1 (hop, node) (List.mem_map_of_mem hnode)
      rw [mapPlacedFrom, mapPlacedFrom, hnodes, mapPlacedFrom_congr h.2]

theorem mapPlacedFrom_id : ∀ (hop : Nat) (layers : List Layer),
    mapPlacedFrom (fun _ node => node) hop layers = layers
  | _, [] => rfl
  | hop, layer :: rest => by
      rw [mapPlacedFrom, mapPlacedFrom_id (hop + 1) rest, List.map_id']

theorem mapPlacedFrom_eq_self {f : Nat → PlacedNode → PlacedNode} {hop : Nat}
    {layers : List Layer} (h : ∀ entry ∈ placedFrom hop layers, f entry.1 entry.2 = entry.2) :
    mapPlacedFrom f hop layers = layers :=
  (mapPlacedFrom_congr h).trans (mapPlacedFrom_id hop layers)

/-- Rewritings that agree on all placed nodes give the same topology. -/
theorem mapPlaced_congr {f g : Nat → PlacedNode → PlacedNode} {t : Topology}
    (h : ∀ entry ∈ t.placed, f entry.1 entry.2 = g entry.1 entry.2) :
    t.mapPlaced f = t.mapPlaced g := by
  rw [mapPlaced, mapPlaced, mapPlacedFrom_congr h]

/-- A rewriting that keeps each placed node as it is keeps the topology. -/
theorem mapPlaced_eq_self {f : Nat → PlacedNode → PlacedNode} {t : Topology}
    (h : ∀ entry ∈ t.placed, f entry.1 entry.2 = entry.2) : t.mapPlaced f = t := by
  rw [mapPlaced, mapPlacedFrom_eq_self h]

/-- A rewriting that does not show in the list of placed nodes keeps the topology. -/
theorem mapPlaced_eq_self_of_placed {f : Nat → PlacedNode → PlacedNode} {t : Topology}
    (h : (t.mapPlaced f).placed = t.placed) : t.mapPlaced f = t := by
  rw [placed_mapPlaced, map_eq_self_iff] at h
  exact mapPlaced_eq_self fun entry hentry => congrArg Prod.snd (h entry hentry)

theorem mapPlacedFrom_mapPlacedFrom (f g : Nat → PlacedNode → PlacedNode) :
    ∀ (hop : Nat) (layers : List Layer), mapPlacedFrom g hop (mapPlacedFrom f hop layers) =
      mapPlacedFrom (fun hop node => g hop (f hop node)) hop layers
  | _, [] => rfl
  | hop, layer :: rest => by
      rw [mapPlacedFrom, mapPlacedFrom, mapPlacedFrom, List.map_map,
        mapPlacedFrom_mapPlacedFrom f g (hop + 1) rest]
      rfl

theorem mapPlaced_mapPlaced (f g : Nat → PlacedNode → PlacedNode) (t : Topology) :
    (t.mapPlaced f).mapPlaced g = t.mapPlaced fun hop node => g hop (f hop node) := by
  simp only [mapPlaced, mapPlacedFrom_mapPlacedFrom]

/-! ### Placed tags -/

/-- The tags that are placed, in the order of placement. -/
def placedTags (t : Topology) : List String :=
  t.placed.map fun entry => entry.2.tag

/-- A node with that tag is placed in that hop. -/
def PlacedIn (t : Topology) (tag : String) (hop : Nat) : Prop :=
  ∃ node, (hop, node) ∈ t.placed ∧ node.tag = tag

instance (t : Topology) (tag : String) (hop : Nat) : Decidable (t.PlacedIn tag hop) :=
  decidable_of_iff (∃ entry ∈ t.placed, entry.1 = hop ∧ entry.2.tag = tag) <| by
    constructor
    · rintro ⟨⟨_, node⟩, hmem, rfl, htag⟩
      exact ⟨node, hmem, htag⟩
    · rintro ⟨node, hmem, htag⟩
      exact ⟨(hop, node), hmem, rfl, htag⟩

theorem PlacedIn.mem_placedTags {t : Topology} {tag : String} {hop : Nat}
    (h : t.PlacedIn tag hop) : tag ∈ t.placedTags := by
  obtain ⟨node, hmem, rfl⟩ := h
  exact List.mem_map_of_mem hmem

theorem placedIn_of_mem {t : Topology} {entry : Nat × PlacedNode} (h : entry ∈ t.placed) :
    t.PlacedIn entry.2.tag entry.1 :=
  ⟨entry.2, h, rfl⟩

theorem hop_lt_of_mem_placedFrom :
    ∀ {hop : Nat} {layers : List Layer} {entry : Nat × PlacedNode},
      entry ∈ placedFrom hop layers → entry.1 < hop + layers.length
  | _, [], _, h => absurd h List.not_mem_nil
  | hop, layer :: rest, entry, h => by
      rw [List.length_cons]
      rcases List.mem_append.1 h with h | h
      · obtain ⟨node, -, rfl⟩ := List.mem_map.1 h
        show hop < hop + (rest.length + 1)
        omega
      · have hrest := hop_lt_of_mem_placedFrom h
        omega

theorem PlacedIn.hop_lt {t : Topology} {tag : String} {hop : Nat} (h : t.PlacedIn tag hop) :
    hop < t.hopCount := by
  obtain ⟨node, hmem, -⟩ := h
  have hlt := hop_lt_of_mem_placedFrom hmem
  rwa [Nat.zero_add] at hlt

/-- Where each tag is placed once, its entry is the only one. -/
theorem eq_of_tag_eq {t : Topology} (hnodup : t.placedTags.Nodup) {a b : Nat × PlacedNode}
    (ha : a ∈ t.placed) (hb : b ∈ t.placed) (h : a.2.tag = b.2.tag) : a = b :=
  List.inj_on_of_nodup_map hnodup ha hb h

theorem findPlaced?_eq_some_iff {t : Topology} (hnodup : t.placedTags.Nodup) {tag : String}
    {entry : Nat × PlacedNode} :
    t.findPlaced? tag = some entry ↔ entry ∈ t.placed ∧ entry.2.tag = tag :=
  find?_key_eq_some_iff hnodup

theorem modifyFirst_layers_eq {tag : String} {f : PlacedNode → PlacedNode} :
    ∀ (hop : Nat) {layers : List Layer},
      ((placedFrom hop layers).map fun entry => entry.2.tag).Nodup →
      modifyFirst (fun layer => layer.nodes.any fun node => node.tag = tag)
          (fun layer =>
            { layer with nodes := modifyFirst (fun node => node.tag = tag) f layer.nodes })
          layers =
        mapPlacedFrom (fun _ node => if node.tag = tag then f node else node) hop layers
  | _, [], _ => rfl
  | hop, layer :: rest, hnodup => by
      rw [placedFrom, List.map_append, List.map_map, List.nodup_append] at hnodup
      obtain ⟨hnodes, hrest, hdisjoint⟩ := hnodup
      rw [modifyFirst, mapPlacedFrom]
      by_cases hhere : (layer.nodes.any fun node => node.tag = tag) = true
      · obtain ⟨node, hnode, htag⟩ := List.any_eq_true.1 hhere
        have hunchanged : mapPlacedFrom (fun _ node => if node.tag = tag then f node else node)
            (hop + 1) rest = rest := by
          refine mapPlacedFrom_eq_self fun entry hentry => if_neg fun hentry_tag => ?_
          refine hdisjoint _ (List.mem_map_of_mem hnode) _ (List.mem_map_of_mem hentry) ?_
          exact (of_decide_eq_true htag).trans hentry_tag.symm
        have hfirst : modifyFirst (fun node => node.tag = tag) f layer.nodes =
            layer.nodes.map fun node => if node.tag = tag then f node else node :=
          modifyFirst_key_eq_map tag hnodes
        rw [if_pos hhere, hunchanged, hfirst]
      · have hunchanged : layer.nodes.map (fun node => if node.tag = tag then f node else node) =
            layer.nodes := by
          refine map_eq_self_iff.2 fun node hnode => if_neg fun htag => hhere ?_
          exact List.any_eq_true.2 ⟨node, hnode, decide_eq_true htag⟩
        rw [if_neg hhere, hunchanged, modifyFirst_layers_eq (hop + 1) hrest]

/-- Where each tag is placed once, changing the first placement of a tag changes the one node that
has it. -/
theorem modifyPlaced_eq_mapPlaced {t : Topology} (hnodup : t.placedTags.Nodup) (tag : String)
    (f : PlacedNode → PlacedNode) :
    t.modifyPlaced tag f = t.mapPlaced fun _ node => if node.tag = tag then f node else node := by
  rw [mapPlaced, ← modifyFirst_layers_eq 0 hnodup]
  rfl

end Topology

/-! ### The index -/

theorem lookup_insertNew [DecidableEq κ] (key k : κ) (value : α) (entries : List (κ × α)) :
    (insertNew key value entries).lookup k =
      (entries.lookup k).or (if key = k then some value else none) := by
  rw [insertNew]
  by_cases hk : key = k
  · subst hk
    cases h : entries.lookup key with
    | none => simp [List.lookup_append, h]
    | some v => simp [h]
  · rw [if_neg hk, Option.or_none]
    split
    · rfl
    · have hne : (k == key) = false := by simpa using Ne.symm hk
      rw [List.lookup_append, List.lookup_cons, hne, List.lookup_nil, Option.or_none]

/-- A map that is filled without overwriting knows the first entry of each key. -/
theorem lookup_foldl_insertNew [DecidableEq κ] (skip : β → Prop) [DecidablePred skip]
    (key : β → κ) (value : β → α) (k : κ) :
    ∀ (xs : List β) (known : List (κ × α)),
      (xs.foldl (fun known x => if skip x then known else insertNew (key x) (value x) known)
        known).lookup k =
      (known.lookup k).or ((xs.find? fun x => ¬ skip x ∧ key x = k).map value)
  | [], known => by simp
  | x :: rest, known => by
      rw [List.foldl_cons, lookup_foldl_insertNew skip key value k rest, List.find?_cons]
      by_cases hskip : skip x
      · simp [hskip]
      · rw [if_neg hskip, lookup_insertNew]
        by_cases hk : key x = k
        · cases known.lookup k <;> simp [hskip, hk]
        · simp [hk]

namespace Topology

/-- What the index knows about a placed tag is what its first placement says. -/
theorem lookup_placements (t : Topology) (tag : String) :
    t.index.placements.lookup tag = if tag = "" then none
      else (t.findPlaced? tag).map fun entry => ⟨entry.1, t.kindOf entry.2⟩ := by
  have h := lookup_foldl_insertNew (fun entry : Nat × PlacedNode => entry.2.tag = "")
    (fun entry => entry.2.tag) (fun entry => (⟨entry.1, t.kindOf entry.2⟩ : Placement)) tag
    t.placed []
  rw [List.lookup_nil, Option.none_or] at h
  refine h.trans ?_
  by_cases htag : tag = ""
  · subst htag
    rw [if_pos rfl, Option.map_eq_none_iff, List.find?_eq_none]
    rintro entry - hentry
    simp at hentry
  · rw [if_neg htag, findPlaced?]
    congr 2
    funext entry
    by_cases hentry : entry.2.tag = tag
    · simp [hentry, htag]
    · simp [hentry]

/-- What the index knows about a defined tag is what its first definition says. -/
theorem lookup_libraryKinds (t : Topology) (tag : String) :
    t.index.libraryKinds.lookup tag =
      (t.library.find? fun d => d.tag = tag).map NodeDefinition.kind := by
  have h := lookup_foldl_insertNew (fun _ : NodeDefinition => False) NodeDefinition.tag
    NodeDefinition.kind tag t.library []
  simpa [index] using h

@[simp] theorem index_hopCount (t : Topology) : t.index.hopCount = t.hopCount := rfl

end Topology

end ProxyChain
