import Mathlib.Data.List.InsertIdx
import Mathlib.Data.List.Perm.Basic
import ProxyChain.Proofs.Topology.NormalForm
import ProxyChain.Topology.Edit

/-!
# ProxyChain.Proofs.Topology.Layers

**Placed nodes without their hops.** What an edit of the layers does to the nodes of a topology is
said up to their order: a node that is placed is one more, a node that is moved is still there, and
removing a layer leaves a part of the nodes. Changes of all nodes in place, of their tags or of
their links, keep the order and the layers.

Where links count, hops do: of placing a node and of dropping a tag it is also said what is placed
then, and where.
-/

namespace ProxyChain

/-! ### Positions in a list -/

section

variable {xs : List α} {source target : Nat} (hsource : source < xs.length)

include hsource

theorem moveItem_eq :
    moveItem source target xs = (xs.eraseIdx source).insertIdx target xs[source] := by
  rw [moveItem, List.getElem?_eq_getElem hsource]

/-- Without the moved element the others are as they were. -/
theorem eraseIdx_moveItem : (moveItem source target xs).eraseIdx target = xs.eraseIdx source := by
  rw [moveItem_eq hsource, List.eraseIdx_insertIdx_self]

variable (htarget : target < xs.length)

include htarget

theorem le_length_eraseIdx : target ≤ (xs.eraseIdx source).length := by
  rw [List.length_eraseIdx_of_lt hsource]
  omega

theorem moveItem_perm : (moveItem source target xs).Perm xs := by
  rw [moveItem_eq hsource]
  exact (List.perm_insertIdx xs[source] _ (le_length_eraseIdx hsource htarget)).trans
    (List.getElem_cons_eraseIdx_perm hsource)

theorem getElem?_moveItem : (moveItem source target xs)[target]? = xs[source]? := by
  rw [moveItem_eq hsource, List.getElem?_insertIdx_self,
    if_pos (le_length_eraseIdx hsource htarget), List.getElem?_eq_getElem hsource]

/-- Moving the element back gives the list as it was. -/
theorem moveItem_moveItem : moveItem target source (moveItem source target xs) = xs := by
  have hmoved : (moveItem source target xs)[target]? = some xs[source] := by
    rw [getElem?_moveItem hsource htarget, List.getElem?_eq_getElem hsource]
  rw [moveItem, hmoved]
  dsimp only
  rw [eraseIdx_moveItem hsource, List.insertIdx_eraseIdx_getElem hsource]

end

theorem insertIdx_eq_take_append_drop (a : α) : ∀ {xs : List α} {position : Nat},
    position ≤ xs.length → xs.insertIdx position a = xs.take position ++ a :: xs.drop position
  | _, 0, _ => List.insertIdx_zero
  | b :: rest, position + 1, h => by
      rw [List.insertIdx_succ_cons, insertIdx_eq_take_append_drop a (by simpa using h)]
      rfl

theorem map_modify_eq_self {key : α → β} {f : α → α} (hkey : ∀ a, key (f a) = key a)
    (position : Nat) (xs : List α) : (xs.modify position f).map key = xs.map key := by
  apply List.ext_getElem?
  intro i
  rw [List.getElem?_map, List.getElem?_map, List.getElem?_modify]
  cases xs[i]? with
  | none => rfl
  | some a =>
      by_cases hi : position = i
      · simp [hi, hkey]
      · simp [hi]

namespace Topology

/-! ### All nodes -/

/-- The placed nodes, hop by hop and in the order of each hop. -/
def nodes (t : Topology) : List PlacedNode :=
  t.layers.flatMap Layer.nodes

/-- The ids of the layers. -/
def layerIds (t : Topology) : List String :=
  t.layers.map Layer.id

theorem map_snd_placedFrom : ∀ (hop : Nat) (layers : List Layer),
    (placedFrom hop layers).map Prod.snd = layers.flatMap Layer.nodes
  | _, [] => rfl
  | hop, layer :: rest => by
      rw [placedFrom, List.map_append, List.map_map, map_snd_placedFrom (hop + 1) rest,
        List.flatMap_cons]
      exact congrArg (· ++ _) (List.map_id layer.nodes)

theorem map_snd_placed (t : Topology) : t.placed.map Prod.snd = t.nodes :=
  map_snd_placedFrom 0 t.layers

theorem placedTags_eq (t : Topology) : t.placedTags = t.nodes.map PlacedNode.tag := by
  rw [← map_snd_placed, List.map_map]
  rfl

theorem mem_nodes_of_mem_placed {t : Topology} {entry : Nat × PlacedNode}
    (h : entry ∈ t.placed) : entry.2 ∈ t.nodes := by
  rw [← map_snd_placed]
  exact List.mem_map_of_mem h

theorem exists_placed_of_mem_nodes {t : Topology} {node : PlacedNode} (h : node ∈ t.nodes) :
    ∃ hop, (hop, node) ∈ t.placed := by
  rw [← map_snd_placed] at h
  obtain ⟨entry, hentry, rfl⟩ := List.mem_map.1 h
  exact ⟨entry.1, hentry⟩

/-- The tags to which placed nodes and inbounds refer: those that are placed, the detours, and the
defaults of selectors. -/
def references (t : Topology) : List String :=
  (t.nodes.flatMap fun node => node.tag :: node.detours) ++
    t.inbounds.flatMap fun inbound => inbound.detours ++ inbound.selectorDefault.toList

section

variable {t : Topology}

theorem tag_mem_references {node : PlacedNode} (h : node ∈ t.nodes) : node.tag ∈ t.references :=
  List.mem_append_left _ (List.mem_flatMap.2 ⟨node, h, List.mem_cons_self⟩)

theorem detour_mem_references {node : PlacedNode} (h : node ∈ t.nodes) {tag : String}
    (htag : tag ∈ node.detours) : tag ∈ t.references :=
  List.mem_append_left _ (List.mem_flatMap.2 ⟨node, h, List.mem_cons_of_mem _ htag⟩)

theorem inbound_detour_mem_references {inbound : Inbound} (h : inbound ∈ t.inbounds) {tag : String}
    (htag : tag ∈ inbound.detours) : tag ∈ t.references :=
  List.mem_append_right _ (List.mem_flatMap.2 ⟨inbound, h, List.mem_append_left _ htag⟩)

theorem default_mem_references {inbound : Inbound} (h : inbound ∈ t.inbounds) {tag : String}
    (htag : tag ∈ inbound.selectorDefault) : tag ∈ t.references :=
  List.mem_append_right _
    (List.mem_flatMap.2 ⟨inbound, h, List.mem_append_right _ (Option.mem_toList.2 htag)⟩)

end

/-! ### Changes in place -/

@[simp] theorem layerIds_mapPlaced (f : Nat → PlacedNode → PlacedNode) (t : Topology) :
    (t.mapPlaced f).layerIds = t.layerIds :=
  map_mapPlacedFrom (fun _ _ => rfl) f 0 t.layers

theorem nodes_mapPlaced (f : PlacedNode → PlacedNode) (t : Topology) :
    (t.mapPlaced fun _ => f).nodes = t.nodes.map f := by
  rw [← map_snd_placed, ← map_snd_placed, placed_mapPlaced, List.map_map, List.map_map]
  rfl

/-- What does not depend on links is the same for all nodes after links were changed. -/
theorem map_nodes_relink {key : PlacedNode → α}
    (hkey : ∀ node detours, key { node with detours := detours } = key node)
    (links : Nat → PlacedNode → List String) (t : Topology) :
    (t.relink links).nodes.map key = t.nodes.map key := by
  rw [← map_snd_placed, ← map_snd_placed, placed_relink, List.map_map, List.map_map, List.map_map]
  exact List.map_congr_left fun entry _ => hkey entry.2 _

theorem layerIds_relink (links : Nat → PlacedNode → List String) (t : Topology) :
    (t.relink links).layerIds = t.layerIds :=
  layerIds_mapPlaced _ t

/-! ### Dropping a tag -/

theorem placedFrom_dropFromLayer (tag : String) : ∀ (hop : Nat) (layers : List Layer),
    placedFrom hop (layers.map (dropFromLayer tag)) =
      ((placedFrom hop layers).filter fun entry => entry.2.tag ≠ tag).map fun entry =>
        (entry.1, { entry.2 with detours := entry.2.detours.filter (· ≠ tag) })
  | _, [] => rfl
  | hop, layer :: rest => by
      rw [List.map_cons, placedFrom, placedFrom, List.filter_append, List.map_append,
        placedFrom_dropFromLayer tag (hop + 1) rest, dropFromLayer, List.map_map, List.filter_map,
        List.map_map]
      rfl

theorem placed_dropReferences (tag : String) (t : Topology) : (t.dropReferences tag).placed =
    (t.placed.filter fun entry => entry.2.tag ≠ tag).map fun entry =>
      (entry.1, { entry.2 with detours := entry.2.detours.filter (· ≠ tag) }) :=
  placedFrom_dropFromLayer tag 0 t.layers

theorem placedTags_dropReferences (tag : String) (t : Topology) :
    (t.dropReferences tag).placedTags = t.placedTags.filter (· ≠ tag) := by
  rw [placedTags, placed_dropReferences, List.map_map, placedTags, List.filter_map]
  rfl

theorem mem_placed_dropReferences {tag : String} {t : Topology} {hop : Nat} {after : PlacedNode} :
    (hop, after) ∈ (t.dropReferences tag).placed ↔ ∃ node, (hop, node) ∈ t.placed ∧
      node.tag ≠ tag ∧ { node with detours := node.detours.filter (· ≠ tag) } = after := by
  rw [placed_dropReferences, List.mem_map]
  constructor
  · rintro ⟨⟨_, node⟩, hmem, heq⟩
    obtain ⟨rfl, hnode⟩ := Prod.mk.inj heq
    obtain ⟨hplaced, htag⟩ := List.mem_filter.1 hmem
    exact ⟨node, hplaced, of_decide_eq_true htag, hnode⟩
  · rintro ⟨node, hplaced, htag, rfl⟩
    exact ⟨(hop, node), List.mem_filter.2 ⟨hplaced, decide_eq_true htag⟩, rfl⟩

/-- What is left is where it was. -/
theorem placedIn_dropReferences {tag : String} {t : Topology} {other : String} {hop : Nat} :
    (t.dropReferences tag).PlacedIn other hop ↔ t.PlacedIn other hop ∧ other ≠ tag := by
  constructor
  · rintro ⟨after, hafter, rfl⟩
    obtain ⟨node, hnode, htag, rfl⟩ := mem_placed_dropReferences.1 hafter
    exact ⟨⟨node, hnode, rfl⟩, htag⟩
  · rintro ⟨⟨node, hnode, rfl⟩, htag⟩
    exact ⟨_, mem_placed_dropReferences.2 ⟨node, hnode, htag, rfl⟩, rfl⟩

/-! ### Changes of one layer -/

theorem layerPosition?_lt {t : Topology} {id : String} {position : Nat}
    (h : t.layerPosition? id = some position) : position < t.layers.length := by
  obtain ⟨hposition, -⟩ := List.findIdx?_eq_some_iff_getElem.1 h
  exact hposition

theorem layerIds_modifyLayer {f : Layer → Layer} (hid : ∀ layer, (f layer).id = layer.id)
    (position : Nat) (t : Topology) : (t.modifyLayer position f).layerIds = t.layerIds :=
  map_modify_eq_self hid position t.layers

/-- The nodes of one layer, and what there is beside them before and after a change of the layer. -/
theorem exists_nodes_modifyLayer (f : Layer → Layer) {t : Topology} {position : Nat} {layer : Layer}
    (h : t.layers[position]? = some layer) : ∃ before after,
      t.nodes = before ++ layer.nodes ++ after ∧
        (t.modifyLayer position f).nodes = before ++ (f layer).nodes ++ after := by
  obtain ⟨hposition, hlayer⟩ := List.getElem?_eq_some_iff.1 h
  -- Both lists of layers are cut at the position, and so are the nodes.
  have hlayers : t.layers = t.layers.take position ++ layer :: t.layers.drop (position + 1) := by
    rw [← hlayer, ← List.drop_eq_getElem_cons hposition, List.take_append_drop]
  have hmodified : t.layers.modify position f =
      t.layers.take position ++ f layer :: t.layers.drop (position + 1) := by
    rw [List.modify_eq_take_cons_drop hposition, hlayer]
  have hparts : ∀ middle : Layer, (t.layers.take position ++ middle :: t.layers.drop
      (position + 1)).flatMap Layer.nodes = (t.layers.take position).flatMap Layer.nodes
        ++ middle.nodes ++ (t.layers.drop (position + 1)).flatMap Layer.nodes := by
    intro middle
    rw [List.flatMap_append, List.flatMap_cons, List.append_assoc]
  exact ⟨_, _, (congrArg (List.flatMap Layer.nodes) hlayers).trans (hparts layer),
    (congrArg (List.flatMap Layer.nodes) hmodified).trans (hparts (f layer))⟩

/-- A node that is placed is one more. -/
theorem nodes_append_perm {t : Topology} {position : Nat} (h : position < t.layers.length)
    (node : PlacedNode) :
    (t.modifyLayer position fun layer =>
      { layer with nodes := layer.nodes ++ [node] }).nodes.Perm (node :: t.nodes) := by
  obtain ⟨before, after, hnodes, hmodified⟩ :=
    exists_nodes_modifyLayer (fun layer => { layer with nodes := layer.nodes ++ [node] })
      (List.getElem?_eq_getElem h)
  rw [hnodes, hmodified]
  simp only [List.append_assoc, List.singleton_append]
  rw [← List.append_assoc, ← List.append_assoc]
  exact List.perm_middle

theorem mem_placedFrom_append {node : PlacedNode} {entry : Nat × PlacedNode} :
    ∀ {hop position : Nat} {layers : List Layer}, position < layers.length →
      (entry ∈ placedFrom hop (layers.modify position fun layer =>
          { layer with nodes := layer.nodes ++ [node] }) ↔
        entry ∈ placedFrom hop layers ∨ entry = (hop + position, node))
  | _, _, [], h => absurd h (Nat.not_lt_zero _)
  | hop, 0, layer :: rest, _ => by
      simp only [List.modify_zero_cons, placedFrom, List.map_append, List.mem_append, List.map_cons,
        List.map_nil, List.mem_singleton, Nat.add_zero]
      rw [or_assoc, or_assoc, or_comm (a := entry = _)]
  | hop, position + 1, layer :: rest, h => by
      have hrest : position < rest.length := by simpa using h
      rw [List.modify_succ_cons, placedFrom, placedFrom, List.mem_append, List.mem_append,
        mem_placedFrom_append hrest, or_assoc, Nat.add_right_comm, ← Nat.add_assoc]

/-- Where a node is that was placed at the end of a layer, and where the others are. -/
theorem mem_placed_append {t : Topology} {position : Nat} (h : position < t.layers.length)
    {node : PlacedNode} {entry : Nat × PlacedNode} :
    entry ∈ (t.modifyLayer position fun layer =>
        { layer with nodes := layer.nodes ++ [node] }).placed ↔
      entry ∈ t.placed ∨ entry = (position, node) := by
  refine (mem_placedFrom_append h).trans ?_
  rw [Nat.zero_add]
  rfl

theorem placedIn_append {t : Topology} {position : Nat} (h : position < t.layers.length)
    {node : PlacedNode} {tag : String} {hop : Nat} :
    (t.modifyLayer position fun layer =>
        { layer with nodes := layer.nodes ++ [node] }).PlacedIn tag hop ↔
      t.PlacedIn tag hop ∨ hop = position ∧ tag = node.tag := by
  constructor
  · rintro ⟨other, hother, rfl⟩
    rcases (mem_placed_append h).1 hother with hold | hnew
    · exact Or.inl ⟨other, hold, rfl⟩
    · obtain ⟨rfl, rfl⟩ := Prod.mk.inj hnew
      exact Or.inr ⟨rfl, rfl⟩
  · rintro (⟨other, hother, rfl⟩ | ⟨rfl, rfl⟩)
    · exact ⟨other, (mem_placed_append h).2 (Or.inl hother), rfl⟩
    · exact ⟨node, (mem_placed_append h).2 (Or.inr rfl), rfl⟩

theorem nodes_filter_sublist (position : Nat) (p : PlacedNode → Bool) (t : Topology) :
    (t.modifyLayer position fun layer =>
      { layer with nodes := layer.nodes.filter p }).nodes.Sublist t.nodes := by
  by_cases hposition : position < t.layers.length
  · obtain ⟨before, after, hnodes, hmodified⟩ :=
      exists_nodes_modifyLayer (fun layer => { layer with nodes := layer.nodes.filter p })
        (List.getElem?_eq_getElem hposition)
    rw [hnodes, hmodified]
    exact (List.filter_sublist.append_left before).append_right after
  · rw [modifyLayer, List.modify_eq_self (Nat.le_of_not_lt hposition)]

/-- The node that is taken out of a layer is missing from the others. -/
theorem nodes_eraseP_perm {t : Topology} {position : Nat} {layer : Layer} {p : PlacedNode → Bool}
    {node : PlacedNode} (hlayer : t.layers[position]? = some layer)
    (hnode : layer.nodes.find? p = some node) :
    t.nodes.Perm (node :: (t.modifyLayer position fun layer =>
      { layer with nodes := layer.nodes.eraseP p }).nodes) := by
  obtain ⟨before, after, hnodes, hmodified⟩ :=
    exists_nodes_modifyLayer (fun layer => { layer with nodes := layer.nodes.eraseP p }) hlayer
  obtain ⟨hfound, front, back, hsplit, hfront⟩ := List.find?_eq_some_iff_append.1 hnode
  have herased : layer.nodes.eraseP p = front ++ back := by
    rw [hsplit, List.eraseP_append_right _ fun b hb => by simpa using hfront b hb,
      List.eraseP_cons_of_pos hfound]
  rw [hnodes, hmodified]
  show (before ++ layer.nodes ++ after).Perm (node :: (before ++ layer.nodes.eraseP p ++ after))
  rw [herased, hsplit]
  simp only [List.append_assoc, List.cons_append]
  rw [← List.append_assoc before, ← List.append_assoc before]
  exact List.perm_middle

/-- A node that is taken out of one layer and placed in another one is still there. In between, it
is missing. -/
theorem nodes_move_perm {t : Topology} {source target : Nat} {layer : Layer}
    {p : PlacedNode → Bool} {node : PlacedNode} (hlayer : t.layers[source]? = some layer)
    (hnode : layer.nodes.find? p = some node) (htarget : target < t.layers.length) :
    ((t.modifyLayer source fun layer =>
        { layer with nodes := layer.nodes.eraseP p }).modifyLayer target fun layer =>
      { layer with nodes := layer.nodes ++ [node] }).nodes.Perm t.nodes := by
  refine (nodes_append_perm ?_ node).trans (nodes_eraseP_perm hlayer hnode).symm
  rwa [modifyLayer, List.length_modify]

theorem nodes_moveItem_perm {t : Topology} {source target : Nat} (hsource : source < t.layers.length)
    (htarget : target < t.layers.length) :
    { t with layers := moveItem source target t.layers }.nodes.Perm t.nodes :=
  (moveItem_perm hsource htarget).flatMap_right Layer.nodes

/-- In a layer that is put between others there are no nodes yet. -/
theorem nodes_insert {t : Topology} {front back : List Layer} {layer : Layer}
    (hlayers : t.layers = front ++ back) (hempty : layer.nodes = []) :
    { t with layers := front ++ layer :: back }.nodes = t.nodes := by
  rw [nodes, nodes, hlayers, List.flatMap_append, List.flatMap_append, List.flatMap_cons, hempty,
    List.nil_append]

end Topology

end ProxyChain
