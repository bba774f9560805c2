import ProxyChain.Proofs.Topology.Edit
import ProxyChain.Topology.Session

/-!
# ProxyChain.Proofs.Topology.Moving

**Moving loses nothing and copies nothing** (`moves_lose_nothing`). What moves a node or a layer,
or makes room by adding a layer, leaves the same placed nodes in another order, and does not touch
the library and the inbounds. One step is enough to look at (`sameContent_perform`); a session
follows by induction. Ids do not matter for this: of several nodes with one id, the first one is
moved.

Among the layers the order of those that are not moved stays, and moving a layer back takes the
move back.
-/

namespace ProxyChain

/-- The operations that move a node or a layer, or make room for one. -/
inductive Operation.Moves : Operation → Prop
  | node (node layer : String) : Moves (.moveNode node layer)
  | layer (source target : Nat) : Moves (.moveLayer source target)
  | room (title : String) : Moves (.addLayer title)

namespace Topology

/-- Two topologies have the same placed nodes, up to their order, the same library and the same
inbounds. -/
structure SameContent (t after : Topology) : Prop where
  nodes : after.nodes.Perm t.nodes
  library : after.library = t.library
  inbounds : after.inbounds = t.inbounds

theorem SameContent.refl (t : Topology) : t.SameContent t :=
  ⟨.refl _, rfl, rfl⟩

theorem SameContent.trans {t between after : Topology} (h : t.SameContent between)
    (hnext : between.SameContent after) : t.SameContent after :=
  ⟨hnext.nodes.trans h.nodes, hnext.library.trans h.library, hnext.inbounds.trans h.inbounds⟩

/-! ### Nodes -/

theorem sameContent_perform {operation : Operation} (h : operation.Moves) (t : Topology) :
    t.SameContent (t.perform operation).topology := by
  cases h with
  | node node layer =>
      refine (moveNode_follows t node layer).preserves (motive := t.SameContent) (.refl t) ?_
      rintro - after ⟨source, target, found, moved, hfound, htarget, hmoved, rfl⟩
      exact ⟨nodes_move_perm hfound hmoved htarget, rfl, rfl⟩
  | layer source target =>
      refine (moveLayer_follows t source target).preserves (motive := t.SameContent) (.refl t) ?_
      rintro - after ⟨hsource, htarget, rfl⟩
      exact ⟨nodes_moveItem_perm hsource htarget, rfl, rfl⟩
  | room title =>
      refine (addLayer_follows t title).preserves (motive := t.SameContent) (.refl t) ?_
      rintro id after ⟨-, front, back, layer, hlayers, -, -, hempty, rfl⟩
      exact ⟨.of_eq (nodes_insert hlayers hempty), rfl, rfl⟩

theorem sameContent_performAll {operations : List Operation}
    (h : ∀ operation ∈ operations, operation.Moves) (t : Topology) :
    t.SameContent (t.performAll operations) := by
  induction operations generalizing t with
  | nil => exact .refl t
  | cons operation rest ih =>
      rw [List.forall_mem_cons] at h
      exact (sameContent_perform h.1 t).trans (ih h.2 _)

/-! ### Layers -/

/-- A layer without nodes is new among others, and does not come behind the last one of several. -/
structure LayerAdded (layers after : List Layer) : Prop where
  inserted : ∃ front back layer, layers = front ++ back ∧ after = front ++ layer :: back ∧
    layer.nodes = []
  last_kept : 2 ≤ layers.length → after.getLast? = layers.getLast?

theorem layerAdded_addLayer (t : Topology) (title : String) :
    LayerAdded t.layers (t.addLayer title).topology.layers := by
  obtain ⟨-, front, back, layer, hlayers, hlast, -, hempty, hafter⟩ :=
    (addLayer_follows t title).of_ok rfl
  rw [hafter]
  refine ⟨⟨front, back, layer, hlayers, rfl, hempty⟩, fun hmany => ?_⟩
  obtain ⟨last, rfl⟩ := List.length_eq_one_iff.1 (hlast hmany)
  rw [hlayers, List.getLast?_append, List.getLast?_append, List.getLast?_cons_cons]

/-- The layer at one position is at another one, and all others have kept their order. -/
structure LayerMoved (source target : Nat) (layers after : List Layer) : Prop where
  moved : after[target]? = layers[source]?
  others : after.eraseIdx target = layers.eraseIdx source

section

variable {t : Topology} {source target : Nat} (hsource : source < t.layers.length)
    (htarget : target < t.layers.length)

include hsource htarget

theorem moveLayer_eq : t.moveLayer source target =
    accept { t with layers := moveItem source target t.layers } () [] :=
  if_pos ⟨hsource, htarget⟩

theorem layerMoved_moveLayer :
    LayerMoved source target t.layers (t.moveLayer source target).topology.layers := by
  rw [moveLayer_eq hsource htarget]
  exact ⟨getElem?_moveItem hsource htarget, eraseIdx_moveItem hsource⟩

theorem moveLayer_moveLayer :
    (t.moveLayer source target).topology.moveLayer target source = t.accept () [] := by
  have hlength : (moveItem source target t.layers).length = t.layers.length :=
    (moveItem_perm hsource htarget).length_eq
  rw [moveLayer_eq hsource htarget]
  refine (moveLayer_eq (hlength ▸ htarget) (hlength ▸ hsource)).trans ?_
  show accept { t with layers := moveItem target source (moveItem source target t.layers) } () [] =
    _
  rw [moveItem_moveItem hsource htarget]

end

/-- A session of moves and of added layers leaves all placed nodes, the library and the inbounds; an
added layer leaves the others in their order; and a layer that is moved is where it should be, and
where it was when it is moved back. -/
theorem moves_lose_nothing (t : Topology) :
    (∀ operations : List Operation, (∀ operation ∈ operations, operation.Moves) →
      t.SameContent (t.performAll operations)) ∧
    (∀ title : String, LayerAdded t.layers (t.addLayer title).topology.layers) ∧
    ∀ source target : Nat, source < t.layers.length → target < t.layers.length →
      (t.moveLayer source target).outcome = .ok () ∧
      LayerMoved source target t.layers (t.moveLayer source target).topology.layers ∧
      ((t.moveLayer source target).topology.moveLayer target source).outcome = .ok () ∧
      ((t.moveLayer source target).topology.moveLayer target source).topology = t := by
  refine ⟨fun operations h => sameContent_performAll h t, t.layerAdded_addLayer, ?_⟩
  intro source target hsource htarget
  rw [moveLayer_moveLayer hsource htarget]
  refine ⟨?_, layerMoved_moveLayer hsource htarget, rfl, rfl⟩
  rw [moveLayer_eq hsource htarget]
  rfl

/-- Three layers, with one id for two nodes and none for a third. -/
def namelessNodes : Topology where
  layers := [
    { id := "layer-1", nodes := [{ id := "n", tag := "a", detours := ["c"] }, { tag := "b" }] },
    { id := "layer-2", nodes := [{ id := "n", tag := "c" }] },
    { id := "layer-3" }]
  library := [.internet, .named "a" .vmess, .named "b" .trojan, .named "c" .vmess]

/-- Some moves of them, of which the third one is refused. -/
def someMoves : List Operation :=
  [.moveNode "n" "layer-1", .moveNode "" "layer-3", .moveLayer 0 3, .addLayer "", .moveLayer 0 3,
    .moveNode "n" "layer-3"]

theorem moves_namelessNodes : (∀ operation ∈ someMoves, operation.Moves) ∧
    namelessNodes.SameContent (namelessNodes.performAll someMoves) ∧
    (namelessNodes.performAll someMoves).layers.map (fun layer => layer.nodes.map PlacedNode.tag) =
      [[], [], ["b", "c"], ["a"]] ∧
    0 < namelessNodes.layers.length ∧ 2 < namelessNodes.layers.length ∧
    LayerMoved 0 2 namelessNodes.layers (namelessNodes.moveLayer 0 2).topology.layers ∧
    ((namelessNodes.moveLayer 0 2).topology.moveLayer 2 0).topology = namelessNodes := by
  have hmoves : ∀ operation ∈ someMoves, operation.Moves := by
    simp only [someMoves, List.forall_mem_cons]
    exact ⟨.node .., .node .., .layer .., .room .., .layer .., .node .., List.forall_mem_nil _⟩
  obtain ⟨hsame, -, hlayer⟩ := moves_lose_nothing namelessNodes
  obtain ⟨-, hmoved, -, hback⟩ := hlayer 0 2 (by decide) (by decide)
  exact ⟨hmoves, hsame someMoves hmoves, by decide +kernel, by decide, by decide, hmoved, hback⟩

end Topology

end ProxyChain
