import ProxyChain.Proofs.Topology.Edit

/-!
# ProxyChain.Proofs.Topology.NewIds

**New ids are always found** (`newIds_found`). The search for one has no bound of its own: it counts
up from one more than there are taken ids, and goes on while the numbered id is taken. That many
numbers and one more give different ids, of which at least one is free (`searches_freshId`). So
what is placed or added gets an id that nothing else of its sort has, whatever ids a profile came
with.
-/

namespace ProxyChain.Topology

theorem nodes_placeNode {t : Topology} {layer tag id : String}
    (h : (t.placeNode layer tag).outcome = .ok id) : id ∉ t.nodes.map PlacedNode.id ∧
      (t.placeNode layer tag).topology.nodes.Perm ({ id := id, tag := tag } :: t.nodes) := by
  obtain ⟨position, hposition, -, -, -, -, hfresh, hafter⟩ :=
    (placeNode_follows t layer tag).of_ok h
  rw [hafter]
  exact ⟨hfresh, nodes_append_perm hposition _⟩

theorem layerIds_addLayer (t : Topology) (title : String) :
    ∃ id, (t.addLayer title).outcome = .ok id ∧ id ∉ t.layerIds ∧
      (t.addLayer title).topology.layerIds.Perm (id :: t.layerIds) := by
  refine ⟨_, rfl, ?_⟩
  obtain ⟨hfresh, front, back, layer, hlayers, -, hid, -, hafter⟩ :=
    (addLayer_follows t title).of_ok rfl
  have hperm : (front ++ layer :: back).Perm (layer :: t.layers) := hlayers ▸ List.perm_middle
  refine ⟨hfresh, ?_⟩
  rw [hafter, ← hid]
  exact hperm.map Layer.id

/-- Beside any taken ids the search ends with an id that is not taken, at the latest when one more
was tried than there are; its number is greater than their count. So a node that is placed and a
layer that is added have ids of their own. -/
theorem newIds_found :
    (∀ (stem : String) (taken : List String), ∃ tries, 0 < tries ∧ tries ≤ taken.length + 1 ∧
      Searches (fun n => s!"{stem}-{n}") taken (taken.length + 1) tries (freshId stem taken) ∧
      freshId stem taken = s!"{stem}-{taken.length + tries}" ∧ freshId stem taken ∉ taken) ∧
    (∀ (t : Topology) (layer tag id : String), (t.placeNode layer tag).outcome = .ok id →
      id ∉ t.nodes.map PlacedNode.id ∧
        (t.placeNode layer tag).topology.nodes.Perm ({ id := id, tag := tag } :: t.nodes)) ∧
    ∀ (t : Topology) (title : String), ∃ id, (t.addLayer title).outcome = .ok id ∧
      id ∉ t.layerIds ∧ (t.addLayer title).topology.layerIds.Perm (id :: t.layerIds) := by
  refine ⟨fun stem taken => ?_, fun t layer tag id h => nodes_placeNode h, layerIds_addLayer⟩
  obtain ⟨tries, htries, hends⟩ := searches_freshId stem taken
  obtain ⟨hpos, hfound⟩ := hends.found_eq
  refine ⟨tries, hpos, htries, hends, ?_, hends.not_mem⟩
  rwa [Nat.add_right_comm, Nat.add_sub_cancel] at hfound

/-- Two nodes with the ids that the next two nodes would be given first. -/
def takenIds : Topology where
  layers := [
    { id := "layer-2"
      nodes := [{ id := "node-3", tag := "a" }, { id := "node-4", tag := "b" }] }]
  library := [.internet, .named "a" .vmess, .named "b" .trojan, .named "c" .vmess]

/-- Three ids are tried for the third node. -/
theorem newIds_takenIds : (takenIds.placeNode "layer-2" "c").outcome = .ok "node-5" ∧
    "node-5" ∉ takenIds.nodes.map PlacedNode.id ∧
    (takenIds.placeNode "layer-2" "c").topology.nodes.Perm
      ({ id := "node-5", tag := "c" } :: takenIds.nodes) := by
  have hplaced : (takenIds.placeNode "layer-2" "c").outcome = .ok "node-5" := by decide +kernel
  exact ⟨hplaced, newIds_found.2.1 takenIds "layer-2" "c" "node-5" hplaced⟩

end ProxyChain.Topology
