import ProxyChain.Proofs.Topology.Edit
import ProxyChain.Proofs.Topology.Linking
import ProxyChain.Topology.Session

/-!
# ProxyChain.Proofs.Topology.Rejection

**Rejected operations leave no trace** (`perform_rejected`). An edit that is refused gives the
topology back as it was, and so does a link that is denied; so a session comes to the same topology
without the operations that were rejected in it.

Two edits remove something that may not be there. It makes no difference to them whether they look
for it first, or remove it and then look whether there is less than before (`removeThenCount`): a
removal that leaves as much as there was has changed nothing.
-/

namespace ProxyChain

/-! ### Edits -/

/-- An edit leaves a topology as it was whenever it is refused. -/
def Edited.Traceless (t : Topology) (edited : Edited α) : Prop :=
  ∀ refusal, edited.outcome = .error refusal → edited.topology = t

theorem Edited.Follows.traceless {t : Topology} {done : α → Topology → Prop} {edited : Edited α}
    (h : edited.Follows t done) : edited.Traceless t := by
  intro refusal herror
  cases h with
  | refused other => rfl
  | accepted messages hdone => cases herror

theorem Edited.Traceless.told {t : Topology} {edited : Edited α} (h : edited.Traceless t)
    (tell : α → Outcome) : (edited.told tell).Traceless t := by
  intro refusal herror
  cases houtcome : edited.outcome with
  | error other => exact h other houtcome
  | ok value =>
      rw [Edited.told, houtcome] at herror
      cases herror

namespace Topology

variable (t : Topology)

theorem renameTag_traceless (old new : String) : (t.renameTag old new).Traceless t := by
  rw [renameTag]
  cases t.definition? old with
  | none => exact fun _ _ => rfl
  | some definition => exact (upsertDefinition_follows t _ _).traceless

theorem perform_traceless (operation : Operation) : (t.perform operation).Traceless t := by
  cases operation with
  | upsertDefinition definition former =>
      exact (upsertDefinition_follows t definition former).traceless.told _
  | renameTag old new => exact (t.renameTag_traceless old new).told _
  | removeReferences tag => nofun
  | deleteDefinition tag => exact (deleteDefinition_follows t tag).traceless.told _
  | placeNode layer tag => exact (placeNode_follows t layer tag).traceless.told _
  | removePlacement layer node => exact (removePlacement_follows t layer node).traceless.told _
  | moveNode node layer => exact (moveNode_follows t node layer).traceless.told _
  | moveLayer source target => exact (moveLayer_follows t source target).traceless.told _
  | addLayer title => exact (addLayer_follows t title).traceless.told _
  | removeLayer layer => exact (removeLayer_follows t layer).traceless.told _
  | addInbound tag port => exact (addInbound_follows t tag port).traceless.told _
  | updateInbound tag newTag port =>
      exact (updateInbound_follows t tag newTag port).traceless.told _
  | deleteInbound tag => exact (deleteInbound_follows t tag).traceless.told _
  | setSelectorDefault inbound target =>
      exact (setSelectorDefault_follows t inbound target).traceless.told _
  | unlink source target =>
      rw [perform]
      split
      · exact (unlinkInbound_follows t source.tag target).traceless.told _
      · exact (unlinkNode_follows t source.tag target).traceless.told _
  | link source target => nofun
  | normalize => nofun

/-! ### Removing first -/

/-- Removes first and looks afterwards: the removal is refused if a count is what it was before, and
what is left is left either way. -/
def removeThenCount (count : Topology → Nat) (remove : Topology → Topology) (refusal : Refusal)
    (message : String) : Edited Unit :=
  let left := remove t
  if count left = count t then left.refuse refusal else left.accept () [message]

/-- The count of nodes in the layer at a position. -/
def nodeCount (position : Nat) (t : Topology) : Nat :=
  (t.layers[position]?.elim [] Layer.nodes).length

/-- Removing a placed node before looking whether it is there. -/
def removePlacementThenCount (layer node : String) : Edited Unit :=
  match t.layerPosition? layer with
  | none => t.refuse (.unknownLayer layer)
  | some position =>
    t.removeThenCount (nodeCount position)
      (modifyLayer position fun found =>
        { found with nodes := found.nodes.filter fun n => n.id ≠ node })
      (.notInLayer node layer) s!"Deleted node from layer {layer}"

/-- Deleting an inbound before looking whether it is there. -/
def deleteInboundThenCount (tag : String) : Edited Unit :=
  t.removeThenCount (fun t => t.inbounds.length)
    (fun t => { t with inbounds := t.inbounds.filter fun inbound => inbound.tag ≠ tag })
    (.unknownInbound tag) s!"Deleted inbound {tag}"

variable {t} in
theorem nodeCount_modifyLayer (position : Nat) (f : List PlacedNode → List PlacedNode) :
    nodeCount position (t.modifyLayer position fun layer => { layer with nodes := f layer.nodes }) =
      (t.layers[position]?.elim [] fun layer => f layer.nodes).length := by
  rw [nodeCount, modifyLayer, List.getElem?_modify]
  cases t.layers[position]? with
  | none => rfl
  | some layer => simp

variable {t} in
theorem modifyLayer_eq_self {position : Nat} {f : Layer → Layer}
    (h : ∀ layer, t.layers[position]? = some layer → f layer = layer) :
    t.modifyLayer position f = t := by
  have hlayers : t.layers.modify position f = t.layers := by
    refine List.ext_getElem? fun i => ?_
    rw [List.getElem?_modify]
    split
    · rename_i hi
      subst hi
      cases hlayer : t.layers[position]? with
      | none => rfl
      | some layer => exact congrArg some (h layer hlayer)
    · exact id_map _
  rw [modifyLayer, hlayers]

theorem removePlacement_eq_thenCount (layer node : String) :
    t.removePlacement layer node = t.removePlacementThenCount layer node := by
  rw [removePlacement, removePlacementThenCount]
  cases hposition : t.layerPosition? layer with
  | none => rfl
  | some position =>
      obtain ⟨found, hfound⟩ : ∃ found, t.layers[position]? = some found :=
        ⟨_, List.getElem?_eq_getElem (layerPosition?_lt hposition)⟩
      have hbefore : nodeCount position t = found.nodes.length := by
        rw [nodeCount, hfound]
        rfl
      have hafter : nodeCount position (t.modifyLayer position fun found =>
          { found with nodes := found.nodes.filter fun n => n.id ≠ node }) =
          (found.nodes.filter fun n => n.id ≠ node).length := by
        rw [nodeCount_modifyLayer, hfound]
        rfl
      dsimp only [removeThenCount]
      rw [hfound, hbefore, hafter]
      rcases filter_key_ne_cases PlacedNode.id node found.nodes with ⟨hany, hfewer⟩ | ⟨hnone, hself⟩
      · rw [if_neg (Nat.ne_of_lt hfewer)]
        exact if_pos hany
      · have hsame : (t.modifyLayer position fun found =>
            { found with nodes := found.nodes.filter fun n => n.id ≠ node }) = t := by
          refine modifyLayer_eq_self fun layer hlayer => ?_
          obtain rfl := Option.some.inj (hfound.symm.trans hlayer)
          rw [hself]
        rw [if_pos (congrArg List.length hself), hsame]
        exact if_neg (Bool.eq_false_iff.1 hnone)

theorem deleteInbound_eq_thenCount (tag : String) :
    t.deleteInbound tag = t.deleteInboundThenCount tag := by
  dsimp only [deleteInbound, deleteInboundThenCount, removeThenCount]
  rcases filter_key_ne_cases Inbound.tag tag t.inbounds with ⟨hany, hfewer⟩ | ⟨hnone, hself⟩
  · rw [if_neg (Nat.ne_of_lt hfewer)]
    exact if_pos hany
  · rw [if_pos (congrArg List.length hself), hself]
    exact if_neg (Bool.eq_false_iff.1 hnone)

/-! ### Sessions -/

/-- An operation is rejected: it is refused, or it is a link that is denied. -/
inductive Rejected (t : Topology) : Operation → Prop
  | refused {operation : Operation} {refusal : Refusal}
      (h : (t.perform operation).outcome = .error refusal) : Rejected t operation
  | denied {source : LinkSource} {target : String} {denial : Denial}
      (h : (t.link source target).decision = .deny denial) : Rejected t (.link source target)

variable {t} in
theorem Rejected.topology_eq {operation : Operation} (h : t.Rejected operation) :
    (t.perform operation).topology = t := by
  cases h with
  | refused h => exact t.perform_traceless operation _ h
  | denied h => exact t.link_denied h

/-- A session comes to the same topology without an operation that is rejected in it. -/
theorem performAll_of_rejected {before after : List Operation} {operation : Operation}
    (h : (t.performAll before).Rejected operation) :
    t.performAll (before ++ operation :: after) = t.performAll (before ++ after) := by
  rw [performAll, performAll, List.foldl_append, List.foldl_append, List.foldl_cons]
  exact congrArg (fun t => t.performAll after) h.topology_eq

/-- An operation that is refused and a link that is denied leave the topology as it was, and a session
comes to the same without them. The two edits that look for what they remove come to the same if they
remove first, so that nothing is lost either when they are refused only then. -/
theorem perform_rejected (t : Topology) :
    (∀ operation refusal, (t.perform operation).outcome = .error refusal →
      (t.perform operation).topology = t) ∧
    (∀ source target denial, (t.link source target).decision = .deny denial →
      (t.link source target).topology = t) ∧
    (∀ before operation after, (t.performAll before).Rejected operation →
      t.performAll (before ++ operation :: after) = t.performAll (before ++ after)) ∧
    (∀ layer node, t.removePlacement layer node = t.removePlacementThenCount layer node) ∧
    ∀ tag, t.deleteInbound tag = t.deleteInboundThenCount tag :=
  ⟨fun operation => t.perform_traceless operation, fun _ _ _ => t.link_denied,
    fun _ _ _ => t.performAll_of_rejected, t.removePlacement_eq_thenCount,
    t.deleteInbound_eq_thenCount⟩

/-- A node that is not in the layer, a link from an inbound that is not there, and a session with the
deletion of another one. -/
theorem ghosts_leave_no_trace :
    (defaultProfile.perform (.removePlacement "layer-1" "ghost")).outcome =
        .error (.notInLayer "ghost" "layer-1") ∧
      (defaultProfile.perform (.removePlacement "layer-1" "ghost")).topology = defaultProfile ∧
      (defaultProfile.link ⟨"ghost", true⟩ "a").decision = .deny (.unknownInbound "ghost") ∧
      (defaultProfile.link ⟨"ghost", true⟩ "a").topology = defaultProfile ∧
      (defaultProfile.performAll [.addLayer ""]).Rejected (.deleteInbound "ghost") ∧
      defaultProfile.performAll [.addLayer "", .deleteInbound "ghost", .addInbound none 1080] =
        defaultProfile.performAll [.addLayer "", .addInbound none 1080] := by
  obtain ⟨hrefused, hdenied, hsession, -⟩ := perform_rejected defaultProfile
  have hnode : (defaultProfile.perform (.removePlacement "layer-1" "ghost")).outcome =
      .error (.notInLayer "ghost" "layer-1") := by decide
  have hlink : (defaultProfile.link ⟨"ghost", true⟩ "a").decision =
      .deny (.unknownInbound "ghost") := by decide
  have hinbound : ((defaultProfile.performAll [.addLayer ""]).perform
      (.deleteInbound "ghost")).outcome = .error (.unknownInbound "ghost") := by decide
  exact ⟨hnode, hrefused _ _ hnode, hlink, hdenied _ _ _ hlink, .refused hinbound,
    hsession [.addLayer ""] _ [.addInbound none 1080] (.refused hinbound)⟩

end Topology

end ProxyChain
