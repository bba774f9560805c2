import ProxyChain.Proofs.Node.Codec
import ProxyChain.Topology.Codec

/-!
# ProxyChain.Proofs.Topology.Codec

A profile that was read is written such that it is read back as it is, and its definitions keep
their attributes. Placed nodes, layers and inbounds hold declared fields only and are read back
whatever they are; of the definitions it counts that they were read (`NodeDefinition.Sound`).
-/

namespace ProxyChain

open Json Document Fields

/-! ### Placed nodes and layers -/

theorem PlacedNode.ofDocument_toValue (node : PlacedNode) :
    ofDocument (ofValue node.toValue) = .ok node := by
  have hkind := elim_optional_eq_ok (fun kind (_ : kind ∈ node.kind) => kind_ofName kind) nofun
  rw [ofDocument, toValue, ofRecord_written (by decide) ?_]
  · simp [lookup_cons_eq_ite, hkind]
  · exact .always <| .always <| .always written_optionalField

theorem Layer.ofDocument_toValue (layer : Layer) :
    ofDocument (ofValue layer.toValue) = .ok layer := by
  have hnodes := listOf_ofValue_map fun node (_ : node ∈ layer.nodes) => node.ofDocument_toValue
  rw [ofDocument, toValue, ofRecord_written (by decide) ?_]
  · simp [lookup_cons_eq_ite, hnodes]
  · exact .always <| .always <| .always .nil

/-! ### Inbounds -/

/-- A default that is written as nothing when there is none. -/
theorem optional_elim_null (value : Option String) :
    Document.optional text (ofValue (value.elim .null .string)) = .ok value := by
  cases value <;> rfl

theorem Inbound.ofDocument_toValue (inbound : Inbound) :
    ofDocument (ofValue inbound.toValue) = .ok inbound := by
  have hkind : readKind (ofValue (.string kindName)) = .ok () := rfl
  rw [ofDocument, toValue, ofRecord_written (by decide) ?_]
  · simp [lookup_cons_eq_ite, hkind, optional_elim_null]
  · exact .always <| .always <| .always <| .always <| .always .nil

/-! ### Topologies -/

namespace Topology

/-- A topology whose definitions are sound is read back. -/
theorem ofDocument_toValue {t : Topology} (h : ∀ definition ∈ t.library, definition.Sound) :
    ofDocument (ofValue t.toValue) = .ok t := by
  have hlayers := listOf_ofValue_map fun layer (_ : layer ∈ t.layers) => layer.ofDocument_toValue
  have hlibrary := listOf_ofValue_map fun definition hd =>
    NodeDefinition.ofDocument_toValue (h definition hd)
  have hinbounds := listOf_ofValue_map
    fun inbound (_ : inbound ∈ t.inbounds) => inbound.ofDocument_toValue
  rw [ofDocument, toValue, ofRecord_written (by decide) ?_]
  · simp [lookup_cons_eq_ite, hlayers, hlibrary, hinbounds]
  · exact .always <| .always <| .always .nil

/-- The values of the definitions in the value of a topology. -/
def definitionsIn (v : Value) : List Value :=
  itemsOf (member? ["layers", "nodeLibrary", "inbounds"] "nodeLibrary" v)

theorem definitions_of_ofDocument {v : Value} {t : Topology} (h : ofDocument (ofValue v) = .ok t) :
    List.Forall₂ (fun item definition => NodeDefinition.ofDocument (ofValue item) = .ok definition)
      (definitionsIn v) t.library := by
  simp only [ofDocument, bind_eq_ok_iff] at h
  obtain ⟨⟨_, rest⟩, hfields, _, -, library, hlibrary, _, -, h⟩ := h
  obtain rfl := Except.ok.inj h
  obtain ⟨fields, rfl, hlookup⟩ := of_ofRecord hfields
  have hitems := forall₂_of_withDefault hlibrary
  rwa [hlookup "nodeLibrary" (by decide)] at hitems

theorem sound_of_ofDocument {v : Value} {t : Topology} (h : ofDocument (ofValue v) = .ok t) :
    ∀ definition ∈ t.library, definition.Sound :=
  forall_of_forall₂ (fun _ _ => NodeDefinition.sound_of_ofDocument) (definitions_of_ofDocument h)

/-- Topologies, as values, that are read as the same topology have definitions with the same
attributes, in the same order. -/
theorem sameAttributes_of_ofDocument {v w : Value} {t : Topology}
    (hv : ofDocument (ofValue v) = .ok t) (hw : ofDocument (ofValue w) = .ok t) :
    List.Forall₂ NodeDefinition.SameAttributes (definitionsIn v) (definitionsIn w) := by
  refine forall₂_of_common ?_ (definitions_of_ofDocument hv) (definitions_of_ofDocument hw)
  intro item item' definition hitem hitem'
  exact NodeDefinition.sameAttributes_of_ofDocument hitem hitem'

end Topology

end ProxyChain
