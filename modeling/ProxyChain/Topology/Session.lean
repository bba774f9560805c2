import ProxyChain.Topology.Edit
import ProxyChain.Topology.Link
import ProxyChain.Topology.Normalize

/-!
# ProxyChain.Topology.Session

**Sessions**: every way in which a topology changes as one type of operations, so that a whole
course of editing is a list. An operation always gives a topology, which is the old one if the
operation was refused.
-/

namespace ProxyChain

/-- A change of a topology. -/
inductive Operation
  | upsertDefinition (definition : NodeDefinition) (former : Option String)
  | renameTag (old new : String)
  | removeReferences (tag : String)
  | deleteDefinition (tag : String)
  | placeNode (layer tag : String)
  | removePlacement (layer node : String)
  | moveNode (node layer : String)
  | moveLayer (source target : Nat)
  | addLayer (title : String)
  | removeLayer (layer : String)
  | addInbound (tag : Option String) (port : UInt16)
  | updateInbound (tag : String) (newTag : Option String) (port : UInt16)
  | deleteInbound (tag : String)
  | setSelectorDefault (inbound target : String)
  | unlink (source : LinkSource) (target : String)
  | link (source : LinkSource) (target : String)
  | normalize
  deriving Repr, DecidableEq

/-- What an operation tells beside the topology. -/
inductive Outcome
  | done
  /-- The id or the tag that was given to something new. -/
  | named (name : String)
  | removed (report : Topology.RemovalReport)
  /-- Whether there was anything to do. -/
  | effective (was : Bool)
  | decided (decision : LinkDecision)
  | repaired (report : NormalizeReport)
  deriving Repr, DecidableEq

/-- An edit whose value is told as an outcome. -/
def Edited.told (tell : α → Outcome) (edited : Edited α) : Edited Outcome :=
  { edited with outcome := edited.outcome.map tell }

namespace Topology

/-- Performs an operation. -/
def perform (t : Topology) : Operation → Edited Outcome
  | .upsertDefinition definition former =>
    (t.upsertDefinition definition former).told fun _ => .done
  | .renameTag old new => (t.renameTag old new).told fun _ => .done
  | .removeReferences tag =>
    let (left, report) := t.removeReferences tag
    ⟨left, .ok (.removed report), []⟩
  | .deleteDefinition tag => (t.deleteDefinition tag).told .removed
  | .placeNode layer tag => (t.placeNode layer tag).told .named
  | .removePlacement layer node => (t.removePlacement layer node).told fun _ => .done
  | .moveNode node layer => (t.moveNode node layer).told fun _ => .done
  | .moveLayer source target => (t.moveLayer source target).told fun _ => .done
  | .addLayer title => (t.addLayer title).told .named
  | .removeLayer layer => (t.removeLayer layer).told fun _ => .done
  | .addInbound tag port => (t.addInbound tag port).told .named
  | .updateInbound tag newTag port => (t.updateInbound tag newTag port).told fun _ => .done
  | .deleteInbound tag => (t.deleteInbound tag).told fun _ => .done
  | .setSelectorDefault inbound target =>
    (t.setSelectorDefault inbound target).told fun _ => .done
  | .unlink source target =>
    if source.isInbound then (t.unlinkInbound source.tag target).told .effective
    else (t.unlinkNode source.tag target).told .effective
  | .link source target =>
    let linked := t.link source target
    ⟨linked.topology, .ok (.decided linked.decision), linked.records⟩
  | .normalize => ⟨t.normalize, .ok (.repaired t.repairs), t.repairs.records⟩

/-- The topology after some operations. -/
def performAll (t : Topology) (operations : List Operation) : Topology :=
  operations.foldl (fun t operation => (t.perform operation).topology) t

end Topology

end ProxyChain
