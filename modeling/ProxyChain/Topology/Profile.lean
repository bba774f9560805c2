import ProxyChain.Error
import ProxyChain.FileFormat
import ProxyChain.Topology.Codec

/-!
# ProxyChain.Topology.Profile

**Profiles**: the files in which topologies are kept.
-/

namespace ProxyChain.Topology

/-- Reads a profile, given the name of its file and the text or why there is none. -/
def ofProfile (path : String) (file : Except String String) : Except ChainError Topology := do
  let text ← file.mapError .io
  let format := FileFormat.ofPath path
  (format.decode ofDocument text).mapError fun fault =>
    match format with
    | .json => .json fault.message
    | .yaml => .yaml fault.message

/-- The records of reading a profile. -/
def profileRecords (path : String) (file : Except String String) : List Log.Record :=
  match ofProfile path file with
  | .ok _ => [.debug .profile s!"Loaded profile {path}"]
  | .error _ => []

/-- The text of a profile in a file of the given name. -/
def toProfile (t : Topology) (path : String) : String :=
  (FileFormat.ofPath path).render t.toValue

end ProxyChain.Topology
