import ProxyChain.Json.Value
import ProxyChain.Node.Kind
import ProxyChain.Tag

/-!
# ProxyChain.Node.Definition

**Node definitions**, the entries of a profile's library. A definition, its TLS options and its
transport options keep every attribute that is not interpreted here, so that saving a profile
loses nothing.
-/

namespace ProxyChain

/-- TLS options of a node. -/
structure TlsOptions where
  enabled : Bool := false
  serverName : Option String := none
  insecure : Option Bool := none
  /-- Attributes that are not interpreted. -/
  extra : List (String × Json.Value) := []
  deriving Repr, DecidableEq, Inhabited

/-- Transport options of a node. -/
structure TransportOptions where
  /-- The kind of transport, by name. -/
  kind : String
  path : Option String := none
  headers : List (String × String) := []
  /-- Attributes that are not interpreted. -/
  extra : List (String × Json.Value) := []
  deriving Repr, DecidableEq, Inhabited

/-- A node that may be placed in a chain. -/
structure NodeDefinition where
  id : String := ""
  /-- The name by which placements and links refer to the node. -/
  tag : String
  kind : NodeKind
  server : Option String := none
  port : Option UInt16 := none
  password : Option String := none
  uuid : Option String := none
  method : Option String := none
  tls : Option TlsOptions := none
  transport : Option TransportOptions := none
  /-- Attributes that are not interpreted. -/
  extra : List (String × Json.Value) := []
  deriving Repr, DecidableEq, Inhabited

namespace NodeDefinition

/-- The id of a definition that has none of its own. -/
def idOf (tag : String) : String :=
  "lib-" ++ tag

/-- A definition with a tag and a kind only. -/
def named (tag : String) (kind : NodeKind) : NodeDefinition :=
  { id := idOf tag, tag := tag, kind := kind }

/-- The definition of the Internet exit. -/
def internet : NodeDefinition :=
  named Tag.internet .direct

end NodeDefinition

end ProxyChain
