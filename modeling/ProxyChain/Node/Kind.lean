/-!
# ProxyChain.Node.Kind

**Kinds of nodes** and the role that each plays in a chain. The rules for links depend on the
role only: a leaf has at most one next hop, a selector any number of them, and a round-robin node
a pool in the next hop and at most one output behind it.
-/

namespace ProxyChain

/-- The kind of a node. -/
inductive NodeKind
  | mixed
  /-- Chosen by hand. -/
  | selector
  /-- Chosen by measuring. -/
  | urltest
  /-- Chosen in turn, by a balancer that the compiler sets up. -/
  | roundRobin
  /-- The way out. -/
  | direct
  /-- The way nowhere. -/
  | block
  | shadowsocks
  | vmess
  | vless
  | hysteria2
  | trojan
  | socks
  | http
  deriving Repr, DecidableEq, Inhabited

/-- The role of a node in a chain. -/
inductive NodeRole
  | leaf
  | selector
  | roundRobin
  deriving Repr, DecidableEq

namespace NodeKind

/-- The name of a kind in profiles and configs. -/
def name : NodeKind → String
  | mixed => "mixed"
  | selector => "selector"
  | urltest => "urltest"
  | roundRobin => "roundrobin"
  | direct => "direct"
  | block => "block"
  | shadowsocks => "shadowsocks"
  | vmess => "vmess"
  | vless => "vless"
  | hysteria2 => "hysteria2"
  | trojan => "trojan"
  | socks => "socks"
  | http => "http"

/-- All kinds. -/
def all : List NodeKind :=
  [mixed, selector, urltest, roundRobin, direct, block, shadowsocks, vmess, vless, hysteria2,
    trojan, socks, http]

/-- The kind of that name. -/
def ofName? (name : String) : Option NodeKind :=
  all.find? fun kind => kind.name = name

theorem ofName?_name (kind : NodeKind) : ofName? kind.name = some kind := by
  cases kind <;> decide

/-- The role of a kind. -/
def role : NodeKind → NodeRole
  | selector | urltest => .selector
  | roundRobin => .roundRobin
  | _ => .leaf

/-- Whether nodes of this kind choose one of their targets. -/
def isSelectorLike (kind : NodeKind) : Bool :=
  kind.role = .selector

/-- Whether nodes of this kind stand for several others. -/
def isAggregator (kind : NodeKind) : Bool :=
  kind.role ≠ .leaf

/-- Whether a chain ends at nodes of this kind, so that no outbound is dialled through them. -/
def isTerminal (kind : NodeKind) : Bool :=
  kind = direct || kind = block

end NodeKind

end ProxyChain
