import ProxyChain.Text.Digits
import ProxyChain.Text.Units

/-!
# ProxyChain.RoundRobin.Fingerprint

**Synthetic ids**: eight hexadecimal digits that stand for the tag of a round-robin node in the
tags that the compiler makes up. An id is the fingerprint of the tag, so it does not depend on
what else is in the topology, unless that id is taken: then the tag is hashed together with a
counter.
-/

namespace ProxyChain.RoundRobin

/-- The hash of no units. -/
def hashBasis : UInt32 := 0x811C9DC5

/-- The factor by which each unit is mixed in. -/
def hashFactor : UInt32 := 0x01000193

/-- Mixes one unit into a hash. -/
def mixUnit (hash : UInt32) (unit : UInt16) : UInt32 :=
  (hash ^^^ unit.toUInt32) * hashFactor

/-- The 32-bit FNV-1a hash of a text, over its UTF-16 code units. -/
def fingerprint (text : String) : UInt32 :=
  (Text.units text).foldl mixUnit hashBasis

/-- The id of a tag that is hashed together with a counter. -/
def countedId (tag : String) (counter : Nat) : String :=
  Text.hex32 (fingerprint s!"{tag}:{counter}")

/-- The first id with a counter that is not used, from the given counter on. -/
def unusedId (tag : String) (used : List String) : (tries : Nat) → (counter : Nat) → String
  | 0, counter => countedId tag counter
  | tries + 1, counter =>
    let id := countedId tag counter
    if id ∈ used then unusedId tag used tries (counter + 1) else id

/-- How many counters are tried before the search for an unused id ends. -/
def searchSpan : Nat := 10000

/--
The id of a tag beside the used ones: its fingerprint, else the first unused id with a counter,
counting from how many ids are used. No two counters of four digits give a tag the same id, so
with fewer than five thousand used ids the search finds one before it runs out of tries.
-/
def syntheticId (tag : String) (used : List String) : String :=
  let id := Text.hex32 (fingerprint tag)
  if id ∈ used then unusedId tag used searchSpan used.length else id

end ProxyChain.RoundRobin
