import ProxyChain.Sequence

/-!
# ProxyChain.Tag

**Tags** are the names by which nodes, inbounds and outbounds refer to each other. Two kinds are
reserved: the tag of the Internet exit, which is a target that is never placed, and all tags with
the prefix of what the compiler makes up for round-robin nodes.
-/

namespace ProxyChain.Tag

/-- The tag of the Internet exit. -/
def internet : String := "direct"

/-- How every tag begins that the compiler makes up for a round-robin node. -/
def systemStem : String := "sys-rr-"

/-- Whether a tag begins like those that the compiler makes up. -/
def isSystem (tag : String) : Bool :=
  systemStem.toList.isPrefixOf tag.toList

/-- Whether a tag may not be given to a node. -/
def isReserved (tag : String) : Bool :=
  tag = internet || isSystem tag

/-- The tags that are not empty, each where it first occurs. -/
def unique (tags : List String) : List String :=
  distinct (tags.filter (· ≠ ""))

@[simp] theorem mem_unique {tag : String} {tags : List String} :
    tag ∈ unique tags ↔ tag ∈ tags ∧ tag ≠ "" := by
  simp [unique]

theorem nodup_unique (tags : List String) : (unique tags).Nodup :=
  nodup_distinct _

end ProxyChain.Tag
