import ProxyChain.Error

/-!
# ProxyChain.RoundRobin.Ports

**Ports of round-robin groups.** Each group has one port at which its balancer listens, and a
block of as many backend ports as a pool can have members. Listen ports count up from one base and
backend ports from another; a listen port that would reach the backend ports is an error, as is a
port beyond the last one.

The arithmetic is that of 32-bit words.
-/

namespace ProxyChain.RoundRobin

/-- Where the ports of groups begin. -/
structure PortLayout where
  listenBase : UInt16 := 25080
  backendBase : UInt16 := 25100
  deriving Repr, DecidableEq

/-- The count of backend ports that belong to one group. -/
def blockSize : UInt32 := maxPoolSize.toUInt32

/-- A word as a port of a group. -/
def portOf (group : Nat) (word : UInt32) : Except CompileError UInt16 :=
  if word < 65536 then .ok word.toUInt16 else .error (.portExhausted group word)

/-- Consecutive ports of a group; the first that is out of range is the error. -/
def consecutivePorts (group : Nat) : (count : Nat) → (first : UInt32) →
    Except CompileError (List UInt16)
  | 0, _ => .ok []
  | count + 1, first => do
    let port ← portOf group first
    return port :: (← consecutivePorts group count (first + 1))

namespace PortLayout

/-- The word for the listen port of a group. -/
def listenWord (layout : PortLayout) (group : Nat) : UInt32 :=
  layout.listenBase.toUInt32 + group.toUInt32

/-- The word for the first backend port of a group. -/
def backendWord (layout : PortLayout) (group : Nat) : UInt32 :=
  layout.backendBase.toUInt32 + blockSize * group.toUInt32

/-- The port at which the balancer of a group listens. -/
def listenPort (layout : PortLayout) (group : Nat) : Except CompileError UInt16 :=
  let word := layout.listenWord group
  if layout.listenBase < layout.backendBase ∧ layout.backendBase.toUInt32 ≤ word then
    .error (.portExhausted group word)
  else portOf group word

/-- The first backend ports of a group. -/
def backendPorts (layout : PortLayout) (group count : Nat) :
    Except CompileError (List UInt16) :=
  consecutivePorts group count (layout.backendWord group)

end PortLayout

end ProxyChain.RoundRobin
