import ProxyChain.Proofs.Sequence
import ProxyChain.RoundRobin.Ports

/-!
# ProxyChain.Proofs.RoundRobin.Ports

**Which ports a group gets, and which one it fails for.** The arithmetic is that of 32-bit words,
but no word wraps around for the first 2048 groups (`PortLayout.toNat_listenWord`,
`PortLayout.toNat_backendWord`), and no later group has a backend port
(`PortLayout.group_lt_of_backendPorts`). So the ports of a group are where they are said to be, and
a group without ports fails for the first one that is out of range.
-/

namespace ProxyChain.RoundRobin

/-! ### One port -/

theorem portOf_eq_ok {group : Nat} {word : UInt32} {port : UInt16}
    (h : portOf group word = .ok port) : word.toNat < 65536 := by
  rw [portOf] at h
  split at h
  · exact UInt32.lt_iff_toNat_lt.1 ‹_›
  · cases h

theorem toNat_of_portOf {group : Nat} {word : UInt32} {port : UInt16}
    (h : portOf group word = .ok port) : port.toNat = word.toNat := by
  have hword := portOf_eq_ok h
  rw [portOf] at h
  split at h
  · obtain rfl := Except.ok.inj h
    rw [UInt32.toNat_toUInt16]
    omega
  · cases h

theorem portOf_eq_error {group : Nat} {word : UInt32} {e : CompileError}
    (h : portOf group word = .error e) : 65536 ≤ word.toNat ∧ e = .portExhausted group word := by
  rw [portOf] at h
  split at h
  · cases h
  · rename_i hword
    exact ⟨Nat.le_of_not_lt fun hlt => hword (UInt32.lt_iff_toNat_lt.2 hlt),
      (Except.error.inj h).symm⟩

/-! ### Consecutive ports -/

/-- No word wraps around before the range of ports is left. -/
theorem toNat_succ_of_lt {word : UInt32} (h : word.toNat < 65536) :
    (word + 1).toNat = word.toNat + 1 := by
  have hone : (1 : UInt32).toNat = 1 := rfl
  rw [UInt32.toNat_add, hone]
  omega

/-- Consecutive ports are a port and the ports after it. -/
theorem consecutivePorts_succ_eq_ok_iff {group count : Nat} {first : UInt32}
    {ports : List UInt16} :
    consecutivePorts group (count + 1) first = .ok ports ↔
      ∃ port, portOf group first = .ok port ∧
        ∃ rest, consecutivePorts group count (first + 1) = .ok rest ∧ port :: rest = ports := by
  simp only [consecutivePorts, bind_eq_ok_iff, pure, Except.pure, Except.ok.injEq]

theorem consecutivePorts_eq_ok {group : Nat} : ∀ {count : Nat} {first : UInt32}
    {ports : List UInt16}, consecutivePorts group count first = .ok ports →
      ports.length = count ∧ (0 < count → first.toNat + count ≤ 65536)
  | 0, _, ports, h => by
      obtain rfl := Except.ok.inj h
      exact ⟨rfl, fun hpos => absurd hpos (Nat.lt_irrefl 0)⟩
  | count + 1, first, ports, h => by
      obtain ⟨port, hport, rest, hrest, rfl⟩ := consecutivePorts_succ_eq_ok_iff.1 h
      obtain ⟨hlength, hbound⟩ := consecutivePorts_eq_ok hrest
      have hfirst := portOf_eq_ok hport
      rw [toNat_succ_of_lt hfirst] at hbound
      exact ⟨congrArg Nat.succ hlength, fun _ => by omega⟩

theorem map_toNat_of_consecutivePorts {group : Nat} : ∀ {count : Nat} {first : UInt32}
    {ports : List UInt16}, consecutivePorts group count first = .ok ports →
      ports.map UInt16.toNat = List.range' first.toNat count
  | 0, _, ports, h => by
      obtain rfl := Except.ok.inj h
      rfl
  | count + 1, first, ports, h => by
      obtain ⟨port, hport, rest, hrest, rfl⟩ := consecutivePorts_succ_eq_ok_iff.1 h
      rw [List.range'_succ, ← toNat_succ_of_lt (portOf_eq_ok hport),
        ← map_toNat_of_consecutivePorts hrest, ← toNat_of_portOf hport]
      rfl

/-- The port that is missing is the first one out of range. -/
theorem consecutivePorts_eq_error {group : Nat} {e : CompileError} :
    ∀ {count : Nat} {first : UInt32}, consecutivePorts group count first = .error e →
      65536 < first.toNat + count ∧
        ∃ port, e = .portExhausted group port ∧ port.toNat = max 65536 first.toNat
  | 0, _, h => nomatch h
  | count + 1, first, h => by
      rw [consecutivePorts] at h
      cases hport : portOf group first with
      | error e =>
          rw [hport] at h
          obtain rfl := Except.error.inj h
          obtain ⟨hbound, rfl⟩ := portOf_eq_error hport
          exact ⟨by omega, first, rfl, (Nat.max_eq_right hbound).symm⟩
      | ok port =>
          cases hrest : consecutivePorts group count (first + 1) with
          | ok rest => rw [hport, hrest] at h; cases h
          | error e =>
              rw [hport, hrest] at h
              -- The first port is one, so the missing port is 65536, whatever comes first.
              obtain rfl := Except.error.inj h
              obtain ⟨hbound, missing, rfl, hmissing⟩ := consecutivePorts_eq_error hrest
              have hfirst := portOf_eq_ok hport
              rw [toNat_succ_of_lt hfirst] at hbound hmissing
              exact ⟨by omega, missing, rfl, by omega⟩

/-! ### Ports of a group -/

namespace PortLayout

variable {layout : PortLayout} {group : Nat}

theorem toNat_listenWord (hgroup : group ≤ 2048) :
    (layout.listenWord group).toNat = layout.listenBase.toNat + group := by
  rw [listenWord, UInt32.toNat_add, Nat.toUInt32, UInt32.toNat_ofNat', UInt16.toNat_toUInt32]
  have hbase := layout.listenBase.toNat_lt
  omega

theorem toNat_backendWord (hgroup : group ≤ 2048) :
    (layout.backendWord group).toNat = layout.backendBase.toNat + maxPoolSize * group := by
  have hblock : blockSize.toNat = 32 := rfl
  have hmax : maxPoolSize = 32 := rfl
  rw [backendWord, UInt32.toNat_add, UInt32.toNat_mul, Nat.toUInt32, UInt32.toNat_ofNat',
    UInt16.toNat_toUInt32, hblock, hmax]
  have hbase := layout.backendBase.toNat_lt
  omega

theorem listenPort_eq_ok {port : UInt16} (hbases : layout.listenBase < layout.backendBase)
    (hgroup : group ≤ 2048) (h : layout.listenPort group = .ok port) :
    layout.listenBase.toNat + group < layout.backendBase.toNat := by
  rw [listenPort] at h
  split at h
  · cases h
  · rename_i hbelow
    rw [and_iff_right hbases, UInt32.le_iff_toNat_le, UInt16.toNat_toUInt32,
      toNat_listenWord hgroup] at hbelow
    exact Nat.lt_of_not_le hbelow

theorem toNat_of_listenPort {port : UInt16} (hgroup : group ≤ 2048)
    (h : layout.listenPort group = .ok port) :
    port.toNat = layout.listenBase.toNat + group := by
  rw [listenPort] at h
  split at h
  · cases h
  · rw [toNat_of_portOf h, toNat_listenWord hgroup]

/-- A group without a listen port fails for a backend port or one behind it. -/
theorem listenPort_eq_error {e : CompileError} (hgroup : group ≤ 2048)
    (h : layout.listenPort group = .error e) :
    layout.backendBase.toNat ≤ layout.listenBase.toNat + group ∧
      ∃ port, e = .portExhausted group port ∧ port.toNat = layout.listenBase.toNat + group := by
  have hword : (layout.listenWord group).toNat = layout.listenBase.toNat + group :=
    toNat_listenWord hgroup
  rw [listenPort] at h
  split at h
  · rename_i hreached
    obtain rfl := Except.error.inj h
    have hbound := UInt32.le_iff_toNat_le.1 hreached.2
    rw [UInt16.toNat_toUInt32, hword] at hbound
    exact ⟨hbound, _, rfl, hword⟩
  · obtain ⟨hbound, rfl⟩ := portOf_eq_error h
    have hlimit := layout.backendBase.toNat_lt
    exact ⟨by omega, _, rfl, hword⟩

theorem backendPorts_eq_ok {count : Nat} {ports : List UInt16} (hgroup : group ≤ 2048)
    (hcount : 0 < count) (h : layout.backendPorts group count = .ok ports) :
    layout.backendBase.toNat + maxPoolSize * group + count ≤ 65536 := by
  rw [← toNat_backendWord hgroup]
  exact (consecutivePorts_eq_ok h).2 hcount

theorem map_toNat_of_backendPorts {count : Nat} {ports : List UInt16} (hgroup : group ≤ 2048)
    (h : layout.backendPorts group count = .ok ports) :
    ports.map UInt16.toNat =
      List.range' (layout.backendBase.toNat + maxPoolSize * group) count := by
  rw [← toNat_backendWord hgroup]
  exact map_toNat_of_consecutivePorts h

theorem backendPorts_eq_error {count : Nat} {e : CompileError} (hgroup : group ≤ 2048)
    (h : layout.backendPorts group count = .error e) :
    65536 < layout.backendBase.toNat + maxPoolSize * group + count ∧
      ∃ port, e = .portExhausted group port ∧
        port.toNat = max 65536 (layout.backendBase.toNat + maxPoolSize * group) := by
  rw [← toNat_backendWord hgroup]
  exact consecutivePorts_eq_error h

/-- A group with a backend port is among the first 2048, since a port has sixteen bits. -/
theorem group_lt_of_backendPorts {count : Nat} {ports : List UInt16} (hgroup : group ≤ 2048)
    (hcount : 0 < count) (h : layout.backendPorts group count = .ok ports) : group < 2048 := by
  have hbound := backendPorts_eq_ok hgroup hcount h
  -- Group 2048 would begin at 32 * 2048 = 65536 or later.
  have hmax : maxPoolSize = 32 := rfl
  rw [hmax] at hbound
  omega

end PortLayout

end ProxyChain.RoundRobin
