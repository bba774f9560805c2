import ProxyChain.Proofs.RoundRobin.Plan
import ProxyChain.Settings.Check

/-!
# ProxyChain.Proofs.RoundRobin.PortRanges

**Ports of groups never overlap and never overflow.** The listen ports of a plan are one run of
numbers, and its backend ports are one run in each block; read in this order they go up
(`Plan.ports_ascending`), so no port is given twice. That the runs are where they should be rests on
the arithmetic of 32-bit words: there are never more than 2048 groups planned when the next one is
worked out, and for these no sum and no product wraps around (`PortLayout.noOverflow`).
-/

namespace ProxyChain.RoundRobin

/-! ### Words -/

/-- The ports of a group are those of the words from the first one on. -/
theorem consecutivePorts_eq_mapM (group : Nat) : ∀ (count : Nat) (first : UInt32),
    consecutivePorts group count first =
      (List.range count).mapM fun offset => portOf group (first + offset.toUInt32)
  | 0, _ => rfl
  | count + 1, first => by
      have hzero : first + (0 : Nat).toUInt32 = first := UInt32.add_zero first
      have hsucc : ∀ offset : Nat, first + 1 + offset.toUInt32 = first + offset.succ.toUInt32 := by
        intro offset
        rw [UInt32.add_assoc, UInt32.add_comm 1]
        exact congrArg (first + ·) (UInt32.ofNat_add offset 1).symm
      rw [consecutivePorts, consecutivePorts_eq_mapM group count, List.range_succ_eq_map,
        List.mapM_cons, List.mapM_map, hzero]
      simp only [hsucc, Function.comp_def]

namespace PortLayout

variable {layout : PortLayout} {group size : Nat}

/-- No sum and no product wraps around where the ports are worked out for a group with that number
and a pool of that size. -/
structure NoOverflow (layout : PortLayout) (group size : Nat) : Prop where
  listen : BitVec.uaddOverflow layout.listenBase.toUInt32.toBitVec group.toUInt32.toBitVec = false
  block : BitVec.umulOverflow blockSize.toBitVec group.toUInt32.toBitVec = false
  first : BitVec.uaddOverflow layout.backendBase.toUInt32.toBitVec
    (blockSize * group.toUInt32).toBitVec = false
  member : ∀ offset < size,
    BitVec.uaddOverflow (layout.backendWord group).toBitVec offset.toUInt32.toBitVec = false

theorem uaddOverflow_eq_false {a b : UInt32} (h : a.toNat + b.toNat < 4294967296) :
    BitVec.uaddOverflow a.toBitVec b.toBitVec = false :=
  decide_eq_false (Nat.not_le.2 h)

theorem umulOverflow_eq_false {a b : UInt32} (h : a.toNat * b.toNat < 4294967296) :
    BitVec.umulOverflow a.toBitVec b.toBitVec = false :=
  decide_eq_false (Nat.not_le.2 h)

theorem noOverflow (hgroup : group ≤ 2048) (hsize : size ≤ maxPoolSize) :
    layout.NoOverflow group size := by
  have hmax : maxPoolSize = 32 := rfl
  have hblock : blockSize.toNat = 32 := rfl
  have hlisten := layout.listenBase.toNat_lt
  have hbackend := layout.backendBase.toNat_lt
  have hnumber : ∀ n ≤ 2048, (n.toUInt32).toNat = n := fun n hn =>
    UInt32.toNat_ofNat_of_lt' (Nat.lt_of_le_of_lt hn (by decide))
  have hproduct : blockSize.toNat * group.toUInt32.toNat < 4294967296 := by
    rw [hblock, hnumber group hgroup]
    omega
  constructor
  · refine uaddOverflow_eq_false ?_
    rw [UInt16.toNat_toUInt32, hnumber group hgroup]
    omega
  · exact umulOverflow_eq_false hproduct
  · refine uaddOverflow_eq_false ?_
    rw [UInt16.toNat_toUInt32, UInt32.toNat_mul, Nat.mod_eq_of_lt hproduct, hblock,
      hnumber group hgroup]
    omega
  · intro offset hoffset
    refine uaddOverflow_eq_false ?_
    rw [toNat_backendWord hgroup, hmax, hnumber offset (by omega)]
    omega

end PortLayout

/-! ### Ranges -/

/-- The ports of all groups: those at which balancers listen, then those at which they dial. -/
def Plan.ports (plan : Plan) : List UInt16 :=
  plan.groups.map Group.listenPort ++ plan.groups.flatMap Group.backendPorts

section

variable {layout : PortLayout} {group : Group}

/-- The backend ports of a group are in its block. -/
theorem Group.Allotted.block (h : group.Allotted layout) {port : UInt16}
    (hport : port ∈ group.backendPorts) :
    layout.backendBase.toNat + maxPoolSize * group.index ≤ port.toNat ∧
      port.toNat < layout.backendBase.toNat + maxPoolSize * (group.index + 1) := by
  have hrange : port.toNat ∈ group.backendPorts.map UInt16.toNat := List.mem_map_of_mem hport
  rw [h.backend_ports, List.mem_range'_1] at hrange
  have hsize := h.size_bounds.2
  rw [Nat.mul_succ]
  omega

theorem Group.Allotted.backendPorts_ascending (h : group.Allotted layout) :
    group.backendPorts.Pairwise (· < ·) := by
  have hrange := List.pairwise_lt_range' 1
    (s := layout.backendBase.toNat + maxPoolSize * group.index) (n := group.candidates.length)
  rw [← h.backend_ports, List.pairwise_map] at hrange
  exact hrange.imp UInt16.lt_iff_toNat_lt.2

end

namespace Plan

variable {t : Topology} {layout : PortLayout} {plan : Plan}
  (hbuild : Plan.build t t.index layout = .ok plan)

include hbuild

/-- Groups come in the order of their numbers. -/
theorem groups_ascending : plan.groups.Pairwise fun a b => a.index < b.index := by
  rw [← List.pairwise_map, Plan.map_index_of_build hbuild]
  exact List.pairwise_lt_range

theorem listenPorts_ascending : (plan.groups.map Group.listenPort).Pairwise (· < ·) := by
  have hallotted := Plan.allotted_of_build hbuild
  rw [List.pairwise_map]
  refine (groups_ascending hbuild).imp_of_mem fun {a b} ha hb hlt => ?_
  rw [UInt16.lt_iff_toNat_lt, (hallotted a ha).listen_port, (hallotted b hb).listen_port]
  exact Nat.add_lt_add_left hlt _

/-- A block ends before the next one begins. -/
theorem backendPorts_ascending : (plan.groups.flatMap Group.backendPorts).Pairwise (· < ·) := by
  have hallotted := Plan.allotted_of_build hbuild
  rw [List.pairwise_flatMap]
  refine ⟨fun group hgroup => (hallotted group hgroup).backendPorts_ascending, ?_⟩
  refine (groups_ascending hbuild).imp_of_mem fun {a b} ha hb hlt p hp q hq => ?_
  have hend := ((hallotted a ha).block hp).2
  have hbegin := ((hallotted b hb).block hq).1
  have hblocks : maxPoolSize * (a.index + 1) ≤ maxPoolSize * b.index :=
    Nat.mul_le_mul_left maxPoolSize hlt
  rw [UInt16.lt_iff_toNat_lt]
  omega

theorem backendBase_le_of_mem {group : Group} (hgroup : group ∈ plan.groups) {port : UInt16}
    (hport : port ∈ group.backendPorts) : layout.backendBase ≤ port := by
  have hbegin := ((Plan.allotted_of_build hbuild group hgroup).block hport).1
  rw [UInt16.le_iff_toNat_le]
  omega

theorem listenPort_lt {group : Group} (hbases : layout.listenBase < layout.backendBase)
    (hgroup : group ∈ plan.groups) :
    layout.listenBase ≤ group.listenPort ∧ group.listenPort < layout.backendBase := by
  have hallotted := Plan.allotted_of_build hbuild group hgroup
  have hbelow := hallotted.listen_below hbases
  rw [UInt16.le_iff_toNat_le, UInt16.lt_iff_toNat_lt, hallotted.listen_port]
  omega

/-- Where listen ports begin below backend ports, they end there too. -/
theorem ports_ascending (hbases : layout.listenBase < layout.backendBase) :
    plan.ports.Pairwise (· < ·) := by
  refine List.pairwise_append.2
    ⟨listenPorts_ascending hbuild, backendPorts_ascending hbuild, fun p hp q hq => ?_⟩
  obtain ⟨a, ha, rfl⟩ := List.mem_map.1 hp
  obtain ⟨b, hb, hq⟩ := List.mem_flatMap.1 hq
  exact UInt16.lt_of_lt_of_le (listenPort_lt hbuild hbases ha).2
    (backendBase_le_of_mem hbuild hb hq)

theorem listenBase_le_of_mem_ports (hbases : layout.listenBase < layout.backendBase) {port : UInt16}
    (hport : port ∈ plan.ports) : layout.listenBase ≤ port := by
  rcases List.mem_append.1 hport with hport | hport
  · obtain ⟨group, hgroup, rfl⟩ := List.mem_map.1 hport
    exact (listenPort_lt hbuild hbases hgroup).1
  · obtain ⟨group, hgroup, hport⟩ := List.mem_flatMap.1 hport
    exact UInt16.le_trans (UInt16.le_of_lt hbases) (backendBase_le_of_mem hbuild hgroup hport)

end Plan

/-! ### Plans -/

/-- The ports of a plan are different ports on both sides of where backend ports begin, with one
backend inbound and one backend port for each member of a pool. -/
structure Plan.PortsApart (layout : PortLayout) (plan : Plan) : Prop where
  ports_nodup : plan.ports.Nodup
  ports_valid : ∀ port ∈ plan.ports, 1 ≤ port.toNat ∧ port.toNat ≤ 65535
  listen_below : ∀ group ∈ plan.groups, group.listenPort < layout.backendBase
  backends_above : ∀ group ∈ plan.groups, ∀ port ∈ group.backendPorts, layout.backendBase ≤ port
  one_each : ∀ group ∈ plan.groups, group.backendPorts.length = group.candidates.length ∧
    group.inboundTags.length = group.candidates.length

/-- Planning comes to the ports of a round-robin node: all nodes before it are planned, and its pool
has a size that is allowed. -/
structure ComesTo (t : Topology) (layout : PortLayout) (planned : List Group) (tag : String)
    (edges : Index.PoolEdges) : Prop where
  before_planned : ∃ before after, pools t t.index = before ++ (tag, edges) :: after ∧
    (planGroups t.index layout [] before).failure = none ∧
    (planGroups t.index layout [] before).groups = planned
  size_bounds : 2 ≤ edges.pool.length ∧ edges.pool.length ≤ maxPoolSize

/-- Both bases are ports, and listen ports begin below backend ports. -/
structure PortLayout.InOrder (layout : PortLayout) : Prop where
  listen_pos : 1 ≤ layout.listenBase.toNat
  listen_lt : layout.listenBase < layout.backendBase

/-- Of all that is checked about settings, this is what the ports rest on. -/
theorem PortLayout.inOrder_of_check {settings : CompilerSettings} (h : settings.check = .ok ()) :
    settings.portLayout.InOrder := by
  rw [CompilerSettings.check] at h
  split at h
  · cases h
  · rename_i hlisten
    split at h
    · cases h
    · split at h
      · cases h
      · rename_i horder
        refine ⟨Nat.pos_of_ne_zero fun hzero => hlisten (UInt16.toNat_inj.1 hzero), ?_⟩
        exact UInt16.not_le.1 horder

theorem check_compiler_of_check {settings : Settings} (h : settings.check = .ok ()) :
    settings.compiler.check = .ok () := by
  obtain ⟨⟨⟩, hcompiler, -⟩ := bind_eq_ok_iff.1 h
  exact hcompiler

section

variable {t : Topology} {layout : PortLayout}

theorem Plan.portsApart {plan : Plan} (hbuild : Plan.build t t.index layout = .ok plan)
    (horder : layout.InOrder) : plan.PortsApart layout where
  ports_nodup := (Plan.ports_ascending hbuild horder.listen_lt).imp UInt16.ne_of_lt
  ports_valid := by
    intro port hport
    have hbase := UInt16.le_iff_toNat_le.1
      (Plan.listenBase_le_of_mem_ports hbuild horder.listen_lt hport)
    exact ⟨Nat.le_trans horder.listen_pos hbase, Nat.le_of_lt_succ port.toNat_lt⟩
  listen_below := fun group hgroup => (Plan.listenPort_lt hbuild horder.listen_lt hgroup).2
  backends_above := fun group hgroup port hport => Plan.backendBase_le_of_mem hbuild hgroup hport
  one_each := by
    intro group hgroup
    have hsound : GroupsSound plan.groups := (Plan.build_eq_ok hbuild).2.1 ▸ groupsSound_planning
    refine ⟨hsound.length_backendPorts group hgroup, ?_⟩
    rw [Group.inboundTags, List.length_map, List.length_range]

/-- When planning comes to a node, no more groups are planned than words can number. -/
theorem ComesTo.length_le {planned : List Group} {tag : String} {edges : Index.PoolEdges}
    (h : ComesTo t layout planned tag edges) : planned.length ≤ 2048 := by
  obtain ⟨before, after, -, -, rfl⟩ := h.before_planned
  exact (groupsSound_planGroups before).length_le

end

/-- Where the bases are in order, as they are in settings that are accepted, the ports of a plan are
apart from each other. With any bases, no word wraps around when the ports of a group are worked out;
its backend ports are those of the words from the first one on. -/
theorem build_ports_apart (t : Topology) :
    (∀ (layout : PortLayout) (plan : Plan), layout.InOrder →
      Plan.build t t.index layout = .ok plan → plan.PortsApart layout) ∧
    (∀ settings : Settings, settings.check = .ok () → settings.compiler.portLayout.InOrder) ∧
    ∀ (layout : PortLayout) (planned : List Group) (tag : String) (edges : Index.PoolEdges),
      ComesTo t layout planned tag edges →
      layout.NoOverflow planned.length edges.pool.length ∧
      layout.backendPorts planned.length edges.pool.length =
        (List.range edges.pool.length).mapM fun offset =>
          portOf planned.length (layout.backendWord planned.length + offset.toUInt32) := by
  refine ⟨fun layout plan horder hbuild => Plan.portsApart hbuild horder, ?_, ?_⟩
  · intro settings hcheck
    exact PortLayout.inOrder_of_check (check_compiler_of_check hcheck)
  · intro layout planned tag edges hcomes
    exact ⟨PortLayout.noOverflow hcomes.length_le hcomes.size_bounds.2,
      consecutivePorts_eq_mapM _ _ _⟩

/-- Two round-robin nodes, with pools that have a member in common. -/
def twoPools : Topology where
  layers := [
    { id := "layer-1"
      nodes := [
        { tag := "rr1", detours := ["a", "b", "direct"] },
        { tag := "rr2", detours := ["a", "c"] }] },
    { id := "layer-2", nodes := [{ tag := "a" }, { tag := "b" }, { tag := "c" }] }]
  library := [.internet, .named "rr1" .roundRobin, .named "rr2" .roundRobin, .named "a" .vmess,
    .named "b" .trojan, .named "c" .socks]

/-- The group of the first one. -/
def twoPoolsFirst : Group where
  tag := "rr1"
  index := 0
  id := "f5de447c"
  listenPort := 25080
  backendPorts := [25100, 25101]
  candidates := ["a", "b"]
  output := some "direct"

/-- Their plan. -/
def twoPoolsPlan : Plan where
  groups := [
    twoPoolsFirst,
    { tag := "rr2", index := 1, id := "f8de4935", listenPort := 25081
      backendPorts := [25132, 25133], candidates := ["a", "c"], output := none }]
  outputs := [("a", "direct"), ("b", "direct")]

theorem build_twoPools : Plan.build twoPools twoPools.index {} = .ok twoPoolsPlan := by
  decide +kernel

/-- Planning has come to the second node when the first one is planned. -/
theorem comesTo_twoPools :
    ComesTo twoPools {} [twoPoolsFirst] "rr2" ⟨["a", "c"], none⟩ where
  before_planned :=
    ⟨[("rr1", ⟨["a", "b"], some "direct"⟩)], [], by decide, by decide +kernel, by decide +kernel⟩
  size_bounds := by decide

theorem ports_apart_twoPools :
    ({} : Settings).check = .ok () ∧ Plan.build twoPools twoPools.index {} = .ok twoPoolsPlan ∧
      ComesTo twoPools {} [twoPoolsFirst] "rr2" ⟨["a", "c"], none⟩ ∧
      twoPoolsPlan.PortsApart {} ∧ PortLayout.NoOverflow {} 1 2 := by
  have haccepted : ({} : Settings).check = .ok () := by decide +kernel
  obtain ⟨hplans, hsettings, hwords⟩ := build_ports_apart twoPools
  exact ⟨haccepted, build_twoPools, comesTo_twoPools,
    hplans {} _ (hsettings {} haccepted) build_twoPools, (hwords {} _ _ _ comesTo_twoPools).1⟩

end ProxyChain.RoundRobin
