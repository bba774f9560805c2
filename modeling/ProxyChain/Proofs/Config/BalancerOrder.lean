import ProxyChain.Proofs.Config.Balancers

/-!
# ProxyChain.Proofs.Config.BalancerOrder

**The balancers of any config, whatever the order of its inbounds.** A config need not be a
compiled one: its ids may hold `-in-` or `-lb`, its positions may have gaps and leading zeros,
several clients may have one id, and tags may be no made-up ones at all. What an entry says about a
balancer is a fact about its fields (`Outbound.IsClient`, `InboundConfig.IsBackend`), and from
these facts the balancers are described without the way they are gathered: which ids there are, and
with which ports in which order. Where no two backends of a balancer have one position
(`RuntimeConfig.PositionsApart`), sorting by position leaves nothing of the order of the inbounds.
Compiled configs are of this kind (`compile_positionsApart`).
-/

namespace ProxyChain

open RoundRobin ProxyChain.Topology

/-! ### Entries of balancers -/

/-- An outbound is the client of a balancer on this machine, which has this id and this port. -/
structure Outbound.IsClient (outbound : Outbound) (id : String) (port : UInt16) : Prop where
  kind_eq : outbound.kind = "socks"
  tag_eq : outbound.tag = Tag.systemStem ++ id ++ "-lb"
  loopback : ∃ server, outbound.server = some server ∧ Net.isLoopbackAddress server = true
  port_eq : outbound.serverPort = some port

/-- An inbound is a backend of a balancer, at the position that its tag tells in some spelling. -/
structure InboundConfig.IsBackend (inbound : InboundConfig) (backend : Backend) : Prop where
  kind_eq : inbound.kind = "socks"
  tag_eq : ∃ numeral, inbound.tag = Tag.systemStem ++ backend.id ++ "-in-" ++ numeral ∧
    Text.readNatural? numeral = some backend.position
  position_lt : backend.position < positionBound
  port_eq : inbound.listenPort = some backend.port

theorem listener?_eq_some_iff {outbound : Outbound} {id : String} {port : UInt16} :
    outbound.listener? = some (id, port) ↔ outbound.IsClient id port := by
  rw [Outbound.listener?, Option.bind_eq_bind, Option.bind_eq_some_iff]
  constructor
  · rintro ⟨read, hread, h⟩
    split at h
    · rename_i hcond
      obtain ⟨found, hport, hpair⟩ := Option.bind_eq_some_iff.1 h
      obtain ⟨rfl, rfl⟩ := Prod.mk.inj (Option.some.inj hpair)
      exact ⟨hcond.1, clientId?_eq_some_iff.1 hread, (Option.any_eq_true _ _).1 hcond.2, hport⟩
    · cases h
  · intro h
    refine ⟨id, clientId?_eq_some_iff.2 h.tag_eq, ?_⟩
    rw [if_pos ⟨h.kind_eq, (Option.any_eq_true _ _).2 h.loopback⟩, h.port_eq]
    rfl

theorem backend?_eq_some_iff {inbound : InboundConfig} {backend : Backend} :
    inbound.backend? = some backend ↔ inbound.IsBackend backend := by
  rw [InboundConfig.backend?]
  constructor
  · intro h
    split at h
    · rename_i hkind
      obtain ⟨⟨id, position⟩, hread, h⟩ := Option.bind_eq_some_iff.1 h
      obtain ⟨port, hport, hbackend⟩ := Option.bind_eq_some_iff.1 h
      obtain rfl := Option.some.inj hbackend
      obtain ⟨numeral, htag, hnumeral, hbound⟩ := backendPosition?_eq_some_iff.1 hread
      exact ⟨hkind, ⟨numeral, htag, hnumeral⟩, hbound, hport⟩
    · cases h
  · intro h
    obtain ⟨numeral, htag, hnumeral⟩ := h.tag_eq
    have hread : backendPosition? inbound.tag = some (backend.id, backend.position) :=
      backendPosition?_eq_some_iff.2 ⟨numeral, htag, hnumeral, h.position_lt⟩
    rw [if_pos h.kind_eq, hread, h.port_eq]
    rfl

/-- An inbound is a backend of the balancer with that id. -/
def InboundConfig.Serves (inbound : InboundConfig) (id : String) : Prop :=
  ∃ backend, inbound.IsBackend backend ∧ backend.id = id

theorem any_backend?_iff {inbound : InboundConfig} {id : String} :
    (inbound.backend?.any fun backend => backend.id = id) = true ↔ inbound.Serves id := by
  rw [Option.any_eq_true, InboundConfig.Serves]
  simp only [backend?_eq_some_iff, decide_eq_true_eq]

instance (inbound : InboundConfig) (id : String) : Decidable (inbound.Serves id) :=
  decidable_of_iff _ any_backend?_iff

namespace RuntimeConfig

/-! ### Backends -/

/-- No two backends of a balancer have one position. -/
def PositionsApart (config : RuntimeConfig) : Prop :=
  config.inbounds.Pairwise fun a b => ∀ first second : Backend,
    a.IsBackend first → b.IsBackend second → first.id = second.id →
      first.position ≠ second.position

theorem positionsApart_iff {config : RuntimeConfig} : config.PositionsApart ↔
    (config.inbounds.filterMap InboundConfig.backend?).Pairwise fun a b =>
      a.id = b.id → a.position ≠ b.position := by
  rw [PositionsApart, List.pairwise_filterMap]
  simp only [backend?_eq_some_iff]
  constructor <;> refine List.Pairwise.imp fun h => ?_
  · exact fun first hfirst second hsecond => h first second hfirst hsecond
  · exact fun first second hfirst hsecond => h first hfirst second hsecond

instance (config : RuntimeConfig) : Decidable config.PositionsApart :=
  decidable_of_iff _ positionsApart_iff.symm

/-- The backends of a balancer in the order of the inbounds. -/
def backendsOf (config : RuntimeConfig) (id : String) : List Backend :=
  (config.inbounds.filterMap InboundConfig.backend?).filter fun backend => backend.id = id

variable {config : RuntimeConfig} {id : String}

theorem backendPorts_eq (config : RuntimeConfig) (id : String) : config.backendPorts id =
    ((config.backendsOf id).mergeSort fun a b => a.position ≤ b.position).map Backend.port :=
  rfl

theorem mem_backendsOf_iff {backend : Backend} : backend ∈ config.backendsOf id ↔
    backend.id = id ∧ ∃ inbound ∈ config.inbounds, inbound.IsBackend backend := by
  rw [backendsOf, List.mem_filter, List.mem_filterMap, decide_eq_true_iff, and_comm]
  simp only [backend?_eq_some_iff]

theorem PositionsApart.nodup (h : config.PositionsApart) (id : String) :
    ((config.backendsOf id).map Backend.position).Nodup := by
  rw [List.Nodup, List.pairwise_map, backendsOf, List.pairwise_filter]
  refine (positionsApart_iff.1 h).imp fun hne hfirst hsecond => hne ?_
  exact (of_decide_eq_true hfirst).trans (of_decide_eq_true hsecond).symm

theorem length_backendPorts (config : RuntimeConfig) (id : String) :
    (config.backendPorts id).length = config.inbounds.countP fun inbound => inbound.Serves id := by
  rw [backendPorts_eq, List.length_map, List.length_mergeSort, backendsOf,
    ← List.countP_eq_length_filter, List.countP_filterMap]
  refine List.countP_congr fun inbound _ => ?_
  rw [decide_eq_true_iff, ← any_backend?_iff]
  cases inbound.backend? <;> simp

/-- The ports of a balancer do not depend on the order of the inbounds. -/
theorem PositionsApart.backendPorts_eq_of_perm (h : config.PositionsApart)
    {inbounds : List InboundConfig} (hperm : inbounds.Perm config.inbounds) (id : String) :
    { config with inbounds := inbounds }.backendPorts id = config.backendPorts id := by
  have hown : ({ config with inbounds := inbounds }.backendsOf id).Perm (config.backendsOf id) :=
    (hperm.filterMap _).filter _
  rw [backendPorts_eq, backendPorts_eq, mergeSort_key_eq_of_perm (h.nodup id) hown]

/-! ### Clients -/

theorem nodup_listeners (config : RuntimeConfig) : (config.listeners.map Prod.fst).Nodup :=
  List.foldlRecOn (motive := fun entries : List (String × UInt16) => (entries.map Prod.fst).Nodup)
    (config.outbounds.filterMap Outbound.listener?) _ List.nodup_nil
    fun _ h _ _ => nodup_map_setBy h

theorem isClient_of_mem_listeners {entry : String × UInt16} (h : entry ∈ config.listeners) :
    ∃ outbound ∈ config.outbounds, outbound.IsClient entry.1 entry.2 := by
  rcases mem_foldl_setBy (f := fun entry => entry) h with ⟨other, hother, rfl⟩ | h
  · obtain ⟨outbound, houtbound, hlistener⟩ := List.mem_filterMap.1 hother
    exact ⟨outbound, houtbound, listener?_eq_some_iff.1 hlistener⟩
  · exact absurd h List.not_mem_nil

theorem mem_map_fst_listeners_iff : id ∈ config.listeners.map Prod.fst ↔
    ∃ outbound ∈ config.outbounds, ∃ port, outbound.IsClient id port := by
  constructor
  · intro h
    obtain ⟨entry, hentry, rfl⟩ := List.mem_map.1 h
    obtain ⟨outbound, houtbound, hclient⟩ := isClient_of_mem_listeners hentry
    exact ⟨outbound, houtbound, entry.2, hclient⟩
  · rintro ⟨outbound, houtbound, port, hclient⟩
    have hentry : (id, port) ∈ config.outbounds.filterMap Outbound.listener? :=
      List.mem_filterMap.2 ⟨outbound, houtbound, listener?_eq_some_iff.2 hclient⟩
    exact key_mem_foldl_setBy hentry

/-! ### Balancers -/

theorem balancerGroups_eq (config : RuntimeConfig) : config.balancerGroups =
    (config.listeners.filter fun entry => 2 ≤ (config.backendPorts entry.1).length).map
      fun entry => ⟨entry.1, entry.2, config.backendPorts entry.1⟩ := by
  refine filterMap_eq_map_filter fun entry _ => ?_
  by_cases hlength : 2 ≤ (config.backendPorts entry.1).length
  · rw [if_pos (decide_eq_true hlength)]
    exact if_neg (Nat.not_lt.2 hlength)
  · rw [if_neg (by simpa only [decide_eq_true_eq] using hlength)]
    exact if_pos (Nat.not_le.1 hlength)

theorem mem_balancerGroups_iff {group : BalancerGroup} : group ∈ config.balancerGroups ↔
    (group.id, group.listenPort) ∈ config.listeners ∧
      group.backendPorts = config.backendPorts group.id ∧
      2 ≤ (config.backendPorts group.id).length := by
  rw [balancerGroups_eq, List.mem_map]
  constructor
  · rintro ⟨entry, hentry, rfl⟩
    obtain ⟨hlistener, hlength⟩ := List.mem_filter.1 hentry
    exact ⟨hlistener, rfl, of_decide_eq_true hlength⟩
  · rintro ⟨hlistener, hports, hlength⟩
    refine ⟨(group.id, group.listenPort),
      List.mem_filter.2 ⟨hlistener, decide_eq_true hlength⟩, ?_⟩
    dsimp only
    rw [← hports]

theorem nodup_map_id_balancerGroups (config : RuntimeConfig) :
    (config.balancerGroups.map BalancerGroup.id).Nodup := by
  rw [balancerGroups_eq, List.map_map]
  exact (List.filter_sublist.map Prod.fst).nodup (nodup_listeners config)

theorem mem_map_id_balancerGroups_iff : id ∈ config.balancerGroups.map BalancerGroup.id ↔
    (∃ outbound ∈ config.outbounds, ∃ port, outbound.IsClient id port) ∧
      2 ≤ config.inbounds.countP fun inbound => inbound.Serves id := by
  rw [← mem_map_fst_listeners_iff, ← length_backendPorts, List.mem_map, List.mem_map]
  constructor
  · rintro ⟨group, hgroup, rfl⟩
    obtain ⟨hentry, -, hlength⟩ := mem_balancerGroups_iff.1 hgroup
    exact ⟨⟨_, hentry, rfl⟩, hlength⟩
  · rintro ⟨⟨⟨id, port⟩, hentry, rfl⟩, hlength⟩
    exact ⟨⟨id, port, config.backendPorts id⟩, mem_balancerGroups_iff.2 ⟨hentry, rfl, hlength⟩, rfl⟩

end RuntimeConfig

/-- The balancers are the same whatever the order of the inbounds. Each one has the port of a client
of its id, and the ports of its backends with the positions going up; and each id is listed once, if
it has a client and two backends or more. -/
theorem balancerGroups_order_free {config : RuntimeConfig} (h : config.PositionsApart) :
    (∀ inbounds : List InboundConfig, inbounds.Perm config.inbounds →
      { config with inbounds := inbounds }.balancerGroups = config.balancerGroups) ∧
    (∀ group ∈ config.balancerGroups,
      (∃ outbound ∈ config.outbounds, outbound.IsClient group.id group.listenPort) ∧
      ∃ backends : List Backend, group.backendPorts = backends.map Backend.port ∧
        (backends.Pairwise fun a b => a.position < b.position) ∧
        ∀ backend, backend ∈ backends ↔ backend.id = group.id ∧
          ∃ inbound ∈ config.inbounds, inbound.IsBackend backend) ∧
    (config.balancerGroups.map BalancerGroup.id).Nodup ∧
    ∀ id, id ∈ config.balancerGroups.map BalancerGroup.id ↔
      (∃ outbound ∈ config.outbounds, ∃ port, outbound.IsClient id port) ∧
        2 ≤ config.inbounds.countP fun inbound => inbound.Serves id := by
  refine ⟨fun inbounds hperm => ?_, fun group hgroup => ?_, config.nodup_map_id_balancerGroups,
    fun id => RuntimeConfig.mem_map_id_balancerGroups_iff⟩
  · refine List.filterMap_congr fun entry _ => ?_
    dsimp only
    rw [h.backendPorts_eq_of_perm hperm]
  · obtain ⟨hentry, hports, -⟩ := RuntimeConfig.mem_balancerGroups_iff.1 hgroup
    refine ⟨RuntimeConfig.isClient_of_mem_listeners hentry, _,
      hports.trans (config.backendPorts_eq group.id), pairwise_lt_mergeSort_key (h.nodup group.id),
      fun backend => ?_⟩
    rw [(List.mergeSort_perm _ _).mem_iff, RuntimeConfig.mem_backendsOf_iff]

/-- A config with an id that holds both marks, with two clients of that id, and with positions that
have a gap, a plus sign and leading zeros. -/
def scrambledConfig : RuntimeConfig where
  inbounds := [
    .socks "sys-rr-a-in-b-lb-in-007" "127.0.0.1" 25107,
    .socks "sys-rr-a-in-b-lb-in-x" "127.0.0.1" 25199,
    .socks "sys-rr-solo-in-0" "127.0.0.1" 25132,
    .socks "sys-rr-a-in-b-lb-in-+2" "127.0.0.1" 25102,
    .mixed "sys-rr-a-in-b-lb-in-2" "127.0.0.1" 10808 true,
    .socks "sys-rr-a-in-7" "127.0.0.1" 25140]
  outbounds := [
    .socksClient "sys-rr-a-in-b-lb-lb" "127.0.0.1" 25080,
    .socksClient "sys-rr-solo-lb" "127.0.0.1" 25081,
    .socksClient "sys-rr-a-lb" "10.0.0.1" 25082,
    .socksClient "sys-rr-a-in-b-lb-lb" "::1" 25083]

theorem balancerGroups_scrambledConfig : scrambledConfig.PositionsApart ∧
    scrambledConfig.balancerGroups = [⟨"a-in-b-lb", 25083, [25102, 25107]⟩] ∧
    { scrambledConfig with inbounds := scrambledConfig.inbounds.reverse }.balancerGroups =
      scrambledConfig.balancerGroups ∧
    (scrambledConfig.balancerGroups.map BalancerGroup.id).Nodup := by
  have hapart : scrambledConfig.PositionsApart := by decide +kernel
  have hlisteners : scrambledConfig.listeners = [("a-in-b-lb", 25083), ("solo", 25081)] := by
    decide +kernel
  have hmany : scrambledConfig.backendsOf "a-in-b-lb" =
      [⟨"a-in-b-lb", 7, 25107⟩, ⟨"a-in-b-lb", 2, 25102⟩] := by decide +kernel
  have hone : scrambledConfig.backendsOf "solo" = [⟨"solo", 0, 25132⟩] := by decide +kernel
  have hgroups : scrambledConfig.balancerGroups = [⟨"a-in-b-lb", 25083, [25102, 25107]⟩] := by
    simp [RuntimeConfig.balancerGroups, hlisteners, RuntimeConfig.backendPorts_eq, hmany, hone,
      List.mergeSort, List.MergeSort.Internal.splitInTwo]
  obtain ⟨hfree, -, hnodup, -⟩ := balancerGroups_order_free hapart
  exact ⟨hapart, hgroups, hfree _ (List.reverse_perm _), hnodup⟩

/-! ### Compiled configs -/

/-- The positions of a compiled config are apart: within a group they count up, and the ids of
groups differ. -/
theorem compile_positionsApart {settings : CompilerSettings} {t : Topology} {config : RuntimeConfig}
    (hplain : ∀ d ∈ t.library, Tag.isSystem d.tag = false) (h : compile settings t = .ok config) :
    config.PositionsApart := by
  obtain ⟨plan, hplan, rfl⟩ := compile_eq_ok_iff.1 h
  have hplan' := plainPlan_of_planOf hplain hplan
  have hbound : ∀ group ∈ plan.groups, group.candidates.length ≤ positionBound :=
    fun group hgroup => (Plan.allotted_of_build hplan group hgroup).size_bounds.2.trans (by decide)
  rw [RuntimeConfig.positionsApart_iff, hplan'.filterMap_backend?_assembled hbound,
    List.pairwise_flatMap]
  have hids := hplan'.ids_nodup
  rw [List.Nodup, List.pairwise_map] at hids
  refine ⟨fun group _ => ?_, hids.imp fun hne a ha b hb heq => absurd ?_ hne⟩
  · exact (backendEntries_ascending group).imp fun hlt _ => hlt.ne
  · exact (id_of_mem_backendEntries ha).symm.trans (heq.trans (id_of_mem_backendEntries hb))

end ProxyChain
