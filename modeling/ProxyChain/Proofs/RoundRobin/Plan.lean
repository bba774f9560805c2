import ProxyChain.Proofs.RoundRobin.Freshness
import ProxyChain.Proofs.RoundRobin.Outputs
import ProxyChain.Proofs.RoundRobin.Ports
import ProxyChain.Proofs.Topology.NormalForm

/-!
# ProxyChain.Proofs.RoundRobin.Plan

**The plan of a topology.** Planning appends one group for each round-robin node, so everything
about a plan follows from what one step does (`planGroup_eq_ok_iff`, or `planGroup_eq_error` where
it fails) and from the induction over all steps (`planGroups_induction`,
`exists_refused_of_failure`). The result for a topology whose nodes are sound is `PlanOf`: groups and
round-robin nodes stand for each other, ids are all different, and the output of a managed node is
that of every pool it is in.
-/

namespace ProxyChain.RoundRobin

/-! ### One group -/

/-- A group that was planned behind others, for a round-robin node with that tag and targets. -/
structure Planned (index : Index) (layout : PortLayout) (planned : List Group) (tag : String)
    (edges : Index.PoolEdges) (group : Group) : Prop where
  tag_eq : group.tag = tag
  index_eq : group.index = planned.length
  id_eq : group.id = syntheticId tag (planned.map Group.id)
  candidates_eq : group.candidates = edges.pool
  output_eq : group.output = edges.output
  size_bounds : 2 ≤ edges.pool.length ∧ edges.pool.length ≤ maxPoolSize
  no_aggregator : edges.output.isSome = true → aggregatorIn? index edges.pool = none
  listen_port : layout.listenPort planned.length = .ok group.listenPort
  backend_ports : layout.backendPorts planned.length edges.pool.length = .ok group.backendPorts

section

variable {index : Index} {layout : PortLayout} {planned : List Group} {tag : String}
  {edges : Index.PoolEdges} {group : Group}

/-- All that planning one group does, its checks included. -/
theorem planGroup_eq_ok_iff : planGroup index layout planned tag edges = .ok group ↔
    Planned index layout planned tag edges group := by
  unfold planGroup
  constructor
  · intro h
    dsimp only at h
    split at h
    · cases h
    · rename_i hsize
      split at h
      · cases h
      · rename_i hplain
        cases hlisten : layout.listenPort planned.length with
        | error e => rw [hlisten] at h; cases h
        | ok listenPort =>
            cases hbackend : layout.backendPorts planned.length edges.pool.length with
            | error e => rw [hlisten, hbackend] at h; cases h
            | ok backendPorts =>
                rw [hlisten, hbackend] at h
                obtain rfl := Except.ok.inj h
                refine ⟨rfl, rfl, rfl, rfl, rfl, by omega, fun houtput => ?_, hlisten, hbackend⟩
                rwa [if_pos houtput] at hplain
  · obtain ⟨tag, position, id, listenPort, backendPorts, candidates, output⟩ := group
    rintro ⟨htag, hindex, hid, hcandidates, houtput, hsize, hplain, hlisten, hbackend⟩
    dsimp only at htag hindex hid hcandidates houtput hlisten hbackend
    have hplain : (if edges.output.isSome = true then aggregatorIn? index edges.pool else none) =
        none := by
      split
      · exact hplain ‹_›
      · rfl
    subst htag hindex hid hcandidates houtput
    dsimp only
    rw [if_neg (by omega), hplain, hlisten, hbackend]
    rfl

/-- Why a round-robin node with that tag and targets is not planned behind others: the first check
that fails. -/
inductive Refused (index : Index) (layout : PortLayout) (planned : List Group) (tag : String)
    (edges : Index.PoolEdges) : CompileError → Prop
  | poolSize (hsize : ¬ (2 ≤ edges.pool.length ∧ edges.pool.length ≤ maxPoolSize)) :
      Refused index layout planned tag edges (.poolSize tag edges.pool.length)
  | outputKind {e : CompileError} (hsize : 2 ≤ edges.pool.length ∧ edges.pool.length ≤ maxPoolSize)
      (houtput : edges.output.isSome = true) (hfound : aggregatorIn? index edges.pool = some e) :
      Refused index layout planned tag edges e
  | listenPort {e : CompileError} (hsize : 2 ≤ edges.pool.length ∧ edges.pool.length ≤ maxPoolSize)
      (hplain : edges.output.isSome = true → aggregatorIn? index edges.pool = none)
      (hlisten : layout.listenPort planned.length = .error e) :
      Refused index layout planned tag edges e
  | backendPorts {e : CompileError} {port : UInt16}
      (hsize : 2 ≤ edges.pool.length ∧ edges.pool.length ≤ maxPoolSize)
      (hplain : edges.output.isSome = true → aggregatorIn? index edges.pool = none)
      (hlisten : layout.listenPort planned.length = .ok port)
      (hbackend : layout.backendPorts planned.length edges.pool.length = .error e) :
      Refused index layout planned tag edges e

theorem planGroup_eq_error {e : CompileError}
    (h : planGroup index layout planned tag edges = .error e) :
    Refused index layout planned tag edges e := by
  unfold planGroup at h
  dsimp only at h
  split at h
  · rename_i hsize
    obtain rfl := Except.error.inj h
    exact .poolSize (by omega)
  · rename_i hsize
    have hbounds : 2 ≤ edges.pool.length ∧ edges.pool.length ≤ maxPoolSize := by omega
    split at h
    · rename_i found hfound
      obtain rfl := Except.error.inj h
      split at hfound
      · exact .outputKind hbounds ‹_› hfound
      · cases hfound
    · rename_i hnone
      have hplain : edges.output.isSome = true → aggregatorIn? index edges.pool = none :=
        fun houtput => by rwa [if_pos houtput] at hnone
      cases hlisten : layout.listenPort planned.length with
      | error e =>
          rw [hlisten] at h
          obtain rfl := Except.error.inj h
          exact .listenPort hbounds hplain hlisten
      | ok port =>
          cases hbackend : layout.backendPorts planned.length edges.pool.length with
          | ok ports => rw [hlisten, hbackend] at h; cases h
          | error e =>
              rw [hlisten, hbackend] at h
              obtain rfl := Except.error.inj h
              exact .backendPorts hbounds hplain hlisten hbackend

namespace Planned

variable (h : Planned index layout planned tag edges group)

include h

theorem id_not_mem (hplanned : planned.length < 5000) : group.id ∉ planned.map Group.id := by
  rw [h.id_eq]
  exact syntheticId_not_mem tag (by rwa [List.length_map])

theorem length_lt (hplanned : planned.length ≤ 2048) : planned.length < 2048 :=
  PortLayout.group_lt_of_backendPorts hplanned
    (Nat.lt_of_lt_of_le Nat.two_pos h.size_bounds.1) h.backend_ports

theorem length_backendPorts : group.backendPorts.length = group.candidates.length := by
  rw [h.candidates_eq]
  exact (consecutivePorts_eq_ok h.backend_ports).1

end Planned

end

/-! ### All groups -/

section

variable {index : Index} {layout : PortLayout}

/-- What planning one group keeps holds of all groups that were planned. -/
theorem planGroups_induction {motive : List Group → Prop}
    (step : ∀ planned tag edges group, motive planned →
      Planned index layout planned tag edges group → motive (planned ++ [group])) :
    ∀ {pools : List (String × Index.PoolEdges)} {planned : List Group}, motive planned →
      motive (planGroups index layout planned pools).groups
  | [], _, h => h
  | (tag, edges) :: rest, planned, h => by
      rw [planGroups]
      cases hgroup : planGroup index layout planned tag edges with
      | error e => exact h
      | ok group =>
          exact planGroups_induction step
            (step planned tag edges group h (planGroup_eq_ok_iff.1 hgroup))

/-- The node that a group was planned for. -/
def Group.source (group : Group) : String × Index.PoolEdges :=
  (group.tag, ⟨group.candidates, group.output⟩)

/-- Where planning does not fail, there is one group for each node, in their order. -/
theorem map_source_planGroups :
    ∀ {pools : List (String × Index.PoolEdges)} {planned : List Group},
      (planGroups index layout planned pools).failure = none →
      (planGroups index layout planned pools).groups.map Group.source =
        planned.map Group.source ++ pools
  | [], planned, _ => (List.append_nil _).symm
  | (tag, edges) :: rest, planned, h => by
      rw [planGroups] at h ⊢
      cases hgroup : planGroup index layout planned tag edges with
      | error e => rw [hgroup] at h; cases h
      | ok group =>
          rw [hgroup] at h
          have hplanned := planGroup_eq_ok_iff.1 hgroup
          have hsource : group.source = (tag, edges) := by
            rw [Group.source, hplanned.tag_eq, hplanned.candidates_eq, hplanned.output_eq]
          refine (map_source_planGroups h).trans ?_
          rw [List.map_append, List.map_singleton, hsource, List.append_assoc]
          rfl

/-- What holds of any groups that were planned one after the other. -/
structure GroupsSound (groups : List Group) : Prop where
  ids_nodup : (groups.map Group.id).Nodup
  length_le : groups.length ≤ 2048
  length_backendPorts : ∀ group ∈ groups, group.backendPorts.length = group.candidates.length

theorem groupsSound_nil : GroupsSound [] where
  ids_nodup := List.nodup_nil
  length_le := Nat.zero_le 2048
  length_backendPorts := nofun

theorem GroupsSound.append {planned : List Group} {tag : String} {edges : Index.PoolEdges}
    {group : Group} (h : GroupsSound planned)
    (hgroup : Planned index layout planned tag edges group) : GroupsSound (planned ++ [group]) := by
  have hlength := hgroup.length_lt h.length_le
  constructor
  · rw [List.map_append, List.map_singleton, (List.perm_append_singleton _ _).nodup_iff]
    exact List.nodup_cons.2 ⟨hgroup.id_not_mem (by omega), h.ids_nodup⟩
  · rw [List.length_append, List.length_singleton]
    omega
  · exact List.forall_mem_append.2
      ⟨h.length_backendPorts, List.forall_mem_singleton.2 hgroup.length_backendPorts⟩

theorem groupsSound_planGroups (pools : List (String × Index.PoolEdges)) :
    GroupsSound (planGroups index layout [] pools).groups :=
  planGroups_induction (motive := GroupsSound) (fun _ _ _ _ h hgroup => h.append hgroup)
    groupsSound_nil

/-- What holds of a group wherever it is planned holds of all groups. -/
theorem forall_planGroups {motive : Group → Prop} (step : ∀ planned tag edges group,
      GroupsSound planned → Planned index layout planned tag edges group → motive group)
    (pools : List (String × Index.PoolEdges)) :
    ∀ group ∈ (planGroups index layout [] pools).groups, motive group := by
  refine (planGroups_induction (motive := fun groups => GroupsSound groups ∧
    ∀ group ∈ groups, motive group) ?_ ⟨groupsSound_nil, by simp⟩).2
  intro planned tag edges group hplanned hgroup
  exact ⟨hplanned.1.append hgroup, List.forall_mem_append.2
    ⟨hplanned.2, List.forall_mem_singleton.2 (step planned tag edges group hplanned.1 hgroup)⟩⟩

/-- What its place among the groups gives to a group, and the bounds of its pool. -/
structure Group.Allotted (layout : PortLayout) (group : Group) : Prop where
  listen_port : group.listenPort.toNat = layout.listenBase.toNat + group.index
  listen_below : layout.listenBase < layout.backendBase →
    layout.listenBase.toNat + group.index < layout.backendBase.toNat
  backend_ports : group.backendPorts.map UInt16.toNat =
    List.range' (layout.backendBase.toNat + maxPoolSize * group.index) group.candidates.length
  size_bounds : 2 ≤ group.candidates.length ∧ group.candidates.length ≤ maxPoolSize

theorem Planned.allotted {planned : List Group} {tag : String} {edges : Index.PoolEdges}
    {group : Group} (h : Planned index layout planned tag edges group)
    (hplanned : planned.length ≤ 2048) : group.Allotted layout where
  listen_port := by
    rw [h.index_eq]
    exact PortLayout.toNat_of_listenPort hplanned h.listen_port
  listen_below := by
    intro hbases
    rw [h.index_eq]
    exact PortLayout.listenPort_eq_ok hbases hplanned h.listen_port
  backend_ports := by
    rw [h.index_eq, h.candidates_eq]
    exact PortLayout.map_toNat_of_backendPorts hplanned h.backend_ports
  size_bounds := by
    rw [h.candidates_eq]
    exact h.size_bounds

theorem allotted_planGroups (pools : List (String × Index.PoolEdges)) :
    ∀ group ∈ (planGroups index layout [] pools).groups, group.Allotted layout :=
  forall_planGroups (fun _ _ _ _ hplanned hgroup => hgroup.allotted hplanned.length_le) pools

/-- A group knows its place. -/
theorem map_index_planGroups (pools : List (String × Index.PoolEdges)) :
    (planGroups index layout [] pools).groups.map Group.index =
      List.range (planGroups index layout [] pools).groups.length := by
  refine planGroups_induction (motive := fun groups =>
    groups.map Group.index = List.range groups.length) ?_ rfl
  intro planned tag edges group hplanned hgroup
  rw [List.map_append, hplanned, List.map_singleton, hgroup.index_eq, List.length_append,
    List.length_singleton, List.range_succ]

/-- A pool in which no aggregator is found has leaves only. -/
theorem role_of_aggregatorIn? {pool : List String} (h : aggregatorIn? index pool = none)
    {tag : String} (htag : tag ∈ pool) {kind : NodeKind}
    (hkind : index.placedKind? tag = some kind) : kind.role = .leaf := by
  have hnone := List.findSome?_eq_none_iff.1 h tag htag
  rw [hkind] at hnone
  by_contra hrole
  have haggregator : kind.isAggregator = true := decide_eq_true hrole
  simp [haggregator] at hnone

/-- The aggregator that is found is the first one. -/
theorem aggregatorIn?_eq_some {pool : List String} {e : CompileError}
    (h : aggregatorIn? index pool = some e) : ∃ before member after kind,
      pool = before ++ member :: after ∧ aggregatorIn? index before = none ∧
        index.placedKind? member = some kind ∧ kind.role ≠ .leaf ∧ e = .outputKind member kind := by
  obtain ⟨before, member, after, rfl, hfound, hbefore⟩ := List.findSome?_eq_some_iff.1 h
  cases hkind : index.placedKind? member with
  | none => rw [hkind] at hfound; cases hfound
  | some kind =>
      rw [hkind] at hfound
      dsimp only at hfound
      split at hfound
      · rename_i haggregator
        exact ⟨before, member, after, kind, rfl, List.findSome?_eq_none_iff.2 hbefore, hkind,
          of_decide_eq_true haggregator, (Option.some.inj hfound).symm⟩
      · cases hfound

theorem aggregatorIn?_planGroups (pools : List (String × Index.PoolEdges)) :
    ∀ group ∈ (planGroups index layout [] pools).groups, group.output.isSome = true →
      aggregatorIn? index group.candidates = none := by
  refine forall_planGroups (fun planned tag edges group _ hgroup houtput => ?_) pools
  rw [hgroup.output_eq] at houtput
  rw [hgroup.candidates_eq]
  exact hgroup.no_aggregator houtput

end

/-! ### Errors of planning -/

/-- The errors of planning. There is one more error of compiling: that a managed node is a selector.
-/
inductive OfPlanning : CompileError → Prop
  | poolSize (tag : String) (size : Nat) : OfPlanning (.poolSize tag size)
  | outputKind (candidate : String) (kind : NodeKind) : OfPlanning (.outputKind candidate kind)
  | conflictingOutput (candidate first second : String) :
      OfPlanning (.conflictingOutput candidate first second)
  | portExhausted (group : Nat) (port : UInt32) : OfPlanning (.portExhausted group port)

section

variable {index : Index} {layout : PortLayout} {e : CompileError}

theorem Refused.ofPlanning {planned : List Group} {tag : String} {edges : Index.PoolEdges}
    (h : Refused index layout planned tag edges e) (hplanned : planned.length ≤ 2048) :
    OfPlanning e := by
  cases h with
  | poolSize => exact .poolSize _ _
  | outputKind hsize houtput hfound =>
      obtain ⟨-, -, -, -, -, -, -, -, rfl⟩ := aggregatorIn?_eq_some hfound
      exact .outputKind _ _
  | listenPort hsize hplain hlisten =>
      obtain ⟨-, port, rfl, -⟩ := PortLayout.listenPort_eq_error hplanned hlisten
      exact .portExhausted _ _
  | backendPorts hsize hplain hlisten hbackend =>
      obtain ⟨-, port, rfl, -⟩ := PortLayout.backendPorts_eq_error hplanned hbackend
      exact .portExhausted _ _

/-- Where planning fails, some node is refused behind groups that are sound. -/
theorem exists_refused_of_failure : ∀ {pools : List (String × Index.PoolEdges)}
    {planned : List Group}, GroupsSound planned →
      (planGroups index layout planned pools).failure = some e →
      ∃ before, GroupsSound before ∧ ∃ pool ∈ pools, Refused index layout before pool.1 pool.2 e
  | [], _, _, h => nomatch h
  | (tag, edges) :: rest, planned, hplanned, h => by
      rw [planGroups] at h
      cases hgroup : planGroup index layout planned tag edges with
      | error found =>
          rw [hgroup] at h
          obtain rfl := Option.some.inj h
          exact ⟨planned, hplanned, (tag, edges), List.mem_cons_self, planGroup_eq_error hgroup⟩
      | ok group =>
          rw [hgroup] at h
          obtain ⟨before, hbefore, pool, hpool, hrefused⟩ :=
            exists_refused_of_failure (hplanned.append (planGroup_eq_ok_iff.1 hgroup)) h
          exact ⟨before, hbefore, pool, List.mem_cons_of_mem _ hpool, hrefused⟩

end

/-! ### The plan of a sound topology -/

/-- A group stands for a round-robin node, which is given with its hop. -/
structure Group.StandsFor (t : Topology) (group : Group) (entry : Nat × PlacedNode) : Prop where
  kind_eq : t.kindOf entry.2 = .roundRobin
  tag_eq : group.tag = entry.2.tag
  edges_eq : ⟨group.candidates, group.output⟩ = t.index.splitPool entry.1 entry.2.detours

/-- What a plan is to the topology that it was made for. -/
structure PlanOf (t : Topology) (plan : Plan) : Prop extends GroupsSound plan.groups where
  group_of_node : ∀ entry ∈ t.placed, t.kindOf entry.2 = .roundRobin →
    ∃ group ∈ plan.groups, group.StandsFor t entry
  node_of_group : ∀ group ∈ plan.groups, ∃ entry ∈ t.placed, group.StandsFor t entry
  members_leaf : ∀ group ∈ plan.groups, group.output.isSome = true →
    ∀ entry ∈ t.placed, entry.2.tag ∈ group.candidates → (t.kindOf entry.2).role = .leaf
  tags_nodup : (plan.groups.map Group.tag).Nodup
  outputs_assigned : Assigned plan.mapTag plan.groups plan.outputs

/-- The groups of the round-robin nodes of a topology, as far as they can be planned. -/
def planning (layout : PortLayout) (t : Topology) : Planning :=
  planGroups t.index layout [] (pools t t.index)

section

variable {t : Topology} {layout : PortLayout}

theorem Plan.build_eq_ok {plan : Plan} (h : Plan.build t t.index layout = .ok plan) :
    (planning layout t).failure = none ∧ plan.groups = (planning layout t).groups ∧
      assignOutputs plan.groups = .ok plan.outputs := by
  unfold Plan.build at h
  dsimp only at h
  split at h
  · cases h
  · rename_i hfailure
    cases houtputs : assignOutputs (planGroups t.index layout [] (pools t t.index)).groups with
    | error e => rw [houtputs] at h; cases h
    | ok outputs =>
        rw [houtputs] at h
        obtain rfl := Except.ok.inj h
        exact ⟨hfailure, rfl, houtputs⟩

theorem Plan.build_eq_error {e : CompileError} (h : Plan.build t t.index layout = .error e) :
    (planning layout t).failure = some e ∨
      (planning layout t).failure = none ∧ assignOutputs (planning layout t).groups = .error e := by
  unfold Plan.build at h
  dsimp only at h
  split at h
  · rename_i hfailure
    obtain rfl := Except.error.inj h
    exact Or.inl hfailure
  · rename_i hfailure
    cases houtputs : assignOutputs (planGroups t.index layout [] (pools t t.index)).groups with
    | ok outputs => rw [houtputs] at h; cases h
    | error e =>
        rw [houtputs] at h
        obtain rfl := Except.error.inj h
        exact Or.inr ⟨hfailure, houtputs⟩

theorem Plan.ofPlanning_of_build {e : CompileError}
    (h : Plan.build t t.index layout = .error e) : OfPlanning e := by
  rcases Plan.build_eq_error h with hfailure | ⟨-, hassign⟩
  · obtain ⟨before, hbefore, pool, -, hrefused⟩ :=
      exists_refused_of_failure groupsSound_nil hfailure
    exact hrefused.ofPlanning hbefore.length_le
  · obtain ⟨-, -, -, -, -, -, -, -, -, -, -, -, rfl⟩ := assignOutputs_eq_error hassign
    exact .conflictingOutput _ _ _

theorem inHop_of_mem_candidates (hfailure : (planning layout t).failure = none) {group : Group}
    (hgroup : group ∈ (planning layout t).groups) {tag : String} (htag : tag ∈ group.candidates) :
    ∃ hop, t.index.inHop tag hop = true := by
  have hsource : group.source ∈ pools t t.index := by
    have hsources : (planning layout t).groups.map Group.source = pools t t.index :=
      map_source_planGroups hfailure
    exact hsources ▸ List.mem_map_of_mem hgroup
  obtain ⟨⟨hop, node⟩, -, hpool⟩ := List.mem_filterMap.1 hsource
  dsimp only at hpool
  split at hpool
  · cases hpool
  · rw [Index.poolOf?] at hpool
    split at hpool
    · obtain ⟨-, hedges⟩ := Prod.mk.inj (Option.some.inj hpool)
      have hcandidates : (t.index.splitPool hop node.detours).pool = group.candidates :=
        congrArg Index.PoolEdges.pool hedges
      rw [← hcandidates] at htag
      exact ⟨hop + 1, (List.mem_filter.1 htag).2⟩
    · cases hpool

/-- What a plan has an output for is placed, and as a leaf. The topology need not be in normal form:
pools have members that the index knows, and their kinds there are those that were checked. -/
theorem Plan.leaf_of_outputFor? {plan : Plan} (hbuild : Plan.build t t.index layout = .ok plan)
    {tag output : String} (h : plan.outputFor? tag = some output) :
    ∃ kind, t.index.placedKind? tag = some kind ∧ kind.role = .leaf := by
  obtain ⟨groups, outputs⟩ := plan
  obtain ⟨hfailure, rfl, houtputs⟩ := Plan.build_eq_ok hbuild
  obtain ⟨group, hgroup, htag, target, htarget, -⟩ :=
    (assignGroups_eq_ok houtputs tag output).1 h
  obtain ⟨hop, hhop⟩ := inHop_of_mem_candidates hfailure hgroup htag
  have hplaced : t.index.hopOf? tag = some hop := of_decide_eq_true hhop
  obtain ⟨placement, hplacement, -⟩ := Option.map_eq_some_iff.1 hplaced
  have hkind : t.index.placedKind? tag = some placement.kind := by
    rw [Index.placedKind?, hplacement, Option.map_some]
  have hnone := aggregatorIn?_planGroups _ group hgroup (Option.isSome_of_mem htarget)
  exact ⟨placement.kind, hkind, role_of_aggregatorIn? hnone htag hkind⟩

theorem groupsSound_planning : GroupsSound (planning layout t).groups :=
  groupsSound_planGroups _

theorem Plan.allotted_of_build {plan : Plan} (h : Plan.build t t.index layout = .ok plan) :
    ∀ group ∈ plan.groups, group.Allotted layout := by
  rw [(Plan.build_eq_ok h).2.1]
  exact allotted_planGroups _

theorem Plan.map_index_of_build {plan : Plan} (h : Plan.build t t.index layout = .ok plan) :
    plan.groups.map Group.index = List.range plan.groups.length := by
  rw [(Plan.build_eq_ok h).2.1]
  exact map_index_planGroups _

/-- What is planned for a round-robin node, which is given with its hop. -/
def poolOf (t : Topology) (entry : Nat × PlacedNode) : String × Index.PoolEdges :=
  (entry.2.tag, t.index.splitPool entry.1 entry.2.detours)

theorem standsFor_of_source_eq {group : Group} {entry : Nat × PlacedNode}
    (hentry : entry ∈ t.roundRobins) (hsource : group.source = poolOf t entry) :
    group.StandsFor t entry := by
  obtain ⟨htag, hedges⟩ := Prod.mk.inj hsource
  exact ⟨(Topology.mem_roundRobins_iff.1 hentry).2, htag, hedges⟩

variable (h : t.NodesSound)

include h

/-- The round-robin nodes that are planned are those that are placed. -/
theorem pools_eq : pools t t.index = t.roundRobins.map (poolOf t) := by
  refine filterMap_eq_map_filter fun entry hentry => ?_
  dsimp only
  rw [if_neg (h.placed_mem_allowed hentry).1, Index.poolOf?, h.placedKind? hentry]
  by_cases hkind : t.kindOf entry.2 = .roundRobin
  · simp [hkind, poolOf]
  · simp [hkind]

variable (hfailure : (planning layout t).failure = none)

include hfailure

theorem map_source_planning :
    (planning layout t).groups.map Group.source = t.roundRobins.map (poolOf t) := by
  rw [planning, map_source_planGroups hfailure, pools_eq h]
  rfl

theorem node_of_planned {group : Group} (hgroup : group ∈ (planning layout t).groups) :
    ∃ entry ∈ t.placed, group.StandsFor t entry := by
  have hmem : group.source ∈ (planning layout t).groups.map Group.source :=
    List.mem_map_of_mem hgroup
  rw [map_source_planning h hfailure] at hmem
  obtain ⟨entry, hentry, hsource⟩ := List.mem_map.1 hmem
  exact ⟨entry, (Topology.mem_roundRobins_iff.1 hentry).1,
    standsFor_of_source_eq hentry hsource.symm⟩

theorem planned_of_node {entry : Nat × PlacedNode} (hentry : entry ∈ t.roundRobins) :
    ∃ group ∈ (planning layout t).groups, group.StandsFor t entry := by
  have hmem : poolOf t entry ∈ t.roundRobins.map (poolOf t) := List.mem_map_of_mem hentry
  rw [← map_source_planning h hfailure] at hmem
  obtain ⟨group, hgroup, hsource⟩ := List.mem_map.1 hmem
  exact ⟨group, hgroup, standsFor_of_source_eq hentry hsource⟩

end

theorem planOf_build {t : Topology} (h : t.NodesSound) {layout : PortLayout} {plan : Plan}
    (hbuild : Plan.build t t.index layout = .ok plan) : PlanOf t plan := by
  obtain ⟨groups, outputs⟩ := plan
  obtain ⟨hfailure, rfl, houtputs⟩ := Plan.build_eq_ok hbuild
  refine { groupsSound_planning with
    group_of_node := ?_, node_of_group := ?_, members_leaf := ?_, tags_nodup := ?_
    outputs_assigned := ?_ }
  · exact fun entry hentry hkind =>
      planned_of_node h hfailure (Topology.mem_roundRobins_iff.2 ⟨hentry, hkind⟩)
  · exact fun group hgroup => node_of_planned h hfailure hgroup
  · exact fun group hgroup houtput entry hentry hmember =>
      role_of_aggregatorIn? (aggregatorIn?_planGroups _ group hgroup houtput) hmember
        (h.placedKind? hentry)
  · have htags : (planning layout t).groups.map Group.tag =
        ((planning layout t).groups.map Group.source).map Prod.fst := by
      rw [List.map_map]
      rfl
    show ((planning layout t).groups.map Group.tag).Nodup
    rw [htags, map_source_planning h hfailure, List.map_map]
    exact (List.filter_sublist.map _).nodup h.placed_nodup
  · exact assignGroups_eq_ok houtputs

end ProxyChain.RoundRobin
