import ProxyChain.Proofs.RoundRobin.Dialling

/-!
# ProxyChain.Proofs.RoundRobin.Checks

**Which round-robin nodes can be planned**, said about the topology and without the index. The
nodes are numbered in the order of placement. A node that can be planned meets four conditions
(`Fits`); for one that cannot, the error tells the first condition that is not met (`Fault`).

Planning goes from node to node. What it does to one of them (`fits_of_planned`,
`fault_of_refused`) gives by induction what it does to all: either all fit, or the error is that of
the first one that does not (`verdict_planning`). Only then the outputs of different nodes are
compared (`fault_or_conflict_of_build`).
-/

namespace ProxyChain.RoundRobin

open ProxyChain.Topology

/-! ### The conditions -/

/-- A pool is neither too small nor too large. -/
def PoolFits (t : Topology) (source : Nat × PlacedNode) : Prop :=
  2 ≤ (t.poolMembers source).length ∧ (t.poolMembers source).length ≤ maxPoolSize

/-- The members of a pool with an output are neither selectors nor round-robin nodes. -/
def MembersFit (t : Topology) (source : Nat × PlacedNode) : Prop :=
  ∀ output, t.IsOutput source output → ∀ entry ∈ t.placed, t.InPool source entry.2.tag →
    (t.kindOf entry.2).role = .leaf

/-- The port at which a balancer listens is below all backend ports. -/
def ListenFits (layout : PortLayout) (number : Nat) : Prop :=
  layout.listenBase.toNat + number < layout.backendBase.toNat

/-- The last backend port of a pool is a port. -/
def BackendsFit (layout : PortLayout) (t : Topology) (number : Nat)
    (source : Nat × PlacedNode) : Prop :=
  layout.backendBase.toNat + maxPoolSize * number + (t.poolMembers source).length - 1 ≤ 65535

/-- A round-robin node with that number can be planned. -/
structure Fits (layout : PortLayout) (t : Topology) (number : Nat)
    (source : Nat × PlacedNode) : Prop where
  pool : PoolFits t source
  members : MembersFit t source
  listen : ListenFits layout number
  backends : BackendsFit layout t number source

/--
A round-robin node with that number cannot be planned, with the error for it. The conditions are in
the order in which they are checked: the ones before the first that is not met are.
-/
inductive Fault (layout : PortLayout) (t : Topology) (number : Nat)
    (source : Nat × PlacedNode) : CompileError → Prop
  | poolSize (hpool : ¬ PoolFits t source) :
      Fault layout t number source (.poolSize source.2.tag (t.poolMembers source).length)
  /-- The error is about the first member that does not fit. -/
  | outputKind {output : String} {before after : List String} {entry : Nat × PlacedNode}
      (hpool : PoolFits t source) (houtput : t.IsOutput source output)
      (hmembers : t.poolMembers source = before ++ entry.2.tag :: after)
      (hbefore : ∀ other ∈ t.placed, other.2.tag ∈ before → (t.kindOf other.2).role = .leaf)
      (hentry : entry ∈ t.placed) (hrole : (t.kindOf entry.2).role ≠ .leaf) :
      Fault layout t number source (.outputKind entry.2.tag (t.kindOf entry.2))
  | listenPort {port : UInt32} (hpool : PoolFits t source) (hmembers : MembersFit t source)
      (hlisten : ¬ ListenFits layout number)
      (hport : port.toNat = layout.listenBase.toNat + number) :
      Fault layout t number source (.portExhausted number port)
  /-- The error is about the first port that is none. -/
  | backendPorts {port : UInt32} (hpool : PoolFits t source) (hmembers : MembersFit t source)
      (hlisten : ListenFits layout number) (hbackends : ¬ BackendsFit layout t number source)
      (hport : port.toNat = max 65536 (layout.backendBase.toNat + maxPoolSize * number)) :
      Fault layout t number source (.portExhausted number port)

/-- All of these nodes can be planned, when the first of them has that number. -/
def AllFit (layout : PortLayout) (t : Topology) (first : Nat)
    (nodes : List (Nat × PlacedNode)) : Prop :=
  ∀ position source, nodes[position]? = some source → Fits layout t (first + position) source

/-- One of these nodes cannot be planned, with the error for it, while all before it can. -/
def FirstFault (layout : PortLayout) (t : Topology) (first : Nat)
    (nodes : List (Nat × PlacedNode)) (e : CompileError) : Prop :=
  ∃ done source rest, nodes = done ++ source :: rest ∧ AllFit layout t first done ∧
    Fault layout t (first + done.length) source e

/-- What the failure that ends planning says about the nodes to plan, or that there is none. -/
def Verdict (layout : PortLayout) (t : Topology) (first : Nat)
    (nodes : List (Nat × PlacedNode)) : Option CompileError → Prop
  | none => AllFit layout t first nodes
  | some e => FirstFault layout t first nodes e

/-- A tag is in a pool whose members send what they get to that target. -/
def SentTo (t : Topology) (tag target : String) : Prop :=
  ∃ source ∈ t.placed, t.InPool source tag ∧ t.IsOutput source target

/-- Pools with a common member have the same output, if they have one. -/
def OutputsAgree (t : Topology) : Prop :=
  ∀ tag first second, SentTo t tag first → SentTo t tag second → first = second

/-- Two pools with a common member have different outputs, with the error for it. The outputs are
in it by the tags that are dialled. -/
inductive Conflict (layout : PortLayout) (t : Topology) : CompileError → Prop
  | differ {tag first second : String} (hfirst : SentTo t tag first)
      (hsecond : SentTo t tag second) (hne : first ≠ second) :
      Conflict layout t (.conflictingOutput tag (dialTag (planning layout t).groups first)
        (dialTag (planning layout t).groups second))

section

variable {layout : PortLayout} {t : Topology} {number first : Nat} {source : Nat × PlacedNode}
  {nodes : List (Nat × PlacedNode)} {e : CompileError}

/-! ### Conditions and faults -/

theorem Fault.not_fits (h : Fault layout t number source e) : ¬ Fits layout t number source := by
  intro hfits
  cases h with
  | poolSize hpool => exact hpool hfits.pool
  | outputKind hpool houtput hmembers hbefore hentry hrole =>
      refine hrole (hfits.members _ houtput _ hentry ((mem_poolMembers_iff houtput.1).1 ?_))
      rw [hmembers]
      exact List.mem_append_right _ List.mem_cons_self
  | listenPort hpool hmembers hlisten => exact hlisten hfits.listen
  | backendPorts hpool hmembers hlisten hbackends => exact hbackends hfits.backends

theorem allFit_nil : AllFit layout t first [] :=
  nofun

theorem allFit_cons_iff : AllFit layout t first (source :: nodes) ↔
    Fits layout t first source ∧ AllFit layout t (first + 1) nodes := by
  constructor
  · intro h
    refine ⟨h 0 source rfl, fun position other hother => ?_⟩
    rw [Nat.add_assoc, Nat.add_comm 1]
    exact h (position + 1) other hother
  · rintro ⟨hsource, hnodes⟩ position other hother
    cases position with
    | zero =>
        obtain rfl := Option.some.inj hother
        exact hsource
    | succ position =>
        rw [Nat.add_comm position, ← Nat.add_assoc]
        exact hnodes position other hother

theorem verdict_here (h : Fault layout t first source e) :
    Verdict layout t first (source :: nodes) (some e) :=
  ⟨[], source, nodes, rfl, allFit_nil, h⟩

theorem Verdict.later {failure : Option CompileError} (hsource : Fits layout t first source)
    (h : Verdict layout t (first + 1) nodes failure) :
    Verdict layout t first (source :: nodes) failure := by
  cases failure with
  | none => exact allFit_cons_iff.2 ⟨hsource, h⟩
  | some e =>
      obtain ⟨done, other, rest, rfl, hdone, hfault⟩ := h
      refine ⟨source :: done, other, rest, rfl, allFit_cons_iff.2 ⟨hsource, hdone⟩, ?_⟩
      rwa [List.length_cons, Nat.add_comm done.length, ← Nat.add_assoc]

theorem FirstFault.not_allFit (h : FirstFault layout t first nodes e) :
    ¬ AllFit layout t first nodes := by
  obtain ⟨done, source, rest, rfl, -, hfault⟩ := h
  intro hfit
  exact hfault.not_fits (hfit done.length source (by simp))

theorem Conflict.not_outputsAgree (h : Conflict layout t e) : ¬ OutputsAgree t := by
  obtain ⟨hfirst, hsecond, hne⟩ := h
  exact fun hagree => hne (hagree _ _ _ hfirst hsecond)

/-! ### One node -/

section

variable (h : t.IsNormal) (hsource : source ∈ t.roundRobins)

include h hsource

theorem poolOf_pool : (poolOf t source).2.pool = t.poolMembers source :=
  h.pool_splitPool (mem_roundRobins_iff.1 hsource).1

theorem mem_poolOf_output_iff {output : String} :
    output ∈ (poolOf t source).2.output ↔ t.IsOutput source output := by
  obtain ⟨hplaced, hkind⟩ := mem_roundRobins_iff.1 hsource
  exact h.mem_output_iff hplaced hkind

theorem membersFit_of_plain (hplain : (poolOf t source).2.output.isSome = true →
    aggregatorIn? t.index (poolOf t source).2.pool = none) : MembersFit t source := by
  intro output houtput entry hentry hpool
  have hnone := hplain (Option.isSome_of_mem ((mem_poolOf_output_iff h hsource).2 houtput))
  refine role_of_aggregatorIn? hnone ?_ (h.placedKind? hentry)
  rw [poolOf_pool h hsource]
  exact (mem_poolMembers_iff hpool.1).2 hpool

variable {planned : List Group} (hplanned : planned.length ≤ 2048)

include hplanned

theorem fits_of_planned (hbases : layout.listenBase < layout.backendBase) {group : Group}
    (hgroup : Planned t.index layout planned source.2.tag (poolOf t source).2 group) :
    Fits layout t planned.length source := by
  have hsize := hgroup.size_bounds
  have hbackend := hgroup.backend_ports
  rw [poolOf_pool h hsource] at hsize hbackend
  have hbound := PortLayout.backendPorts_eq_ok hplanned (Nat.lt_of_lt_of_le Nat.two_pos hsize.1)
    hbackend
  exact {
    pool := hsize
    members := membersFit_of_plain h hsource hgroup.no_aggregator
    listen := PortLayout.listenPort_eq_ok hbases hplanned hgroup.listen_port
    backends := by rw [BackendsFit]; omega }

theorem fault_of_refused (hbases : layout.listenBase < layout.backendBase)
    (hrefused : Refused t.index layout planned source.2.tag (poolOf t source).2 e) :
    Fault layout t planned.length source e := by
  have hpool := poolOf_pool h hsource
  cases hrefused with
  | poolSize hsize =>
      rw [hpool] at hsize ⊢
      exact .poolSize hsize
  | outputKind hsize houtput hfound =>
      -- The index knows a member as an aggregator only if it is placed as one.
      obtain ⟨output, houtput⟩ := Option.isSome_iff_exists.1 houtput
      obtain ⟨before, member, after, kind, hmembers, hbefore, hkind, hrole, rfl⟩ :=
        aggregatorIn?_eq_some hfound
      obtain ⟨entry, hentry, rfl, rfl⟩ := h.placedKind?_eq_some_iff.1 hkind
      rw [hpool] at hsize hmembers
      exact .outputKind hsize ((mem_poolOf_output_iff h hsource).1 houtput) hmembers
        (fun other hother htag => role_of_aggregatorIn? hbefore htag (h.placedKind? hother))
        hentry hrole
  | listenPort hsize hplain hlisten =>
      obtain ⟨hbound, port, rfl, hport⟩ := PortLayout.listenPort_eq_error hplanned hlisten
      rw [hpool] at hsize
      exact .listenPort hsize (membersFit_of_plain h hsource hplain) (Nat.not_lt.2 hbound) hport
  | backendPorts hsize hplain hlisten hbackend =>
      rw [hpool] at hsize hbackend
      obtain ⟨hbound, port, rfl, hport⟩ := PortLayout.backendPorts_eq_error hplanned hbackend
      refine .backendPorts hsize (membersFit_of_plain h hsource hplain)
        (PortLayout.listenPort_eq_ok hbases hplanned hlisten) ?_ hport
      rw [BackendsFit]
      omega

end

/-! ### All nodes -/

/-- Planning is right about the nodes to plan, the first of them being numbered by the groups that
are planned already. -/
theorem verdict_planGroups (h : t.IsNormal) (hbases : layout.listenBase < layout.backendBase) :
    ∀ {nodes : List (Nat × PlacedNode)} {planned : List Group},
      (∀ source ∈ nodes, source ∈ t.roundRobins) → GroupsSound planned →
      Verdict layout t planned.length nodes
        (planGroups t.index layout planned (nodes.map (poolOf t))).failure
  | [], _, _, _ => allFit_nil
  | source :: rest, planned, hnodes, hplanned => by
      have hsource := hnodes source List.mem_cons_self
      rw [List.map_cons, poolOf, planGroups]
      cases hgroup : planGroup t.index layout planned source.2.tag
          (t.index.splitPool source.1 source.2.detours) with
      | error e =>
          -- Planning ends here, and no node before this one is at fault.
          exact verdict_here (fault_of_refused h hsource hplanned.length_le hbases
            (planGroup_eq_error hgroup))
      | ok group =>
          -- The next node is numbered by one more group.
          have hstep := planGroup_eq_ok_iff.1 hgroup
          have hrest := verdict_planGroups h hbases (fun other hother =>
            hnodes other (List.mem_cons_of_mem source hother)) (hplanned.append hstep)
          rw [List.length_append, List.length_singleton] at hrest
          exact hrest.later (fits_of_planned h hsource hplanned.length_le hbases hstep)

theorem verdict_planning (h : t.IsNormal) (hbases : layout.listenBase < layout.backendBase) :
    Verdict layout t 0 t.roundRobins (planning layout t).failure := by
  rw [planning, pools_eq h.toNodesSound]
  exact verdict_planGroups h hbases (fun _ hsource => hsource) groupsSound_nil

/-! ### Outputs -/

theorem sentTo_of_planned (h : t.IsNormal) (hfailure : (planning layout t).failure = none)
    {group : Group} (hgroup : group ∈ (planning layout t).groups) {tag output : String}
    (htag : tag ∈ group.candidates) (houtput : output ∈ group.output) : SentTo t tag output := by
  obtain ⟨source, hsource, hstands⟩ := node_of_planned h.toNodesSound hfailure hgroup
  exact ⟨source, hsource, (hstands.mem_candidates_iff h.toNodesSound).1 htag,
    (hstands.mem_output_iff h hsource).1 houtput⟩

theorem conflict_of_assignOutputs (h : t.IsNormal)
    (hfailure : (planning layout t).failure = none)
    (herror : assignOutputs (planning layout t).groups = .error e) : Conflict layout t e := by
  obtain ⟨a, ha, b, hb, tag, htaga, htagb, first, hfirst, second, hsecond, hne, rfl⟩ :=
    assignOutputs_eq_error herror
  exact .differ (sentTo_of_planned h hfailure ha htaga hfirst)
    (sentTo_of_planned h hfailure hb htagb hsecond) fun heq => hne (congrArg _ heq)

/-- In a plan each member has one output, and different outputs are dialled differently. -/
theorem PlainPlan.outputsAgree {plan : Plan} (h : PlainPlan t plan) : OutputsAgree t := by
  rintro tag first second ⟨a, ha, hpoola, hfirst⟩ ⟨b, hb, hpoolb, hsecond⟩
  have hdialled := h.outputFor?_eq_some_iff.2 ⟨a, ha, first, hpoola, hfirst, rfl⟩
  rw [h.outputFor?_eq_some_iff.2 ⟨b, hb, second, hpoolb, hsecond, rfl⟩] at hdialled
  exact (h.mapTag_inj hsecond.2.2.isTarget hfirst.2.2.isTarget (Option.some.inj hdialled)).symm

/-! ### All together -/

theorem allFit_of_build (h : t.IsNormal) (hbases : layout.listenBase < layout.backendBase)
    {plan : Plan} (hbuild : Plan.build t t.index layout = .ok plan) :
    AllFit layout t 0 t.roundRobins := by
  have hverdict := verdict_planning h hbases
  rwa [(Plan.build_eq_ok hbuild).1] at hverdict

/-- Outputs are compared only once all nodes are planned. -/
theorem fault_or_conflict_of_build (h : t.IsNormal)
    (hbases : layout.listenBase < layout.backendBase)
    (hbuild : Plan.build t t.index layout = .error e) :
    FirstFault layout t 0 t.roundRobins e ∨
      AllFit layout t 0 t.roundRobins ∧ Conflict layout t e := by
  have hverdict := verdict_planning h hbases
  rcases Plan.build_eq_error hbuild with hfailure | ⟨hfailure, hassign⟩
  · rw [hfailure] at hverdict
    exact Or.inl hverdict
  · rw [hfailure] at hverdict
    exact Or.inr ⟨hverdict, conflict_of_assignOutputs h hfailure hassign⟩

end

end ProxyChain.RoundRobin
