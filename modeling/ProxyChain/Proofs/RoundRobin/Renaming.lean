import ProxyChain.Proofs.RoundRobin.Checks
import ProxyChain.Proofs.Topology.Renaming

/-!
# ProxyChain.Proofs.RoundRobin.Renaming

**Plans under other names.** The ids of groups are made from the tags of round-robin nodes, and
everything else in a plan is made without looking into tags. So a renaming that leaves the
round-robin nodes their tags leaves ids and ports as they are, and the plan is that of before with
its nodes renamed; where planning fails, it fails with the renamed error (`Plan.build_mapTags`).

Each function of the planner is followed in the same way: given the renamed arguments, it gives the
renamed result.
-/

namespace ProxyChain

open ProxyChain.Topology (placedIn_of_mem mem_roundRobins_iff)

/-! ### Results that may be errors -/

/-- A result with one function for what is right and one for errors. -/
def mapResult (onError : ε → δ) (onOk : α → β) : Except ε α → Except δ β
  | .error e => .error (onError e)
  | .ok a => .ok (onOk a)

/-- A fold is followed step by step. -/
theorem foldlM_mapResult {onError : ε → δ} {onAcc : β → γ} {onItem : α → ι}
    {step : β → α → Except ε β} {step' : γ → ι → Except δ γ} {xs : List α}
    (hstep : ∀ acc, ∀ a ∈ xs, step' (onAcc acc) (onItem a) = mapResult onError onAcc (step acc a)) :
    ∀ init, (xs.map onItem).foldlM step' (onAcc init) =
      mapResult onError onAcc (xs.foldlM step init) := by
  induction xs with
  | nil => exact fun _ => rfl
  | cons a rest ih =>
      intro init
      rw [List.map_cons, List.foldlM_cons, List.foldlM_cons, hstep init a List.mem_cons_self]
      cases step init a with
      | error e => rfl
      | ok acc => exact ih (fun acc b hb => hstep acc b (List.mem_cons_of_mem a hb)) acc

/-! ### Errors -/

namespace CompileError

/-- The tags that an error names. -/
def tags : CompileError → List String
  | poolSize tag _ => [tag]
  | outputKind candidate _ => [candidate]
  | candidateKind candidate _ => [candidate]
  | conflictingOutput candidate first second => [candidate, first, second]
  | portExhausted _ _ => []

/-- An error about nodes with other names. -/
def mapTags (f : String → String) : CompileError → CompileError
  | poolSize tag size => poolSize (f tag) size
  | outputKind candidate kind => outputKind (f candidate) kind
  | candidateKind candidate kind => candidateKind (f candidate) kind
  | conflictingOutput candidate first second => conflictingOutput (f candidate) (f first) (f second)
  | portExhausted group port => portExhausted group port

theorem mapTags_congr {f g : String → String} {e : CompileError}
    (h : ∀ tag ∈ e.tags, f tag = g tag) : e.mapTags f = e.mapTags g := by
  cases e <;> simp_all [tags, mapTags]

theorem mapTags_of_tags_eq_nil {f : String → String} {e : CompileError} (h : e.tags = []) :
    e.mapTags f = e := by
  cases e <;> simp_all [tags, mapTags]

end CompileError

namespace RoundRobin

/-! ### Ports -/

section

variable {group : Nat}

theorem tags_of_portOf {word : UInt32} {e : CompileError} (h : portOf group word = .error e) :
    e.tags = [] := by
  rw [portOf] at h
  split at h
  · cases h
  · obtain rfl := Except.error.inj h
    rfl

theorem tags_of_consecutivePorts :
    ∀ {count : Nat} {first : UInt32} {e : CompileError},
      consecutivePorts group count first = .error e → e.tags = []
  | 0, _, _, h => nomatch h
  | count + 1, first, e, h => by
      rw [consecutivePorts] at h
      cases hport : portOf group first with
      | error e' =>
          rw [hport] at h
          obtain rfl := Except.error.inj h
          exact tags_of_portOf hport
      | ok port =>
          cases hrest : consecutivePorts group count (first + 1) with
          | ok ports => rw [hport, hrest] at h; cases h
          | error e' =>
              rw [hport, hrest] at h
              obtain rfl := Except.error.inj h
              exact tags_of_consecutivePorts hrest

theorem PortLayout.tags_of_listenPort {layout : PortLayout} {e : CompileError}
    (h : layout.listenPort group = .error e) : e.tags = [] := by
  rw [PortLayout.listenPort] at h
  split at h
  · obtain rfl := Except.error.inj h
    rfl
  · exact tags_of_portOf h

end

/-! ### Pools -/

end RoundRobin

/-- The targets of a round-robin node under other names. -/
def Index.PoolEdges.mapTags (f : String → String) (edges : Index.PoolEdges) : Index.PoolEdges :=
  ⟨edges.pool.map f, edges.output.map f⟩

section

variable {f : String → String} (h : Tag.Renaming f) (t : Topology)

include h

theorem isOutputTarget_mapTags (hop : Nat) (tag : String) :
    (t.mapTags f).index.isOutputTarget hop (f tag) = t.index.isOutputTarget hop tag := by
  have hlast : (t.mapTags f).index.isSecondToLastHop hop = t.index.isSecondToLastHop hop := by
    rw [Index.isSecondToLastHop, Index.isSecondToLastHop, Topology.index_hopCount,
      Topology.hopCount_mapTags, Topology.index_hopCount]
  simp only [Index.isOutputTarget, Topology.inHop_mapTags h, hlast, h.eq_internet_iff]

theorem splitPool_mapTags (hop : Nat) (detours : List String) :
    (t.mapTags f).index.splitPool hop (detours.map f) =
      (t.index.splitPool hop detours).mapTags f := by
  simp only [Index.splitPool, Tag.unique_map h, List.filter_map, List.find?_map,
    Index.PoolEdges.mapTags, Function.comp_def, Topology.inHop_mapTags h,
    isOutputTarget_mapTags h]

theorem poolOf?_mapTags (hop : Nat) (node : PlacedNode) :
    (t.mapTags f).index.poolOf? hop (node.mapTags f) =
      (t.index.poolOf? hop node).map (Index.PoolEdges.mapTags f) := by
  rw [Index.poolOf?, Index.poolOf?]
  simp only [PlacedNode.mapTags, Topology.placedKind?_mapTags h, splitPool_mapTags h]
  split <;> rfl

namespace RoundRobin

/-- A round-robin node to be planned, under another name. -/
def mapPool (f : String → String) (pool : String × Index.PoolEdges) : String × Index.PoolEdges :=
  (f pool.1, pool.2.mapTags f)

theorem pools_mapTags :
    pools (t.mapTags f) (t.mapTags f).index = (pools t t.index).map (mapPool f) := by
  rw [pools, pools, Topology.placed_mapTags, List.filterMap_map, List.map_filterMap]
  refine List.filterMap_congr fun entry _ => ?_
  have htag : ((Topology.mapEntry f entry).2.tag = "") ↔ entry.2.tag = "" := h.eq_empty_iff
  simp only [Function.comp_apply, htag]
  split
  · rfl
  · rw [Topology.mapEntry, poolOf?_mapTags h, Option.map_map, Option.map_map]
    rfl

/-! ### Groups -/

theorem aggregatorIn?_mapTags (pool : List String) :
    aggregatorIn? (t.mapTags f).index (pool.map f) =
      (aggregatorIn? t.index pool).map (CompileError.mapTags f) := by
  rw [aggregatorIn?, aggregatorIn?, List.findSome?_map, List.map_findSome?]
  congr 1
  funext candidate
  simp only [Function.comp_apply, Topology.placedKind?_mapTags h]
  cases t.index.placedKind? candidate with
  | none => rfl
  | some kind => cases hkind : kind.isAggregator <;> simp [hkind, CompileError.mapTags]

end RoundRobin

end

namespace RoundRobin

/-- A group for a node whose targets have other names. Its id stays. -/
def Group.mapTags (f : String → String) (group : Group) : Group :=
  { group with
    tag := f group.tag
    candidates := group.candidates.map f
    output := group.output.map f }

/-- Groups under other names, with the error that ended planning. -/
def Planning.mapTags (f : String → String) (planning : Planning) : Planning :=
  ⟨planning.groups.map (Group.mapTags f), planning.failure.map (CompileError.mapTags f)⟩

section

variable {f : String → String} (h : Tag.Renaming f) (t : Topology) (layout : PortLayout)

include h

/-- The group of a node that keeps its tag. -/
theorem planGroup_mapTags {planned : List Group} {tag : String} {edges : Index.PoolEdges}
    (hfixed : f tag = tag) :
    planGroup (t.mapTags f).index layout (planned.map (Group.mapTags f)) (f tag)
        (edges.mapTags f) =
      mapResult (CompileError.mapTags f) (Group.mapTags f)
        (planGroup t.index layout planned tag edges) := by
  obtain ⟨pool, output⟩ := edges
  have hids : (planned.map (Group.mapTags f)).map Group.id = planned.map Group.id := by
    rw [List.map_map]
    rfl
  have haggregator : (if (output.map f).isSome then
        aggregatorIn? (t.mapTags f).index (pool.map f) else none) =
      (if output.isSome then aggregatorIn? t.index pool else none).map
        (CompileError.mapTags f) := by
    rw [Option.isSome_map, aggregatorIn?_mapTags h]
    split <;> rfl
  rw [Index.PoolEdges.mapTags, planGroup, planGroup]
  dsimp only
  rw [haggregator, List.length_map, List.length_map, hids]
  split
  · rfl
  · cases (if output.isSome then aggregatorIn? t.index pool else none) with
    | some e => rfl
    | none =>
        cases hlisten : layout.listenPort planned.length with
        | error e =>
            exact congrArg Except.error
              (CompileError.mapTags_of_tags_eq_nil (PortLayout.tags_of_listenPort hlisten)).symm
        | ok listenPort =>
            cases hbackend : layout.backendPorts planned.length pool.length with
            | error e =>
                exact congrArg Except.error
                  (CompileError.mapTags_of_tags_eq_nil (tags_of_consecutivePorts hbackend)).symm
            | ok backendPorts =>
                rw [hfixed]
                show Except.ok _ = Except.ok (Group.mapTags f _)
                rw [Group.mapTags, hfixed]

theorem planGroups_mapTags :
    ∀ (pools : List (String × Index.PoolEdges)) (planned : List Group),
      (∀ pool ∈ pools, f pool.1 = pool.1) →
      planGroups (t.mapTags f).index layout (planned.map (Group.mapTags f))
          (pools.map (mapPool f)) =
        (planGroups t.index layout planned pools).mapTags f
  | [], _, _ => rfl
  | (tag, edges) :: rest, planned, hfixed => by
      obtain ⟨htag, hrest⟩ := List.forall_mem_cons.1 hfixed
      rw [List.map_cons, mapPool, planGroups, planGroups, planGroup_mapTags h t layout htag]
      cases planGroup t.index layout planned tag edges with
      | error e => rfl
      | ok group =>
          have hnext := planGroups_mapTags rest (planned ++ [group]) hrest
          rwa [List.map_append, List.map_singleton] at hnext

/-! ### Outputs -/

theorem dialTag_mapTags (groups : List Group) (tag : String) :
    dialTag (groups.map (Group.mapTags f)) (f tag) = f (dialTag groups tag) := by
  have hfind : (groups.map (Group.mapTags f)).findRev? (fun group => group.tag = f tag) =
      (groups.findRev? fun group => group.tag = tag).map (Group.mapTags f) := by
    rw [List.findRev?_eq_find?_reverse, List.findRev?_eq_find?_reverse, ← List.map_reverse,
      List.find?_map]
    congr 2
    funext group
    simp [Group.mapTags, h.eq_iff]
  rw [dialTag, dialTag, hfind]
  cases groups.findRev? fun group => group.tag = tag with
  | none => rfl
  | some group => exact (h.system (isSystem_outboundTag group)).symm

theorem assignOutput_mapTags (output : String) (assigned : List (String × String))
    (candidate : String) :
    assignOutput (f output) (assigned.map (Prod.map f f)) (f candidate) =
      mapResult (CompileError.mapTags f) (List.map (Prod.map f f))
        (assignOutput output assigned candidate) := by
  rw [assignOutput, assignOutput, lookup_map_prod h.injective]
  cases assigned.lookup candidate with
  | none =>
      show Except.ok _ = Except.ok ((assigned ++ [(candidate, output)]).map (Prod.map f f))
      rw [List.map_append]
      rfl
  | some previous =>
      simp only [Option.map_some, h.eq_iff]
      split <;> rfl

theorem assignGroup_mapTags (groups : List Group) (assigned : List (String × String))
    (group : Group) :
    assignGroup (groups.map (Group.mapTags f)) (assigned.map (Prod.map f f)) (group.mapTags f) =
      mapResult (CompileError.mapTags f) (List.map (Prod.map f f))
        (assignGroup groups assigned group) := by
  rw [assignGroup, assignGroup, Group.mapTags]
  cases group.output with
  | none => rfl
  | some output =>
      simp only [Option.map_some, dialTag_mapTags h]
      exact foldlM_mapResult (fun acc candidate _ => assignOutput_mapTags h _ acc candidate)
        assigned

theorem assignOutputs_mapTags (groups : List Group) :
    assignOutputs (groups.map (Group.mapTags f)) =
      mapResult (CompileError.mapTags f) (List.map (Prod.map f f)) (assignOutputs groups) :=
  foldlM_mapResult (fun acc group _ => assignGroup_mapTags h groups acc group) []

/-! ### Plans -/

/-- A plan for nodes with other names. -/
def Plan.mapTags (f : String → String) (plan : Plan) : Plan :=
  ⟨plan.groups.map (Group.mapTags f), plan.outputs.map (Prod.map f f)⟩

theorem Plan.mapTag_mapTags (plan : Plan) (tag : String) :
    (plan.mapTags f).mapTag (f tag) = f (plan.mapTag tag) :=
  dialTag_mapTags h plan.groups tag

theorem Plan.outputFor?_mapTags (plan : Plan) (tag : String) :
    (plan.mapTags f).outputFor? (f tag) = (plan.outputFor? tag).map f :=
  lookup_map_prod h.injective f tag plan.outputs

/-- Planning, where the round-robin nodes keep their tags. -/
theorem Plan.build_mapTags (hfixed : ∀ pool ∈ pools t t.index, f pool.1 = pool.1) :
    Plan.build (t.mapTags f) (t.mapTags f).index layout =
      mapResult (CompileError.mapTags f) (Plan.mapTags f) (Plan.build t t.index layout) := by
  have hgroups := planGroups_mapTags h t layout _ [] hfixed
  rw [List.map_nil, ← pools_mapTags h] at hgroups
  rw [Plan.build, Plan.build, hgroups]
  generalize planGroups t.index layout [] (pools t t.index) = planning
  obtain ⟨groups, failure⟩ := planning
  cases failure with
  | some e => rfl
  | none =>
      simp only [Planning.mapTags, Option.map_none, assignOutputs_mapTags h]
      cases assignOutputs groups <;> rfl

end

/-! ### The tags in an error -/

theorem dialTag_cases (groups : List Group) (tag : String) :
    dialTag groups tag = tag ∨ Tag.isSystem (dialTag groups tag) = true := by
  rw [dialTag]
  split
  · exact Or.inr (isSystem_outboundTag _)
  · exact Or.inl rfl

/-- What keeps a group from being planned names tags of placed nodes only. -/
theorem tags_of_refused {t : Topology} (h : t.IsNormal) {layout : PortLayout} {e : CompileError}
    {before : List Group} {pool : String × Index.PoolEdges} (hpool : pool ∈ pools t t.index)
    (hrefused : Refused t.index layout before pool.1 pool.2 e) :
    ∀ tag ∈ e.tags, ∃ hop, t.PlacedIn tag hop := by
  cases hrefused with
  | poolSize hsize =>
      rw [pools_eq h.toNodesSound] at hpool
      obtain ⟨source, hsource, rfl⟩ := List.mem_map.1 hpool
      intro tag htag
      rw [List.mem_singleton.1 htag]
      exact ⟨source.1, placedIn_of_mem (mem_roundRobins_iff.1 hsource).1⟩
  | outputKind hsize houtput hfound =>
      obtain ⟨_, member, _, kind, -, -, hkind, -, rfl⟩ := aggregatorIn?_eq_some hfound
      obtain ⟨entry, hentry, rfl, -⟩ := h.placedKind?_eq_some_iff.1 hkind
      intro tag htag
      rw [List.mem_singleton.1 htag]
      exact ⟨entry.1, placedIn_of_mem hentry⟩
  | listenPort hsize hplain hlisten =>
      rw [PortLayout.tags_of_listenPort hlisten]
      exact fun _ htag => absurd htag List.not_mem_nil
  | backendPorts hsize hplain hlisten hbackend =>
      rw [tags_of_consecutivePorts hbackend]
      exact fun _ htag => absurd htag List.not_mem_nil

/-- An error of planning names tags of the library, and tags that the compiler makes up. -/
theorem tags_of_build {t : Topology} (h : t.IsNormal) {layout : PortLayout} {e : CompileError}
    (herror : Plan.build t t.index layout = .error e) :
    ∀ tag ∈ e.tags, tag ∈ t.library.map NodeDefinition.tag ∨ Tag.isSystem tag = true := by
  rcases Plan.build_eq_error herror with hfailure | ⟨hnone, hassign⟩
  · obtain ⟨before, -, pool, hpool, hrefused⟩ :=
      exists_refused_of_failure groupsSound_nil hfailure
    intro tag htag
    obtain ⟨hop, hplaced⟩ := tags_of_refused h hpool hrefused tag htag
    exact Or.inl (h.mem_library_of_isTarget hplaced.isTarget)
  · have hdialled : ∀ {tag target : String}, SentTo t tag target →
        dialTag (planning layout t).groups target ∈ t.library.map NodeDefinition.tag ∨
          Tag.isSystem (dialTag (planning layout t).groups target) = true := by
      rintro tag target ⟨source, -, -, houtput⟩
      refine (dialTag_cases _ target).imp_left fun hself => ?_
      rw [hself]
      exact h.mem_library_of_isTarget houtput.2.2.isTarget
    -- The candidate is a placed node, and the two outputs are what it is sent to.
    obtain ⟨hfirst, hsecond, -⟩ := conflict_of_assignOutputs h hnone hassign
    obtain ⟨source, -, hpool, -⟩ := id hfirst
    intro tag htag
    simp only [CompileError.tags, List.mem_cons, List.not_mem_nil, or_false] at htag
    rcases htag with rfl | rfl | rfl
    · exact Or.inl (h.mem_library_of_isTarget hpool.2.2.isTarget)
    · exact hdialled hfirst
    · exact hdialled hsecond

end RoundRobin

end ProxyChain
