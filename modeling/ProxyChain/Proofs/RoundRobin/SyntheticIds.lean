import ProxyChain.Proofs.RoundRobin.PortRanges
import ProxyChain.Proofs.Text.Digits

/-!
# ProxyChain.Proofs.RoundRobin.SyntheticIds

**Synthetic ids are found, fresh and stable.** The search for an id is a loop without a bound of its
own (`Rehashes`). With fewer than a hundred used ids it ends, because the ids of a tag with the
counters from 100 to 199 are a hundred different ones (`rehashes_syntheticId`). As planning takes
each id it finds, no two groups have the same; and as long as no two tags have the same hash there
is nothing to search, so the id of a group is that of its tag alone (`Plan.id_eq_of_build`).
-/

namespace ProxyChain.RoundRobin

/-! ### The search -/

/-- The search for an id that is not used, from an id and a counter on: while the id is used, the tag
is hashed with the counter, which goes up. After so many rounds it ends with an id. -/
inductive Rehashes (tag : String) (used : List String) :
    (id : String) → (counter rounds : Nat) → (found : String) → Prop
  | free {id : String} {counter : Nat} (hfree : id ∉ used) : Rehashes tag used id counter 0 id
  | taken {id found : String} {counter rounds : Nat} (htaken : id ∈ used)
      (hrest : Rehashes tag used (countedId tag counter) (counter + 1) rounds found) :
      Rehashes tag used id counter (rounds + 1) found

section

variable {tag : String} {used : List String}

theorem Rehashes.not_mem {id found : String} {counter rounds : Nat}
    (h : Rehashes tag used id counter rounds found) : found ∉ used := by
  induction h with
  | free hfree => exact hfree
  | taken _ _ ih => exact ih

/-- An id with a counter that is not used ends the search, if it is within reach. -/
theorem rehashes_unusedId {free : Nat} (hfree : countedId tag free ∉ used) :
    ∀ {tries counter : Nat}, counter ≤ free → free ≤ counter + tries →
      ∃ rounds ≤ free - counter,
        Rehashes tag used (countedId tag counter) (counter + 1) rounds
          (unusedId tag used tries counter)
  | 0, counter, hlow, hhigh => by
      obtain rfl : free = counter := Nat.le_antisymm hhigh hlow
      exact ⟨0, Nat.zero_le _, .free hfree⟩
  | tries + 1, counter, hlow, hhigh => by
      rw [unusedId]
      split
      · rename_i htaken
        have hne : free ≠ counter := fun heq => hfree (heq ▸ htaken)
        obtain ⟨rounds, hrounds, hrest⟩ :=
          rehashes_unusedId hfree (by omega : counter + 1 ≤ free) (by omega : free ≤ _ + tries)
        exact ⟨rounds + 1, by omega, .taken htaken hrest⟩
      · exact ⟨0, Nat.zero_le _, .free ‹_›⟩

theorem rehashes_syntheticId (tag : String) (hused : used.length < 100) :
    ∃ rounds ≤ 200, Rehashes tag used (Text.hex32 (fingerprint tag)) used.length rounds
      (syntheticId tag used) := by
  -- A hundred different ids do not fit among the used ones.
  have hinj : ∀ i < 100, ∀ j < 100, countedId tag (100 + i) = countedId tag (100 + j) → i = j := by
    intro i hi j hj h
    have hsum := countedId_inj_of_three (by omega) (by omega) h
    omega
  obtain ⟨i, hi, hfree⟩ := exists_not_mem_of_inj hinj hused
  have hsearch : ∃ rounds ≤ 100 + i - used.length,
      Rehashes tag used (countedId tag used.length) (used.length + 1) rounds
        (unusedId tag used searchSpan used.length) :=
    rehashes_unusedId hfree (by omega) (by rw [searchSpan]; omega)
  obtain ⟨rounds, hrounds, hrest⟩ := hsearch
  rw [syntheticId_eq]
  split
  · exact ⟨rounds + 1, by omega, .taken ‹_› hrest⟩
  · exact ⟨0, Nat.zero_le _, .free ‹_›⟩

theorem exists_word_unusedId : ∀ tries counter, ∃ word,
    unusedId tag used tries counter = Text.hex32 word
  | 0, _ => ⟨_, rfl⟩
  | tries + 1, counter => by
      rw [unusedId]
      split
      · exact exists_word_unusedId tries (counter + 1)
      · exact ⟨_, rfl⟩

theorem exists_word_syntheticId : ∃ word, syntheticId tag used = Text.hex32 word := by
  rw [syntheticId_eq]
  split
  · exact exists_word_unusedId _ _
  · exact ⟨_, rfl⟩

end

/-- What is found for a tag beside used ids: the search ends with it, it is eight hexadecimal digits
in lower case, and it was not used. -/
structure Found (tag : String) (used : List String) (id : String) : Prop where
  ends : ∃ rounds ≤ 200,
    Rehashes tag used (Text.hex32 (fingerprint tag)) used.length rounds id
  length_eq : id.length = 8
  digits : ∀ c ∈ id.toList, c ∈ "0123456789abcdef".toList
  fresh : id ∉ used

theorem found_syntheticId (tag : String) {used : List String} (hused : used.length < 100) :
    Found tag used (syntheticId tag used) := by
  obtain ⟨rounds, hrounds, hends⟩ := rehashes_syntheticId tag hused
  obtain ⟨word, hword⟩ : ∃ word, syntheticId tag used = Text.hex32 word := exists_word_syntheticId
  refine ⟨⟨rounds, hrounds, hends⟩, ?_, ?_, hends.not_mem⟩
  · rw [hword]
    exact Text.length_hex32 word
  · rw [hword]
    exact fun c hc => Text.mem_hex32 hc

/-! ### Ids of a plan -/

/-- The tags of the round-robin nodes of a topology, in the order of placement. -/
def roundRobinTags (t : Topology) : List String :=
  (pools t t.index).map Prod.fst

section

variable {t : Topology} {layout : PortLayout} {plan : Plan}

theorem Plan.map_tag_of_build (hbuild : Plan.build t t.index layout = .ok plan) :
    plan.groups.map Group.tag = roundRobinTags t := by
  obtain ⟨hfailure, hgroups, -⟩ := Plan.build_eq_ok hbuild
  have hsources := congrArg (List.map Prod.fst) (map_source_planGroups hfailure)
  rw [List.map_map] at hsources
  rw [hgroups]
  exact hsources

/-- If no two tags of these groups have the same hash, each group has the id of its tag alone. -/
def HashedIds (groups : List Group) : Prop :=
  (groups.map fun group => fingerprint group.tag).Nodup →
    ∀ group ∈ groups, group.id = Text.hex32 (fingerprint group.tag)

theorem HashedIds.append {index : Index} {planned : List Group} {tag : String}
    {edges : Index.PoolEdges} {group : Group} (h : HashedIds planned)
    (hgroup : Planned index layout planned tag edges group) : HashedIds (planned ++ [group]) := by
  intro hnodup
  rw [List.map_append, List.map_singleton, List.nodup_append] at hnodup
  obtain ⟨hplanned, -, hnew⟩ := hnodup
  have hids := h hplanned
  refine List.forall_mem_append.2 ⟨hids, List.forall_mem_singleton.2 ?_⟩
  rw [hgroup.id_eq, hgroup.tag_eq, syntheticId_eq, if_neg]
  -- The id is taken only by a group whose tag has the same hash.
  intro htaken
  obtain ⟨other, hother, hid⟩ := List.mem_map.1 htaken
  rw [hids other hother] at hid
  refine hnew _ (List.mem_map_of_mem hother) _ (List.mem_singleton_self _) ?_
  rw [hgroup.tag_eq]
  exact hex32_inj hid

theorem hashedIds_planGroups {index : Index} (pools : List (String × Index.PoolEdges)) :
    HashedIds (planGroups index layout [] pools).groups :=
  planGroups_induction (motive := HashedIds) (fun _ _ _ _ h hgroup => h.append hgroup)
    fun _ => List.forall_mem_nil _

theorem Plan.id_eq_of_build (hbuild : Plan.build t t.index layout = .ok plan)
    (hhashes : ((roundRobinTags t).map fingerprint).Nodup) {group : Group}
    (hgroup : group ∈ plan.groups) : group.id = Text.hex32 (fingerprint group.tag) := by
  rw [← Plan.map_tag_of_build hbuild, List.map_map] at hhashes
  rw [(Plan.build_eq_ok hbuild).2.1] at hhashes hgroup
  exact hashedIds_planGroups _ hhashes group hgroup

end

/-- Beside fewer than a hundred used ids an id is found, and planning a group uses it; the ids of a
plan are all different; and where no two tags of round-robin nodes have the same hash, an id depends
on the tag alone, so a node keeps it whatever else changes. -/
theorem syntheticIds_found_fresh_stable :
    (∀ (tag : String) (used : List String), used.length < 100 →
      Found tag used (syntheticId tag used)) ∧
    (∀ (index : Index) (layout : PortLayout) (planned : List Group) (tag : String)
      (edges : Index.PoolEdges) (group : Group),
      planGroup index layout planned tag edges = .ok group →
      (planned ++ [group]).map Group.id =
        planned.map Group.id ++ [syntheticId tag (planned.map Group.id)]) ∧
    (∀ (t : Topology) (layout : PortLayout) (plan : Plan),
      Plan.build t t.index layout = .ok plan → (plan.groups.map Group.id).Nodup) ∧
    ∀ (t : Topology) (layout : PortLayout) (plan : Plan),
      Plan.build t t.index layout = .ok plan → ((roundRobinTags t).map fingerprint).Nodup →
      ∀ group ∈ plan.groups, group.id = Text.hex32 (fingerprint group.tag) ∧
        ∀ (t' : Topology) (layout' : PortLayout) (plan' : Plan),
          Plan.build t' t'.index layout' = .ok plan' →
          ((roundRobinTags t').map fingerprint).Nodup →
          ∀ group' ∈ plan'.groups, group'.tag = group.tag → group'.id = group.id := by
  refine ⟨fun tag used hused => found_syntheticId tag hused, ?_, ?_, ?_⟩
  · intro index layout planned tag edges group hgroup
    rw [List.map_append, List.map_singleton, (planGroup_eq_ok_iff.1 hgroup).id_eq]
  · intro t layout plan hbuild
    rw [(Plan.build_eq_ok hbuild).2.1]
    exact groupsSound_planning.ids_nodup
  · intro t layout plan hbuild hhashes group hgroup
    have hid := Plan.id_eq_of_build hbuild hhashes hgroup
    refine ⟨hid, fun t' layout' plan' hbuild' hhashes' group' hgroup' htag => ?_⟩
    rw [Plan.id_eq_of_build hbuild' hhashes' hgroup', htag, hid]

/-- The round-robin nodes of `twoPools` in another order and behind a third one. -/
def reorderedPools : Topology where
  layers := [
    { id := "layer-1"
      nodes := [
        { tag := "rr3", detours := ["b", "c"] },
        { tag := "rr2", detours := ["a", "c"] },
        { tag := "rr1", detours := ["a", "b"] }] },
    { id := "layer-2", nodes := [{ tag := "a" }, { tag := "b" }, { tag := "c" }] }]
  library := .named "rr3" .roundRobin :: twoPools.library

/-- Their plan. -/
def reorderedPlan : Plan where
  groups := [
    { tag := "rr3", index := 0, id := "f7de47a2", listenPort := 25080
      backendPorts := [25100, 25101], candidates := ["b", "c"], output := none },
    { tag := "rr2", index := 1, id := "f8de4935", listenPort := 25081
      backendPorts := [25132, 25133], candidates := ["a", "c"], output := none },
    { tag := "rr1", index := 2, id := "f5de447c", listenPort := 25082
      backendPorts := [25164, 25165], candidates := ["a", "b"], output := none }]

/-- The id of `rr` is used already, so it is searched; and `rr1` keeps its id in another topology. -/
theorem ids_kept_reorderedPools :
    let used := [Text.hex32 (fingerprint "rr")]
    used.length < 100 ∧ Found "rr" used (syntheticId "rr" used) ∧
      planGroup twoPools.index {} [] "rr1" ⟨["a", "b"], some "direct"⟩ = .ok twoPoolsFirst ∧
      ([] ++ [twoPoolsFirst]).map Group.id =
        [].map Group.id ++ [syntheticId "rr1" ([].map Group.id)] ∧
      Plan.build twoPools twoPools.index {} = .ok twoPoolsPlan ∧
      (twoPoolsPlan.groups.map Group.id).Nodup ∧
      ((roundRobinTags twoPools).map fingerprint).Nodup ∧
      Plan.build reorderedPools reorderedPools.index {} = .ok reorderedPlan ∧
      ((roundRobinTags reorderedPools).map fingerprint).Nodup ∧
      twoPoolsFirst ∈ twoPoolsPlan.groups ∧
      reorderedPlan.groups[2] ∈ reorderedPlan.groups ∧
      reorderedPlan.groups[2].tag = twoPoolsFirst.tag ∧
      reorderedPlan.groups[2].id = twoPoolsFirst.id := by
  obtain ⟨hfound, hplanned, hnodup, hstable⟩ := syntheticIds_found_fresh_stable
  have hstep : planGroup twoPools.index {} [] "rr1" ⟨["a", "b"], some "direct"⟩ =
      .ok twoPoolsFirst := by decide +kernel
  have hhashes : ((roundRobinTags twoPools).map fingerprint).Nodup := by decide +kernel
  have hreordered : Plan.build reorderedPools reorderedPools.index {} = .ok reorderedPlan := by
    decide +kernel
  have hothers : ((roundRobinTags reorderedPools).map fingerprint).Nodup := by decide +kernel
  have hfirst : twoPoolsFirst ∈ twoPoolsPlan.groups := List.mem_cons_self
  have hlast : reorderedPlan.groups[2] ∈ reorderedPlan.groups := List.getElem_mem _
  exact ⟨by decide, hfound _ _ (by decide), hstep, hplanned _ _ _ _ _ _ hstep, build_twoPools,
    hnodup _ _ _ build_twoPools, hhashes, hreordered, hothers, hfirst, hlast, rfl,
    (hstable _ _ _ build_twoPools hhashes _ hfirst).2 _ _ _ hreordered hothers _ hlast rfl⟩

end ProxyChain.RoundRobin
