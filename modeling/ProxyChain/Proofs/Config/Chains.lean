import Mathlib.Logic.Relation
import ProxyChain.Proofs.Config.Order
import ProxyChain.Proofs.Config.SyntheticTags

/-!
# ProxyChain.Proofs.Config.Chains

**Chains of outbounds end.** An outbound leads to the one through which it is dialled, to its
members if it is a selector, and to the targets of its backends if it is the client of a group
(`Dials`). Every step leads from one level to the next (`StandsAt`): selectors of inbounds stand in
front of the first hop, nodes and groups in their hops, the exit behind the last one. So no chain
comes back to where it was, and none is longer than there are levels.

Levels are read off tags, so each tag may stand at one level only (`StandsAt.unique`). A user who
gives the tag of a selector to a node, or the tag of a backend to an inbound, has two things under
one tag: the first is excluded here, and the second is why the rules of backends are told apart from
those of the user's inbounds (`RuntimeConfig.backendRules`).
-/

namespace ProxyChain

open RoundRobin ProxyChain.Topology

/-! ### Steps of a chain -/

/-- An outbound leads to another one, where groups are taken to send traffic by some rules. -/
inductive Dials (plan : Plan) (config : RuntimeConfig) (rules : List RouteRule) :
    String → String → Prop
  /-- To the outbound through which it is dialled. -/
  | detour {out : Outbound} {target : String} (hout : out ∈ config.outbounds)
      (htarget : out.detour = some target) : Dials plan config rules out.tag target
  /-- To the members of a selector. -/
  | member {out : Outbound} {target : String} (hout : out ∈ config.outbounds)
      (htarget : target ∈ out.outbounds) : Dials plan config rules out.tag target
  /-- From the client of a group to what its backend inbounds are routed to. -/
  | backend {group : Group} {tag target : String} (hgroup : group ∈ plan.groups)
      (htag : tag ∈ group.inboundTags) (hrule : .inboundTo tag target ∈ rules) :
      Dials plan config rules group.outboundTag target

theorem Dials.mono {plan : Plan} {config : RuntimeConfig} {rules rules' : List RouteRule}
    (hrules : ∀ group ∈ plan.groups, ∀ tag ∈ group.inboundTags, ∀ target,
      .inboundTo tag target ∈ rules → .inboundTo tag target ∈ rules')
    {source target : String} (h : Dials plan config rules source target) :
    Dials plan config rules' source target := by
  cases h with
  | detour hout htarget => exact .detour hout htarget
  | member hout htarget => exact .member hout htarget
  | backend hgroup htag hrule => exact .backend hgroup htag (hrules _ hgroup _ htag _ hrule)

/-- The rules of backend inbounds: those behind the rule for name queries and the rules of the
inbounds that have targets. -/
def RuntimeConfig.backendRules (config : RuntimeConfig) (t : Topology) : List RouteRule :=
  config.rules.drop (1 + (t.inbounds.filter fun inbound => inbound.detours ≠ []).length)

theorem Lists.backendRules_eq {settings : CompilerSettings} {t : Topology} {plan : Plan}
    {config : RuntimeConfig} (h : Lists settings t plan config) : config.backendRules t =
      plan.groups.flatMap fun group => (group.inboundTags.zip group.candidates).map
        fun member => .inboundTo member.1 (plan.mapTag member.2) := by
  rw [RuntimeConfig.backendRules, h.rules_eq]
  refine List.drop_left' ?_
  rw [List.length_cons, List.length_map, Nat.add_comm]

section

variable {settings : CompilerSettings} {t : Topology} {plan : Plan} {config : RuntimeConfig}
  (h : Lists settings t plan config)
  (hother : ∀ inbound ∈ t.inbounds, ∀ group ∈ plan.groups, inbound.tag ∉ group.inboundTags)

include h hother

/-- Where no inbound of the user's has the tag of a backend, all rules about backends are theirs. -/
theorem Lists.mem_backendRules {group : Group} (hgroup : group ∈ plan.groups) {tag target : String}
    (htag : tag ∈ group.inboundTags) (hrule : .inboundTo tag target ∈ config.rules) :
    .inboundTo tag target ∈ config.backendRules t := by
  rw [h.rules_eq, List.mem_append, List.mem_cons] at hrule
  rcases hrule with (hdns | huser) | hbackend
  · cases hdns
  · obtain ⟨inbound, hinbound, heq⟩ := List.mem_map.1 huser
    obtain rfl : inbound.tag = tag := by
      have htags := congrArg RouteRule.inbounds heq
      exact (List.cons.inj htags).1
    exact absurd htag (hother inbound (List.mem_filter.1 hinbound).1 group hgroup)
  · rwa [h.backendRules_eq]

theorem Lists.dials_iff {source target : String} :
    Dials plan config config.rules source target ↔
      Dials plan config (config.backendRules t) source target :=
  ⟨.mono fun _ hgroup _ htag _ hrule => h.mem_backendRules hother hgroup htag hrule,
    .mono fun _ _ _ _ _ hrule => List.mem_of_mem_drop hrule⟩

end

/-! ### Levels -/

/-- The level at which an outbound of that tag stands. -/
inductive StandsAt (t : Topology) (plan : Plan) : String → Nat → Prop
  /-- The selector of an inbound stands in front of the first hop. -/
  | selector {inbound : Inbound} (hinbound : inbound ∈ t.inbounds) :
      StandsAt t plan inbound.selectorTag 0
  /-- The outbound of a node or of its group stands in the hop of the node. -/
  | node {tag : String} {hop : Nat} (hplaced : t.PlacedIn tag hop) :
      StandsAt t plan (plan.mapTag tag) (hop + 1)
  /-- The exit stands behind the last hop. -/
  | exit : StandsAt t plan Tag.internet (t.hopCount + 1)

theorem StandsAt.level_le {t : Topology} {plan : Plan} {tag : String} {level : Nat}
    (h : StandsAt t plan tag level) : level ≤ t.hopCount + 1 := by
  cases h with
  | selector hinbound => exact Nat.zero_le _
  | node hplaced => exact Nat.le_succ_of_le hplaced.hop_lt
  | exit => exact Nat.le_refl _

namespace RoundRobin.NormalPlan

variable {t : Topology} {plan : Plan} (h : NormalPlan t plan)

include h

theorem standsAt_ownNode {entry : Nat × PlacedNode} (hentry : entry ∈ t.placed)
    (hkind : t.kindOf entry.2 ≠ .roundRobin) : StandsAt t plan entry.2.tag (entry.1 + 1) := by
  have hnode : StandsAt t plan (plan.mapTag entry.2.tag) (entry.1 + 1) :=
    .node (placedIn_of_mem hentry)
  rwa [h.mapTag_node hentry hkind] at hnode

theorem standsAt_oneAhead {hop : Nat} {tag : String} (htag : t.OneAhead hop tag) :
    StandsAt t plan (plan.mapTag tag) (hop + 2) := by
  rcases htag with hplaced | ⟨rfl, hlast⟩
  · exact .node hplaced
  · rw [h.mapTag_internet, show hop + 2 = t.hopCount + 1 by omega]
    exact .exit

theorem standsAt_twoAhead {hop : Nat} {tag : String} (htag : t.TwoAhead hop tag) :
    StandsAt t plan (plan.mapTag tag) (hop + 3) := by
  rcases htag with hplaced | ⟨rfl, hlast⟩
  · exact .node hplaced
  · rw [h.mapTag_internet, show hop + 3 = t.hopCount + 1 by omega]
    exact .exit

/-- All targets of a node that is no round-robin node are one step ahead. -/
theorem oneAhead_of_mem_detours {entry : Nat × PlacedNode} (hentry : entry ∈ t.placed)
    (hkind : t.kindOf entry.2 ≠ .roundRobin) {tag : String} (htag : tag ∈ entry.2.detours) :
    t.OneAhead entry.1 tag := by
  have hlinks := h.node_links entry hentry
  cases hrole : (t.kindOf entry.2).role with
  | leaf => rw [hrole] at hlinks; exact hlinks.2 tag htag
  | selector => rw [hrole] at hlinks; exact hlinks.2 tag htag
  | roundRobin =>
      cases hnode : t.kindOf entry.2 <;> rw [hnode] at hrole hkind <;>
        first | exact absurd rfl hkind | cases hrole

end RoundRobin.NormalPlan

/-! ### Every step leads to the next level -/

namespace RoundRobin.PlainPlan

variable {t : Topology} {plan : Plan} (h : PlainPlan t plan)

include h

theorem detour_ahead {entry : Nat × PlacedNode} (hentry : entry ∈ t.placed)
    (hkind : t.kindOf entry.2 ≠ .roundRobin) {target : String}
    (htarget : (t.ownOutbound plan entry.2).detour = some target) :
    StandsAt t plan target (entry.1 + 2) := by
  rcases detour_ownOutbound h.toNormalPlan htarget with
    ⟨source, -, output, hpool, houtput, rfl⟩ | ⟨first, hfirst, rfl, -⟩
  -- The output of a pool is one step ahead of its members.
  · have hhop : entry.1 = source.1 + 1 := h.hop_unique (placedIn_of_mem hentry) hpool.2.2
    rw [hhop]
    exact h.standsAt_twoAhead houtput.2.2
  · exact h.standsAt_oneAhead (h.oneAhead_of_mem_detours hentry hkind hfirst)

variable (settings : CompilerSettings)
  (hbound : ∀ group ∈ plan.groups, group.candidates.length ≤ positionBound)

include hbound

theorem backend_ahead {group : Group} {tag target : String} (hgroup : group ∈ plan.groups)
    (htag : tag ∈ group.inboundTags)
    (hrule : .inboundTo tag target ∈ (assembled settings t plan).backendRules t) :
    ∃ level, StandsAt t plan group.outboundTag level ∧ StandsAt t plan target (level + 1) := by
  rw [(h.lists_assembled settings).backendRules_eq] at hrule
  obtain ⟨owner, howner, hmember⟩ := List.mem_flatMap.1 hrule
  obtain ⟨⟨own, candidate⟩, hpair, heq⟩ := List.mem_map.1 hmember
  obtain ⟨hown, hcandidate⟩ := List.of_mem_zip hpair
  obtain ⟨rfl, rfl⟩ : own = tag ∧ plan.mapTag candidate = target := by
    cases heq
    exact ⟨rfl, rfl⟩
  -- The tag of a backend tells its group.
  obtain rfl : owner = group := List.inj_on_of_nodup_map h.ids_nodup howner hgroup
    (id_eq_of_mem_inboundTags (hbound owner howner) (hbound group hgroup) hown htag)
  obtain ⟨source, hsource, hstands⟩ := h.node_of_group owner howner
  have hpool := (hstands.mem_candidates_iff h.toNodesSound).1 hcandidate
  have hclient : StandsAt t plan (plan.mapTag source.2.tag) (source.1 + 1) :=
    .node (placedIn_of_mem hsource)
  rw [← hstands.tag_eq, h.mapTag_group howner] at hclient
  exact ⟨source.1 + 1, hclient, .node hpool.2.2⟩

/-- A step leads from one level to the next. -/
theorem level_succ_of_dials {source target : String}
    (hdials : Dials plan (assembled settings t plan) ((assembled settings t plan).backendRules t)
      source target) :
    ∃ level, StandsAt t plan source level ∧ StandsAt t plan target (level + 1) := by
  cases hdials with
  | detour hout htarget =>
      rcases h.outbound_cases hout with
        ⟨entry, hentry, hkind, -, rfl⟩ | ⟨group, -, rfl⟩ | rfl | ⟨inbound, -, _, _, _, -, rfl⟩
      · rw [ownOutbound_tag]
        exact ⟨_, h.standsAt_ownNode hentry hkind, h.detour_ahead hentry hkind htarget⟩
      · cases htarget
      · cases htarget
      · cases htarget
  | member hout htarget =>
      rcases h.outbound_cases hout with
        ⟨entry, hentry, hkind, -, rfl⟩ | ⟨group, -, rfl⟩ | rfl |
          ⟨inbound, hinbound, _, _, _, -, rfl⟩
      · obtain ⟨detour, hdetour, rfl⟩ := exists_mem_detours_of_mem_outbounds htarget
        rw [ownOutbound_tag]
        exact ⟨_, h.standsAt_ownNode hentry hkind,
          h.standsAt_oneAhead (h.oneAhead_of_mem_detours hentry hkind hdetour)⟩
      · cases htarget
      · cases htarget
      · obtain ⟨detour, hdetour, rfl⟩ := List.mem_map.1 htarget
        exact ⟨0, .selector hinbound, .node ((h.inbound_links inbound hinbound).2 detour hdetour)⟩
  | backend hgroup htag hrule => exact h.backend_ahead settings hbound hgroup htag hrule

end RoundRobin.PlainPlan

/-! ### One level for each tag -/

section

variable {t : Topology} {plan : Plan} (h : PlainPlan t plan)

include h

theorem RoundRobin.PlainPlan.mapTag_ne_internet {tag : String} {hop : Nat}
    (hplaced : t.PlacedIn tag hop) : plan.mapTag tag ≠ Tag.internet := by
  intro heq
  rw [← h.mapTag_internet] at heq
  exact h.tag_ne_internet hplaced
    (h.mapTag_inj hplaced.isTarget (Or.inr rfl) heq)

variable (hfree : ∀ inbound ∈ t.inbounds, inbound.selectorTag ∉ t.placedTags)

include hfree

theorem RoundRobin.PlainPlan.mapTag_ne_selectorTag {inbound : Inbound}
    (hinbound : inbound ∈ t.inbounds) {tag : String} {hop : Nat} (hplaced : t.PlacedIn tag hop) :
    plan.mapTag tag ≠ inbound.selectorTag := by
  rcases h.mapTag_cases hplaced.isTarget with ⟨group, -, -, hmap⟩ | ⟨hmap, -⟩
  · rw [hmap]
    exact outboundTag_ne_selectorTag group inbound
  · rw [hmap]
    rintro rfl
    exact hfree inbound hinbound hplaced.mem_placedTags

/-- No tag stands at two levels. -/
theorem StandsAt.unique {tag : String} {i j : Nat} (hi : StandsAt t plan tag i)
    (hj : StandsAt t plan tag j) : i = j := by
  generalize htag : tag = tag' at hj
  cases hi with
  | selector hinbound =>
      cases hj with
      | selector => rfl
      | node hplaced => exact absurd htag.symm (h.mapTag_ne_selectorTag hfree hinbound hplaced)
      | exit => exact absurd htag (selectorTag_ne_internet _)
  | node hplaced =>
      cases hj with
      | selector hinbound => exact absurd htag (h.mapTag_ne_selectorTag hfree hinbound hplaced)
      | node hother =>
          have heq := h.mapTag_inj hplaced.isTarget hother.isTarget htag
          rw [h.hop_unique hplaced (heq ▸ hother)]
      | exit => exact absurd htag (h.mapTag_ne_internet hplaced)
  | exit =>
      cases hj with
      | selector => exact absurd htag.symm (selectorTag_ne_internet _)
      | node hplaced => exact absurd htag.symm (h.mapTag_ne_internet hplaced)
      | exit => rfl

end

/-! ### Chains -/

section

variable {α : Type} {r : α → α → Prop} {level : α → Nat → Prop}
  (hstep : ∀ a b, r a b → ∃ i, level a i ∧ level b (i + 1))
  (hunique : ∀ a i j, level a i → level a j → i = j)

include hstep hunique

/-- Where steps lead from one level to the next, none leads back. -/
theorem not_transGen_self (a : α) : ¬ Relation.TransGen r a a := by
  have hgrows : ∀ b, Relation.TransGen r a b → ∃ i j, level a i ∧ level b j ∧ i < j := by
    intro b hchain
    induction hchain with
    | single hab =>
        obtain ⟨i, ha, hb⟩ := hstep _ _ hab
        exact ⟨i, i + 1, ha, hb, Nat.lt_succ_self i⟩
    | tail _ hbc ih =>
        obtain ⟨i, j, ha, hb, hlt⟩ := ih
        obtain ⟨j', hb', hc⟩ := hstep _ _ hbc
        obtain rfl := hunique _ _ _ hb hb'
        exact ⟨i, j + 1, ha, hc, Nat.lt_succ_of_lt hlt⟩
  intro hcycle
  obtain ⟨i, j, hi, hj, hlt⟩ := hgrows a hcycle
  exact Nat.ne_of_lt hlt (hunique a i j hi hj)

variable {last : Nat} (hlast : ∀ a i, level a i → i ≤ last)

include hlast

theorem level_add_length_le {first : α} {i : Nat} (hfirst : level first i) {rest : List α}
    (hchain : (first :: rest).IsChain r) : i + rest.length ≤ last := by
  induction rest generalizing first i with
  | nil => exact hlast first i hfirst
  | cons next rest ih =>
      obtain ⟨hdials, hrest⟩ := List.isChain_cons_cons.1 hchain
      obtain ⟨i', hfirst', hnext⟩ := hstep first next hdials
      obtain rfl := hunique first i i' hfirst hfirst'
      have hle := ih hnext hrest
      rw [List.length_cons]
      omega

/-- So a chain has no more steps than there are levels behind the lowest one. -/
theorem length_le_of_isChain {first : α} {rest : List α} (hchain : (first :: rest).IsChain r) :
    rest.length ≤ last := by
  cases rest with
  | nil => exact Nat.zero_le last
  | cons next rest =>
      obtain ⟨i, hfirst, -⟩ := hstep first next (List.isChain_cons_cons.1 hchain).1
      have hle := level_add_length_le hstep hunique hlast hfirst hchain
      exact (Nat.le_add_left _ i).trans hle

end

/-- In a compiled config no chain of outbounds comes back to where it was, and none has more steps
than there are hops and one. Groups send traffic by the rules of their backends here; those are all
rules about backends unless an inbound of the user's has the tag of a backend. -/
theorem compile_chains_end {settings : CompilerSettings} {t : Topology} {config : RuntimeConfig}
    (h : compile settings t = .ok config)
    (hplain : ∀ d ∈ t.library, Tag.isSystem d.tag = false)
    (hfree : ∀ inbound ∈ t.inbounds, inbound.selectorTag ∉ t.placedTags) :
    ∃ plan, planOf settings t.normalize = .ok plan ∧
      (∀ tag, ¬ Relation.TransGen (Dials plan config (config.backendRules t.normalize)) tag tag) ∧
      (∀ first rest,
        (first :: rest).IsChain (Dials plan config (config.backendRules t.normalize)) →
          rest.length ≤ t.layers.length + 1) ∧
      ((∀ inbound ∈ t.inbounds, ∀ group ∈ plan.groups, inbound.tag ∉ group.inboundTags) →
        ∀ source target, Dials plan config config.rules source target ↔
          Dials plan config (config.backendRules t.normalize) source target) := by
  obtain ⟨plan, hplan, rfl⟩ := compile_eq_ok_iff.1 h
  have hp := plainPlan_of_planOf hplain hplan
  have hbound : ∀ group ∈ plan.groups, group.candidates.length ≤ positionBound :=
    fun group hgroup => (Plan.allotted_of_build hplan group hgroup).size_bounds.2.trans (by decide)
  have hfree : ∀ inbound ∈ t.normalize.inbounds,
      inbound.selectorTag ∉ t.normalize.placedTags := by
    intro inbound hinbound hplaced
    obtain ⟨original, horiginal, htag⟩ := exists_inbound_of_mem_normalize hinbound
    refine hfree original horiginal ((placedTags_normalize_sublist t).subset ?_)
    rwa [Inbound.selectorTag, htag]
  have hunique : ∀ tag i j, StandsAt t.normalize plan tag i → StandsAt t.normalize plan tag j →
      i = j := fun _ _ _ => StandsAt.unique hp hfree
  have hstep : ∀ source target, Dials plan (assembled settings t.normalize plan)
      ((assembled settings t.normalize plan).backendRules t.normalize) source target →
      ∃ level, StandsAt t.normalize plan source level ∧
        StandsAt t.normalize plan target (level + 1) :=
    fun _ _ => hp.level_succ_of_dials settings hbound
  refine ⟨plan, hplan, not_transGen_self hstep hunique, fun first rest hchain => ?_,
    fun hother source target => ?_⟩
  · have hle := length_le_of_isChain hstep hunique (fun _ _ => StandsAt.level_le) hchain
    rwa [hopCount_normalize] at hle
  · have hother : ∀ inbound ∈ t.normalize.inbounds, ∀ group ∈ plan.groups,
        inbound.tag ∉ group.inboundTags := by
      intro inbound hinbound
      obtain ⟨original, horiginal, htag⟩ := exists_inbound_of_mem_normalize hinbound
      exact htag ▸ hother original horiginal
    exact (hp.lists_assembled settings).dials_iff hother

theorem chains_end_crossroads : compile {} crossroads = .ok crossroadsConfig ∧
    (∀ d ∈ crossroads.library, Tag.isSystem d.tag = false) ∧
    (∀ inbound ∈ crossroads.inbounds, inbound.selectorTag ∉ crossroads.placedTags) ∧
    ∃ plan, planOf {} crossroads.normalize = .ok plan ∧
      (∀ tag, ¬ Relation.TransGen (Dials plan crossroadsConfig
        (crossroadsConfig.backendRules crossroads.normalize)) tag tag) ∧
      (∀ first rest, (first :: rest).IsChain (Dials plan crossroadsConfig
        (crossroadsConfig.backendRules crossroads.normalize)) →
          rest.length ≤ crossroads.layers.length + 1) ∧
      ((∀ inbound ∈ crossroads.inbounds, ∀ group ∈ plan.groups,
          inbound.tag ∉ group.inboundTags) →
        ∀ source target, Dials plan crossroadsConfig crossroadsConfig.rules source target ↔
          Dials plan crossroadsConfig (crossroadsConfig.backendRules crossroads.normalize)
            source target) :=
  ⟨compile_crossroads, by decide, by decide,
    compile_chains_end compile_crossroads (by decide) (by decide)⟩

/-- An inbound that has the tag of a backend and sends traffic to the group of that backend. -/
def backendBorrowed : Topology where
  layers := [
    { id := "layer-1", nodes := [{ tag := "rr", detours := ["x", "y"] }] },
    { id := "layer-2", nodes := [{ tag := "x" }, { tag := "y" }] }]
  library := [.internet, .named "rr" .roundRobin, .named "x" .vmess, .named "y" .trojan]
  inbounds := [{ tag := "sys-rr-4f546725-in-0", port := 1080, detours := ["rr"] }]

/-- With its rule, the traffic of the backend goes back to the group. -/
theorem chain_returns_backendBorrowed :
    (∀ d ∈ backendBorrowed.library, Tag.isSystem d.tag = false) ∧
    (∀ inbound ∈ backendBorrowed.inbounds, inbound.selectorTag ∉ backendBorrowed.placedTags) ∧
    ∃ config plan, compile {} backendBorrowed = .ok config ∧
      planOf {} backendBorrowed.normalize = .ok plan ∧
      Relation.TransGen (Dials plan config config.rules)
        "sys-rr-4f546725-lb" "sys-rr-4f546725-lb" := by
  have hparts : ∃ config plan, compile {} backendBorrowed = .ok config ∧
      planOf {} backendBorrowed.normalize = .ok plan ∧
      ∃ group ∈ plan.groups, group.outboundTag = "sys-rr-4f546725-lb" ∧
        "sys-rr-4f546725-in-0" ∈ group.inboundTags ∧
        .inboundTo "sys-rr-4f546725-in-0" "sys-rr-4f546725-lb" ∈ config.rules := by
    refine ⟨_, _, rfl, rfl, _, List.mem_singleton.2 rfl, rfl, ?_, ?_⟩
    · decide
    · decide
  obtain ⟨config, plan, hcompile, hplan, group, hgroup, hclient, hbackend, hrule⟩ := hparts
  refine ⟨by decide, by decide, config, plan, hcompile, hplan, .single ?_⟩
  have hback : Dials plan config config.rules group.outboundTag "sys-rr-4f546725-lb" :=
    .backend hgroup hbackend hrule
  rwa [hclient] at hback

end ProxyChain
