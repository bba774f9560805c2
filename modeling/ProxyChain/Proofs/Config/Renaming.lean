import ProxyChain.Proofs.Config.References
import ProxyChain.Proofs.RoundRobin.Renaming

/-!
# ProxyChain.Proofs.Config.Renaming

**Compiling under other names.** A renaming that keeps the tags of round-robin nodes and of the
selectors of inbounds gives the same config with its outbounds renamed, or the same error with its
nodes renamed (`compile_mapTags`). Giving a node another tag is such a renaming, unless the node is
a round-robin node, whose tag goes into its id (`compile_renameTag`).
-/

namespace ProxyChain

open RoundRobin ProxyChain.Topology

/-! ### Renaming a config -/

/-- An outbound where nodes have other names. -/
def Outbound.mapTags (f : String → String) (out : Outbound) : Outbound :=
  { out with
    tag := f out.tag
    detour := out.detour.map f
    outbounds := out.outbounds.map f
    defaultOutbound := out.defaultOutbound.map f }

/-- A rule where nodes have other names. -/
def RouteRule.mapTags (f : String → String) (rule : RouteRule) : RouteRule :=
  { rule with outbound := rule.outbound.map f }

/-- A config where nodes have other names. The inbounds are as they were. -/
def RuntimeConfig.mapTags (f : String → String) (config : RuntimeConfig) : RuntimeConfig :=
  { config with
    outbounds := config.outbounds.map (Outbound.mapTags f)
    rules := config.rules.map (RouteRule.mapTags f) }

/-- Without dangling references, only the tags of outbounds matter. -/
theorem RuntimeConfig.Closed.mapTags_congr {config : RuntimeConfig} (h : config.Closed)
    {f g : String → String} (hfg : ∀ tag ∈ config.outboundTags, f tag = g tag) :
    config.mapTags f = config.mapTags g := by
  have houtbounds : config.outbounds.map (Outbound.mapTags f) =
      config.outbounds.map (Outbound.mapTags g) := by
    refine List.map_congr_left fun out hout => ?_
    have hrefers := h.outbounds_closed out hout
    have htag : f out.tag = g out.tag := hfg _ (List.mem_map_of_mem hout)
    have hdetour : out.detour.map f = out.detour.map g :=
      Option.map_congr fun tag htag => hfg tag (hrefers.detour_mem tag htag)
    have hmembers : out.outbounds.map f = out.outbounds.map g :=
      List.map_congr_left fun tag htag => hfg tag (hrefers.member_mem tag htag)
    have hdefault : out.defaultOutbound.map f = out.defaultOutbound.map g :=
      Option.map_congr fun tag htag =>
        hfg tag (hrefers.member_mem tag (hrefers.default_mem tag htag))
    rw [Outbound.mapTags, Outbound.mapTags, htag, hdetour, hmembers, hdefault]
  have hrules : config.rules.map (RouteRule.mapTags f) =
      config.rules.map (RouteRule.mapTags g) := by
    refine List.map_congr_left fun rule hrule => ?_
    have houtbound : rule.outbound.map f = rule.outbound.map g :=
      Option.map_congr fun tag htag =>
        hfg tag ((h.rules_closed rule hrule).outbound_mem tag htag)
    rw [RouteRule.mapTags, RouteRule.mapTags, houtbound]
  rw [RuntimeConfig.mapTags, RuntimeConfig.mapTags, houtbounds, hrules]

section

variable {f : String → String} (h : Tag.Renaming f) (t : Topology) (plan : Plan)

include h

/-! ### Outbounds of nodes -/

theorem dialled_mapTags (detours : List String) :
    Plan.dialled (plan.mapTags f) (detours.map f) = (Plan.dialled plan detours).map f := by
  have hmap : (plan.mapTags f).mapTag ∘ f = f ∘ plan.mapTag :=
    funext (Plan.mapTag_mapTags h plan)
  rw [Plan.dialled, Plan.dialled, List.filter_map, List.map_map, List.map_map, hmap]
  congr 1
  refine List.filter_congr fun tag _ => ?_
  simp [h.eq_empty_iff]

theorem nextHop?_mapTags (dialled : List String) :
    nextHop? (t.mapTags f).index (dialled.map f) = (nextHop? t.index dialled).map f := by
  cases dialled with
  | nil => rfl
  | cons tag rest =>
      simp only [nextHop?, List.map_cons, List.head?_cons, Option.filter_some,
        targetKind?_mapTags h]
      split <;> rfl

theorem bareOutbound_mapTags (node : PlacedNode) :
    (t.mapTags f).bareOutbound (node.mapTags f) = (t.bareOutbound node).mapTags f := by
  rw [bareOutbound, bareOutbound, kindOf_mapTags h]
  show Outbound.ofDefinition _ (f node.tag) ((t.mapTags f).definition? (f node.tag)) = _
  rw [definition?_mapTags h]
  cases t.definition? node.tag <;> rfl

theorem ownOutbound_mapTags (node : PlacedNode) :
    (t.mapTags f).ownOutbound (plan.mapTags f) (node.mapTags f) =
      (t.ownOutbound plan node).mapTags f := by
  have hdialled : (node.mapTags f).detours.map (plan.mapTags f).mapTag =
      (node.detours.map plan.mapTag).map f := by
    show (node.detours.map f).map (plan.mapTags f).mapTag = _
    rw [List.map_map, List.map_map]
    exact List.map_congr_left fun tag _ => Plan.mapTag_mapTags h plan tag
  have houtput : (plan.mapTags f).outputFor? (node.mapTags f).tag =
      (plan.outputFor? node.tag).map f := Plan.outputFor?_mapTags h plan node.tag
  rw [ownOutbound, ownOutbound, hdialled, houtput, kindOf_mapTags h, bareOutbound_mapTags h,
    Tag.unique_map h, nextHop?_mapTags h]
  cases plan.outputFor? node.tag with
  | some output => rfl
  | none =>
      cases (t.kindOf node).isSelectorLike with
      | true =>
          simp only [Option.map_none, List.head?_map]
          rfl
      | false => rfl

theorem ownOutbounds_mapTags :
    (t.mapTags f).ownOutbounds (plan.mapTags f) =
      (t.ownOutbounds plan).map (Outbound.mapTags f) := by
  have hnodes : (t.mapTags f).ownNodes = t.ownNodes.map (PlacedNode.mapTags f) := by
    rw [ownNodes, ownNodes, placed_mapTags, List.map_map]
    show ((t.placed.map (PlacedNode.mapTags f ∘ Prod.snd)).filter _) = _
    rw [← List.map_map, List.filter_map]
    congr 1
    refine List.filter_congr fun node _ => ?_
    simp only [Function.comp_apply, kindOf_mapTags h]
  rw [ownOutbounds, ownOutbounds, hnodes, List.map_map, List.map_map]
  exact List.map_congr_left fun node _ => ownOutbound_mapTags h t plan node

/-! ### Other outbounds -/

theorem withClients_mapTags (settings : CompilerSettings) (nodes : List Outbound) :
    withClients settings (plan.mapTags f) (nodes.map (Outbound.mapTags f)) =
      (withClients settings plan nodes).map (Outbound.mapTags f) := by
  have hclient : ∀ group : Group,
      (group.mapTags f).client settings = (group.client settings).mapTags f := by
    intro group
    have htag : f (group.client settings).tag = group.outboundTag :=
      h.system (isSystem_outboundTag group)
    rw [Outbound.mapTags, htag]
    rfl
  have hkey : ∀ a b : Outbound, (a.mapTags f).tag = (b.mapTags f).tag ↔ a.tag = b.tag :=
    fun _ _ => h.eq_iff
  rw [withClients, withClients, Plan.mapTags, List.foldl_map]
  refine List.foldl_hom _ fun outbounds group => ?_
  rw [hclient]
  exact setBy_map hkey _ outbounds

variable {inbound : Inbound} (hfixed : f inbound.selectorTag = inbound.selectorTag)

include hfixed

theorem selector?_mapTags : (inbound.mapTags f).selector? (plan.mapTags f) =
    (inbound.selector? plan).map (Outbound.mapTags f) := by
  have hdefault : (inbound.mapTags f).selectorDefault.map (plan.mapTags f).mapTag =
      (inbound.selectorDefault.map plan.mapTag).map f := by
    show (inbound.selectorDefault.map f).map _ = _
    rw [Option.map_map, Option.map_map]
    exact Option.map_congr fun tag _ => Plan.mapTag_mapTags h plan tag
  have hdialled : Plan.dialled (plan.mapTags f) (inbound.mapTags f).detours =
      (Plan.dialled plan inbound.detours).map f := dialled_mapTags h plan inbound.detours
  rw [Inbound.selector?, Inbound.selector?, hdefault, hdialled]
  rcases Plan.dialled plan inbound.detours with _ | ⟨first, _ | ⟨second, rest⟩⟩
  · rfl
  · rfl
  · have hchosen : ((inbound.selectorDefault.map plan.mapTag).map f).filter
          ((first :: second :: rest).map f).contains =
        ((inbound.selectorDefault.map plan.mapTag).filter
          (first :: second :: rest).contains).map f := by
      cases inbound.selectorDefault.map plan.mapTag with
      | none => rfl
      | some tag =>
          rw [Option.map_some, Option.filter_some, Option.filter_some, contains_map h.injective]
          split <;> rfl
    show some (Outbound.selector inbound.selectorTag _ _) = some (Outbound.mapTags f _)
    rw [← List.map_cons, ← List.map_cons, hchosen, Option.getD_map]
    rw [Outbound.mapTags, Outbound.selector, Outbound.selector, hfixed]
    rfl

theorem routeTo?_mapTags : (inbound.mapTags f).routeTo? (plan.mapTags f) =
    (inbound.routeTo? plan).map f := by
  have hdialled : Plan.dialled (plan.mapTags f) (inbound.mapTags f).detours =
      (Plan.dialled plan inbound.detours).map f := dialled_mapTags h plan inbound.detours
  rw [Inbound.routeTo?, Inbound.routeTo?, hdialled]
  rcases Plan.dialled plan inbound.detours with _ | ⟨first, _ | ⟨second, rest⟩⟩
  · rfl
  · rfl
  · exact congrArg some hfixed.symm

end

/-! ### Backends -/

section

variable {f : String → String} (h : Tag.Renaming f) (t : Topology) (plan : Plan)

include h

theorem backends_mapTags (group : Group) : backends (plan.mapTags f) (group.mapTags f) =
    (backends plan group).map fun backend => (backend.1, backend.2.1, f backend.2.2) := by
  have htargets : (group.mapTags f).candidates.map (plan.mapTags f).mapTag =
      (group.candidates.map plan.mapTag).map f := by
    show (group.candidates.map f).map _ = _
    rw [List.map_map, List.map_map]
    exact List.map_congr_left fun tag _ => Plan.mapTag_mapTags h plan tag
  have htags : (group.mapTags f).inboundTags = group.inboundTags := by
    show (List.range (group.candidates.map f).length).map _ = _
    rw [List.length_map]
    rfl
  rw [backends, backends, htargets, htags]
  show group.inboundTags.zip (group.backendPorts.zip _) = _
  rw [List.zip_map_right, List.zip_map_right]
  rfl

/-! ### All parts -/

theorem compileInbounds_mapTags (settings : CompilerSettings) :
    compileInbounds settings (t.mapTags f) (plan.mapTags f) = compileInbounds settings t plan := by
  have husers : (t.mapTags f).inbounds.map (fun inbound =>
        InboundConfig.mixed inbound.tag settings.loopback inbound.port settings.sniff) =
      t.inbounds.map fun inbound =>
        .mixed inbound.tag settings.loopback inbound.port settings.sniff := by
    rw [Topology.mapTags, List.map_map]
    rfl
  rw [compileInbounds, compileInbounds, husers, Plan.mapTags, List.flatMap_map]
  congr 2
  funext group
  rw [← Plan.mapTags, backends_mapTags h, List.map_map]
  rfl

theorem compileRules_mapTags
    (hfixed : ∀ inbound ∈ t.inbounds, f inbound.selectorTag = inbound.selectorTag) :
    compileRules (t.mapTags f) (plan.mapTags f) =
      (compileRules t plan).map (RouteRule.mapTags f) := by
  have husers : (t.mapTags f).inbounds.filterMap (fun inbound =>
        (inbound.routeTo? (plan.mapTags f)).map (RouteRule.inboundTo inbound.tag)) =
      (t.inbounds.filterMap fun inbound => (inbound.routeTo? plan).map
        (RouteRule.inboundTo inbound.tag)).map (RouteRule.mapTags f) := by
    rw [Topology.mapTags, List.filterMap_map, List.map_filterMap]
    refine List.filterMap_congr fun inbound hinbound => ?_
    simp only [Function.comp_apply]
    rw [routeTo?_mapTags h plan (hfixed inbound hinbound), Option.map_map, Option.map_map]
    rfl
  rw [compileRules, compileRules, husers, List.map_append, List.map_cons, List.map_flatMap]
  congr 1
  show (plan.groups.map (Group.mapTags f)).flatMap _ = _
  rw [List.flatMap_map]
  congr 1
  funext group
  rw [backends_mapTags h, List.map_map, List.map_map]
  rfl

theorem assembled_mapTags (ht : t.IsNormal) (settings : CompilerSettings)
    (hfixed : ∀ inbound ∈ t.inbounds, f inbound.selectorTag = inbound.selectorTag) :
    assembled settings (t.mapTags f) (plan.mapTags f) =
      (assembled settings t plan).mapTags f := by
  have hdirect : Outbound.direct.mapTags f = .direct := by
    rw [Outbound.mapTags, show f Outbound.direct.tag = Tag.internet from h.internet]
    rfl
  have hselectors : (t.mapTags f).inbounds.filterMap (Inbound.selector? (plan.mapTags f)) =
      (t.inbounds.filterMap (Inbound.selector? plan)).map (Outbound.mapTags f) := by
    rw [Topology.mapTags, List.filterMap_map, List.map_filterMap]
    exact List.filterMap_congr fun inbound hinbound =>
      selector?_mapTags h plan (hfixed inbound hinbound)
  have houtbounds : (assembled settings (t.mapTags f) (plan.mapTags f)).outbounds =
      (assembled settings t plan).outbounds.map (Outbound.mapTags f) := by
    rw [outbounds_assembled (ht.mapTags h).toNodesSound, outbounds_assembled ht.toNodesSound,
      ownOutbounds_mapTags h, withClients_mapTags h, hselectors, List.map_append, List.map_append,
      List.map_singleton, hdirect]
  have hinbounds := compileInbounds_mapTags h t plan settings
  have hrules := compileRules_mapTags h t plan hfixed
  show ({ log := _, inbounds := _, outbounds := _, rules := _ } : RuntimeConfig) = _
  rw [RuntimeConfig.mapTags, ← houtbounds, assembled, hinbounds, hrules]
  rfl

/-- Compiling under other names, where round-robin nodes and the selectors of inbounds keep theirs.
-/
theorem compile_mapTags (ht : t.IsNormal) (settings : CompilerSettings)
    (hroundRobin : ∀ source ∈ t.roundRobins, f source.2.tag = source.2.tag)
    (hselector : ∀ inbound ∈ t.inbounds, f inbound.selectorTag = inbound.selectorTag) :
    compile settings (t.mapTags f) =
      mapResult (CompileError.mapTags f) (RuntimeConfig.mapTags f) (compile settings t) := by
  have hpools : ∀ pool ∈ pools t t.index, f pool.1 = pool.1 := by
    rw [pools_eq ht.toNodesSound]
    exact List.forall_mem_map.2 hroundRobin
  have hplan : planOf settings (t.mapTags f) =
      mapResult (CompileError.mapTags f) (Plan.mapTags f) (planOf settings t) :=
    Plan.build_mapTags h t settings.portLayout hpools
  rw [compile_eq_map, compile_eq_map, (ht.mapTags h).normalize_eq_self, ht.normalize_eq_self, hplan]
  cases planOf settings t with
  | error e => rfl
  | ok plan => exact congrArg Except.ok (assembled_mapTags h t plan ht settings hselector)

end

/-! ### Giving a node another tag -/

theorem RoundRobin.NormalPlan.outboundTags_cases {t : Topology} {plan : Plan}
    (h : NormalPlan t plan) {settings : CompilerSettings} {tag : String}
    (htag : tag ∈ (assembled settings t plan).outboundTags) :
    tag ∈ t.library.map NodeDefinition.tag ∨ Tag.isSystem tag = true ∨
      ∃ inbound ∈ t.inbounds, inbound.selectorTag = tag := by
  rcases (h.mem_outboundTags_iff settings).1 htag with hclients | rfl | hselectors
  · obtain ⟨out, hout, rfl⟩ := List.mem_map.1 hclients
    rcases mem_withClients hout with ⟨group, -, rfl⟩ | hown
    · exact Or.inr (Or.inl (isSystem_outboundTag group))
    · exact Or.inl (h.placed_allowed _ (tag_mem_placedTags hown)).2.2
  · exact Or.inl (h.mem_library_of_isTarget (Or.inr rfl))
  · obtain ⟨out, hout, rfl⟩ := List.mem_map.1 hselectors
    obtain ⟨inbound, hinbound, hselector⟩ := List.mem_filterMap.1 hout
    obtain ⟨_, _, _, -, rfl⟩ := (h.selector?_eq_some_iff plan hinbound).1 hselector
    exact Or.inr (Or.inr ⟨inbound, hinbound, rfl⟩)

/-- A result of compiling names tags of the library, tags that the compiler makes up and selectors
of inbounds, so what a renaming does to other tags does not show. -/
theorem mapResult_compile_congr {settings : CompilerSettings} {t : Topology} (ht : t.IsNormal)
    {f g : String → String} (hlibrary : ∀ tag ∈ t.library.map NodeDefinition.tag, f tag = g tag)
    (hsystem : ∀ tag, Tag.isSystem tag = true → f tag = g tag)
    (hselector : ∀ inbound ∈ t.inbounds, f inbound.selectorTag = g inbound.selectorTag) :
    mapResult (CompileError.mapTags f) (RuntimeConfig.mapTags f) (compile settings t) =
      mapResult (CompileError.mapTags g) (RuntimeConfig.mapTags g) (compile settings t) := by
  cases hcompile : compile settings t with
  | error e =>
      rw [compile_eq_map, ht.normalize_eq_self] at hcompile
      cases hplan : planOf settings t with
      | ok plan => rw [hplan] at hcompile; cases hcompile
      | error e' =>
          rw [hplan] at hcompile
          obtain rfl := Except.error.inj hcompile
          refine congrArg Except.error (CompileError.mapTags_congr fun tag htag => ?_)
          exact (tags_of_build ht hplan tag htag).elim (hlibrary tag) (hsystem tag)
  | ok config =>
      obtain ⟨plan, hplan, rfl⟩ := compile_eq_ok_iff.1 hcompile
      have hnormal := normalPlan_of_planOf hplan
      have hclosed := hnormal.closed_assembled settings
      refine congrArg Except.ok (hclosed.mapTags_congr fun tag htag => ?_)
      rw [ht.normalize_eq_self] at hnormal htag
      rcases hnormal.outboundTags_cases htag with hdefined | hmade | ⟨inbound, hinbound, rfl⟩
      · exact hlibrary tag hdefined
      · exact hsystem tag hmade
      · exact hselector inbound hinbound

/-- Giving a node another tag commutes with compiling, whether it succeeds or fails, unless the node
is a round-robin node or one of the tags is that of an inbound's selector. -/
theorem compile_renameTag {settings : CompilerSettings} {t : Topology} (h : t.normalize = t)
    {old new : String} (hdone : (t.renameTag old new).outcome = .ok ())
    (hkind : ∀ d ∈ t.library, d.tag = old → d.kind ≠ .roundRobin)
    (hselector : ∀ inbound ∈ t.inbounds,
      inbound.selectorTag ≠ old ∧ inbound.selectorTag ≠ new) :
    compile settings (t.renameTag old new).topology =
      mapResult (CompileError.mapTags (retag old new)) (RuntimeConfig.mapTags (retag old new))
        (compile settings t) := by
  have ht := isNormal_of_normalize_eq_self h
  obtain ⟨hempty, definition, -, -, hsave, hrenamed⟩ :=
    renameTag_eq_mapTags ht.library_nodup hdone
  have hrenaming : Tag.Renaming (Equiv.swap old new) := hsave.renaming_swap hempty
  have hlibrary : ∀ tag ∈ t.library.map NodeDefinition.tag,
      retag old new tag = Equiv.swap old new tag := fun tag htag =>
    Tag.retag_eq_swap (hsave.tag_free.imp_right fun hnew heq => hnew (heq ▸ htag))
  have hsystem : ∀ tag, Tag.isSystem tag = true → retag old new tag = Equiv.swap old new tag := by
    intro tag htag
    refine Tag.retag_eq_swap (Or.inr ?_)
    rintro rfl
    exact absurd htag (Bool.eq_false_iff.1 hsave.tag_plain)
  have hselectors : ∀ inbound ∈ t.inbounds,
      retag old new inbound.selectorTag = Equiv.swap old new inbound.selectorTag :=
    fun inbound hinbound => Tag.retag_eq_swap (Or.inr (hselector inbound hinbound).2)
  -- Replacing one tag is no renaming, as it is not injective, but exchanging the two tags is; on
  -- all tags that occur, in the topology and in what it is compiled into, both do the same.
  rw [hrenamed, ht.mapTags_retag hsave.tag_free,
    mapResult_compile_congr ht hlibrary hsystem hselectors]
  refine compile_mapTags hrenaming t ht settings ?_ fun inbound hinbound => ?_
  · -- Ids of groups are made from the tags of round-robin nodes, so these have to stay.
    intro source hsource
    obtain ⟨hplaced, hsource_kind⟩ := mem_roundRobins_iff.1 hsource
    have hdefined := ht.mem_library_of_isTarget (placedIn_of_mem hplaced).isTarget
    obtain ⟨d, hd, htag⟩ := List.mem_map.1 hdefined
    rw [ht.kindOf_eq hd htag] at hsource_kind
    rw [← hlibrary _ hdefined]
    exact retag_of_ne fun heq => hkind d hd (htag.trans heq) hsource_kind
  · rw [← hselectors inbound hinbound]
    exact retag_of_ne (hselector inbound hinbound).1

/-- A member of a pool has another tag in the rule of its backend too, and the ids stay. -/
theorem crossroads_renamed : crossroads.normalize = crossroads ∧
    (crossroads.renameTag "x" "u").outcome = .ok () ∧
    (∀ d ∈ crossroads.library, d.tag = "x" → d.kind ≠ .roundRobin) ∧
    (∀ inbound ∈ crossroads.inbounds,
      inbound.selectorTag ≠ "x" ∧ inbound.selectorTag ≠ "u") ∧
    compile {} (crossroads.renameTag "x" "u").topology =
      .ok (crossroadsConfig.mapTags (retag "x" "u")) := by
  have hnormal : crossroads.normalize = crossroads := by decide
  have hdone : (crossroads.renameTag "x" "u").outcome = .ok () := by decide
  have hkind : ∀ d ∈ crossroads.library, d.tag = "x" → d.kind ≠ .roundRobin := by decide
  have hselector : ∀ inbound ∈ crossroads.inbounds,
      inbound.selectorTag ≠ "x" ∧ inbound.selectorTag ≠ "u" := by decide
  refine ⟨hnormal, hdone, hkind, hselector, ?_⟩
  rw [compile_renameTag hnormal hdone hkind hselector, compile_crossroads]
  rfl

end ProxyChain
