import ProxyChain.Proofs.Config.Forwarding

/-!
# ProxyChain.Proofs.Config.Terminals

**Which outbounds are dialled through a terminal.** A chain ends at a direct or a block outbound, so
a leaf that follows its own link does not dial one (`nextHop?`). A member of a pool with an output
does not follow a link of its own: it dials that output, and nothing asks what the output is. So the
outbounds that are dialled through a terminal are those of the members of pools whose output is one,
and no others (`compile_dials_terminal`).
-/

namespace ProxyChain

open RoundRobin ProxyChain.Topology

/-- An outbound behind which a chain ends. -/
def Outbound.IsTerminal (out : Outbound) : Prop :=
  out.kind = NodeKind.direct.name ∨ out.kind = NodeKind.block.name

instance (out : Outbound) : Decidable out.IsTerminal :=
  inferInstanceAs (Decidable (_ ∨ _))

/-- An outbound of that tag is dialled through a terminal. -/
def RuntimeConfig.DialsTerminal (config : RuntimeConfig) (tag : String) : Prop :=
  ∃ out ∈ config.outbounds, out.tag = tag ∧
    ∃ terminal ∈ config.outbounds, terminal.IsTerminal ∧ out.detour = some terminal.tag

/-- A member of a pool whose output is a terminal. -/
def Topology.ManagedToEnd (t : Topology) (tag : String) : Prop :=
  ∃ source ∈ t.placed, t.InPool source tag ∧ ∃ output, t.IsOutput source output ∧ t.EndsAt output

/-! ### Terminals of a config -/

theorem RoundRobin.Group.not_isTerminal_client (group : Group) (settings : CompilerSettings) :
    ¬ (group.client settings).IsTerminal :=
  show ¬ ("socks" = NodeKind.direct.name ∨ "socks" = NodeKind.block.name) by decide

theorem Outbound.not_isTerminal_selector (tag : String) (members : List String)
    (default : String) : ¬ (Outbound.selector tag members default).IsTerminal :=
  show ¬ ("selector" = NodeKind.direct.name ∨ "selector" = NodeKind.block.name) by decide

theorem Outbound.isTerminal_direct : Outbound.direct.IsTerminal :=
  Or.inl rfl

namespace Topology

variable {t : Topology} {plan : Plan} {node : PlacedNode}

theorem ownOutbound_kind : (t.ownOutbound plan node).kind = (t.kindOf node).name := by
  have hbare : (t.bareOutbound node).kind = (t.kindOf node).name := by
    rw [bareOutbound]
    cases t.definition? node.tag <;> rfl
  rw [ownOutbound]
  cases plan.outputFor? node.tag with
  | some output => exact hbare
  | none => cases (t.kindOf node).isSelectorLike <;> exact hbare

theorem isTerminal_ownOutbound :
    (t.ownOutbound plan node).IsTerminal ↔ (t.kindOf node).isTerminal = true := by
  rw [Outbound.IsTerminal, ownOutbound_kind]
  cases t.kindOf node <;> decide

variable (h : t.NodesSound)

include h

theorem NodesSound.endsAt_internet : t.EndsAt Tag.internet := by
  obtain ⟨d, hd, htag, hkind⟩ := h.exit_defined
  exact ⟨d, hd, htag, by rw [hkind]; rfl⟩

theorem NodesSound.endsAt_iff {entry : Nat × PlacedNode} (hentry : entry ∈ t.placed) :
    t.EndsAt entry.2.tag ↔ (t.kindOf entry.2).isTerminal = true := by
  obtain ⟨d, hd, htag⟩ := List.mem_map.1 (h.placed_allowed _ (List.mem_map_of_mem hentry)).2.2
  rw [h.kindOf_eq hd htag]
  constructor
  · rintro ⟨d', hd', htag', hterminal⟩
    have heq := h.kindOf_eq hd' htag'
    rw [h.kindOf_eq hd htag] at heq
    rwa [heq]
  · exact fun hterminal => ⟨d, hd, htag, hterminal⟩

end Topology

namespace RoundRobin.NormalPlan

variable {t : Topology} {plan : Plan} (h : NormalPlan t plan) {settings : CompilerSettings}

include h

/-- A terminal is dialled by its own tag, as it is no round-robin node. -/
theorem mapTag_of_endsAt {tag : String} (hends : t.EndsAt tag) : plan.mapTag tag = tag := by
  refine h.mapTag_eq_self fun entry hentry hkind htag => ?_
  rw [← htag, h.endsAt_iff hentry, hkind] at hends
  cases hends

/-- What a config has as terminals are terminals of the topology, and no client has their tags. -/
theorem endsAt_of_isTerminal {out : Outbound} (hout : out ∈ (assembled settings t plan).outbounds)
    (hterminal : out.IsTerminal) :
    t.EndsAt out.tag ∧ ∀ group ∈ plan.groups, group.outboundTag ≠ out.tag := by
  rcases h.outbound_cases hout with
    ⟨entry, hentry, -, hfree, rfl⟩ | ⟨group, -, rfl⟩ | rfl | ⟨inbound, -, _, _, _, -, rfl⟩
  · rw [ownOutbound_tag, h.endsAt_iff hentry]
    exact ⟨isTerminal_ownOutbound.1 hterminal, fun group hgroup => (hfree group hgroup).symm⟩
  · exact absurd hterminal (group.not_isTerminal_client settings)
  · exact ⟨h.endsAt_internet, fun group _ => outboundTag_ne_internet group⟩
  · exact absurd hterminal (Outbound.not_isTerminal_selector _ _ _)

/-- A target that is dialled by the tag of a terminal is that terminal. -/
theorem eq_of_mapTag_eq_terminal {terminal : Outbound} {tag : String}
    (hout : terminal ∈ (assembled settings t plan).outbounds) (hterminal : terminal.IsTerminal)
    (htarget : t.IsTarget tag) (hmap : plan.mapTag tag = terminal.tag) : tag = terminal.tag := by
  rcases h.mapTag_cases htarget with ⟨group, hgroup, -, hclient⟩ | ⟨hself, -⟩
  · exact absurd (hclient.symm.trans hmap) ((h.endsAt_of_isTerminal hout hterminal).2 group hgroup)
  · exact hself.symm.trans hmap

/-- Only members of pools are dialled through a terminal: a leaf does not follow a link to one. -/
theorem managedToEnd_of_dialsTerminal {tag : String}
    (hdials : (assembled settings t plan).DialsTerminal tag) : t.ManagedToEnd tag := by
  obtain ⟨out, hout, rfl, terminal, hmem, hterminal, hdetour⟩ := hdials
  have hends := (h.endsAt_of_isTerminal hmem hterminal).1
  rcases h.outbound_cases hout with
    ⟨entry, hentry, -, -, rfl⟩ | ⟨group, -, rfl⟩ | rfl | ⟨inbound, -, _, _, _, -, rfl⟩
  · rw [ownOutbound_tag]
    rcases detour_ownOutbound h hdetour with
      ⟨source, hsource, output, hpool, houtput, hmap⟩ | ⟨-, -, -, hfollowed⟩
    · obtain rfl := h.eq_of_mapTag_eq_terminal hmem hterminal houtput.2.2.isTarget hmap
      exact ⟨source, hsource, hpool, terminal.tag, houtput, hends⟩
    · rw [(h.isTerminal_iff terminal.tag).2 hends] at hfollowed
      cases hfollowed
  · cases hdetour
  · cases hdetour
  · cases hdetour

end RoundRobin.NormalPlan

/-! ### Which outbounds dial a terminal -/

namespace RoundRobin.PlainPlan

variable {t : Topology} {plan : Plan} (h : PlainPlan t plan) (settings : CompilerSettings)

include h

theorem ownOutbound_mem_outbounds {entry : Nat × PlacedNode} (hentry : entry ∈ t.placed)
    (hkind : t.kindOf entry.2 ≠ .roundRobin) :
    t.ownOutbound plan entry.2 ∈ (assembled settings t plan).outbounds :=
  List.mem_of_find?_eq_some (h.outbound?_ownNode settings hentry hkind)

/-- A terminal that is a target has its outbound. -/
theorem exists_terminal {tag : String} (htarget : t.IsTarget tag) (hends : t.EndsAt tag) :
    ∃ terminal ∈ (assembled settings t plan).outbounds,
      terminal.IsTerminal ∧ terminal.tag = tag := by
  rcases htarget with hplaced | rfl
  · obtain ⟨entry, hentry, rfl⟩ := List.mem_map.1 hplaced
    have hterminal := (h.endsAt_iff hentry).1 hends
    have hkind : t.kindOf entry.2 ≠ .roundRobin := by
      intro hkind
      rw [hkind] at hterminal
      cases hterminal
    exact ⟨_, h.ownOutbound_mem_outbounds settings hentry hkind, isTerminal_ownOutbound.2 hterminal,
      ownOutbound_tag⟩
  · refine ⟨.direct, ?_, Outbound.isTerminal_direct, rfl⟩
    rw [outbounds_assembled h.toNodesSound]
    exact List.mem_append_left _ (List.mem_append_right _ (List.mem_singleton_self _))

/-- Every member of a pool dials the output, also if that is a terminal. -/
theorem dialsTerminal_of_managedToEnd {tag : String} (hmanaged : t.ManagedToEnd tag) :
    (assembled settings t plan).DialsTerminal tag := by
  obtain ⟨source, hsource, hpool, output, houtput, hends⟩ := hmanaged
  obtain ⟨entry, hentry, rfl⟩ := List.mem_map.1 hpool.2.2.mem_placedTags
  have hrole := h.role_of_outputFor? hentry
    (h.outputFor?_eq_some_iff.2 ⟨source, hsource, output, hpool, houtput, rfl⟩)
  have hout := h.outbound?_managed settings hentry hrole hsource hpool houtput
  obtain ⟨terminal, hmem, hterminal, htag⟩ := h.exists_terminal settings houtput.2.2.isTarget hends
  refine ⟨_, List.mem_of_find?_eq_some hout, bareOutbound_tag, terminal, hmem, hterminal, ?_⟩
  rw [h.mapTag_of_endsAt hends, htag]

end RoundRobin.PlainPlan

/-- In a compiled config nothing is dialled through a terminal but by the members of pools whose
output is one; and these are, where made-up tags are new. -/
theorem compile_dials_terminal {settings : CompilerSettings} {t : Topology} {config : RuntimeConfig}
    (h : compile settings t = .ok config) (tag : String) :
    (config.DialsTerminal tag → t.normalize.ManagedToEnd tag) ∧
      ((∀ d ∈ t.library, Tag.isSystem d.tag = false) → t.normalize.ManagedToEnd tag →
        config.DialsTerminal tag) := by
  obtain ⟨plan, hplan, rfl⟩ := compile_eq_ok_iff.1 h
  exact ⟨(normalPlan_of_planOf hplan).managedToEnd_of_dialsTerminal,
    fun hplain => (plainPlan_of_planOf hplain hplan).dialsTerminal_of_managedToEnd settings⟩

/-- A pool whose output is the Internet. -/
def pooledExit : Topology where
  layers := [
    { id := "layer-1", nodes := [{ tag := "rr", detours := ["a", "b", "direct"] }] },
    { id := "layer-2", nodes := [{ tag := "a" }, { tag := "b" }] }]
  library := [.internet, .named "rr" .roundRobin, .named "a" .vmess, .named "b" .trojan]

/-- What it is compiled into. -/
def pooledExitConfig : RuntimeConfig where
  inbounds := [.socks "sys-rr-4f546725-in-0" "127.0.0.1" 25100,
    .socks "sys-rr-4f546725-in-1" "127.0.0.1" 25101]
  outbounds := [
    { kind := "vmess", tag := "a", detour := some "direct" },
    { kind := "trojan", tag := "b", detour := some "direct" },
    .socksClient "sys-rr-4f546725-lb" "127.0.0.1" 25080,
    .direct]
  rules := [.hijackDns, .inboundTo "sys-rr-4f546725-in-0" "a",
    .inboundTo "sys-rr-4f546725-in-1" "b"]

theorem compile_pooledExit : compile {} pooledExit = .ok pooledExitConfig := by
  decide +kernel

theorem dialsTerminal_pooledExit : pooledExitConfig.DialsTerminal "a" :=
  ⟨{ kind := "vmess", tag := "a", detour := some "direct" }, by decide, rfl, .direct, by decide,
    Outbound.isTerminal_direct, rfl⟩

theorem managedToEnd_pooledExit : compile {} pooledExit = .ok pooledExitConfig ∧
    pooledExitConfig.DialsTerminal "a" ∧ pooledExit.normalize.ManagedToEnd "a" :=
  ⟨compile_pooledExit, dialsTerminal_pooledExit,
    (compile_dials_terminal compile_pooledExit "a").1 dialsTerminal_pooledExit⟩

/-- So a leaf may be dialled through the exit. -/
theorem leaf_dials_terminal_pooledExit : ¬ ∀ (settings : CompilerSettings) (t : Topology)
    (config : RuntimeConfig), compile settings t = .ok config →
      ∀ entry ∈ t.normalize.placed, (t.normalize.kindOf entry.2).role = .leaf →
        ¬ config.DialsTerminal entry.2.tag := by
  intro hnone
  exact hnone {} pooledExit pooledExitConfig compile_pooledExit (1, { tag := "a" }) (by decide)
    (by decide) dialsTerminal_pooledExit

end ProxyChain
