import ProxyChain.Proofs.Topology.Linking

/-!
# ProxyChain.Proofs.Topology.LookUps

**The index and the plain look-ups agree, and a link goes where it was checked.** The index is
filled without overwriting, so it knows of each tag what a search through all placed nodes or
through the library finds first (`hopOf?_eq`, `placedKind?_eq`, `targetKind?_eq`). Whether a link
is allowed is read off the index, while the link itself is written into the first placement that a
search layer by layer comes to. That search ends at the same node (`placed_modifyPlaced`), so the
one node that is changed is the one whose hop and kind were looked at, also where a tag is placed
in several hops or defined twice.
-/

namespace ProxyChain.Topology

/-! ### Looking for a tag -/

section

variable {t : Topology} {tag : String} (htag : tag ≠ "")

include htag

theorem lookup_placements_eq : t.index.placements.lookup tag =
    (t.findPlaced? tag).map fun entry => ⟨entry.1, t.kindOf entry.2⟩ := by
  rw [lookup_placements, if_neg htag]

theorem hopOf?_eq : t.index.hopOf? tag = (t.findPlaced? tag).map Prod.fst := by
  rw [Index.hopOf?, lookup_placements_eq htag, Option.map_map]
  rfl

theorem placedKind?_eq :
    t.index.placedKind? tag = (t.findPlaced? tag).map fun entry => t.kindOf entry.2 := by
  rw [Index.placedKind?, lookup_placements_eq htag, Option.map_map]
  rfl

theorem targetKind?_eq : t.index.targetKind? tag =
    ((t.findPlaced? tag).map fun entry => t.kindOf entry.2).or
      ((t.definition? tag).map NodeDefinition.kind) := by
  rw [Index.targetKind?, placedKind?_eq htag, lookup_libraryKinds, definition?, if_neg htag]

end

theorem placedIn_of_hopOf? {t : Topology} {tag : String} {hop : Nat}
    (h : t.index.hopOf? tag = some hop) : t.PlacedIn tag hop := by
  have htag : tag ≠ "" := by
    rintro rfl
    rw [Index.hopOf?, lookup_placements, if_pos rfl] at h
    cases h
  rw [hopOf?_eq htag, Option.map_eq_some_iff] at h
  obtain ⟨⟨hop, node⟩, hfound, rfl⟩ := h
  exact ⟨node, List.mem_of_find?_eq_some hfound, by simpa using List.find?_some hfound⟩

/-- Changing the first node of some kind layer by layer changes the first one of all. -/
theorem placedFrom_modifyFirst (here : PlacedNode → Bool) (f : PlacedNode → PlacedNode) :
    ∀ (hop : Nat) (layers : List Layer),
      placedFrom hop (modifyFirst (fun layer => layer.nodes.any here)
          (fun layer => { layer with nodes := modifyFirst here f layer.nodes }) layers) =
        modifyFirst (fun entry => here entry.2) (fun entry => (entry.1, f entry.2))
          (placedFrom hop layers)
  | _, [] => rfl
  | hop, layer :: rest => by
      have hany : (layer.nodes.map (Prod.mk hop)).any (fun entry => here entry.2) =
          layer.nodes.any here := by
        rw [List.any_map]
        rfl
      have hpair : ∀ node : PlacedNode,
          (fun entry : Nat × PlacedNode => (entry.1, f entry.2)) (hop, node) = (hop, f node) :=
        fun _ => rfl
      rw [modifyFirst, placedFrom, modifyFirst_append, hany]
      split
      · rw [placedFrom, modifyFirst_map hpair]
      · rw [placedFrom, placedFrom_modifyFirst here f (hop + 1) rest]

theorem placed_modifyPlaced (tag : String) (f : PlacedNode → PlacedNode) (t : Topology) :
    (t.modifyPlaced tag f).placed = modifyFirst (fun entry => entry.2.tag = tag)
      (fun entry => (entry.1, f entry.2)) t.placed :=
  placedFrom_modifyFirst (fun node => node.tag = tag) f 0 t.layers

/-! ### What a link is checked for -/

section

variable {t : Topology} {source target : String} {hop : Nat} {kind : EdgeKind}

theorem oneAhead_of_decideStepLink {other : EdgeKind}
    (h : decideStepLink t.index kind source hop target (t.index.hopOf? target) = .allow other) :
    kind = other ∧ t.OneAhead hop target := by
  rw [decideStepLink] at h
  split at h
  · rename_i hexit
    split at h
    · rename_i hlast
      exact ⟨LinkDecision.allow.inj h, Or.inr ⟨hexit, of_decide_eq_true hlast⟩⟩
    · cases h
  · split at h
    · rename_i hnext
      exact ⟨LinkDecision.allow.inj h, Or.inl (placedIn_of_hopOf? hnext)⟩
    · cases h

theorem reaches_of_decidePoolLink
    (h : decidePoolLink t.index source hop target (t.index.hopOf? target) = .allow kind) :
    t.Reaches hop target .roundRobin kind := by
  rw [decidePoolLink] at h
  split at h
  · rename_i hexit
    split at h
    · rename_i hlast
      obtain rfl := LinkDecision.allow.inj h
      exact .output (Or.inr ⟨hexit, of_decide_eq_true hlast⟩)
    · cases h
  · split at h
    · rename_i hnext
      obtain rfl := LinkDecision.allow.inj h
      exact .pool (placedIn_of_hopOf? hnext)
    · split at h
      · rename_i hfar
        obtain rfl := LinkDecision.allow.inj h
        exact .output (Or.inl (placedIn_of_hopOf? hfar))
      · cases h

/-- An allowed link from a node reaches its target from the hop of the first placement, by a kind of
link that goes with the kind of the node there. -/
theorem reaches_of_decideNodeLink (h : t.decideNodeLink t.index source target = .allow kind) :
    source ≠ "" ∧ ∃ hop node, t.findPlaced? source = some (hop, node) ∧
      t.Reaches hop target (t.kindOf node).role kind := by
  rw [decideNodeLink] at h
  cases hlookup : t.index.placements.lookup source with
  | none => rw [hlookup] at h; cases h
  | some placement =>
      rw [hlookup] at h
      have hsource : source ≠ "" := by
        rintro rfl
        rw [lookup_placements, if_pos rfl] at hlookup
        cases hlookup
      rw [lookup_placements_eq hsource, Option.map_eq_some_iff] at hlookup
      obtain ⟨⟨hop, node⟩, hfound, rfl⟩ := hlookup
      refine ⟨hsource, hop, node, hfound, ?_⟩
      dsimp only at h
      split at h
      · cases h
      · split at h
        · cases h
        · cases hrole : (t.kindOf node).role with
          | roundRobin =>
              rw [hrole] at h
              exact reaches_of_decidePoolLink h
          | selector =>
              rw [hrole] at h
              obtain ⟨rfl, hahead⟩ := oneAhead_of_decideStepLink h
              exact .fanout hahead
          | leaf =>
              rw [hrole] at h
              obtain ⟨rfl, hahead⟩ := oneAhead_of_decideStepLink h
              exact .single hahead

theorem eq_inboundEntry_of_decideInboundLink
    (h : t.decideInboundLink t.index source target = .allow kind) : kind = .inboundEntry := by
  rw [decideInboundLink] at h
  split at h
  · cases h
  · split at h
    · cases h
    · split at h
      · exact (LinkDecision.allow.inj h).symm
      · cases h

theorem decideLink_of_canLink {source : LinkSource} (h : t.canLink source target = .allow kind) :
    (if source.isInbound then t.decideInboundLink t.index source.tag target
      else t.decideNodeLink t.index source.tag target) = .allow kind := by
  rw [canLink, decideLink] at h
  split at h
  · cases h
  · exact h

end

/-! ### What a link changes -/

/-- Two topologies differ in the detours of one placement only, the first one of its tag. -/
structure OnlyRedirects (t after : Topology) (hop : Nat) (node : PlacedNode)
    (detours : List String) : Prop where
  placed : ∃ front back, t.placed = front ++ (hop, node) :: back ∧
    (∀ entry ∈ front, entry.2.tag ≠ node.tag) ∧
    after.placed = front ++ (hop, { node with detours := detours }) :: back
  layers : (after.layers.map fun layer => { layer with nodes := [] }) =
    t.layers.map fun layer => { layer with nodes := [] }
  library : after.library = t.library
  inbounds : after.inbounds = t.inbounds

theorem onlyRedirects_modifyPlaced {t : Topology} {tag : String} {hop : Nat} {node : PlacedNode}
    (h : t.findPlaced? tag = some (hop, node)) (redirect : List String → List String) :
    t.OnlyRedirects
      (t.modifyPlaced tag fun node => { node with detours := redirect node.detours }) hop node
      (redirect node.detours) := by
  have htag : node.tag = tag := by simpa using List.find?_some h
  obtain ⟨front, back, hplaced, hfront, hmodified⟩ := modifyFirst_eq_append
    (fun entry : Nat × PlacedNode =>
      (entry.1, { entry.2 with detours := redirect entry.2.detours })) h
  refine ⟨⟨front, back, hplaced, fun entry hentry heq => hfront entry hentry ?_, ?_⟩, ?_, rfl, rfl⟩
  · exact decide_eq_true (heq.trans htag)
  · rw [placed_modifyPlaced, hmodified]
  · exact map_modifyFirst_eq (by intro _; rfl) _ t.layers

theorem onlyRedirects_link {t : Topology} {source target : String} {kind : EdgeKind}
    (h : (t.link ⟨source, false⟩ target).decision = .allow kind) :
    source ≠ "" ∧ ∃ hop node, t.findPlaced? source = some (hop, node) ∧
      t.Reaches hop target (t.kindOf node).role kind ∧
      t.OnlyRedirects (t.link ⟨source, false⟩ target).topology hop node
        (addDetour t.index hop kind target node.detours) := by
  obtain ⟨hallow, hlinked⟩ := link_of_allow h
  obtain ⟨hsource, hop, node, hfound, hreach⟩ :=
    reaches_of_decideNodeLink (decideLink_of_canLink hallow)
  have hhop : (t.index.hopOf? source).getD 0 = hop := by
    rw [hopOf?_eq hsource, hfound]
    rfl
  refine ⟨hsource, hop, node, hfound, hreach, ?_⟩
  rw [hlinked, addLink]
  dsimp only
  rw [if_neg hreach.ne_inboundEntry, hhop]
  exact onlyRedirects_modifyPlaced hfound _

/-- A link from an inbound changes no placement. -/
theorem layers_link_inbound (t : Topology) (source target : String) :
    (t.link ⟨source, true⟩ target).topology.layers = t.layers := by
  cases hdecision : (t.link ⟨source, true⟩ target).decision with
  | deny denial => rw [t.link_denied hdecision]
  | allow kind =>
      obtain ⟨hallow, hlinked⟩ := link_of_allow hdecision
      obtain rfl := eq_inboundEntry_of_decideInboundLink (decideLink_of_canLink hallow)
      rw [hlinked]
      rfl

/-- The index knows of each tag what looking for it finds. So an allowed link from a node goes into
the detours of the placement that it was checked for, and no other link changes a placement. -/
theorem index_agrees_links_exact (t : Topology) :
    (∀ tag : String, tag ≠ "" →
      t.index.hopOf? tag = (t.findPlaced? tag).map Prod.fst ∧
      t.index.placedKind? tag = (t.findPlaced? tag).map (fun entry => t.kindOf entry.2) ∧
      t.index.targetKind? tag = ((t.findPlaced? tag).map fun entry => t.kindOf entry.2).or
        ((t.definition? tag).map NodeDefinition.kind)) ∧
    (∀ (source target : String) (kind : EdgeKind),
      (t.link ⟨source, false⟩ target).decision = .allow kind →
      ∃ hop node, t.findPlaced? source = some (hop, node) ∧
        t.index.hopOf? source = some hop ∧
        t.index.placedKind? source = some (t.kindOf node) ∧
        t.Reaches hop target (t.kindOf node).role kind ∧
        t.OnlyRedirects (t.link ⟨source, false⟩ target).topology hop node
          (addDetour t.index hop kind target node.detours)) ∧
    (∀ source target : String, (t.link ⟨source, true⟩ target).topology.layers = t.layers) ∧
    ∀ (source : LinkSource) (target : String) (denial : Denial),
      (t.link source target).decision = .deny denial → (t.link source target).topology = t := by
  refine ⟨fun tag htag => ⟨hopOf?_eq htag, placedKind?_eq htag, targetKind?_eq htag⟩, ?_,
    t.layers_link_inbound, fun _ _ _ hdeny => t.link_denied hdeny⟩
  intro source target kind hallow
  obtain ⟨hsource, hop, node, hfound, hreach, hredirect⟩ := onlyRedirects_link hallow
  refine ⟨hop, node, hfound, ?_, ?_, hreach, hredirect⟩
  · rw [hopOf?_eq hsource, hfound]
    rfl
  · rw [placedKind?_eq hsource, hfound]
    rfl

/-- A node that is placed in two hops and defined twice, and a placement without a tag. -/
def repeatedTag : Topology where
  layers := [
    { id := "layer-1", nodes := [{ id := "node-1" }, { id := "node-2", tag := "a" }] },
    { id := "layer-2"
      nodes := [
        { id := "node-3", tag := "a", detours := ["direct"] },
        { id := "node-4", tag := "b" }] }]
  library := [.internet, .named "a" .vmess, .named "a" .selector, .named "b" .trojan]

theorem repeatedTag_linked : "a" ≠ "" ∧ repeatedTag.index.hopOf? "a" = some 0 ∧
    repeatedTag.index.placedKind? "a" = some .vmess ∧
    (repeatedTag.link ⟨"a", false⟩ "b").decision = .allow .single ∧
    repeatedTag.OnlyRedirects (repeatedTag.link ⟨"a", false⟩ "b").topology 0
      { id := "node-2", tag := "a" } ["b"] ∧
    (repeatedTag.link ⟨"a", false⟩ "direct").decision =
      .deny (.notLastHop "a" 1) ∧
    (repeatedTag.link ⟨"a", false⟩ "direct").topology = repeatedTag := by
  have hne : "a" ≠ "" := by decide
  have hfound : repeatedTag.findPlaced? "a" = some (0, { id := "node-2", tag := "a" }) := by decide
  have hallow : (repeatedTag.link ⟨"a", false⟩ "b").decision = .allow .single := by decide
  have hdeny : (repeatedTag.link ⟨"a", false⟩ "direct").decision =
      .deny (.notLastHop "a" 1) := by decide
  obtain ⟨hagrees, hexact, -, hdenied⟩ := index_agrees_links_exact repeatedTag
  obtain ⟨hop, node, hnode, -, -, -, hredirect⟩ := hexact "a" "b" .single hallow
  obtain ⟨rfl, rfl⟩ := Prod.mk.inj (Option.some.inj (hfound.symm.trans hnode))
  exact ⟨hne, (hagrees "a" hne).1.trans (by rw [hfound]; rfl),
    (hagrees "a" hne).2.1.trans (by rw [hfound]; rfl), hallow, hredirect, hdeny,
    hdenied _ _ _ hdeny⟩

end ProxyChain.Topology
