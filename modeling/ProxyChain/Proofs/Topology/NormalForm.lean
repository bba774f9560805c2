import ProxyChain.Proofs.Topology.Placement

/-!
# ProxyChain.Proofs.Topology.NormalForm

**The normal form of a topology**, said without the index and without the passes of
`Topology.normalize`: which tags may be placed (`Topology.NodesSound`), which targets a node of
some role may have (`Topology.LegalLinks`), and all together (`Topology.IsNormal`).

The second half ties these notions to the index. Where every tag is placed once, looking a tag up
in the index and finding it among the placed nodes is the same, so the legal detours of a node are
legal links, and legal links are their own legal detours.
-/

namespace ProxyChain

namespace Topology

/-! ### Links in normal form -/

/-- A target one step ahead: in the next hop, or the Internet exit behind the last one. -/
def OneAhead (t : Topology) (hop : Nat) (tag : String) : Prop :=
  t.PlacedIn tag (hop + 1) ∨ tag = Tag.internet ∧ hop + 1 = t.hopCount

/-- A target two steps ahead, the Internet exit being behind the last hop. -/
def TwoAhead (t : Topology) (hop : Nat) (tag : String) : Prop :=
  t.PlacedIn tag (hop + 2) ∨ tag = Tag.internet ∧ hop + 2 = t.hopCount

/-- The detours that a node of some role may have in some hop. -/
def LegalLinks (t : Topology) (hop : Nat) (role : NodeRole) (detours : List String) : Prop :=
  match role with
  | .leaf => detours.length ≤ 1 ∧ ∀ tag ∈ detours, t.OneAhead hop tag
  | .selector => detours.Nodup ∧ ∀ tag ∈ detours, t.OneAhead hop tag
  | .roundRobin => detours.Nodup ∧ ∃ pool : List String, ∃ output : Option String,
      detours = pool ++ output.toList ∧ (∀ tag ∈ pool, t.PlacedIn tag (hop + 1)) ∧
        ∀ tag ∈ output, t.TwoAhead hop tag

theorem LegalLinks.nodup {t : Topology} {hop : Nat} {role : NodeRole} {detours : List String}
    (h : t.LegalLinks hop role detours) : detours.Nodup := by
  cases role with
  | leaf =>
      match detours, h.1 with
      | [], _ => exact List.nodup_nil
      | [tag], _ => exact List.nodup_singleton tag
  | selector => exact h.1
  | roundRobin => exact h.1

/-- The round-robin nodes, each with its hop, in the order of placement. -/
def roundRobins (t : Topology) : List (Nat × PlacedNode) :=
  t.placed.filter fun entry => t.kindOf entry.2 = .roundRobin

/-- A tag is in the pool of a round-robin node, which is given with its hop. -/
def InPool (t : Topology) (source : Nat × PlacedNode) (tag : String) : Prop :=
  t.kindOf source.2 = .roundRobin ∧ tag ∈ source.2.detours ∧ t.PlacedIn tag (source.1 + 1)

/-- The pool of a round-robin node, which is given with its hop. -/
def poolMembers (t : Topology) (source : Nat × PlacedNode) : List String :=
  source.2.detours.filter fun tag => t.PlacedIn tag (source.1 + 1)

/-- A tag is the output of a round-robin node, which is given with its hop. -/
def IsOutput (t : Topology) (source : Nat × PlacedNode) (tag : String) : Prop :=
  t.kindOf source.2 = .roundRobin ∧ tag ∈ source.2.detours ∧ t.TwoAhead source.1 tag

/-- A member of a pool with an output, which decides where the member sends traffic. -/
def Managed (t : Topology) (tag : String) : Prop :=
  ∃ source ∈ t.placed, t.InPool source tag ∧ ∃ output, t.IsOutput source output

theorem mem_roundRobins_iff {t : Topology} {entry : Nat × PlacedNode} :
    entry ∈ t.roundRobins ↔ entry ∈ t.placed ∧ t.kindOf entry.2 = .roundRobin := by
  simp [roundRobins]

theorem mem_poolMembers_iff {t : Topology} {source : Nat × PlacedNode}
    (hkind : t.kindOf source.2 = .roundRobin) {tag : String} :
    tag ∈ t.poolMembers source ↔ t.InPool source tag := by
  simp [poolMembers, InPool, hkind]

/-! ### Normal form -/

/-- The library and the placements are in order. -/
structure NodesSound (t : Topology) : Prop where
  library_nodup : (t.library.map NodeDefinition.tag).Nodup
  exit_defined : ∃ d ∈ t.library, d.tag = Tag.internet ∧ d.kind = .direct
  placed_nodup : t.placedTags.Nodup
  placed_allowed : ∀ tag ∈ t.placedTags,
    tag ≠ "" ∧ tag ≠ Tag.internet ∧ tag ∈ t.library.map NodeDefinition.tag

/-- A topology is in normal form. -/
structure IsNormal (t : Topology) : Prop extends NodesSound t where
  inbound_links : ∀ inbound ∈ t.inbounds,
    inbound.detours.Nodup ∧ ∀ tag ∈ inbound.detours, t.PlacedIn tag 0
  inbound_default : ∀ inbound ∈ t.inbounds, ∀ tag ∈ inbound.selectorDefault,
    tag ∈ inbound.detours
  node_links : ∀ entry ∈ t.placed,
    t.LegalLinks entry.1 (t.kindOf entry.2).role entry.2.detours
  /-- Members of a pool with an output have no links of their own. -/
  managed_idle : ∀ source ∈ t.placed, ∀ output, t.IsOutput source output →
    ∀ entry ∈ t.placed, t.InPool source entry.2.tag → entry.2.detours = []

/-- The inbounds are in order: each links to different nodes of the first hop, and its default is
one of them. -/
def InboundsSound (t : Topology) : Prop :=
  ∀ inbound ∈ t.inbounds, (inbound.detours.Nodup ∧ ∀ tag ∈ inbound.detours, t.PlacedIn tag 0) ∧
    ∀ tag ∈ inbound.selectorDefault, tag ∈ inbound.detours

theorem IsNormal.inboundsSound {t : Topology} (h : t.IsNormal) : t.InboundsSound :=
  fun inbound hinbound => ⟨h.inbound_links inbound hinbound, h.inbound_default inbound hinbound⟩

/-! ### Changing links only -/

/-- A topology whose nodes have other detours. -/
def relink (links : Nat → PlacedNode → List String) (t : Topology) : Topology :=
  t.mapPlaced fun hop node => { node with detours := links hop node }

section

variable (links : Nat → PlacedNode → List String) (t : Topology)

theorem placed_relink : (t.relink links).placed =
    t.placed.map fun entry => (entry.1, { entry.2 with detours := links entry.1 entry.2 }) :=
  placed_mapPlaced _ t

@[simp] theorem library_relink : (t.relink links).library = t.library := rfl

@[simp] theorem inbounds_relink : (t.relink links).inbounds = t.inbounds := rfl

@[simp] theorem hopCount_relink : (t.relink links).hopCount = t.hopCount :=
  hopCount_mapPlaced _ t

@[simp] theorem kindOf_relink (node : PlacedNode) :
    (t.relink links).kindOf node = t.kindOf node := rfl

@[simp] theorem placedTags_relink : (t.relink links).placedTags = t.placedTags := by
  rw [placedTags, placed_relink, List.map_map]
  rfl

theorem mem_placed_relink {hop : Nat} {after : PlacedNode} :
    (hop, after) ∈ (t.relink links).placed ↔
      ∃ node, (hop, node) ∈ t.placed ∧ { node with detours := links hop node } = after := by
  rw [placed_relink, List.mem_map]
  constructor
  · rintro ⟨⟨_, node⟩, hmem, heq⟩
    obtain ⟨rfl, hnode⟩ := Prod.mk.inj heq
    exact ⟨node, hmem, hnode⟩
  · rintro ⟨node, hmem, rfl⟩
    exact ⟨(hop, node), hmem, rfl⟩

@[simp] theorem placedIn_relink (tag : String) (hop : Nat) :
    (t.relink links).PlacedIn tag hop ↔ t.PlacedIn tag hop := by
  constructor
  · rintro ⟨after, hafter, rfl⟩
    obtain ⟨node, hnode, rfl⟩ := (mem_placed_relink links t).1 hafter
    exact ⟨node, hnode, rfl⟩
  · rintro ⟨node, hmem, rfl⟩
    exact ⟨_, (mem_placed_relink links t).2 ⟨node, hmem, rfl⟩, rfl⟩

@[simp] theorem oneAhead_relink (hop : Nat) (tag : String) :
    (t.relink links).OneAhead hop tag ↔ t.OneAhead hop tag := by
  simp [OneAhead]

@[simp] theorem twoAhead_relink (hop : Nat) (tag : String) :
    (t.relink links).TwoAhead hop tag ↔ t.TwoAhead hop tag := by
  simp [TwoAhead]

@[simp] theorem legalLinks_relink (hop : Nat) (role : NodeRole) (detours : List String) :
    (t.relink links).LegalLinks hop role detours ↔ t.LegalLinks hop role detours := by
  cases role <;> simp [LegalLinks]

/-- The index knows nothing about links. -/
@[simp] theorem index_relink : (t.relink links).index = t.index := by
  simp only [index, library_relink, hopCount_relink, placed_relink, List.foldl_map]
  rfl

@[simp] theorem inPool_relink (source : Nat × PlacedNode) (tag : String) :
    (t.relink links).InPool source tag ↔ t.InPool source tag := by
  simp [InPool]

@[simp] theorem isOutput_relink (source : Nat × PlacedNode) (tag : String) :
    (t.relink links).IsOutput source tag ↔ t.IsOutput source tag := by
  simp [IsOutput]

theorem relink_relink (others : Nat → PlacedNode → List String) :
    (t.relink links).relink others =
      t.relink fun hop node => others hop { node with detours := links hop node } :=
  mapPlaced_mapPlaced _ _ t

theorem relink_congr {links others : Nat → PlacedNode → List String} {t : Topology}
    (h : ∀ entry ∈ t.placed, links entry.1 entry.2 = others entry.1 entry.2) :
    t.relink links = t.relink others :=
  mapPlaced_congr fun entry hentry => by rw [h entry hentry]

theorem relink_eq_self (h : ∀ entry ∈ t.placed, links entry.1 entry.2 = entry.2.detours) :
    t.relink links = t :=
  mapPlaced_eq_self fun entry hentry => by rw [h entry hentry]

variable {t}

theorem NodesSound.relink (h : t.NodesSound) : (t.relink links).NodesSound where
  library_nodup := h.library_nodup
  exit_defined := h.exit_defined
  placed_nodup := by rw [placedTags_relink]; exact h.placed_nodup
  placed_allowed := by rw [placedTags_relink]; exact h.placed_allowed

/-- Changing the links of one node gives that node other links. -/
theorem modifyPlaced_eq_relink (hnodup : t.placedTags.Nodup) (tag : String)
    (change : List String → List String) :
    t.modifyPlaced tag (fun node => { node with detours := change node.detours }) =
      t.relink fun _ node => if node.tag = tag then change node.detours else node.detours := by
  rw [modifyPlaced_eq_mapPlaced hnodup, relink]
  congr 1
  funext _ node
  split <;> rfl

end

/-! ### Sound placements and the index -/

namespace NodesSound

variable {t : Topology} (h : t.NodesSound)

include h

/-- In the library of a sound topology each tag has one definition. -/
theorem find?_library_eq_some_iff {tag : String} {d : NodeDefinition} :
    t.library.find? (fun d => d.tag = tag) = some d ↔ d ∈ t.library ∧ d.tag = tag :=
  find?_key_eq_some_iff h.library_nodup

theorem kindOf_eq {node : PlacedNode} {d : NodeDefinition} (hd : d ∈ t.library)
    (htag : d.tag = node.tag) : t.kindOf node = d.kind := by
  rw [kindOf, kindIn, h.find?_library_eq_some_iff.2 ⟨hd, htag⟩]

theorem placed_mem_allowed {entry : Nat × PlacedNode} (hentry : entry ∈ t.placed) :
    entry.2.tag ≠ "" ∧ entry.2.tag ≠ Tag.internet :=
  have hallowed := h.placed_allowed _ (List.mem_map_of_mem hentry)
  ⟨hallowed.1, hallowed.2.1⟩

theorem tag_ne_empty {tag : String} {hop : Nat} (hplaced : t.PlacedIn tag hop) : tag ≠ "" :=
  (h.placed_allowed tag hplaced.mem_placedTags).1

theorem tag_ne_internet {tag : String} {hop : Nat} (hplaced : t.PlacedIn tag hop) :
    tag ≠ Tag.internet :=
  (h.placed_allowed tag hplaced.mem_placedTags).2.1

/-- A tag is placed in one hop only. -/
theorem hop_unique {tag : String} {i j : Nat} (hi : t.PlacedIn tag i) (hj : t.PlacedIn tag j) :
    i = j := by
  obtain ⟨a, ha, rfl⟩ := hi
  obtain ⟨b, hb, htag⟩ := hj
  exact congrArg Prod.fst (eq_of_tag_eq h.placed_nodup ha hb htag.symm)

/-- The index knows each placed node by its tag. -/
theorem lookup_placements_eq_some_iff {tag : String} {placement : Placement} :
    t.index.placements.lookup tag = some placement ↔
      ∃ entry ∈ t.placed, entry.2.tag = tag ∧ placement = ⟨entry.1, t.kindOf entry.2⟩ := by
  rw [lookup_placements]
  by_cases htag : tag = ""
  · rw [if_pos htag]
    constructor
    · intro hnone; cases hnone
    · rintro ⟨entry, hentry, rfl, -⟩
      exact absurd htag (h.placed_mem_allowed hentry).1
  · rw [if_neg htag, Option.map_eq_some_iff]
    refine exists_congr fun entry => ?_
    rw [findPlaced?_eq_some_iff h.placed_nodup, and_assoc, eq_comm (a := placement)]

theorem placedKind?_eq_some_iff {tag : String} {kind : NodeKind} :
    t.index.placedKind? tag = some kind ↔
      ∃ entry ∈ t.placed, entry.2.tag = tag ∧ t.kindOf entry.2 = kind := by
  rw [Index.placedKind?, Option.map_eq_some_iff]
  constructor
  · rintro ⟨placement, hlookup, rfl⟩
    obtain ⟨entry, hentry, htag, rfl⟩ := h.lookup_placements_eq_some_iff.1 hlookup
    exact ⟨entry, hentry, htag, rfl⟩
  · rintro ⟨entry, hentry, htag, rfl⟩
    exact ⟨_, h.lookup_placements_eq_some_iff.2 ⟨entry, hentry, htag, rfl⟩, rfl⟩

theorem placedKind? {entry : Nat × PlacedNode} (hentry : entry ∈ t.placed) :
    t.index.placedKind? entry.2.tag = some (t.kindOf entry.2) :=
  h.placedKind?_eq_some_iff.2 ⟨entry, hentry, rfl, rfl⟩

theorem hopOf?_eq_some_iff {tag : String} {hop : Nat} :
    t.index.hopOf? tag = some hop ↔ t.PlacedIn tag hop := by
  rw [Index.hopOf?, Option.map_eq_some_iff]
  constructor
  · rintro ⟨placement, hlookup, rfl⟩
    obtain ⟨entry, hentry, rfl, rfl⟩ := h.lookup_placements_eq_some_iff.1 hlookup
    exact placedIn_of_mem hentry
  · rintro ⟨node, hmem, htag⟩
    exact ⟨_, h.lookup_placements_eq_some_iff.2 ⟨(hop, node), hmem, htag, rfl⟩, rfl⟩

theorem inHop_iff {tag : String} {hop : Nat} :
    t.index.inHop tag hop = true ↔ t.PlacedIn tag hop := by
  rw [Index.inHop, decide_eq_true_iff, h.hopOf?_eq_some_iff]

theorem isAdjacentTarget_iff {hop : Nat} {tag : String} :
    t.index.isAdjacentTarget hop tag = true ↔ t.OneAhead hop tag := by
  rw [Index.isAdjacentTarget, OneAhead]
  by_cases htag : tag = Tag.internet
  · subst htag
    have hnot : ¬ t.PlacedIn Tag.internet (hop + 1) := fun hplaced =>
      h.tag_ne_internet hplaced rfl
    rw [if_pos rfl, Index.isLastHop, decide_eq_true_eq, index_hopCount]
    simp [hnot]
  · simp [htag, h.inHop_iff]

theorem isOutputTarget_iff {hop : Nat} {tag : String} :
    t.index.isOutputTarget hop tag = true ↔ t.TwoAhead hop tag := by
  rw [Index.isOutputTarget, TwoAhead]
  by_cases htag : tag = Tag.internet
  · subst htag
    have hnot : ¬ t.PlacedIn Tag.internet (hop + 2) := fun hplaced =>
      h.tag_ne_internet hplaced rfl
    rw [if_pos rfl, Index.isSecondToLastHop, decide_eq_true_eq, index_hopCount]
    simp [hnot]
  · simp [htag, h.inHop_iff]

theorem ne_empty_of_oneAhead {hop : Nat} {tag : String} (htag : t.OneAhead hop tag) :
    tag ≠ "" := by
  rcases htag with hplaced | ⟨rfl, -⟩
  · exact h.tag_ne_empty hplaced
  · decide

theorem ne_empty_of_twoAhead {hop : Nat} {tag : String} (htag : t.TwoAhead hop tag) :
    tag ≠ "" := by
  rcases htag with hplaced | ⟨rfl, -⟩
  · exact h.tag_ne_empty hplaced
  · decide

/-- No target is at once in the next hop and behind it. -/
theorem not_twoAhead {hop : Nat} {tag : String} (hplaced : t.PlacedIn tag (hop + 1)) :
    ¬ t.TwoAhead hop tag := by
  rintro (hbehind | ⟨rfl, -⟩)
  · have := h.hop_unique hplaced hbehind
    omega
  · exact h.tag_ne_internet hplaced rfl

end NodesSound

end Topology

/-! ### Lists of tags -/

theorem Tag.unique_eq_self {tags : List String} (hnodup : tags.Nodup)
    (hne : ∀ tag ∈ tags, tag ≠ "") : Tag.unique tags = tags := by
  have hfilter : tags.filter (· ≠ "") = tags :=
    List.filter_eq_self.2 fun tag htag => by simpa using hne tag htag
  rw [Tag.unique, hfilter, distinct_eq_self hnodup]

namespace Topology.NodesSound

variable {t : Topology} (h : t.NodesSound)

include h

/-! ### The parts of a pool -/

theorem mem_pool_iff {hop : Nat} {detours : List String} {tag : String} :
    tag ∈ (t.index.splitPool hop detours).pool ↔ tag ∈ detours ∧ t.PlacedIn tag (hop + 1) := by
  rw [Index.splitPool, List.mem_filter, Tag.mem_unique, h.inHop_iff]
  constructor
  · rintro ⟨⟨hmem, -⟩, hplaced⟩; exact ⟨hmem, hplaced⟩
  · rintro ⟨hmem, hplaced⟩; exact ⟨⟨hmem, h.tag_ne_empty hplaced⟩, hplaced⟩

theorem isSome_output_iff {hop : Nat} {detours : List String} :
    (t.index.splitPool hop detours).output.isSome = true ↔
      ∃ output ∈ detours, t.TwoAhead hop output := by
  rw [Index.splitPool, List.find?_isSome]
  refine exists_congr fun output => ?_
  rw [Tag.mem_unique, h.isOutputTarget_iff]
  constructor
  · rintro ⟨⟨hmem, -⟩, hbehind⟩; exact ⟨hmem, hbehind⟩
  · rintro ⟨hmem, hbehind⟩; exact ⟨⟨hmem, h.ne_empty_of_twoAhead hbehind⟩, hbehind⟩

theorem twoAhead_of_mem_output {hop : Nat} {detours : List String} {tag : String}
    (htag : tag ∈ (t.index.splitPool hop detours).output) : t.TwoAhead hop tag :=
  h.isOutputTarget_iff.1 (List.find?_some htag)

theorem nodup_splitPool (hop : Nat) (detours : List String) :
    (t.index.splitPool hop detours).detours.Nodup := by
  rw [Index.PoolEdges.detours, List.nodup_append]
  refine ⟨List.filter_sublist.nodup (Tag.nodup_unique detours), ?_, ?_⟩
  · cases (t.index.splitPool hop detours).output <;> simp
  · rintro tag hpool other houtput rfl
    exact h.not_twoAhead (h.mem_pool_iff.1 hpool).2
      (h.twoAhead_of_mem_output (Option.mem_toList.1 houtput))

/-- A pool and an output behind it are their own parts. -/
theorem splitPool_append {hop : Nat} {pool : List String} {output : Option String}
    (hnodup : (pool ++ output.toList).Nodup) (hpool : ∀ tag ∈ pool, t.PlacedIn tag (hop + 1))
    (houtput : ∀ tag ∈ output, t.TwoAhead hop tag) :
    t.index.splitPool hop (pool ++ output.toList) = ⟨pool, output⟩ := by
  have hunique : Tag.unique (pool ++ output.toList) = pool ++ output.toList := by
    refine Tag.unique_eq_self hnodup fun tag htag => ?_
    rcases List.mem_append.1 htag with htag | htag
    · exact h.tag_ne_empty (hpool tag htag)
    · exact h.ne_empty_of_twoAhead (houtput tag (Option.mem_toList.1 htag))
  have hmembers : pool.filter (fun tag => t.index.inHop tag (hop + 1)) = pool :=
    List.filter_eq_self.2 fun tag htag => h.inHop_iff.2 (hpool tag htag)
  have hbehind : output.toList.filter (fun tag => t.index.inHop tag (hop + 1)) = [] :=
    List.filter_eq_nil_iff.2 fun tag htag hin =>
      h.not_twoAhead (h.inHop_iff.1 hin) (houtput tag (Option.mem_toList.1 htag))
  have hnone : pool.find? (t.index.isOutputTarget hop) = none :=
    List.find?_eq_none.2 fun tag htag hout =>
      h.not_twoAhead (hpool tag htag) (h.isOutputTarget_iff.1 hout)
  have hfound : output.toList.find? (t.index.isOutputTarget hop) = output := by
    cases output with
    | none => rfl
    | some tag => simp [h.isOutputTarget_iff.2 (houtput tag rfl)]
  simp only [Index.splitPool, hunique, List.filter_append, hmembers, hbehind, List.append_nil,
    List.find?_append, hnone, hfound, Option.none_or]

/-! ### Legal detours -/

/-- The legal detours of a node are legal links. -/
theorem legalLinks_legalDetours (hop : Nat) (kind : NodeKind) (detours : List String) :
    t.LegalLinks hop kind.role (t.index.legalDetours hop kind detours) := by
  have hadjacent : ∀ tag ∈ (Tag.unique detours).filter (t.index.isAdjacentTarget hop),
      t.OneAhead hop tag :=
    fun tag htag => h.isAdjacentTarget_iff.1 (List.mem_filter.1 htag).2
  rw [Index.legalDetours]
  cases kind.role with
  | leaf =>
      exact ⟨List.length_take_le 1 _, fun tag htag => hadjacent tag (List.mem_of_mem_take htag)⟩
  | selector => exact ⟨List.filter_sublist.nodup (Tag.nodup_unique detours), hadjacent⟩
  | roundRobin =>
      exact ⟨h.nodup_splitPool hop detours, _, _, rfl, fun _ hmem => (h.mem_pool_iff.1 hmem).2,
        fun _ => h.twoAhead_of_mem_output⟩

/-- Links one step ahead that are all different pass the filter for such targets. -/
theorem filter_adjacent_eq_self {hop : Nat} {detours : List String} (hnodup : detours.Nodup)
    (hahead : ∀ tag ∈ detours, t.OneAhead hop tag) :
    (Tag.unique detours).filter (t.index.isAdjacentTarget hop) = detours := by
  rw [Tag.unique_eq_self hnodup fun tag htag => h.ne_empty_of_oneAhead (hahead tag htag)]
  exact List.filter_eq_self.2 fun tag htag => h.isAdjacentTarget_iff.2 (hahead tag htag)

/-- Legal links are their own legal detours. -/
theorem legalDetours_eq_self {hop : Nat} {kind : NodeKind} {detours : List String}
    (hlegal : t.LegalLinks hop kind.role detours) :
    t.index.legalDetours hop kind detours = detours := by
  have hnodup := hlegal.nodup
  rw [Index.legalDetours]
  revert hlegal
  cases kind.role with
  | leaf =>
      rintro ⟨hlength, hahead⟩
      rw [h.filter_adjacent_eq_self hnodup hahead, List.take_of_length_le hlength]
  | selector =>
      rintro ⟨-, hahead⟩
      exact h.filter_adjacent_eq_self hnodup hahead
  | roundRobin =>
      rintro ⟨-, pool, output, rfl, hpool, houtput⟩
      rw [h.splitPool_append hnodup hpool houtput]
      rfl

end Topology.NodesSound

/-! ### Targets -/

namespace Topology

/-- What a link may lead to: a placed node or the Internet exit. -/
def IsTarget (t : Topology) (tag : String) : Prop :=
  tag ∈ t.placedTags ∨ tag = Tag.internet

section

variable {t : Topology} {hop : Nat} {tag : String}

theorem PlacedIn.isTarget (h : t.PlacedIn tag hop) : t.IsTarget tag :=
  Or.inl h.mem_placedTags

theorem OneAhead.isTarget (h : t.OneAhead hop tag) : t.IsTarget tag :=
  h.imp PlacedIn.mem_placedTags And.left

theorem TwoAhead.isTarget (h : t.TwoAhead hop tag) : t.IsTarget tag :=
  h.imp PlacedIn.mem_placedTags And.left

theorem LegalLinks.isTarget {role : NodeRole} {detours : List String}
    (h : t.LegalLinks hop role detours) (htag : tag ∈ detours) : t.IsTarget tag := by
  cases role with
  | leaf => exact (h.2 tag htag).isTarget
  | selector => exact (h.2 tag htag).isTarget
  | roundRobin =>
      obtain ⟨-, pool, output, rfl, hpool, houtput⟩ := h
      rcases List.mem_append.1 htag with htag | htag
      · exact (hpool tag htag).isTarget
      · exact (houtput tag (Option.mem_toList.1 htag)).isTarget

end

/-- All that a link may lead to is defined. -/
theorem NodesSound.mem_library_of_isTarget {t : Topology} (h : t.NodesSound) {tag : String}
    (htag : t.IsTarget tag) : tag ∈ t.library.map NodeDefinition.tag := by
  rcases htag with hplaced | rfl
  · exact (h.placed_allowed tag hplaced).2.2
  · obtain ⟨d, hd, htag, -⟩ := h.exit_defined
    exact htag ▸ List.mem_map_of_mem hd

theorem NodesSound.ne_empty_of_isTarget {t : Topology} (h : t.NodesSound) {tag : String}
    (htag : t.IsTarget tag) : tag ≠ "" := by
  rcases htag with hplaced | rfl
  · exact (h.placed_allowed tag hplaced).1
  · decide

namespace IsNormal

variable {t : Topology} (h : t.IsNormal) {entry : Nat × PlacedNode} (hentry : entry ∈ t.placed)

include h hentry

theorem isTarget_of_mem_detours {tag : String} (htag : tag ∈ entry.2.detours) :
    t.IsTarget tag :=
  (h.node_links entry hentry).isTarget htag

/-- The first part of the links of a node is its pool as the topology has it. -/
theorem pool_splitPool :
    (t.index.splitPool entry.1 entry.2.detours).pool = t.poolMembers entry := by
  have hunique : Tag.unique entry.2.detours = entry.2.detours :=
    Tag.unique_eq_self (h.node_links entry hentry).nodup fun tag htag =>
      h.ne_empty_of_isTarget (h.isTarget_of_mem_detours hentry htag)
  rw [Index.splitPool, hunique]
  refine List.filter_congr fun tag _ => ?_
  rw [Bool.eq_iff_iff, h.inHop_iff, decide_eq_true_iff]

variable (hkind : t.kindOf entry.2 = .roundRobin)

include hkind

/-- The links of a round-robin node are its pool, then its output. -/
theorem detours_splitPool :
    (t.index.splitPool entry.1 entry.2.detours).detours = entry.2.detours := by
  have hlegal := h.legalDetours_eq_self (h.node_links entry hentry)
  rwa [hkind] at hlegal

theorem mem_output_iff {tag : String} :
    tag ∈ (t.index.splitPool entry.1 entry.2.detours).output ↔ t.IsOutput entry tag := by
  constructor
  · intro htag
    have hmem : tag ∈ (t.index.splitPool entry.1 entry.2.detours).detours :=
      List.mem_append_right _ (Option.mem_toList.2 htag)
    rw [h.detours_splitPool hentry hkind] at hmem
    exact ⟨hkind, hmem, h.twoAhead_of_mem_output htag⟩
  · rintro ⟨-, hmem, hbehind⟩
    rw [← h.detours_splitPool hentry hkind] at hmem
    rcases List.mem_append.1 hmem with hpool | houtput
    · exact absurd hbehind (h.not_twoAhead (h.mem_pool_iff.1 hpool).2)
    · exact Option.mem_toList.1 houtput

end IsNormal

end Topology

end ProxyChain
