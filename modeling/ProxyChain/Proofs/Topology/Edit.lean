import ProxyChain.Proofs.Text.Digits
import ProxyChain.Proofs.Topology.Layers

/-!
# ProxyChain.Proofs.Topology.Edit

**What each edit does, its checks included.** An edit is refused and changes nothing, or it is done
(`Edited.Follows`). For each edit one lemma says when it is done and what the topology is then; what
holds of all edits is proved from these lemmas, and no edit is opened again.
-/

namespace ProxyChain

/-! ### Edits -/

/-- An edit of a topology was refused, or it was done with a value and a topology as told. -/
inductive Edited.Follows (t : Topology) (done : α → Topology → Prop) : Edited α → Prop
  | refused (refusal : Refusal) : Follows t done (t.refuse refusal)
  | accepted {value : α} {after : Topology} (messages : List String) (h : done value after) :
      Follows t done (after.accept value messages)

/-- What holds of a topology and whenever the edit is done, holds after the edit. -/
theorem Edited.Follows.preserves {t : Topology} {done : α → Topology → Prop} {edited : Edited α}
    {motive : Topology → Prop} (h : edited.Follows t done) (ht : motive t)
    (hdone : ∀ value after, done value after → motive after) : motive edited.topology := by
  cases h with
  | refused refusal => exact ht
  | accepted messages h => exact hdone _ _ h

theorem Edited.Follows.of_ok {t : Topology} {done : α → Topology → Prop} {edited : Edited α}
    {value : α} (h : edited.Follows t done) (hok : edited.outcome = .ok value) :
    done value edited.topology := by
  cases h with
  | refused refusal => cases hok
  | accepted messages h => exact Except.ok.inj hok ▸ h

/-! ### Look-ups -/

namespace Topology

variable {t : Topology}

theorem isSome_definition?_iff {tag : String} : (t.definition? tag).isSome = true ↔
    tag ≠ "" ∧ tag ∈ t.library.map NodeDefinition.tag := by
  rw [definition?]
  by_cases htag : tag = ""
  · simp [htag]
  · simp [htag]

theorem mem_of_definition? {tag : String} {d : NodeDefinition} (h : t.definition? tag = some d) :
    tag ≠ "" ∧ d ∈ t.library ∧ d.tag = tag := by
  rw [definition?] at h
  split at h
  · cases h
  · rename_i htag
    exact ⟨htag, List.mem_of_find?_eq_some h, by simpa using List.find?_some h⟩

theorem isPlaced_iff {tag : String} : t.isPlaced tag = true ↔ tag ∈ t.placedTags := by
  simp [isPlaced, findPlaced?, placedTags]

theorem mem_of_inbound? {tag : String} {inbound : Inbound} (h : t.inbound? tag = some inbound) :
    inbound ∈ t.inbounds ∧ inbound.tag = tag :=
  ⟨List.mem_of_find?_eq_some h, by simpa using List.find?_some h⟩

/-! ### Fresh ids -/

theorem freshFrom_eq_firstFree (stem : String) (taken : List String) :
    ∀ tries number, freshFrom stem taken tries number =
      firstFree (fun n => s!"{stem}-{n}") taken tries number
  | 0, _ => rfl
  | tries + 1, number => by
      rw [freshFrom, firstFree, freshFrom_eq_firstFree stem taken tries]

theorem numbered_inj {stem : String} {m n : Nat} (h : s!"{stem}-{m}" = s!"{stem}-{n}") :
    m = n := by
  have hparts : ∀ i : Nat, s!"{stem}-{i}" = stem ++ "-" ++ Nat.repr i := fun _ => rfl
  rw [hparts, hparts, String.append_right_inj] at h
  have hread := Text.readNatural?_repr m
  rw [h, Text.readNatural?_repr n] at hread
  exact (Option.some.inj hread).symm

/-- As many names as there are taken ones, and one more, are not all taken. -/
theorem searches_freshId (stem : String) (taken : List String) : ∃ tries ≤ taken.length + 1,
    Searches (fun n => s!"{stem}-{n}") taken (taken.length + 1) tries (freshId stem taken) := by
  have hinj : ∀ i < taken.length + 1, ∀ j < taken.length + 1,
      s!"{stem}-{taken.length + 1 + i}" = s!"{stem}-{taken.length + 1 + j}" → i = j := by
    intro i _ j _ h
    have hsum := numbered_inj h
    omega
  obtain ⟨i, hi, hfree⟩ := exists_not_mem_of_inj hinj (Nat.lt_succ_self taken.length)
  obtain ⟨tries, htries, hends⟩ := searches_firstFree (fun n => s!"{stem}-{n}") hfree
    (Nat.le_add_right _ i) (by omega : _ ≤ taken.length + 1 + taken.length)
  rw [freshId, freshFrom_eq_firstFree]
  exact ⟨tries, by omega, hends⟩

theorem freshId_not_mem (stem : String) (taken : List String) : freshId stem taken ∉ taken := by
  obtain ⟨_, _, hends⟩ := searches_freshId stem taken
  exact hends.not_mem

/-! ### The library -/

theorem reservedRefusal?_eq_none_iff {tag : String} :
    reservedRefusal? tag = none ↔ tag ≠ Tag.internet ∧ Tag.isSystem tag = false := by
  rw [reservedRefusal?]
  by_cases hinternet : tag = Tag.internet
  · simp [hinternet]
  · by_cases hsystem : Tag.isSystem tag = true
    · simp [hinternet, hsystem]
    · simp [hinternet, hsystem]

/-- A definition may be saved under its tag in place of the one with the former tag. -/
structure MayBeSaved (t : Topology) (definition : NodeDefinition) (former : String) : Prop where
  tag_not_blank : Text.allBlank definition.tag = false
  tag_ne_internet : definition.tag ≠ Tag.internet
  tag_plain : Tag.isSystem definition.tag = false
  former_ne_internet : former ≠ Tag.internet
  former_plain : Tag.isSystem former = false
  tag_free : former = definition.tag ∨ definition.tag ∉ t.library.map NodeDefinition.tag

theorem MayBeSaved.tag_ne_empty {definition : NodeDefinition} {former : String}
    (h : t.MayBeSaved definition former) : definition.tag ≠ "" := by
  intro hempty
  have hblank := h.tag_not_blank
  rw [hempty] at hblank
  exact absurd hblank (by decide)

theorem upsertRefusal?_eq_none_iff {definition : NodeDefinition} {former : String} :
    t.upsertRefusal? definition former = none ↔ t.MayBeSaved definition former := by
  rw [upsertRefusal?]
  constructor
  · intro h
    split at h
    · cases h
    · rename_i hblank
      rw [Option.or_eq_none_iff, Option.or_eq_none_iff, reservedRefusal?_eq_none_iff,
        reservedRefusal?_eq_none_iff] at h
      obtain ⟨⟨hinternet, hplain⟩, ⟨hformer, hformer_plain⟩, htaken⟩ := h
      refine ⟨Bool.eq_false_iff.2 hblank, hinternet, hplain, hformer, hformer_plain, ?_⟩
      -- The look-up finds every defined tag, as the empty one is blank.
      by_contra htag
      rw [not_or, not_not] at htag
      have hne : definition.tag ≠ "" := fun hempty => hblank (by rw [hempty]; rfl)
      rw [if_pos ⟨htag.1, isSome_definition?_iff.2 ⟨hne, htag.2⟩⟩] at htaken
      cases htaken
  · intro h
    have htaken : ¬ (former ≠ definition.tag ∧ (t.definition? definition.tag).isSome = true) := by
      rintro ⟨hne, hdefined⟩
      exact (h.tag_free.resolve_left hne) (isSome_definition?_iff.1 hdefined).2
    rw [h.tag_not_blank, reservedRefusal?_eq_none_iff.2 ⟨h.tag_ne_internet, h.tag_plain⟩,
      reservedRefusal?_eq_none_iff.2 ⟨h.former_ne_internet, h.former_plain⟩, if_neg htaken]
    rfl

theorem upsertDefinition_follows (t : Topology) (definition : NodeDefinition)
    (former : Option String) :
    (t.upsertDefinition definition former).Follows t fun _ after =>
      t.MayBeSaved definition (former.getD definition.tag) ∧
        after = { t with library := saveDefinition definition (former.getD definition.tag) t.library
          }.retagReferences (former.getD definition.tag) definition.tag := by
  rw [upsertDefinition]
  split
  · exact .refused _
  · rename_i hnone
    exact .accepted _ ⟨upsertRefusal?_eq_none_iff.1 hnone, rfl⟩

theorem deleteDefinition_follows (t : Topology) (tag : String) :
    (t.deleteDefinition tag).Follows t fun report after =>
      tag ≠ Tag.internet ∧ tag ≠ "" ∧ tag ∈ t.library.map NodeDefinition.tag ∧
        report = .ofDropping tag t ∧
        after = { t.dropReferences tag with library := t.library.filter fun d => d.tag ≠ tag } := by
  rw [deleteDefinition]
  split
  · exact .refused _
  · rename_i hinternet
    split
    · exact .refused _
    · split
      · exact .refused _
      · rename_i hdefined
        rw [Option.isNone_iff_eq_none, ← ne_eq, Option.ne_none_iff_isSome,
          isSome_definition?_iff] at hdefined
        rw [removeReferences, if_neg hdefined.1]
        exact .accepted _ ⟨hinternet, hdefined.1, hdefined.2, rfl, rfl⟩

/-! ### Placements and layers -/

theorem placeNode_follows (t : Topology) (layer tag : String) :
    (t.placeNode layer tag).Follows t fun id after =>
      ∃ position, position < t.layers.length ∧ tag ≠ Tag.internet ∧ tag ≠ "" ∧
        tag ∈ t.library.map NodeDefinition.tag ∧ tag ∉ t.placedTags ∧
        id ∉ t.nodes.map PlacedNode.id ∧
        after = t.modifyLayer position fun layer =>
          { layer with nodes := layer.nodes ++ [{ id := id, tag := tag }] } := by
  rw [placeNode]
  cases hlayer : t.layerPosition? layer with
  | none => exact .refused _
  | some position =>
      dsimp only
      split
      · exact .refused _
      · rename_i hinternet
        split
        · exact .refused _
        · rename_i hdefined
          rw [Option.isNone_iff_eq_none, ← ne_eq, Option.ne_none_iff_isSome,
            isSome_definition?_iff] at hdefined
          split
          · exact .refused _
          · rename_i hplaced
            rw [isPlaced_iff] at hplaced
            refine .accepted _ ⟨position, layerPosition?_lt hlayer, hinternet, hdefined.1,
              hdefined.2, hplaced, ?_, rfl⟩
            rw [← map_snd_placed, List.map_map]
            exact freshId_not_mem _ _

theorem removePlacement_follows (t : Topology) (layer node : String) :
    (t.removePlacement layer node).Follows t fun _ after =>
      ∃ position, after = t.modifyLayer position fun layer =>
        { layer with nodes := layer.nodes.filter fun n => n.id ≠ node } := by
  rw [removePlacement]
  cases t.layerPosition? layer with
  | none => exact .refused _
  | some position =>
      dsimp only
      split
      · exact .accepted _ ⟨position, rfl⟩
      · exact .refused _

theorem moveNode_follows (t : Topology) (node layer : String) :
    (t.moveNode node layer).Follows t fun _ after =>
      ∃ source target found moved, t.layers[source]? = some found ∧ target < t.layers.length ∧
        found.nodes.find? (fun n => n.id = node) = some moved ∧
        after = (t.modifyLayer source fun layer =>
            { layer with nodes := layer.nodes.eraseP fun n => n.id = node }).modifyLayer target
          fun layer => { layer with nodes := layer.nodes ++ [moved] } := by
  rw [moveNode]
  cases hlayer : t.layerPosition? layer with
  | none => exact .refused _
  | some target =>
      dsimp only
      split
      · exact .refused _
      · rename_i source hsource
        obtain ⟨hposition, -⟩ := List.findIdx?_eq_some_iff_getElem.1 hsource
        rw [List.getElem?_eq_getElem hposition]
        split
        · exact .refused _
        · rename_i moved hmoved
          exact .accepted _ ⟨source, target, _, moved, List.getElem?_eq_getElem hposition,
            layerPosition?_lt hlayer, hmoved, rfl⟩

theorem moveLayer_follows (t : Topology) (source target : Nat) :
    (t.moveLayer source target).Follows t fun _ after =>
      source < t.layers.length ∧ target < t.layers.length ∧
        after = { t with layers := moveItem source target t.layers } := by
  rw [moveLayer]
  split
  · rename_i h
    exact .accepted _ ⟨h.1, h.2, rfl⟩
  · exact .refused _

theorem addLayer_follows (t : Topology) (title : String) :
    (t.addLayer title).Follows t fun id after =>
      id ∉ t.layerIds ∧ ∃ front back layer, t.layers = front ++ back ∧
        (1 < t.layers.length → back.length = 1) ∧ layer.id = id ∧ layer.nodes = [] ∧
        after = { t with layers := front ++ layer :: back } := by
  have hposition : (if 1 < t.layers.length then t.layers.length - 1 else t.layers.length) ≤
      t.layers.length := by split <;> omega
  refine .accepted _ ⟨freshId_not_mem _ _, _, _, _, (List.take_append_drop _ t.layers).symm,
    fun hmany => ?_, ?_, ?_, congrArg (fun layers => { t with layers := layers })
      (insertIdx_eq_take_append_drop _ hposition)⟩
  · rw [if_pos hmany, List.length_drop]
    omega
  · rfl
  · rfl

theorem removeLayer_follows (t : Topology) (layer : String) :
    (t.removeLayer layer).Follows t fun _ after =>
      ∃ position, after = { t with layers := t.layers.eraseIdx position } := by
  rw [removeLayer]
  cases t.layerPosition? layer with
  | none => exact .refused _
  | some position => exact .accepted _ ⟨position, rfl⟩

/-! ### Inbounds -/

/-- An inbound can have a tag and a port beside some others. -/
structure SlotFree (others : List Inbound) (tag : String) (port : UInt16) : Prop where
  port_ne_zero : port ≠ 0
  tag_free : tag ∉ others.map Inbound.tag
  port_free : port ∉ others.map Inbound.port

theorem slotRefusal?_eq_none_iff {others : List Inbound} {tag : String} {port : UInt16} :
    slotRefusal? others tag port = none ↔ SlotFree others tag port := by
  rw [slotRefusal?]
  constructor
  · intro h
    split at h
    · cases h
    · split at h
      · cases h
      · split at h
        · cases h
        · exact ⟨‹_›, by simp_all, by simp_all⟩
  · intro h
    have htag := h.tag_free
    have hport := h.port_free
    rw [if_neg h.port_ne_zero, if_neg (by simpa using htag), if_neg (by simpa using hport)]

theorem ne_empty_of_givenTag? {given : Option String} {tag : String}
    (h : givenTag? given = some tag) : tag ≠ "" := by
  rw [givenTag?, Option.filter_eq_some_iff] at h
  exact of_decide_eq_true h.2

theorem addInbound_follows (t : Topology) (given : Option String) (port : UInt16) :
    (t.addInbound given port).Follows t fun tag after =>
      tag ≠ "" ∧ SlotFree t.inbounds tag port ∧
        after = { t with inbounds := t.inbounds ++ [{ tag := tag, port := port }] } := by
  have hne : (givenTag? given).getD s!"mixed-{port.toNat}" ≠ "" := by
    cases hgiven : givenTag? given with
    | some tag => exact ne_empty_of_givenTag? hgiven
    | none =>
        intro hempty
        have hlength := congrArg String.length hempty
        have hmixed : s!"mixed-{port.toNat}" = "mixed-" ++ Nat.repr port.toNat := rfl
        rw [Option.getD_none, hmixed, String.length_append] at hlength
        have hstem : "mixed-".length = 6 := rfl
        have hnone : "".length = 0 := rfl
        omega
  rw [addInbound]
  split
  · exact .refused _
  · rename_i hslot
    exact .accepted _ ⟨hne, slotRefusal?_eq_none_iff.1 hslot, rfl⟩

theorem updateInbound_follows (t : Topology) (tag : String) (given : Option String)
    (port : UInt16) :
    (t.updateInbound tag given port).Follows t fun _ after =>
      ∃ inbound ∈ t.inbounds, inbound.tag = tag ∧
        ∃ newTag, (newTag = tag ∨ newTag ≠ "") ∧
          SlotFree (t.inbounds.filter fun other => other.tag ≠ tag) newTag port ∧
          after = t.modifyInbound tag fun inbound =>
            { inbound with tag := newTag, port := port } := by
  rw [updateInbound]
  cases hfound : t.inbound? tag with
  | none => exact .refused _
  | some inbound =>
      obtain ⟨hinbound, htag⟩ := mem_of_inbound? hfound
      dsimp only [Option.isNone_some]
      rw [if_neg Bool.false_ne_true]
      have hnew : (givenTag? given).getD tag = tag ∨ (givenTag? given).getD tag ≠ "" := by
        cases hgiven : givenTag? given with
        | none => exact Or.inl rfl
        | some other => exact Or.inr (ne_empty_of_givenTag? hgiven)
      split
      · exact .refused _
      · rename_i hslot
        exact .accepted _
          ⟨inbound, hinbound, htag, _, hnew, slotRefusal?_eq_none_iff.1 hslot, rfl⟩

theorem deleteInbound_follows (t : Topology) (tag : String) :
    (t.deleteInbound tag).Follows t fun _ after =>
      after = { t with inbounds := t.inbounds.filter fun inbound => inbound.tag ≠ tag } := by
  rw [deleteInbound]
  split
  · exact .accepted _ rfl
  · exact .refused _

theorem setSelectorDefault_follows (t : Topology) (tag target : String) :
    (t.setSelectorDefault tag target).Follows t fun _ after =>
      ∃ inbound, t.inbound? tag = some inbound ∧ target ∈ inbound.detours ∧
        after = t.modifyInbound tag fun inbound =>
          { inbound with selectorDefault := some target } := by
  rw [setSelectorDefault]
  cases hfound : t.inbound? tag with
  | none => exact .refused _
  | some inbound =>
      dsimp only
      split
      · exact .accepted _ ⟨inbound, rfl, ‹_›, rfl⟩
      · exact .refused _

/-! ### Links -/

theorem unlinkInbound_follows (t : Topology) (source target : String) :
    (t.unlinkInbound source target).Follows t fun _ after =>
      after = t.modifyInbound source (dropInboundLinks target) := by
  rw [unlinkInbound]
  cases t.inbound? source with
  | none => exact .refused _
  | some inbound => exact .accepted _ rfl

theorem unlinkNode_follows (t : Topology) (source target : String) :
    (t.unlinkNode source target).Follows t fun _ after =>
      after = t.modifyPlaced source fun node =>
        { node with detours := node.detours.filter (· ≠ target) } := by
  rw [unlinkNode]
  cases t.findPlaced? source with
  | none => exact .refused _
  | some entry => exact .accepted _ rfl

end Topology

end ProxyChain
