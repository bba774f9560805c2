import ProxyChain.Proofs.Topology.Consistency

/-!
# ProxyChain.Proofs.Topology.Saving

**What saving a definition does to the other ones.** A definition takes the place of the one with
its former tag, and all others stay as they are (`SavedAs`). A definition without a former tag is
saved under its own one, so it takes the place of the one that has this tag already. It is not
refused then, as it would be with any other former tag, and this is the only way to lose a
definition by saving another one (`upsertDefinition_keepsOthers_iff`).
-/

namespace ProxyChain

/-! ### Libraries -/

/-- A definition was saved in a library in place of the one with a former tag, if there was one. -/
structure SavedAs (definition : NodeDefinition) (former : String)
    (before after : List NodeDefinition) : Prop where
  tags_nodup : (after.map NodeDefinition.tag).Nodup
  saved : ∃ id, definition.withId id ∈ after
  others : (after.filter fun d => d.tag ≠ definition.tag) = before.filter fun d => d.tag ≠ former

/-- All definitions but the one with the former tag are still there, in the same order; if there is
no former tag, these are all definitions, and there is one more. -/
structure KeepsOthers (former : Option String) (before after : List NodeDefinition) : Prop where
  others : (before.filter fun d => former ≠ some d.tag).Sublist after
  grown : former = none → after.length = before.length + 1

section

variable {library : List NodeDefinition} {definition : NodeDefinition} {former : String}
  (hnodup : (library.map NodeDefinition.tag).Nodup)

theorem filter_tag_eq_self {tag : String} (h : tag ∉ library.map NodeDefinition.tag) :
    (library.filter fun d => d.tag ≠ tag) = library :=
  List.filter_eq_self.2 fun _ hd =>
    decide_eq_true fun htag => h (htag ▸ List.mem_map_of_mem hd)

include hnodup

theorem exists_withId_mem_saveDefinition :
    ∃ id, definition.withId id ∈ Topology.saveDefinition definition former library := by
  by_cases hformer : former ∈ library.map NodeDefinition.tag
  · obtain ⟨d, hd, htag⟩ := List.mem_map.1 hformer
    rw [saveDefinition_of_mem hnodup hformer]
    exact ⟨d.id, List.mem_map.2 ⟨d, hd, if_pos htag⟩⟩
  · rw [saveDefinition_of_not_mem hformer]
    exact ⟨_, List.mem_append_right _ (List.mem_singleton_self _)⟩

variable (hfree : former = definition.tag ∨ definition.tag ∉ library.map NodeDefinition.tag)

include hfree

/-- The definitions of other tags are those whose place was not taken. -/
theorem filter_saveDefinition :
    ((Topology.saveDefinition definition former library).filter fun d => d.tag ≠ definition.tag) =
      library.filter fun d => d.tag ≠ former := by
  by_cases hformer : former ∈ library.map NodeDefinition.tag
  · let place (d : NodeDefinition) := if d.tag = former then definition.withId d.id else d
    have hplace : ∀ d ∈ library, (place d).tag ≠ definition.tag ↔ d.tag ≠ former := by
      intro d hd
      by_cases hd_former : d.tag = former
      · simp [place, hd_former]
      · -- The tag of the definition is the former one, or no other one has it.
        have hother : d.tag ≠ definition.tag := by
          rcases hfree with rfl | hfree
          · exact hd_former
          · exact fun htag => hfree (htag ▸ List.mem_map_of_mem hd)
        simp [place, hd_former, hother]
    calc (Topology.saveDefinition definition former library).filter (fun d => d.tag ≠ definition.tag)
      _ = (library.map place).filter fun d => d.tag ≠ definition.tag := by
          rw [saveDefinition_of_mem hnodup hformer]
      _ = (library.filter fun d => d.tag ≠ former).map place := by
          rw [List.filter_map]
          exact congrArg (List.map place)
            (List.filter_congr fun d hd => decide_eq_decide.2 (hplace d hd))
      _ = library.filter fun d => d.tag ≠ former :=
          map_eq_self_iff.2 fun d hd => if_neg (of_decide_eq_true (List.mem_filter.1 hd).2)
  · have hnew : definition.tag ∉ library.map NodeDefinition.tag :=
      hfree.elim (fun heq => heq ▸ hformer) id
    rw [saveDefinition_of_not_mem hformer, List.filter_append, filter_tag_eq_self hnew,
      filter_tag_eq_self hformer, List.filter_singleton]
    simp

theorem savedAs_saveDefinition :
    SavedAs definition former library (Topology.saveDefinition definition former library) where
  tags_nodup := nodup_saveDefinition hnodup hfree
  saved := exists_withId_mem_saveDefinition hnodup
  others := filter_saveDefinition hnodup hfree

end

namespace SavedAs

variable {definition : NodeDefinition} {before after : List NodeDefinition}

/-- There is one definition more than there were others. -/
theorem length_eq {former : String} (h : SavedAs definition former before after) :
    after.length = (before.filter fun d => d.tag ≠ former).length + 1 := by
  obtain ⟨id, hsaved⟩ := h.saved
  have htag : definition.tag ∈ after.map NodeDefinition.tag :=
    List.mem_map.2 ⟨_, hsaved, definition.tag_withId id⟩
  rw [← h.others, length_filter_key_ne h.tags_nodup htag]

theorem keepsOthers_some {former : String} (h : SavedAs definition former before after) :
    KeepsOthers (some former) before after where
  others := by
    have hothers : (before.filter fun d => some former ≠ some d.tag) =
        before.filter fun d => d.tag ≠ former :=
      List.filter_congr fun d _ => by simp [eq_comm]
    rw [hothers, ← h.others]
    exact List.filter_sublist
  grown := nofun

/-- Saving under the tag that a definition has keeps all others if it is the tag of none. -/
theorem keepsOthers_none_iff (h : SavedAs definition definition.tag before after) :
    KeepsOthers none before after ↔ definition.tag ∉ before.map NodeDefinition.tag := by
  constructor
  · intro hkeeps
    have hlength : (before.filter fun d => d.tag ≠ definition.tag).length = before.length :=
      Nat.succ_inj.1 (h.length_eq.symm.trans (hkeeps.grown rfl))
    intro hmem
    obtain ⟨d, hd, htag⟩ := List.mem_map.1 hmem
    have hkept := List.length_filter_eq_length_iff.1 hlength d hd
    exact of_decide_eq_true hkept htag
  · intro hnew
    have hself := filter_tag_eq_self hnew
    have hkept : (after.filter fun d => d.tag ≠ definition.tag) = before := h.others.trans hself
    have hall : (before.filter fun d => (none : Option String) ≠ some d.tag) = before := by simp
    exact ⟨hall.symm ▸ hkept ▸ List.filter_sublist, fun _ => by rw [h.length_eq, hself]⟩

end SavedAs

/-! ### Topologies -/

namespace Topology

variable {t : Topology} {definition : NodeDefinition} {former : Option String}

theorem library_retagReferences (old new : String) (t : Topology) :
    (t.retagReferences old new).library = t.library := by
  rw [retagReferences]
  split <;> rfl

theorem upsertDefinition_of_ok (hok : (t.upsertDefinition definition former).outcome = .ok ()) :
    t.MayBeSaved definition (former.getD definition.tag) ∧
      (t.upsertDefinition definition former).topology.library =
        saveDefinition definition (former.getD definition.tag) t.library := by
  obtain ⟨hsave, hafter⟩ := (upsertDefinition_follows t definition former).of_ok hok
  exact ⟨hsave, by rw [hafter, library_retagReferences]⟩

/-- Saving a definition keeps the tags of the library apart, and the others in it as they are: with a
former tag always, and without one if the tag is new. If it is not new, what has the tag is
overwritten. -/
theorem upsertDefinition_keepsOthers_iff (t : Topology) (definition : NodeDefinition)
    (former : Option String) (hnodup : (t.library.map NodeDefinition.tag).Nodup)
    (hok : (t.upsertDefinition definition former).outcome = .ok ()) :
    SavedAs definition (former.getD definition.tag) t.library
        (t.upsertDefinition definition former).topology.library ∧
      (KeepsOthers former t.library (t.upsertDefinition definition former).topology.library ↔
        former ≠ none ∨ definition.tag ∉ t.library.map NodeDefinition.tag) ∧
      (former = none → definition.tag ∈ t.library.map NodeDefinition.tag →
        (t.upsertDefinition definition former).topology.library =
          t.library.map fun d => if d.tag = definition.tag then definition.withId d.id else d) := by
  obtain ⟨hsave, hlibrary⟩ := upsertDefinition_of_ok hok
  rw [hlibrary]
  have hsaved := savedAs_saveDefinition hnodup hsave.tag_free
  cases former with
  | none =>
      refine ⟨hsaved, ?_, fun _ htaken => saveDefinition_of_mem hnodup htaken⟩
      rw [hsaved.keepsOthers_none_iff]
      simp
  | some former =>
      exact ⟨hsaved, iff_of_true hsaved.keepsOthers_some (.inl (Option.some_ne_none former)), nofun⟩

/-- Two nodes beside the Internet exit. -/
def twoNodes : Topology where
  layers := [{ id := "layer-1", title := "HOP 1" }]
  library := [.internet, .named "a" .vmess,
    { id := "lib-b", tag := "b", kind := .trojan, server := "b.example", port := some 443,
      password := "secret" }]

/-- Giving a node another tag keeps the other node, and so does saving a third one. -/
theorem twoNodes_kept :
    (twoNodes.upsertDefinition (.named "c" .vmess) (some "a")).outcome = .ok () ∧
      KeepsOthers (some "a") twoNodes.library
        (twoNodes.upsertDefinition (.named "c" .vmess) (some "a")).topology.library ∧
      (twoNodes.upsertDefinition (.named "c" .socks) none).outcome = .ok () ∧
      KeepsOthers none twoNodes.library
        (twoNodes.upsertDefinition (.named "c" .socks) none).topology.library := by
  have hnodup : (twoNodes.library.map NodeDefinition.tag).Nodup := by decide
  have hrename : (twoNodes.upsertDefinition (.named "c" .vmess) (some "a")).outcome = .ok () := by
    decide
  have hcreate : (twoNodes.upsertDefinition (.named "c" .socks) none).outcome = .ok () := by decide
  obtain ⟨-, hrenamed, -⟩ := upsertDefinition_keepsOthers_iff twoNodes _ _ hnodup hrename
  obtain ⟨-, hcreated, -⟩ := upsertDefinition_keepsOthers_iff twoNodes _ _ hnodup hcreate
  exact ⟨hrename, hrenamed.2 (.inl nofun), hcreate, hcreated.2 (.inr (by decide))⟩

/-- A new definition overwrites the one that has its tag, with its server and its password. -/
theorem not_forall_keepsOthers : ¬ ∀ (t : Topology) (definition : NodeDefinition)
    (former : Option String), (t.library.map NodeDefinition.tag).Nodup →
      (t.upsertDefinition definition former).outcome = .ok () →
      ((t.upsertDefinition definition former).topology.library.map NodeDefinition.tag).Nodup ∧
        KeepsOthers former t.library (t.upsertDefinition definition former).topology.library :=
  fun h => absurd ((h twoNodes (.named "b" .socks) none (by decide) (by decide)).2.grown rfl)
    (by decide)

end Topology

end ProxyChain
