import ProxyChain.Proofs.Sequence
import ProxyChain.RoundRobin.Plan

/-!
# ProxyChain.Proofs.RoundRobin.Outputs

**Where the members of pools send traffic.** Each pool with an output assigns it to its members, by
the tag that is dialled. If all these outputs can be assigned, the result knows just them
(`assignGroups_eq_ok`); otherwise two pools with a common member have outputs that are dialled
differently (`assignOutputs_eq_error`). The tag that is dialled is that of a group, or the own one
of the target (`dialTag_eq_outboundTag`, `dialTag_eq_self`).
-/

namespace ProxyChain.RoundRobin

/-! ### Assigning outputs -/

/-- Assigning an output adds that one entry, whether it was there or not. -/
theorem assignOutput_eq_ok {output candidate : String} {assigned next : List (String × String)}
    (h : assignOutput output assigned candidate = .ok next) (tag target : String) :
    next.lookup tag = some target ↔
      assigned.lookup tag = some target ∨ tag = candidate ∧ target = output := by
  rw [assignOutput] at h
  cases hlookup : assigned.lookup candidate with
  | none =>
      rw [hlookup] at h
      obtain rfl := Except.ok.inj h
      rw [List.lookup_append]
      by_cases htag : tag = candidate
      · subst htag
        simp [hlookup, eq_comm]
      · have hne : (tag == candidate) = false := by simpa using htag
        simp [List.lookup_cons, hne, htag]
  | some previous =>
      rw [hlookup] at h
      dsimp only at h
      split at h
      · rename_i heq
        obtain rfl := Except.ok.inj h
        subst heq
        constructor
        · exact Or.inl
        · rintro (hassigned | ⟨rfl, rfl⟩)
          · exact hassigned
          · exact hlookup
      · cases h

/-- The outputs that some groups assign to the members of their pools. -/
def Assigned (dial : String → String) (groups : List Group)
    (assigned : List (String × String)) : Prop :=
  ∀ tag target, assigned.lookup tag = some target ↔
    ∃ group ∈ groups, tag ∈ group.candidates ∧ ∃ output ∈ group.output, target = dial output

/-- Assigning an output to the members of a pool adds these entries. -/
theorem assignCandidates_eq_ok {output : String} {candidates : List String}
    {assigned next : List (String × String)}
    (h : candidates.foldlM (assignOutput output) assigned = .ok next) (tag target : String) :
    next.lookup tag = some target ↔
      assigned.lookup tag = some target ∨ tag ∈ candidates ∧ target = output := by
  revert tag target
  refine foldlM_ok_induction (motive := fun candidates acc => ∀ tag target,
    acc.lookup tag = some target ↔ assigned.lookup tag = some target ∨
      tag ∈ candidates ∧ target = output) ?_ (by simp) h
  intro candidates candidate acc next hacc hstep tag target
  rw [assignOutput_eq_ok hstep, hacc, List.mem_append, List.mem_singleton, or_assoc,
    or_and_right]

theorem assignGroup_eq_ok {groups done : List Group} {group : Group}
    {assigned next : List (String × String)} (hdone : Assigned (dialTag groups) done assigned)
    (h : assignGroup groups assigned group = .ok next) :
    Assigned (dialTag groups) (done ++ [group]) next := by
  intro tag target
  have hsplit : (∃ g ∈ done ++ [group], tag ∈ g.candidates ∧
        ∃ output ∈ g.output, target = dialTag groups output) ↔
      assigned.lookup tag = some target ∨ tag ∈ group.candidates ∧
        ∃ output ∈ group.output, target = dialTag groups output := by
    rw [hdone tag target]
    simp only [List.mem_append, List.mem_singleton, or_and_right, exists_or, exists_eq_left]
  rw [hsplit]
  rw [assignGroup] at h
  cases houtput : group.output with
  | none =>
      rw [houtput] at h
      obtain rfl := Except.ok.inj h
      simp
  | some output =>
      rw [houtput] at h
      rw [assignCandidates_eq_ok h]
      simp

theorem assignGroups_eq_ok {groups done : List Group} {outputs : List (String × String)}
    (h : done.foldlM (assignGroup groups) [] = .ok outputs) :
    Assigned (dialTag groups) done outputs :=
  foldlM_ok_induction (motive := Assigned (dialTag groups))
    (fun _ _ _ _ hdone hstep => assignGroup_eq_ok hdone hstep)
    (fun tag target => by simp) h

/-! ### Conflicts -/

theorem assignOutput_eq_error {output candidate : String} {assigned : List (String × String)}
    {e : CompileError} (h : assignOutput output assigned candidate = .error e) :
    ∃ previous, assigned.lookup candidate = some previous ∧ previous ≠ output ∧
      e = .conflictingOutput candidate previous output := by
  rw [assignOutput] at h
  cases hlookup : assigned.lookup candidate with
  | none => rw [hlookup] at h; cases h
  | some previous =>
      rw [hlookup] at h
      dsimp only at h
      split at h
      · cases h
      · exact ⟨previous, rfl, ‹_›, (Except.error.inj h).symm⟩

/-- A pool can conflict only with those before it. -/
theorem assignGroup_eq_error {groups : List Group} {group : Group}
    {assigned : List (String × String)} {e : CompileError}
    (h : assignGroup groups assigned group = .error e) :
    ∃ candidate ∈ group.candidates, ∃ output ∈ group.output, ∃ previous,
      assigned.lookup candidate = some previous ∧ previous ≠ dialTag groups output ∧
        e = .conflictingOutput candidate previous (dialTag groups output) := by
  rw [assignGroup] at h
  cases houtput : group.output with
  | none => rw [houtput] at h; cases h
  | some output =>
      rw [houtput] at h
      obtain ⟨done, candidate, rest, acc, hsplit, hdone, hstep⟩ := foldlM_eq_error h
      obtain ⟨previous, hlookup, hne, rfl⟩ := assignOutput_eq_error hstep
      refine ⟨candidate, by simp [hsplit], output, rfl, previous, ?_, hne, rfl⟩
      -- An output that the pool itself gave to the member would be the same one.
      rcases (assignCandidates_eq_ok hdone candidate previous).1 hlookup with hassigned | hown
      · exact hassigned
      · exact absurd hown.2 hne

/-- Two pools with a common member and outputs that are dialled differently. -/
theorem assignOutputs_eq_error {groups : List Group} {e : CompileError}
    (h : assignOutputs groups = .error e) :
    ∃ a ∈ groups, ∃ b ∈ groups, ∃ candidate ∈ a.candidates, candidate ∈ b.candidates ∧
      ∃ first ∈ a.output, ∃ second ∈ b.output, dialTag groups first ≠ dialTag groups second ∧
        e = .conflictingOutput candidate (dialTag groups first) (dialTag groups second) := by
  obtain ⟨done, b, rest, assigned, hsplit, hdone, hstep⟩ := foldlM_eq_error h
  obtain ⟨candidate, hb, second, hsecond, previous, hlookup, hne, rfl⟩ :=
    assignGroup_eq_error hstep
  obtain ⟨a, hadone, ha, first, hfirst, rfl⟩ :=
    (assignGroups_eq_ok hdone candidate previous).1 hlookup
  exact ⟨a, by simp [hsplit, hadone], b, by simp [hsplit], candidate, ha, hb, first, hfirst,
    second, hsecond, hne, rfl⟩

/-! ### The tag by which a node is dialled -/

theorem dialTag_eq_outboundTag {groups : List Group} (hnodup : (groups.map Group.tag).Nodup)
    {group : Group} (hgroup : group ∈ groups) : dialTag groups group.tag = group.outboundTag := by
  have hreverse : (groups.reverse.map Group.tag).Nodup := by
    rwa [List.map_reverse, List.nodup_reverse]
  have hfind : groups.findRev? (fun g => g.tag = group.tag) = some group := by
    rw [List.findRev?_eq_find?_reverse]
    exact (find?_key_eq_some_iff hreverse).2 ⟨List.mem_reverse.2 hgroup, rfl⟩
  rw [dialTag, hfind]

theorem dialTag_eq_self {groups : List Group} {tag : String}
    (h : tag ∉ groups.map Group.tag) : dialTag groups tag = tag := by
  have hfind : groups.findRev? (fun g => g.tag = tag) = none := by
    rw [List.findRev?_eq_find?_reverse, List.find?_eq_none]
    intro group hgroup htag
    exact h (List.mem_map.2 ⟨group, List.mem_reverse.1 hgroup, by simpa using htag⟩)
  rw [dialTag, hfind]

theorem outboundTag_inj {a b : Group} (h : a.outboundTag = b.outboundTag) : a.id = b.id := by
  rw [Group.outboundTag, Group.outboundTag, Group.baseTag, Group.baseTag,
    String.append_left_inj, String.append_right_inj] at h
  exact h

theorem isSystem_outboundTag (group : Group) : Tag.isSystem group.outboundTag = true := by
  rw [Tag.isSystem, Group.outboundTag, Group.baseTag, String.toList_append, String.toList_append,
    List.append_assoc]
  exact List.isPrefixOf_iff_prefix.2 (List.prefix_append _ _)

end ProxyChain.RoundRobin
