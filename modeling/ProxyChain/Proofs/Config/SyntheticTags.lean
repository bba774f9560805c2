import ProxyChain.Config.Balancers
import ProxyChain.Proofs.RoundRobin.Dialling
import ProxyChain.Proofs.Text.Digits

/-!
# ProxyChain.Proofs.Config.SyntheticTags

**Reading made-up tags back.** Which tags are read as those of clients and backends, and as what,
is said by how they are put together (`clientId?_eq_some_iff`, `backendPosition?_eq_some_iff`). An
id may hold the mark `-in-` itself, but what stands behind the last mark is a numeral, so the split
at the last mark is the right one. So the id of a group and the position of a backend are found in
the tags that they were written into, whatever the id looks like, and tags that do not begin like a
made-up one are read as nothing.
-/

namespace ProxyChain

open RoundRobin

/-! ### Cutting texts -/

theorem dropStem?_append (stem rest : List Char) : dropStem? stem (stem ++ rest) = some rest := by
  rw [dropStem?, if_pos (List.isPrefixOf_iff_prefix.2 (List.prefix_append stem rest)),
    List.drop_left]

theorem dropStem?_eq_none {stem cs : List Char} (h : ¬ stem <+: cs) : dropStem? stem cs = none := by
  rw [dropStem?, if_neg fun hstem => h (List.isPrefixOf_iff_prefix.1 hstem)]

theorem dropStem?_eq_some_iff {stem cs rest : List Char} :
    dropStem? stem cs = some rest ↔ cs = stem ++ rest := by
  constructor
  · intro h
    rw [dropStem?] at h
    split at h
    · rename_i hstem
      rw [← Option.some.inj h]
      exact (List.prefix_iff_eq_append.1 (List.isPrefixOf_iff_prefix.1 hstem)).symm
    · cases h
  · rintro rfl
    exact dropStem?_append stem rest

theorem dropEnding?_eq_some_iff {ending cs front : List Char} :
    dropEnding? ending cs = some front ↔ cs = front ++ ending := by
  rw [dropEnding?, Option.map_eq_some_iff]
  constructor
  · rintro ⟨back, hback, rfl⟩
    rw [dropStem?_eq_some_iff] at hback
    rw [← List.reverse_reverse cs, hback, List.reverse_append, List.reverse_reverse]
  · rintro rfl
    exact ⟨front.reverse, by rw [List.reverse_append, dropStem?_append], List.reverse_reverse front⟩

theorem eq_append_of_splitLast? {mark front back : List Char} :
    ∀ {cs : List Char}, splitLast? mark cs = some (front, back) → cs = front ++ mark ++ back := by
  intro cs
  induction cs generalizing front with
  | nil => nofun
  | cons c rest ih =>
      intro h
      rw [splitLast?] at h
      split at h
      · rename_i inner behind hrest
        obtain ⟨rfl, rfl⟩ := Prod.mk.inj (Option.some.inj h)
        rw [ih hrest, List.cons_append, List.cons_append]
      · obtain ⟨behind, hstem, hpair⟩ := Option.map_eq_some_iff.1 h
        obtain ⟨rfl, rfl⟩ := Prod.mk.inj hpair
        exact dropStem?_eq_some_iff.1 hstem

theorem splitLast?_eq_none {mark : List Char} :
    ∀ {cs : List Char}, ¬ mark <:+: cs → splitLast? mark cs = none
  | [], _ => rfl
  | c :: rest, h => by
      rw [List.infix_cons_iff, not_or] at h
      rw [splitLast?, splitLast?_eq_none h.2, dropStem?_eq_none h.1]
      rfl

/-- A mark behind which no other one begins is where a text is split. -/
theorem splitLast?_append {first : Char} {others back : List Char}
    (h : ¬ first :: others <:+: others ++ back) (front : List Char) :
    splitLast? (first :: others) (front ++ first :: others ++ back) = some (front, back) := by
  induction front with
  | nil =>
      show splitLast? (first :: others) (first :: (others ++ back)) = _
      rw [splitLast?, splitLast?_eq_none h]
      show (dropStem? (first :: others) (first :: others ++ back)).map _ = _
      rw [dropStem?_append]
      rfl
  | cons c rest ih =>
      rw [List.cons_append, List.cons_append, splitLast?, ih]

/-- What is behind the last mark has no dash, so the mark does not begin there again. -/
theorem splitLast?_mark {back : List Char} (hback : '-' ∉ back) (front : List Char) :
    splitLast? "-in-".toList (front ++ "-in-".toList ++ back) = some (front, back) := by
  refine splitLast?_append (fun hmark => ?_) front
  have hcount := hmark.sublist.count_le '-'
  rw [List.count_append, List.count_eq_zero.2 hback] at hcount
  exact absurd hcount (by decide)

/-! ### Tags of balancers -/

/-- Which tags are those of clients, and with which id. -/
theorem clientId?_eq_some_iff {tag id : String} :
    clientId? tag = some id ↔ tag = Tag.systemStem ++ id ++ "-lb" := by
  rw [clientId?]
  simp only [Option.bind_eq_bind, Option.bind_eq_some_iff, dropStem?_eq_some_iff,
    dropEnding?_eq_some_iff, Option.pure_def, Option.some.injEq]
  constructor
  · rintro ⟨_, htag, front, rfl, rfl⟩
    rw [← String.toList_inj, htag]
    simp
  · rintro rfl
    exact ⟨id.toList ++ "-lb".toList, by simp, id.toList, rfl, String.ofList_toList⟩

/-- Which tags are those of backends, and with which id and position. The mark in front of the
numeral is the last one, as there is no dash in a numeral. -/
theorem backendPosition?_eq_some_iff {tag id : String} {position : Nat} :
    backendPosition? tag = some (id, position) ↔
      ∃ numeral, tag = Tag.systemStem ++ id ++ "-in-" ++ numeral ∧
        Text.readNatural? numeral = some position ∧ position < positionBound := by
  rw [backendPosition?]
  simp only [Option.bind_eq_bind, Option.bind_eq_some_iff, dropStem?_eq_some_iff,
    Option.pure_def, Option.some.injEq, Option.filter_eq_some_iff, decide_eq_true_eq]
  constructor
  · rintro ⟨rest, htag, ⟨front, back⟩, hsplit, read, ⟨hread, hbound⟩, hpair⟩
    obtain ⟨rfl, rfl⟩ := Prod.mk.inj hpair
    refine ⟨String.ofList back, ?_, hread, hbound⟩
    rw [← String.toList_inj, htag, eq_append_of_splitLast? hsplit]
    simp
  · rintro ⟨numeral, rfl, hread, hbound⟩
    refine ⟨id.toList ++ "-in-".toList ++ numeral.toList, by simp, (id.toList, numeral.toList),
      splitLast?_mark (Text.dash_not_mem_of_readNatural? hread) _, position, ⟨?_, hbound⟩, ?_⟩
    · rwa [String.ofList_toList]
    · rw [String.ofList_toList]

/-! ### Tags of groups -/

theorem isSystem_iff {tag : String} :
    Tag.isSystem tag = true ↔ Tag.systemStem.toList <+: tag.toList :=
  List.isPrefixOf_iff_prefix

theorem clientId?_outboundTag (group : Group) : clientId? group.outboundTag = some group.id :=
  clientId?_eq_some_iff.2 rfl

theorem clientId?_eq_none {tag : String} (h : Tag.isSystem tag = false) : clientId? tag = none := by
  have hstem : ¬ Tag.systemStem.toList <+: tag.toList := by
    rw [← isSystem_iff, h]
    decide
  rw [clientId?, dropStem?_eq_none hstem]
  rfl

theorem backendPosition?_inboundTag (group : Group) {position : Nat}
    (hposition : position < positionBound) :
    backendPosition? (group.inboundTag position) = some (group.id, position) :=
  backendPosition?_eq_some_iff.2
    ⟨Nat.repr position, rfl, Text.readNatural?_repr position, hposition⟩

/-- The tags of backends tell their groups and their positions apart. -/
theorem inboundTag_inj {a b : Group} {i j : Nat} (hi : i < positionBound) (hj : j < positionBound)
    (h : a.inboundTag i = b.inboundTag j) : a.id = b.id ∧ i = j := by
  have hread := congrArg backendPosition? h
  rw [backendPosition?_inboundTag a hi, backendPosition?_inboundTag b hj] at hread
  exact Prod.mk.inj (Option.some.inj hread)

section

variable {a b : Group} (ha : a.candidates.length ≤ positionBound)

include ha

theorem exists_position_of_mem {tag : String} (htag : tag ∈ a.inboundTags) :
    ∃ position < positionBound, a.inboundTag position = tag := by
  obtain ⟨position, hposition, rfl⟩ := List.mem_map.1 htag
  exact ⟨position, Nat.lt_of_lt_of_le (List.mem_range.1 hposition) ha, rfl⟩

theorem inboundTags_nodup : a.inboundTags.Nodup := by
  have hposition : ∀ i ∈ List.range a.candidates.length, i < positionBound :=
    fun i hi => Nat.lt_of_lt_of_le (List.mem_range.1 hi) ha
  exact List.nodup_range.map_on fun i hi j hj heq =>
    (inboundTag_inj (hposition i hi) (hposition j hj) heq).2

/-- A tag of a backend is that of one group only. -/
theorem id_eq_of_mem_inboundTags (hb : b.candidates.length ≤ positionBound) {tag : String}
    (htag : tag ∈ a.inboundTags) (htag' : tag ∈ b.inboundTags) : a.id = b.id := by
  obtain ⟨i, hi, rfl⟩ := exists_position_of_mem ha htag
  obtain ⟨j, hj, heq⟩ := exists_position_of_mem hb htag'
  exact (inboundTag_inj hi hj heq.symm).1

end

end ProxyChain
