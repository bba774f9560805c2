import Mathlib.Data.List.Forall2
import Mathlib.Data.List.Nodup
import ProxyChain.Sequence

/-!
# ProxyChain.Proofs.Sequence

Laws of sequences with keys: what setting an entry does to the entries and to their keys, when a
list of first occurrences or a rewritten list is the list itself, when the search for a name that is
not taken ends, when sorting forgets the order in which elements came, and how a fold that may fail
is followed step by step.
-/

namespace ProxyChain

/-! ### First occurrences -/

section

variable [DecidableEq κ] {key : α → κ}

theorem distinctBy_eq_self_iff {xs : List α} :
    distinctBy key xs = xs ↔ (xs.map key).Nodup := by
  constructor
  · intro h
    rw [← h]
    exact nodup_map_distinctBy xs
  · exact distinctBy_eq_self

/-- No entry is dropped only if none has to be. -/
theorem distinctBy_eq_self_of_length {xs : List α}
    (h : xs.length - (distinctBy key xs).length = 0) : distinctBy key xs = xs :=
  (distinctBy_sublist xs).eq_of_length_le (Nat.sub_eq_zero_iff_le.1 h)

theorem mem_of_mem_distinctBy {a : α} {xs : List α} (h : a ∈ distinctBy key xs) : a ∈ xs :=
  (distinctBy_sublist xs).mem h

theorem mem_map_key_distinctBy {k : κ} {xs : List α} :
    k ∈ (distinctBy key xs).map key ↔ k ∈ xs.map key := by
  constructor
  · exact fun h => ((distinctBy_sublist xs).map key).mem h
  · intro h
    obtain ⟨a, ha, rfl⟩ := List.mem_map.1 h
    obtain ⟨first, hfirst, hsame⟩ : ∃ b ∈ distinctBy key xs, key b = key a :=
      exists_mem_distinctBy ha
    exact hsame ▸ List.mem_map_of_mem hfirst

end

theorem distinct_eq_self [DecidableEq α] {xs : List α} (h : xs.Nodup) : distinct xs = xs :=
  distinctBy_eq_self (by rwa [List.map_id])

section

variable [DecidableEq κ] {key : α → κ}

theorem distinctBy_map (f : β → α) (xs : List β) :
    distinctBy key (xs.map f) = (distinctBy (fun b => key (f b)) xs).map f := by
  induction xs with
  | nil => rfl
  | cons b rest ih =>
      rw [List.map_cons, distinctBy, distinctBy, ih, List.map_cons, List.filter_map]
      rfl

/-- What comes behind a list counts where its key is not in the list. -/
theorem distinctBy_append (xs ys : List α) : distinctBy key (xs ++ ys) =
    distinctBy key xs ++ (distinctBy key ys).filter fun b => key b ∉ xs.map key := by
  induction xs with
  | nil => simp [distinctBy]
  | cons a rest ih =>
      rw [List.cons_append, distinctBy, ih, List.filter_append, List.filter_filter, distinctBy,
        List.cons_append]
      congr 2
      refine List.filter_congr fun b _ => ?_
      simp only [List.map_cons, List.mem_cons, not_or, Bool.decide_and]

/-- Keys may be dropped before or after. -/
theorem distinctBy_filter (p : κ → Bool) (xs : List α) :
    distinctBy key (xs.filter fun a => p (key a)) =
      (distinctBy key xs).filter fun a => p (key a) := by
  induction xs with
  | nil => rfl
  | cons a rest ih =>
      rw [distinctBy]
      by_cases hp : p (key a) = true
      · rw [List.filter_cons_of_pos hp, List.filter_cons_of_pos hp, distinctBy, ih,
          List.filter_filter, List.filter_filter]
        simp only [Bool.and_comm]
      · rw [List.filter_cons_of_neg hp, List.filter_cons_of_neg hp, ih, List.filter_filter]
        refine List.filter_congr fun b _ => ?_
        by_cases hb : key b = key a
        · simp [hb, hp]
        · simp [hb]

/-- A search by key ends at the first occurrence of the key. -/
theorem find?_distinctBy (k : κ) (xs : List α) :
    (distinctBy key xs).find? (fun a => key a = k) = xs.find? fun a => key a = k := by
  induction xs with
  | nil => rfl
  | cons a rest ih =>
      rw [distinctBy, List.find?_cons, List.find?_cons]
      by_cases ha : key a = k
      · simp [ha]
      · have hkept : ∀ b : α, (decide (key b ≠ key a) = true ∧ decide (key b = k) = true) ↔
            key b = k := by
          intro b
          simp only [decide_eq_true_eq, and_iff_right_iff_imp]
          exact fun hb hba => ha (hba.symm.trans hb)
        simp only [ha, decide_false, List.find?_filter, hkept, ih]

end

/-! ### Positions of first occurrences -/

/-- No element before a position has the key of the one there, which is given with the position. -/
def IsFirst (key : α → κ) (xs : List α) (place : α × Nat) : Prop :=
  key place.1 ∉ (xs.take place.2).map key

instance [DecidableEq κ] (key : α → κ) (xs : List α) (place : α × Nat) :
    Decidable (IsFirst key xs place) :=
  inferInstanceAs (Decidable (key place.1 ∉ (xs.take place.2).map key))

/-- The elements of a list at the positions where their keys occur for the first time. -/
def firstsBy [DecidableEq κ] (key : α → κ) (xs : List α) : List α :=
  (xs.zipIdx.filter fun place => IsFirst key xs place).map Prod.fst

theorem isFirst_cons_succ {key : α → κ} (a b : α) (rest : List α) (position : Nat) :
    IsFirst key (a :: rest) (b, position + 1) ↔
      key b ≠ key a ∧ IsFirst key rest (b, position) := by
  simp [IsFirst, List.take_succ_cons]

theorem distinctBy_eq_firstsBy [DecidableEq κ] {key : α → κ} (xs : List α) :
    distinctBy key xs = firstsBy key xs := by
  induction xs with
  | nil => rfl
  | cons a rest ih =>
      rw [distinctBy, ih, firstsBy, firstsBy, List.zipIdx_cons,
        List.filter_cons_of_pos (by simp [IsFirst]), List.map_cons, List.zipIdx_succ,
        List.filter_map, List.filter_map, List.map_map, List.filter_filter]
      congr 2
      refine List.filter_congr fun place _ => ?_
      simp only [Function.comp_apply, isFirst_cons_succ, Bool.decide_and]

/-! ### Rewriting all elements -/

theorem map_eq_self_iff {f : α → α} {xs : List α} : xs.map f = xs ↔ ∀ a ∈ xs, f a = a := by
  constructor
  · intro h a ha
    rw [← List.map_id xs, List.map_map] at h
    exact List.map_inj_left.1 h a ha
  · intro h
    rw [List.map_congr_left h, List.map_id']

theorem contains_map [DecidableEq α] [DecidableEq β] {f : α → β} (hf : Function.Injective f) (a : α)
    (xs : List α) : (xs.map f).contains (f a) = xs.contains a := by
  rw [Bool.eq_iff_iff, List.contains_iff_mem, List.contains_iff_mem, List.mem_map_of_injective hf]

/-- What holds of all keys of one list holds of all keys of another one with the same keys. -/
theorem forall_mem_of_map_eq {key : α → β} {motive : β → Prop} {xs ys : List α}
    (heq : ys.map key = xs.map key) (h : ∀ a ∈ xs, motive (key a)) : ∀ b ∈ ys, motive (key b) := by
  intro b hb
  have hmem : key b ∈ xs.map key := heq ▸ List.mem_map_of_mem hb
  obtain ⟨a, ha, hkey⟩ := List.mem_map.1 hmem
  exact hkey ▸ h a ha

theorem nodup_append_singleton {a : α} {xs : List α} (h : xs.Nodup) (hnew : a ∉ xs) :
    (xs ++ [a]).Nodup :=
  h.append (List.nodup_singleton a) (List.disjoint_singleton.2 hnew)

/-! ### Finding an entry -/

/-- Where no key occurs twice, a search by key finds the one entry with that key. -/
theorem find?_key_eq_some_iff [DecidableEq κ] {key : α → κ} {xs : List α}
    (hnodup : (xs.map key).Nodup) {k : κ} {a : α} :
    xs.find? (fun b => key b = k) = some a ↔ a ∈ xs ∧ key a = k := by
  constructor
  · intro h
    exact ⟨List.mem_of_find?_eq_some h, by simpa using List.find?_some h⟩
  · rintro ⟨ha, rfl⟩
    cases h : xs.find? fun b => key b = key a with
    | none => exact absurd (List.find?_eq_none.1 h a ha) (by simp)
    | some b =>
        have hkey : key b = key a := by simpa using List.find?_some h
        rw [List.inj_on_of_nodup_map hnodup (List.mem_of_find?_eq_some h) ha hkey]

/-- Where no member occurs twice, a search by a member finds the one list that has it. -/
theorem find?_mem_eq_some [DecidableEq β] {f : α → List β} {a : α} {b : β} {xs : List α}
    (hnodup : (xs.flatMap f).Nodup) (ha : a ∈ xs) (hb : b ∈ f a) :
    xs.find? (fun a => b ∈ f a) = some a := by
  induction xs with
  | nil => cases ha
  | cons first rest ih =>
      rw [List.flatMap_cons, List.nodup_append'] at hnodup
      obtain ⟨-, hrest, hdisjoint⟩ := hnodup
      rcases List.mem_cons.1 ha with rfl | ha
      · exact List.find?_cons_of_pos (decide_eq_true hb)
      · have hfirst : b ∉ f first := fun hmem =>
          hdisjoint hmem (List.mem_flatMap.2 ⟨a, ha, hb⟩)
        rw [List.find?_cons_of_neg (by simpa using hfirst), ih hrest ha]

theorem filter_key_eq_singleton [DecidableEq κ] {key : α → κ} {a : α} {xs : List α}
    (hnodup : (xs.map key).Nodup) (ha : a ∈ xs) :
    xs.filter (fun b => key b = key a) = [a] := by
  induction xs with
  | nil => exact absurd ha List.not_mem_nil
  | cons c rest ih =>
      rw [List.map_cons, List.nodup_cons] at hnodup
      rcases List.mem_cons.1 ha with rfl | ha
      · have hrest : rest.filter (fun b => key b = key a) = [] := by
          refine List.filter_eq_nil_iff.2 fun b hb hkey => hnodup.1 ?_
          rw [← of_decide_eq_true hkey]
          exact List.mem_map_of_mem hb
        rw [List.filter_cons_of_pos (by simp), hrest]
      · have hne : key c ≠ key a := fun hkey => hnodup.1 (hkey ▸ List.mem_map_of_mem ha)
        rw [List.filter_cons_of_neg (by simpa using hne), ih hnodup.2 ha]

theorem flatMap_ite_eq_flatMap_filter (p : α → Bool) (f : α → List β) (xs : List α) :
    (xs.flatMap fun a => if p a then f a else []) = (xs.filter p).flatMap f := by
  induction xs with
  | nil => rfl
  | cons a rest ih =>
      rw [List.flatMap_cons, ih, List.filter_cons]
      split <;> simp

/-! ### Changing the first match -/

/-- Where no key occurs twice, changing the first match changes the only one. -/
theorem modifyFirst_key_eq_map [DecidableEq κ] {key : α → κ} {f : α → α} (k : κ) {xs : List α}
    (hnodup : (xs.map key).Nodup) :
    modifyFirst (fun a => key a = k) f xs = xs.map fun a => if key a = k then f a else a := by
  induction xs with
  | nil => rfl
  | cons a rest ih =>
      rw [List.map_cons, List.nodup_cons] at hnodup
      rw [modifyFirst, List.map_cons]
      by_cases ha : key a = k
      · have hrest : rest.map (fun b => if key b = k then f b else b) = rest := by
          refine map_eq_self_iff.2 fun b hb => if_neg fun hkey => hnodup.1 ?_
          rw [ha, ← hkey]
          exact List.mem_map_of_mem hb
        rw [if_pos (by simpa using ha), if_pos ha, hrest]
      · rw [if_neg (by simpa using ha), if_neg ha, ih hnodup.2]

/-- Where no key occurs twice, the changed entry and those with other keys are all there is. -/
theorem modifyFirst_key_perm [DecidableEq κ] {key : α → κ} (f : α → α) {a : α} :
    ∀ {xs : List α}, (xs.map key).Nodup → a ∈ xs →
      (modifyFirst (fun b => key b = key a) f xs).Perm
        (f a :: xs.filter fun b => key b ≠ key a)
  | [], _, ha => absurd ha List.not_mem_nil
  | c :: rest, hnodup, ha => by
      have hinj : key c = key a → c = a := List.inj_on_of_nodup_map hnodup List.mem_cons_self ha
      rw [List.map_cons, List.nodup_cons] at hnodup
      rw [modifyFirst]
      by_cases hc : key c = key a
      · obtain rfl := hinj hc
        have hrest : rest.filter (fun b => key b ≠ key c) = rest := by
          refine List.filter_eq_self.2 fun b hb => decide_eq_true fun hkey => hnodup.1 ?_
          rw [← hkey]
          exact List.mem_map_of_mem hb
        rw [if_pos (by simp), List.filter_cons_of_neg (by simp), hrest]
      · have ha : a ∈ rest := (List.mem_cons.1 ha).resolve_left fun heq => hc (heq ▸ rfl)
        rw [if_neg (by simpa using hc), List.filter_cons_of_pos (by simpa using hc)]
        exact ((modifyFirst_key_perm f hnodup.2 ha).cons c).trans (.swap ..)

theorem modifyFirst_append (p : α → Bool) (f : α → α) (xs ys : List α) :
    modifyFirst p f (xs ++ ys) =
      if xs.any p then modifyFirst p f xs ++ ys else xs ++ modifyFirst p f ys := by
  induction xs with
  | nil => rfl
  | cons a rest ih =>
      rw [List.cons_append, modifyFirst, modifyFirst, ih, List.any_cons]
      by_cases ha : p a = true
      · simp [ha]
      · by_cases hrest : rest.any p = true <;> simp [ha, hrest]

theorem modifyFirst_map {g : α → β} {f : β → β} {f' : α → α} (hf : ∀ a, f (g a) = g (f' a))
    (p : β → Bool) (xs : List α) :
    modifyFirst p f (xs.map g) = (modifyFirst (fun a => p (g a)) f' xs).map g := by
  induction xs with
  | nil => rfl
  | cons a rest ih =>
      rw [List.map_cons, modifyFirst, modifyFirst, hf, ih]
      split <;> rfl

/-- What is changed is the element that a search finds, and nothing in front of it or behind it. -/
theorem modifyFirst_eq_append {p : α → Bool} (f : α → α) {a : α} {xs : List α}
    (h : xs.find? p = some a) : ∃ front back, xs = front ++ a :: back ∧
      (∀ b ∈ front, ¬ p b = true) ∧ modifyFirst p f xs = front ++ f a :: back := by
  obtain ⟨ha, front, back, rfl, hfront⟩ := List.find?_eq_some_iff_append.1 h
  have hnone : ∀ b ∈ front, ¬ p b = true := fun b hb => by simpa using hfront b hb
  refine ⟨front, back, rfl, hnone, ?_⟩
  rw [modifyFirst_append, if_neg (by simpa using hnone), modifyFirst, if_pos ha]

theorem map_modifyFirst_eq {key : α → β} {f : α → α} (hkey : ∀ a, key (f a) = key a)
    (p : α → Bool) (xs : List α) : (modifyFirst p f xs).map key = xs.map key := by
  induction xs with
  | nil => rfl
  | cons a rest ih =>
      rw [modifyFirst]
      split
      · rw [List.map_cons, List.map_cons, hkey]
      · rw [List.map_cons, List.map_cons, ih]

/-- What is changed is the element that a search finds. -/
theorem mem_modifyFirst_find? {p : α → Bool} {f : α → α} {b : α} {xs : List α}
    (h : b ∈ modifyFirst p f xs) : b ∈ xs ∨ ∃ a, xs.find? p = some a ∧ b = f a := by
  induction xs with
  | nil => exact absurd h List.not_mem_nil
  | cons a rest ih =>
      rw [modifyFirst] at h
      split at h
      · rename_i ha
        rcases List.mem_cons.1 h with rfl | h
        · exact Or.inr ⟨a, List.find?_cons_of_pos ha, rfl⟩
        · exact Or.inl (List.mem_cons_of_mem a h)
      · rename_i ha
        rcases List.mem_cons.1 h with rfl | h
        · exact Or.inl List.mem_cons_self
        · rw [List.find?_cons_of_neg ha]
          exact (ih h).imp_left (List.mem_cons_of_mem a)

theorem mem_modifyFirst {p : α → Bool} {f : α → α} {b : α} {xs : List α}
    (h : b ∈ modifyFirst p f xs) : b ∈ xs ∨ ∃ a ∈ xs, p a = true ∧ b = f a := by
  rcases mem_modifyFirst_find? h with hold | ⟨a, hfound, rfl⟩
  · exact Or.inl hold
  · exact Or.inr ⟨a, List.mem_of_find?_eq_some hfound, List.find?_some hfound, rfl⟩

/-- A change that keeps the key is seen by a search for that key. -/
theorem find?_modifyFirst_key [DecidableEq κ] (key : α → κ) {f : α → α}
    (hkey : ∀ a, key (f a) = key a) (k : κ) (xs : List α) :
    (modifyFirst (fun a => key a = k) f xs).find? (fun a => key a = k) =
      (xs.find? fun a => key a = k).map f := by
  induction xs with
  | nil => rfl
  | cons a rest ih =>
      rw [modifyFirst, List.find?_cons]
      by_cases ha : key a = k
      · simp [ha, hkey]
      · simp [ha, ih]

/-! ### Setting an entry -/

section

variable [DecidableEq κ] {key : α → κ}

theorem mem_setBy {a b : α} {xs : List α} (h : b ∈ setBy key a xs) : b = a ∨ b ∈ xs := by
  induction xs with
  | nil => exact Or.inl (List.mem_singleton.1 h)
  | cons c rest ih =>
      rw [setBy] at h
      split at h
      · exact (List.mem_cons.1 h).imp_right (List.mem_cons_of_mem c)
      · rcases List.mem_cons.1 h with rfl | h
        · exact Or.inr List.mem_cons_self
        · exact (ih h).imp_right (List.mem_cons_of_mem c)

theorem self_mem_setBy (a : α) (xs : List α) : a ∈ setBy key a xs := by
  induction xs with
  | nil => exact List.mem_singleton_self a
  | cons c rest ih =>
      rw [setBy]
      split
      · exact List.mem_cons_self
      · exact List.mem_cons_of_mem c ih

/-- Setting an entry adds its key if it is not there, and else leaves the keys as they are. -/
theorem map_key_setBy (a : α) (xs : List α) : (setBy key a xs).map key =
    if key a ∈ xs.map key then xs.map key else xs.map key ++ [key a] := by
  induction xs with
  | nil => rfl
  | cons c rest ih =>
      rw [setBy]
      by_cases hc : key c = key a
      · simp [hc]
      · have hne : ¬ key a = key c := fun heq => hc heq.symm
        rw [if_neg hc, List.map_cons, ih, apply_ite (List.cons (key c))]
        simp [hne]

/-- Setting an entry drops no key. -/
theorem key_mem_setBy {a : α} {k : κ} {xs : List α} (h : k ∈ xs.map key) :
    k ∈ (setBy key a xs).map key := by
  rw [map_key_setBy]
  split
  · exact h
  · exact List.mem_append_left _ h

theorem nodup_map_setBy {a : α} {xs : List α} (h : (xs.map key).Nodup) :
    ((setBy key a xs).map key).Nodup := by
  rw [map_key_setBy]
  split
  · exact h
  · exact nodup_append_singleton h ‹_›

/-- Where keys are different, an entry takes the place of the one with its key. -/
theorem mem_setBy_of_nodup {a b : α} {xs : List α} (hnodup : (xs.map key).Nodup)
    (h : b ∈ setBy key a xs) : b = a ∨ b ∈ xs ∧ key b ≠ key a := by
  rcases mem_setBy h with rfl | hold
  · exact Or.inl rfl
  · by_cases hkey : key b = key a
    · have hset : a ∈ setBy key a xs := self_mem_setBy a xs
      exact Or.inl (List.inj_on_of_nodup_map (nodup_map_setBy hnodup) h hset hkey)
    · exact Or.inr ⟨hold, hkey⟩

/-- An entry with a new key goes to the end. -/
theorem setBy_eq_append {a : α} {xs : List α} (h : key a ∉ xs.map key) :
    setBy key a xs = xs ++ [a] := by
  induction xs with
  | nil => rfl
  | cons c rest ih =>
      rw [List.map_cons, List.mem_cons, not_or] at h
      rw [setBy, if_neg fun hc => h.1 hc.symm, ih h.2, List.cons_append]

/-- Setting an entry where all are rewritten, and no two keys become one. -/
theorem setBy_map {f : α → α} (hkey : ∀ a b, key (f a) = key (f b) ↔ key a = key b) (a : α)
    (xs : List α) : setBy key (f a) (xs.map f) = (setBy key a xs).map f := by
  induction xs with
  | nil => rfl
  | cons b rest ih =>
      simp only [List.map_cons, setBy, hkey, ih]
      split <;> rfl

/-- Entries with new and different keys go to the end, in their order. -/
theorem foldl_setBy_eq_append {f : β → α} :
    ∀ {bs : List β} {xs : List α}, (bs.map fun b => key (f b)).Nodup →
      (∀ b ∈ bs, key (f b) ∉ xs.map key) →
      bs.foldl (fun acc b => setBy key (f b) acc) xs = xs ++ bs.map f := by
  intro bs
  induction bs with
  | nil => intro xs _ _; simp
  | cons b rest ih =>
      intro xs hnodup hnew
      rw [List.map_cons, List.nodup_cons] at hnodup
      rw [List.foldl_cons, setBy_eq_append (hnew b List.mem_cons_self), ih hnodup.2 ?_]
      · simp
      · intro c hc hmem
        rw [List.map_append, List.mem_append] at hmem
        rcases hmem with hmem | hmem
        · exact hnew c (List.mem_cons_of_mem b hc) hmem
        · rw [List.map_singleton, List.mem_singleton] at hmem
          exact hnodup.1 (hmem ▸ List.mem_map_of_mem hc)

theorem mem_foldl_setBy {f : β → α} {a : α} :
    ∀ {bs : List β} {xs : List α}, a ∈ bs.foldl (fun acc b => setBy key (f b) acc) xs →
      (∃ b ∈ bs, a = f b) ∨ a ∈ xs := by
  intro bs
  induction bs with
  | nil => intro xs h; exact Or.inr h
  | cons b rest ih =>
      intro xs h
      rcases ih h with ⟨c, hc, rfl⟩ | h
      · exact Or.inl ⟨c, List.mem_cons_of_mem b hc, rfl⟩
      · rcases mem_setBy h with rfl | h
        · exact Or.inl ⟨b, List.mem_cons_self, rfl⟩
        · exact Or.inr h

/-- Where keys are different, entries take the places of those with their keys. -/
theorem mem_foldl_setBy_of_nodup {f : β → α} {a : α} :
    ∀ {bs : List β} {xs : List α}, (xs.map key).Nodup →
      a ∈ bs.foldl (fun acc b => setBy key (f b) acc) xs →
      (∃ b ∈ bs, a = f b) ∨ a ∈ xs ∧ ∀ b ∈ bs, key a ≠ key (f b) := by
  intro bs
  induction bs with
  | nil => intro xs _ h; exact Or.inr ⟨h, fun _ hb => absurd hb List.not_mem_nil⟩
  | cons b rest ih =>
      intro xs hnodup h
      rcases ih (nodup_map_setBy hnodup) h with ⟨c, hc, rfl⟩ | ⟨h, hrest⟩
      · exact Or.inl ⟨c, List.mem_cons_of_mem b hc, rfl⟩
      · rcases mem_setBy_of_nodup hnodup h with rfl | ⟨hold, hne⟩
        · exact Or.inl ⟨b, List.mem_cons_self, rfl⟩
        · exact Or.inr ⟨hold, List.forall_mem_cons.2 ⟨hne, hrest⟩⟩

theorem key_mem_foldl_setBy_of_init {f : β → α} {k : κ} :
    ∀ {bs : List β} {xs : List α}, k ∈ xs.map key →
      k ∈ (bs.foldl (fun acc b => setBy key (f b) acc) xs).map key := by
  intro bs
  induction bs with
  | nil => intro xs h; exact h
  | cons b rest ih => intro xs h; exact ih (key_mem_setBy h)

theorem key_mem_foldl_setBy {f : β → α} {b : β} :
    ∀ {bs : List β} {xs : List α}, b ∈ bs →
      key (f b) ∈ (bs.foldl (fun acc b => setBy key (f b) acc) xs).map key := by
  intro bs
  induction bs with
  | nil => intro xs h; exact absurd h List.not_mem_nil
  | cons c rest ih =>
      intro xs h
      rcases List.mem_cons.1 h with rfl | h
      · rw [List.foldl_cons]
        exact key_mem_foldl_setBy_of_init (List.mem_map_of_mem (self_mem_setBy (f b) xs))
      · exact ih h

end

/-! ### Looking up an entry -/

theorem lookup_cons_eq_ite [DecidableEq κ] (key k : κ) (a : α) (rest : List (κ × α)) :
    ((k, a) :: rest).lookup key = if key = k then some a else rest.lookup key := by
  rw [List.lookup_cons, beq_eq_decide]
  by_cases hkey : key = k <;> simp only [hkey, decide_true, decide_false, if_true, if_false]

theorem lookup_map_prod [DecidableEq κ] {f : κ → κ} (hf : Function.Injective f) (g : α → β)
    (key : κ) (entries : List (κ × α)) :
    (entries.map (Prod.map f g)).lookup (f key) = (entries.lookup key).map g := by
  induction entries with
  | nil => rfl
  | cons entry rest ih =>
      have hkey : (f key == f entry.1) = (key == entry.1) := by
        simp [beq_eq_decide, hf.eq_iff]
      rw [List.map_cons, List.lookup_cons, List.lookup_cons, Prod.map_fst, hkey, ih]
      cases key == entry.1 <;> rfl

theorem lookup_filter_key [DecidableEq κ] (p : κ → Bool) (key : κ) (entries : List (κ × α)) :
    (entries.filter fun entry => p entry.1).lookup key =
      if p key then entries.lookup key else none := by
  induction entries with
  | nil => simp
  | cons entry rest ih =>
      obtain ⟨k, a⟩ := entry
      rw [List.filter_cons, lookup_cons_eq_ite]
      by_cases hkey : key = k
      · subst key
        split
        · rw [lookup_cons_eq_ite, if_pos rfl, if_pos rfl]
        · rw [ih, if_neg ‹_›]
      · rw [if_neg hkey, ← ih]
        split
        · rw [lookup_cons_eq_ite, if_neg hkey]
        · rfl

/-- Setting entries one after the other: the last one with a key is found, or what was there. -/
theorem lookup_foldl_set [DecidableEq κ] {set : κ → α → List (κ × α) → List (κ × α)}
    (hset : ∀ k a entries key, (set k a entries).lookup key =
      if key = k then some a else entries.lookup key)
    (key : κ) (entries acc : List (κ × α)) :
    (entries.foldl (fun acc entry => set entry.1 entry.2 acc) acc).lookup key =
      (entries.reverse.lookup key).or (acc.lookup key) := by
  induction entries generalizing acc with
  | nil => rfl
  | cons entry rest ih =>
      rw [List.foldl_cons, ih, hset, List.reverse_cons, List.lookup_append, Option.or_assoc,
        lookup_cons_eq_ite, List.lookup_nil]
      split <;> rfl

/-! ### Counting and filtering -/

theorem countChanges_eq_zero_iff [DecidableEq α] :
    ∀ {before after : List α}, after.length = before.length →
      (countChanges before after = 0 ↔ after = before)
  | [], [], _ => by simp [countChanges]
  | a :: before, b :: after, h => by
      have ih : countChanges before after = 0 ↔ after = before :=
        countChanges_eq_zero_iff (by simpa using h)
      rw [countChanges, List.zip_cons_cons, List.countP_cons, List.cons.injEq, ← ih, countChanges]
      by_cases hab : a = b
      · simp [hab]
      · simp [hab, Ne.symm hab]

theorem zip_map_self (f : α → β) (xs : List α) : xs.zip (xs.map f) = xs.map fun a => (a, f a) := by
  have hzip : (xs.map id).zip (xs.map f) = xs.map fun a => (a, f a) := List.zip_map'
  rwa [List.map_id] at hzip

/-- A pass that changes exactly what it looks for: the changes are counted before it. -/
theorem countChanges_map_eq_countP [DecidableEq α] {f : α → α} {found : α → Bool}
    (h : ∀ a, found a = true ↔ a ≠ f a) (xs : List α) :
    countChanges xs (xs.map f) = xs.countP found := by
  rw [countChanges, zip_map_self, List.countP_map]
  refine List.countP_congr fun a _ => ?_
  rw [Function.comp_apply, decide_eq_true_iff, h]

/-- What a filter drops. -/
theorem length_sub_length_filter (p : α → Bool) (xs : List α) :
    xs.length - (xs.filter p).length = xs.countP fun a => !p a := by
  have hparts := xs.length_eq_countP_add_countP p
  simp only [Bool.not_eq_true, Bool.decide_eq_false] at hparts
  rw [← List.countP_eq_length_filter]
  omega

/-- Dropping the elements with some key leaves fewer of them, or there are none and all stay. -/
theorem filter_key_ne_cases [DecidableEq κ] (key : α → κ) (k : κ) (xs : List α) :
    (xs.any (fun a => key a = k) = true ∧ (xs.filter fun a => key a ≠ k).length < xs.length) ∨
      (xs.any (fun a => key a = k) = false ∧ (xs.filter fun a => key a ≠ k) = xs) := by
  by_cases hkey : ∃ a ∈ xs, key a = k
  · obtain ⟨a, ha, hk⟩ := hkey
    refine Or.inl ⟨List.any_eq_true.2 ⟨a, ha, decide_eq_true hk⟩, ?_⟩
    exact List.length_filter_lt_length_iff_exists.2 ⟨a, ha, by simpa using hk⟩
  · have hnone : ∀ a ∈ xs, key a ≠ k := fun a ha hk => hkey ⟨a, ha, hk⟩
    exact Or.inr ⟨List.any_eq_false.2 fun a ha => by simpa using hnone a ha,
      List.filter_eq_self.2 fun a ha => decide_eq_true (hnone a ha)⟩

/-- Where keys are told apart, the key of an element is the key of no other one. -/
theorem length_filter_key_ne [DecidableEq κ] {key : α → κ} {k : κ} {xs : List α}
    (hnodup : (xs.map key).Nodup) (hk : k ∈ xs.map key) :
    (xs.filter fun a => key a ≠ k).length + 1 = xs.length := by
  have hkeys : (xs.filter fun a => key a ≠ k).map key = (xs.map key).erase k := by
    rw [hnodup.erase_eq_filter, List.filter_map]
    simp only [Function.comp_def, ne_eq, bne, beq_eq_decide, decide_not]
  have hlength := congrArg List.length hkeys
  rw [List.length_map, List.length_erase_of_mem hk, List.length_map] at hlength
  rw [hlength]
  exact Nat.sub_add_cancel (List.length_map key ▸ List.length_pos_of_mem hk)

theorem length_sub_length_filter_zipIdx (p : α × Nat → Prop) [DecidablePred p] (xs : List α) :
    xs.length - ((xs.zipIdx.filter p).map Prod.fst).length =
      xs.zipIdx.countP fun place => ¬ p place := by
  have hlength : xs.zipIdx.length = xs.length := List.length_zipIdx
  rw [List.length_map, ← hlength, length_sub_length_filter]
  simp only [decide_not]

/-- What two conditions count, one of them or both count. -/
theorem countP_add_countP (p q : α → Bool) (xs : List α) : xs.countP p + xs.countP q =
    (xs.countP fun a => p a || q a) + xs.countP fun a => p a && q a := by
  induction xs with
  | nil => rfl
  | cons a rest ih =>
      simp only [List.countP_cons]
      cases p a <;> cases q a <;> simp <;> omega

theorem filterMap_eq_map_filter {f : α → Option β} {p : α → Bool} {g : α → β} :
    ∀ {xs : List α}, (∀ a ∈ xs, f a = if p a then some (g a) else none) →
      xs.filterMap f = (xs.filter p).map g
  | [], _ => rfl
  | a :: rest, h => by
      have ih := filterMap_eq_map_filter fun b hb => h b (List.mem_cons_of_mem a hb)
      rw [List.filterMap_cons, h a List.mem_cons_self, List.filter_cons]
      by_cases hp : p a = true
      · rw [if_pos hp, if_pos hp]
        exact congrArg (g a :: ·) ih
      · rw [if_neg hp, if_neg hp]
        exact ih

/-- The last thing that is found in a list, and where. -/
theorem getLast?_filterMap_eq_some_iff {f : α → Option β} {b : β} {xs : List α} :
    (xs.filterMap f).getLast? = some b ↔ ∃ front a back, xs = front ++ a :: back ∧ f a = some b ∧
      ∀ later ∈ back, f later = none := by
  rw [List.getLast?_eq_some_iff]
  constructor
  · rintro ⟨ys, hys⟩
    obtain ⟨front, rest, rfl, -, hrest⟩ := List.filterMap_eq_append_iff.1 hys
    obtain ⟨skipped, a, back, rfl, -, ha, hback⟩ := List.filterMap_eq_cons_iff.1 hrest
    exact ⟨front ++ skipped, a, back, (List.append_assoc ..).symm, ha,
      List.filterMap_eq_nil_iff.1 hback⟩
  · rintro ⟨front, a, back, rfl, ha, hback⟩
    refine ⟨front.filterMap f, ?_⟩
    rw [List.filterMap_append, List.filterMap_cons_some ha, List.filterMap_eq_nil_iff.2 hback]

/-! ### Sorting by a key -/

theorem pairwise_mergeSort_key (key : α → Nat) (xs : List α) :
    (xs.mergeSort fun a b => key a ≤ key b).Pairwise fun a b => key a ≤ key b := by
  have hsorted : (xs.mergeSort fun a b => key a ≤ key b).Pairwise
      fun a b => decide (key a ≤ key b) = true := by
    refine List.pairwise_mergeSort (fun a b c hab hbc => ?_) (fun a b => ?_) xs
    · exact decide_eq_true (Nat.le_trans (of_decide_eq_true hab) (of_decide_eq_true hbc))
    · rw [Bool.or_eq_true, decide_eq_true_iff, decide_eq_true_iff]
      exact Nat.le_total _ _
  exact hsorted.imp of_decide_eq_true

section

variable {key : α → Nat} {xs : List α} (hnodup : (xs.map key).Nodup)

include hnodup

theorem pairwise_lt_mergeSort_key :
    (xs.mergeSort fun a b => key a ≤ key b).Pairwise fun a b => key a < key b := by
  have hkeys : ((xs.mergeSort fun a b => key a ≤ key b).map key).Nodup :=
    ((List.mergeSort_perm xs _).map key).nodup_iff.2 hnodup
  rw [List.Nodup, List.pairwise_map] at hkeys
  exact (pairwise_mergeSort_key key xs).imp₂ (fun _ _ hle hne => Nat.lt_of_le_of_ne hle hne) hkeys

/-- Where no key occurs twice, sorting does not show in which order the elements came. -/
theorem mergeSort_key_eq_of_perm {ys : List α} (hperm : ys.Perm xs) :
    (ys.mergeSort fun a b => key a ≤ key b) = xs.mergeSort fun a b => key a ≤ key b := by
  have hys := List.mergeSort_perm ys fun a b => key a ≤ key b
  have hxs := List.mergeSort_perm xs fun a b => key a ≤ key b
  refine (hys.trans (hperm.trans hxs.symm)).eq_of_pairwise (fun a b ha hb hab hba => ?_)
    (pairwise_mergeSort_key key ys) (pairwise_mergeSort_key key xs)
  exact List.inj_on_of_nodup_map hnodup (hperm.subset (hys.subset ha)) (hxs.subset hb)
    (Nat.le_antisymm hab hba)

end

/-! ### What comes twice -/

/-- In two lists without repetitions only what is in both comes twice. -/
theorem two_le_count_append_iff [DecidableEq α] {xs ys : List α} (hxs : xs.Nodup) (hys : ys.Nodup)
    {a : α} : 2 ≤ (xs ++ ys).count a ↔ a ∈ xs ∧ a ∈ ys := by
  rw [List.count_append, hxs.count, hys.count]
  by_cases hx : a ∈ xs <;> by_cases hy : a ∈ ys <;> simp [hx, hy]

/-! ### Free names -/

/-- The first of some numbered names that is not taken, from a number on; the one behind the last
try is not looked at. -/
def firstFree [DecidableEq α] (name : Nat → α) (taken : List α) : (tries : Nat) → Nat → α
  | 0, number => name number
  | tries + 1, number =>
    if name number ∈ taken then firstFree name taken tries (number + 1) else name number

/-- A search through numbered names: while the name with a number is taken, the next number is tried.
After so many tries it ends with a name. -/
inductive Searches (name : Nat → α) (taken : List α) :
    (number tries : Nat) → (found : α) → Prop
  | free {number : Nat} (hfree : name number ∉ taken) : Searches name taken number 1 (name number)
  | next {number tries : Nat} {found : α} (htaken : name number ∈ taken)
      (hrest : Searches name taken (number + 1) tries found) :
      Searches name taken number (tries + 1) found

section

variable {name : Nat → α} {taken : List α} {number tries : Nat} {found : α}

theorem Searches.not_mem (h : Searches name taken number tries found) : found ∉ taken := by
  induction h with
  | free hfree => exact hfree
  | next _ _ ih => exact ih

/-- What is found has the number of the last try. -/
theorem Searches.found_eq (h : Searches name taken number tries found) :
    0 < tries ∧ found = name (number + tries - 1) := by
  induction h with
  | free _ => exact ⟨Nat.one_pos, rfl⟩
  | @next number tries found _ _ ih =>
      refine ⟨Nat.succ_pos tries, ih.2.trans (congrArg name ?_)⟩
      omega

/-- A name that is not taken ends the search, if it is within reach. -/
theorem searches_firstFree [DecidableEq α] (name : Nat → α) {free : Nat}
    (hfree : name free ∉ taken) :
    ∀ {tries number : Nat}, number ≤ free → free ≤ number + tries →
      ∃ count ≤ free - number + 1,
        Searches name taken number count (firstFree name taken tries number)
  | 0, number, hlow, hhigh => by
      obtain rfl : free = number := Nat.le_antisymm hhigh hlow
      exact ⟨1, by omega, .free hfree⟩
  | tries + 1, number, hlow, hhigh => by
      rw [firstFree]
      split
      · rename_i htaken
        have hne : free ≠ number := fun heq => hfree (heq ▸ htaken)
        obtain ⟨count, hcount, hrest⟩ :=
          searches_firstFree name hfree (by omega : number + 1 ≤ free)
            (by omega : free ≤ _ + tries)
        exact ⟨count + 1, by omega, .next htaken hrest⟩
      · exact ⟨1, by omega, .free ‹_›⟩

theorem firstFree_not_mem [DecidableEq α]
    (h : ∃ i, number ≤ i ∧ i ≤ number + tries ∧ name i ∉ taken) :
    firstFree name taken tries number ∉ taken := by
  obtain ⟨free, hlow, hhigh, hfree⟩ := h
  obtain ⟨_, _, hends⟩ := searches_firstFree name hfree hlow hhigh
  exact hends.not_mem

end

/-- More different names than are taken are not all taken. -/
theorem exists_not_mem_of_inj {name : Nat → α} {taken : List α} {count : Nat}
    (hinj : ∀ i < count, ∀ j < count, name i = name j → i = j)
    (htaken : taken.length < count) : ∃ i < count, name i ∉ taken := by
  by_contra hnone
  have hnodup : ((List.range count).map name).Nodup :=
    List.nodup_range.map_on fun i hi j hj => hinj i (List.mem_range.1 hi) j (List.mem_range.1 hj)
  have hsubset : (List.range count).map name ⊆ taken := by
    intro id hid
    obtain ⟨i, hi, rfl⟩ := List.mem_map.1 hid
    by_contra hfree
    exact hnone ⟨i, List.mem_range.1 hi, hfree⟩
  have hlength := hnodup.length_le_of_subset hsubset
  rw [List.length_map, List.length_range] at hlength
  omega

/-! ### Lists that correspond -/

theorem forall_of_forall₂ {R : α → β → Prop} {p : β → Prop} {xs : List α} {ys : List β}
    (hp : ∀ x y, R x y → p y) (h : List.Forall₂ R xs ys) : ∀ y ∈ ys, p y := by
  have hboth : List.Forall₂ (fun y x => p y ∧ R x y) ys xs :=
    (h.imp fun x y hxy => ⟨hp x y hxy, hxy⟩).flip
  exact ((List.forall₂_and_left _ _).1 hboth).1

/-- Lists that are related to one list are related to each other. -/
theorem forall₂_of_common {R S : α → β → Prop} {Q : α → α → Prop}
    (hQ : ∀ x y z, R x z → S y z → Q x y) {xs ys : List α} {zs : List β}
    (hxs : List.Forall₂ R xs zs) (hys : List.Forall₂ S ys zs) : List.Forall₂ Q xs ys := by
  induction hxs generalizing ys with
  | nil =>
      cases hys
      exact .nil
  | cons hx _ ih =>
      cases hys with
      | cons hy hlater => exact .cons (hQ _ _ _ hx hy) (ih hlater)

/-! ### Steps that may fail -/

theorem bind_eq_ok_iff {result : Except ε α} {next : α → Except ε β} {b : β} :
    result >>= next = .ok b ↔ ∃ a, result = .ok a ∧ next a = .ok b := by
  cases result with
  | error e => exact ⟨nofun, fun ⟨_, h, _⟩ => nomatch h⟩
  | ok a => exact ⟨fun h => ⟨a, rfl, h⟩, fun ⟨_, h, hnext⟩ => Except.ok.inj h ▸ hnext⟩

@[simp] theorem ok_bind (a : α) (next : α → Except ε β) : Except.ok a >>= next = next a :=
  rfl

theorem mapM_eq_ok_iff {f : α → Except ε β} {xs : List α} {ys : List β} :
    xs.mapM f = .ok ys ↔ List.Forall₂ (fun x y => f x = .ok y) xs ys := by
  induction xs generalizing ys with
  | nil =>
      rw [List.mapM_nil, List.forall₂_nil_left_iff]
      exact ⟨fun h => (Except.ok.inj h).symm, fun h => congrArg Except.ok h.symm⟩
  | cons x rest ih =>
      rw [List.mapM_cons, List.forall₂_cons_left_iff]
      simp only [bind_eq_ok_iff, ih]
      constructor
      · rintro ⟨y, hy, later, hlater, h⟩
        exact ⟨y, later, hy, hlater, (Except.ok.inj h).symm⟩
      · rintro ⟨y, later, hy, hlater, rfl⟩
        exact ⟨y, hy, later, hlater, rfl⟩

/-! ### Folds that may fail -/

/-- What each step of a fold keeps, on what was folded so far, the whole fold establishes. -/
theorem foldlM_ok_induction {f : β → α → Except ε β} :
    ∀ {xs : List α} {init result : β} {motive : List α → β → Prop},
      (∀ done a acc next, motive done acc → f acc a = .ok next → motive (done ++ [a]) next) →
      motive [] init → xs.foldlM f init = .ok result → motive xs result
  | [], init, result, motive, _, hinit, h => by
      obtain rfl : init = result := Except.ok.inj h
      exact hinit
  | a :: rest, init, result, motive, step, hinit, h => by
      rw [List.foldlM_cons] at h
      obtain ⟨next, hstep, hrest⟩ := bind_eq_ok_iff.1 h
      -- What was folded before the rest begins with `a` from here on.
      exact foldlM_ok_induction (motive := fun done => motive (a :: done))
        (fun done => step (a :: done)) (step [] a init next hinit hstep) hrest

/-- A fold fails at one of its steps, after others that did not. -/
theorem foldlM_eq_error {f : β → α → Except ε β} {e : ε} :
    ∀ {xs : List α} {init : β}, xs.foldlM f init = .error e →
      ∃ done a rest acc, xs = done ++ a :: rest ∧ done.foldlM f init = .ok acc ∧
        f acc a = .error e
  | [], _, h => nomatch h
  | a :: rest, init, h => by
      rw [List.foldlM_cons] at h
      cases hstep : f init a with
      | error e =>
          rw [hstep] at h
          obtain rfl := Except.error.inj h
          exact ⟨[], a, rest, init, rfl, rfl, hstep⟩
      | ok next =>
          rw [hstep] at h
          have hrest : rest.foldlM f next = .error e := h
          obtain ⟨done, b, later, acc, rfl, hdone, herror⟩ := foldlM_eq_error hrest
          refine ⟨a :: done, b, later, acc, rfl, ?_, herror⟩
          rw [List.foldlM_cons, hstep]
          exact hdone

end ProxyChain
