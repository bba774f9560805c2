/-!
# ProxyChain.Sequence

**Sequences with keys.** Libraries, layers, inbounds and outbounds are lists whose order counts
and whose elements are found by a tag or an id. The operations here are the ones that such lists
need and that the core library does not have: keeping first occurrences, changing the first
match, and setting an entry by its key.
-/

namespace ProxyChain

/-! ### First occurrences -/

/-- The elements of a list whose keys did not occur before them. -/
def distinctBy [DecidableEq κ] (key : α → κ) : List α → List α
  | [] => []
  | a :: rest => a :: (distinctBy key rest).filter fun b => key b ≠ key a

/-- The elements of a list, each where it first occurs. -/
def distinct [DecidableEq α] (xs : List α) : List α :=
  distinctBy id xs

section

variable [DecidableEq κ] {key : α → κ}

/-- Keeping first occurrences keeps elements only, and in their order. -/
theorem distinctBy_sublist (xs : List α) : (distinctBy key xs).Sublist xs := by
  induction xs with
  | nil => exact .slnil
  | cons a rest ih => exact .cons_cons a (List.filter_sublist.trans ih)

/-- Every key still occurs. -/
theorem exists_mem_distinctBy {a : α} {xs : List α} (h : a ∈ xs) :
    ∃ b ∈ distinctBy key xs, key b = key a := by
  induction xs with
  | nil => simp at h
  | cons c rest ih =>
    by_cases hc : key c = key a
    · exact ⟨c, by simp [distinctBy], hc⟩
    · have hr : a ∈ rest := by
        rcases List.mem_cons.1 h with rfl | h
        · exact absurd rfl hc
        · exact h
      obtain ⟨b, hb, hk⟩ := ih hr
      exact ⟨b, by simp [distinctBy, hb, hk, Ne.symm hc], hk⟩

/-- No key occurs twice among first occurrences. -/
theorem nodup_map_distinctBy (xs : List α) : ((distinctBy key xs).map key).Nodup := by
  induction xs with
  | nil => simp [distinctBy]
  | cons a rest ih =>
    rw [distinctBy, List.map_cons, List.nodup_cons]
    refine ⟨by simp [List.mem_map, List.mem_filter], ?_⟩
    exact (List.filter_sublist.map key).nodup ih

/-- A list whose keys are all different is its own list of first occurrences. -/
theorem distinctBy_eq_self {xs : List α} (h : (xs.map key).Nodup) : distinctBy key xs = xs := by
  induction xs with
  | nil => rfl
  | cons a rest ih =>
    rw [List.map_cons, List.nodup_cons] at h
    rw [distinctBy, ih h.2, List.filter_eq_self.2]
    intro b hb
    simp only [ne_eq, decide_eq_true_eq]
    exact fun hk => h.1 (hk ▸ List.mem_map_of_mem hb)

end

/-- First occurrences have the same elements. -/
@[simp] theorem mem_distinct [DecidableEq α] {a : α} {xs : List α} :
    a ∈ distinct xs ↔ a ∈ xs := by
  constructor
  · exact (distinctBy_sublist xs).mem
  · intro h
    obtain ⟨b, hb, rfl⟩ : ∃ b ∈ distinctBy id xs, b = a := exists_mem_distinctBy h
    exact hb

/-- First occurrences are all different. -/
theorem nodup_distinct [DecidableEq α] (xs : List α) : (distinct xs).Nodup := by
  have h : ((distinctBy id xs).map id).Nodup := nodup_map_distinctBy xs
  rwa [List.map_id] at h

/-! ### The first match -/

/-- Changes the first element that satisfies a condition. -/
def modifyFirst (p : α → Bool) (f : α → α) : List α → List α
  | [] => []
  | a :: rest => if p a then f a :: rest else a :: modifyFirst p f rest

/-- Sets an element by its key: in place of the first one with that key, else at the end. -/
def setBy [DecidableEq κ] (key : α → κ) (a : α) : List α → List α
  | [] => [a]
  | b :: rest => if key b = key a then a :: rest else b :: setBy key a rest

/-- Moves the element at one position to another. -/
def moveItem (source target : Nat) (xs : List α) : List α :=
  match xs[source]? with
  | some a => (xs.eraseIdx source).insertIdx target a
  | none => xs

/-- The count of positions at which two lists differ. -/
def countChanges [DecidableEq α] (before after : List α) : Nat :=
  (before.zip after).countP fun pair => pair.1 ≠ pair.2

end ProxyChain
