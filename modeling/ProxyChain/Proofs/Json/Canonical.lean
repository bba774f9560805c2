import Mathlib.Data.String.Basic
import ProxyChain.Json.Value
import ProxyChain.Proofs.Sequence

/-!
# ProxyChain.Proofs.Json.Canonical

The form in which a value is kept that the program does not interpret. Setting fields one after the
other leaves of several fields with one name the last; sorted fields are left as they are, so that a
value in canonical form stays one, however often it is read and written.

An attribute of an object is what its last field of that name holds, in this form.
-/

namespace ProxyChain.Json

variable {α β : Type}

/-! ### What is found among fields -/

theorem lookup_setField (name : String) (value : α) (fields : List (String × α))
    (other : String) : (setField name value fields).lookup other =
      if other = name then some value else fields.lookup other := by
  rw [setField]
  induction fields with
  | nil => rw [setBy, lookup_cons_eq_ite]
  | cons field rest ih =>
      obtain ⟨k, v⟩ := field
      rw [setBy]
      split
      · simp only [lookup_cons_eq_ite]
        grind
      · simp only [lookup_cons_eq_ite, ih]
        grind

/-! ### Setting fields one after the other -/

section

variable (fields : List (String × α))

theorem lookup_foldl_setField (name : String) :
    (fields.foldl (fun acc field => setField field.1 field.2 acc) []).lookup name =
      fields.reverse.lookup name := by
  rw [lookup_foldl_set lookup_setField, List.lookup_nil, Option.or_none]

theorem nodup_foldl_setField :
    ((fields.foldl (fun acc field => setField field.1 field.2 acc) []).map Prod.fst).Nodup :=
  List.foldlRecOn (motive := fun acc : List (String × α) => (acc.map Prod.fst).Nodup) fields _
    List.nodup_nil fun _ h _ _ => nodup_map_setBy h

variable {fields}

theorem mem_of_mem_foldl_setField {field : String × α}
    (h : field ∈ fields.foldl (fun acc field => setField field.1 field.2 acc) []) :
    field ∈ fields := by
  rcases mem_foldl_setBy h with ⟨other, hother, rfl⟩ | h
  · exact hother
  · exact absurd h List.not_mem_nil

/-- Fields with different names are set as they are. -/
theorem foldl_setField_eq_self (h : (fields.map Prod.fst).Nodup) :
    fields.foldl (fun acc field => setField field.1 field.2 acc) [] = fields := by
  refine (foldl_setBy_eq_append (f := id) h fun _ _ => List.not_mem_nil).trans ?_
  rw [List.nil_append, List.map_id]

end

/-! ### Sorting -/

/-- Fields whose names ascend. -/
def Sorted (fields : List (String × α)) : Prop :=
  (fields.map Prod.fst).Pairwise (· < ·)

theorem mem_insertField {name : String} {value : α} {field : String × α}
    {fields : List (String × α)} (h : field ∈ insertField name value fields) :
    field = (name, value) ∨ field ∈ fields := by
  induction fields with
  | nil => exact Or.inl (List.mem_singleton.1 h)
  | cons other rest ih =>
      obtain ⟨k, v⟩ := other
      rw [insertField] at h
      split at h
      · subst name
        exact (List.mem_cons.1 h).imp_right (List.mem_cons_of_mem _)
      · split at h
        · exact List.mem_cons.1 h
        · rcases List.mem_cons.1 h with rfl | h
          · exact Or.inr List.mem_cons_self
          · exact (ih h).imp_right (List.mem_cons_of_mem _)

theorem Sorted.insertField {name : String} {value : α} {fields : List (String × α)}
    (h : Sorted fields) : Sorted (insertField name value fields) := by
  induction fields with
  | nil => exact List.pairwise_singleton ..
  | cons other rest ih =>
      obtain ⟨k, v⟩ := other
      obtain ⟨hhead, hrest⟩ := List.pairwise_cons.1 h
      rw [Json.insertField]
      split
      · exact h
      · rename_i hne
        split
        · rename_i hlt
          refine List.pairwise_cons.2 ⟨fun other hother => ?_, h⟩
          rcases List.mem_cons.1 hother with rfl | hother
          · exact hlt
          · exact hlt.trans (hhead other hother)
        · rename_i hle
          -- The head stays in front: of the old fields by `h`, and of the new one as it is not
          -- behind it.
          refine List.pairwise_cons.2 ⟨fun other hother => ?_, ih hrest⟩
          obtain ⟨field, hfield, rfl⟩ := List.mem_map.1 hother
          rcases mem_insertField hfield with rfl | hfield
          · exact lt_of_le_of_ne (not_lt.1 hle) hne
          · exact hhead field.1 (List.mem_map_of_mem hfield)

theorem sorted_sortFields (fields : List (String × α)) : Sorted (sortFields fields) :=
  List.foldlRecOn fields _ List.Pairwise.nil fun _ h _ _ => h.insertField

/-- A field whose name is behind all others goes to the end. -/
theorem insertField_eq_append {name : String} (value : α) {fields : List (String × α)}
    (h : ∀ field ∈ fields, field.1 < name) :
    insertField name value fields = fields ++ [(name, value)] := by
  induction fields with
  | nil => rfl
  | cons other rest ih =>
      obtain ⟨hlt, hrest⟩ := List.forall_mem_cons.1 h
      rw [insertField, if_neg hlt.ne, if_neg hlt.not_gt, ih hrest, List.cons_append]

/-- Sorted fields that all are behind others are added as they are. -/
theorem foldl_insertField_eq_append {fields acc : List (String × α)} (h : Sorted (acc ++ fields)) :
    fields.foldl (fun acc field => insertField field.1 field.2 acc) acc = acc ++ fields := by
  induction fields generalizing acc with
  | nil => simp
  | cons field rest ih =>
      have hbefore : ∀ other ∈ acc, other.1 < field.1 := by
        intro other hother
        rw [Sorted, List.map_append] at h
        exact (List.pairwise_append.1 h).2.2 _ (List.mem_map_of_mem hother) _ (by simp)
      rw [List.foldl_cons, insertField_eq_append field.2 hbefore, ih (by simpa using h)]
      simp

theorem sortFields_eq_self {fields : List (String × α)} (h : Sorted fields) :
    sortFields fields = fields :=
  foldl_insertField_eq_append h

/-! ### Rewriting the values of fields -/

theorem map_insertField (f : α → β) (name : String) (value : α) (fields : List (String × α)) :
    (insertField name value fields).map (Prod.map id f) =
      insertField name (f value) (fields.map (Prod.map id f)) := by
  induction fields with
  | nil => rfl
  | cons other rest ih =>
      obtain ⟨k, v⟩ := other
      simp only [insertField, List.map_cons, Prod.map_apply, id_eq]
      rw [← ih]
      split
      · rfl
      · split <;> rfl

theorem map_sortFields (f : α → β) (fields : List (String × α)) :
    (sortFields fields).map (Prod.map id f) = sortFields (fields.map (Prod.map id f)) := by
  rw [sortFields, sortFields, List.foldl_map]
  exact (List.foldl_hom (List.map (Prod.map id f))
    fun acc field => (map_insertField f field.1 field.2 acc).symm).symm

/-! ### Canonical values -/

namespace Value

theorem canonicalFields_eq_map (fields : List (String × Value)) :
    canonicalFields fields = fields.map (Prod.map id canonical) := by
  induction fields with
  | nil => rfl
  | cons field rest ih => rw [canonicalFields, ih, List.map_cons, Prod.map, id]

mutual

theorem canonical_canonical : ∀ v : Value, v.canonical.canonical = v.canonical
  | .array items => by
      simp only [canonical, canonicalItems_canonicalItems items]
  | .object fields => by
      -- The values may be rewritten before sorting, and sorted fields are not sorted again.
      rw [canonical, canonical, canonicalFields_eq_map, map_sortFields,
        ← canonicalFields_eq_map, canonicalFields_canonicalFields fields,
        sortFields_eq_self (sorted_sortFields _)]
  | .null | .bool _ | .number _ | .string _ => by simp only [canonical]

theorem canonicalItems_canonicalItems :
    ∀ items : List Value, canonicalItems (canonicalItems items) = canonicalItems items
  | [] => rfl
  | item :: rest => by
      simp only [canonicalItems, canonical_canonical item, canonicalItems_canonicalItems rest]

theorem canonicalFields_canonicalFields :
    ∀ fields : List (String × Value), canonicalFields (canonicalFields fields) =
      canonicalFields fields
  | [] => rfl
  | (name, value) :: rest => by
      simp only [canonicalFields, canonical_canonical value, canonicalFields_canonicalFields rest]

end

/-! ### Attributes -/

/-- The attribute of that name: what the last field of that name holds, in canonical form. -/
def attribute? (name : String) : Value → Option Value
  | .object fields => (fields.reverse.lookup name).map canonical
  | _ => none

end Value

end ProxyChain.Json
