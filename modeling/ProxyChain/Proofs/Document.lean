import ProxyChain.Document
import ProxyChain.Proofs.Json.Canonical

/-!
# ProxyChain.Proofs.Document

What is read from the document of a value, whatever the value is, and what is read back from the
document of a record that was written. The fields of a record are written in the order in which
they are declared, each at most once (`Written`), so that reading it back finds every declared field
where it was written and, in an open record, the other attributes behind them.
-/

namespace ProxyChain

open Json

variable {α β : Type}

namespace Document

/-! ### The document of a value -/

/-- The documents of fields. -/
def ofNamed (fields : List (String × Value)) : List (String × Document) :=
  fields.map (Prod.map id ofValue)

theorem lookup_ofNamed (fields : List (String × Value)) (name : String) :
    (ofNamed fields).lookup name = (fields.lookup name).map ofValue :=
  lookup_map_prod Function.injective_id ofValue name fields

theorem map_fst_ofNamed (fields : List (String × Value)) :
    (ofNamed fields).map Prod.fst = fields.map Prod.fst := by
  rw [ofNamed, List.map_map]
  rfl

theorem ofItems_eq_map (items : List Value) : ofItems items = items.map ofValue := by
  induction items with
  | nil => rfl
  | cons item rest ih => rw [ofItems, ih, List.map_cons]

theorem ofFields_eq_map (fields : List (String × Value)) : ofFields fields = fields.map fun field =>
    ({ text := some field.1, variant := some field.1, value := some (.string field.1) },
      ofValue field.2) := by
  induction fields with
  | nil => rfl
  | cons field rest ih => rw [ofFields, ih, List.map_cons]

theorem ofValue_object (fields : List (String × Value)) :
    ∃ variant, ofValue (.object fields) = .record variant (ofFields fields) :=
  ⟨_, rfl⟩

mutual

/-- What is not interpreted is read in canonical form. -/
theorem value?_ofValue : ∀ v : Value, (ofValue v).value? = .ok v.canonical
  | .array items => by
      rw [ofValue, value?, items?_ofItems items]
      rfl
  | .object fields => by
      obtain ⟨variant, hvalue⟩ := ofValue_object fields
      rw [hvalue, value?, entries?_ofFields fields]
      rfl
  | .null | .bool _ | .number _ | .string _ => rfl

theorem items?_ofItems : ∀ items : List Value,
    items? (ofItems items) = .ok (Value.canonicalItems items)
  | [] => rfl
  | item :: rest => by
      rw [ofItems, items?, value?_ofValue item, items?_ofItems rest]
      rfl

theorem entries?_ofFields : ∀ fields : List (String × Value),
    entries? (ofFields fields) = .ok (Value.canonicalFields fields)
  | [] => rfl
  | (name, value) :: rest => by
      rw [ofFields, entries?, value?_ofValue value, entries?_ofFields rest]
      rfl

end

theorem namedEntries_ofValue (fields : List (String × Value)) :
    (ofValue (.object fields)).namedEntries = .ok (ofNamed fields) := by
  obtain ⟨variant, hvalue⟩ := ofValue_object fields
  rw [hvalue, ofFields_eq_map]
  refine mapM_eq_ok_iff.2 ?_
  rw [List.forall₂_map_left_iff, ofNamed, List.forall₂_map_right_iff, List.forall₂_same]
  intro field _
  rfl

/-! ### Scalars and lists -/

@[simp] theorem text_ofValue (s : String) : text (ofValue (.string s)) = .ok s :=
  rfl

@[simp] theorem flag_ofValue (b : Bool) : flag (ofValue (.bool b)) = .ok b :=
  rfl

@[simp] theorem variant_ofValue (s : String) : variant (ofValue (.string s)) = .ok s :=
  rfl

theorem optional_null (read : Document → Except Fault α) :
    Document.optional read (ofValue .null) = .ok none :=
  rfl

theorem optional_ofValue {v : Value} (hnull : v ≠ .null) (read : Document → Except Fault α) :
    Document.optional read (ofValue v) = some <$> read (ofValue v) := by
  cases v with
  | null => exact absurd rfl hnull
  | _ => rfl

theorem optional_ofValue_eq_ok_iff {read : Document → Except Fault α} {v : Value}
    {result : Option α} : Document.optional read (ofValue v) = .ok result ↔
      v = .null ∧ result = none ∨ v ≠ .null ∧ ∃ a, read (ofValue v) = .ok a ∧ result = some a := by
  by_cases hnull : v = .null
  · subst hnull
    simp [optional_null, eq_comm]
  · rw [optional_ofValue hnull, map_eq_pure_bind, bind_eq_ok_iff]
    simp [hnull, pure, Except.pure, eq_comm]

/-- Only an array is read as a list, item by item. -/
theorem listOf_ofValue_eq_ok_iff {read : Document → Except Fault α} {v : Value} {as : List α} :
    listOf read (ofValue v) = .ok as ↔ ∃ items, v = .array items ∧
      List.Forall₂ (fun item a => read (ofValue item) = .ok a) items as := by
  cases v with
  | array items =>
      have hitems : listOf read (ofValue (.array items)) = (ofItems items).mapM read := rfl
      rw [hitems, mapM_eq_ok_iff, ofItems_eq_map, List.forall₂_map_left_iff]
      simp
  | _ => exact ⟨(nomatch ·), fun ⟨_, h, _⟩ => nomatch h⟩

/-- A list whose items are read back is read back. -/
theorem listOf_ofValue_map {read : Document → Except Fault α} {write : α → Value} {as : List α}
    (h : ∀ a ∈ as, read (ofValue (write a)) = .ok a) :
    listOf read (ofValue (.array (as.map write))) = .ok as :=
  listOf_ofValue_eq_ok_iff.2 ⟨_, rfl, List.forall₂_map_left_iff.2 (List.forall₂_same.2 h)⟩

/-- A map whose names are different is read back. -/
theorem mapOf_ofValue_map {read : Document → Except Fault α} {write : α → Value}
    {entries : List (String × α)} (hnodup : (entries.map Prod.fst).Nodup)
    (h : ∀ a, read (ofValue (write a)) = .ok a) :
    mapOf read (ofValue (.object (entries.map (Prod.map id write)))) = .ok entries := by
  have hread : (ofNamed (entries.map (Prod.map id write))).mapM
      (fun entry => do return (entry.1, ← read entry.2)) = Except.ok entries := by
    refine mapM_eq_ok_iff.2 ?_
    rw [ofNamed, List.map_map, List.forall₂_map_left_iff, List.forall₂_same]
    intro entry _
    simp [h, pure, Except.pure]
  rw [mapOf, namedEntries_ofValue, ok_bind, hread, ok_bind, foldl_setField_eq_self hnodup]
  rfl

/-- What is read as a map has different names. -/
theorem nodup_of_mapOf {read : Document → Except Fault α} {d : Document}
    {entries : List (String × α)} (h : mapOf read d = .ok entries) :
    (entries.map Prod.fst).Nodup := by
  obtain ⟨_, -, h⟩ := bind_eq_ok_iff.1 h
  obtain ⟨read, -, h⟩ := bind_eq_ok_iff.1 h
  obtain rfl := Except.ok.inj h
  exact nodup_foldl_setField read

end Document

/-! ### Declared fields and others -/

/-- The fields with declared names. -/
def Json.fieldsAmong (names : List String) (fields : List (String × α)) : List (String × α) :=
  fields.filter fun field => names.contains field.1

/-- The fields with other names. -/
def Json.fieldsBeside (names : List String) (fields : List (String × α)) : List (String × α) :=
  fields.filter fun field => !names.contains field.1

namespace Json

variable {names : List String}

theorem lookup_fieldsAmong {name : String} (hname : name ∈ names) (fields : List (String × α)) :
    (fieldsAmong names fields).lookup name = fields.lookup name := by
  rw [fieldsAmong, lookup_filter_key (names.contains ·), if_pos (by simpa using hname)]

theorem lookup_reverse_fieldsBeside {name : String} (hname : name ∉ names)
    (fields : List (String × α)) :
    (fieldsBeside names fields).reverse.lookup name = fields.reverse.lookup name := by
  rw [fieldsBeside, ← List.filter_reverse, lookup_filter_key (!names.contains ·),
    if_pos (by simpa using hname)]

theorem fieldsAmong_ofNamed (fields : List (String × Value)) :
    fieldsAmong names (Document.ofNamed fields) = Document.ofNamed (fieldsAmong names fields) :=
  List.filter_map ..

theorem fieldsBeside_ofNamed (fields : List (String × Value)) :
    fieldsBeside names (Document.ofNamed fields) = Document.ofNamed (fieldsBeside names fields) :=
  List.filter_map ..

end Json

namespace Fields

open Document

variable {names : List String}

/-- Entries are sorted into fields unless a declared name is written twice. -/
theorem ofEntries_eq_ok_iff {entries : List (String × Document)} {f : Fields} :
    ofEntries names entries = .ok f ↔ ((fieldsAmong names entries).map Prod.fst).Nodup ∧
      f = ⟨fieldsAmong names entries, fieldsBeside names entries⟩ := by
  have hpartition : entries.partition (fun entry => names.contains entry.1) =
      (fieldsAmong names entries, fieldsBeside names entries) := List.partition_eq_filter_filter
  simp only [ofEntries, hpartition]
  rw [List.nodup_iff_count_eq_one]
  split
  · rename_i name hname
    have hcount : List.count name ((fieldsAmong names entries).map Prod.fst) ≠ 1 := by
      simpa using List.find?_some hname
    refine ⟨(nomatch ·), fun h => absurd (h.1 name (List.mem_of_find?_eq_some hname)) hcount⟩
  · rename_i hnone
    have hcount := List.find?_eq_none.1 hnone
    simp only [bne_iff_ne, ne_eq, not_not] at hcount
    exact ⟨fun h => ⟨hcount, (Except.ok.inj h).symm⟩, fun h => congrArg Except.ok h.2.symm⟩

/-! ### What is read -/

/-- An open record is an object in which no declared name is written twice. -/
theorem ofOpenRecord_eq_ok_iff {v : Value} {f : Fields} :
    ofOpenRecord names (ofValue v) = .ok f ↔ ∃ fields, v = .object fields ∧
      ((fieldsAmong names fields).map Prod.fst).Nodup ∧
      f = ⟨ofNamed (fieldsAmong names fields), ofNamed (fieldsBeside names fields)⟩ := by
  cases v with
  | object fields =>
      rw [ofOpenRecord, namedEntries_ofValue, ok_bind, ofEntries_eq_ok_iff, fieldsAmong_ofNamed,
        fieldsBeside_ofNamed, map_fst_ofNamed]
      simp
  | _ => exact ⟨(nomatch ·), fun ⟨_, h, _⟩ => nomatch h⟩

/-- The value that a record has for a declared name, written by name or in order. -/
def member? (names : List String) (name : String) : Value → Option Value
  | .object fields => fields.lookup name
  | .array items => (names.zip items).lookup name
  | _ => none

/-- The declared fields of a record are the documents of values of which each is found under its
name. -/
theorem of_ofRecord {v : Value} {f : Fields} (h : ofRecord names (ofValue v) = .ok f) :
    ∃ fields, f.declared = ofNamed fields ∧
      ∀ name ∈ names, fields.lookup name = member? names name v := by
  cases v with
  | object fields =>
      obtain ⟨_, hobject, -, rfl⟩ := ofOpenRecord_eq_ok_iff.1 (h : ofOpenRecord names _ = _)
      obtain rfl := Value.object.inj hobject
      exact ⟨_, rfl, fun name hname => lookup_fieldsAmong hname fields⟩
  | array items =>
      -- By position, fields that are missing at the end are not declared.
      simp only [ofRecord, ofValue, unlabelled, ofItems_eq_map] at h
      split at h
      · cases h
      · obtain rfl := Except.ok.inj h
        exact ⟨names.zip items, List.zip_map_right .., fun _ _ => rfl⟩
  | _ => cases h

theorem of_withDefault {f : Fields} {name : String} {default a : α}
    {read : Document → Except Fault α} (h : f.withDefault name default read = .ok a) :
    a = default ∨ ∃ d, read d = .ok a := by
  rw [withDefault] at h
  split at h
  · exact Or.inr ⟨_, h⟩
  · exact Or.inl (Except.ok.inj h).symm

section

variable (fields : List (String × Value)) (rest : List (String × Document)) (name : String)
  (read : Document → Except Fault α)

@[simp] theorem required_ofNamed : required ⟨ofNamed fields, rest⟩ name read =
    (fields.lookup name).elim (.error (.missing name)) fun v => read (ofValue v) := by
  rw [required, lookup_ofNamed]
  cases fields.lookup name <;> rfl

@[simp] theorem withDefault_ofNamed (default : α) :
    withDefault ⟨ofNamed fields, rest⟩ name default read =
      (fields.lookup name).elim (.ok default) fun v => read (ofValue v) := by
  rw [withDefault, lookup_ofNamed]
  cases fields.lookup name <;> rfl

@[simp] theorem optional_ofNamed : Fields.optional ⟨ofNamed fields, rest⟩ name read =
    (fields.lookup name).elim (.ok none) fun v => Document.optional read (ofValue v) :=
  withDefault_ofNamed ..

theorem extra_ofNamed (declared : List (String × Document)) :
    extra ⟨declared, ofNamed fields⟩ =
      .ok ((fields.map (Prod.map id Value.canonical)).foldl
        (fun acc field => setField field.1 field.2 acc) []) := by
  have hread : (ofNamed fields).mapM (fun entry => do return (entry.1, ← entry.2.value?)) =
      Except.ok (fields.map (Prod.map id Value.canonical)) := by
    refine mapM_eq_ok_iff.2 ?_
    rw [ofNamed, List.forall₂_map_left_iff, List.forall₂_map_right_iff, List.forall₂_same]
    intro field _
    rw [Prod.map_snd, value?_ofValue]
    rfl
  rw [extra, hread]
  rfl

end

section

variable {fields : List (String × Value)} {rest : List (String × Document)} {name : String}
  {read : Document → Except Fault α} {result : Option α}

/-- An optional field that was read: nothing was there, or what was there was read. -/
theorem optional_ofNamed_eq_ok
    (h : Fields.optional ⟨ofNamed fields, rest⟩ name read = .ok result) :
    result = none ∧ (∀ v ∈ fields.lookup name, v = .null) ∨
      ∃ v a, fields.lookup name = some v ∧ read (ofValue v) = .ok a ∧ result = some a := by
  rw [optional_ofNamed] at h
  cases hfield : fields.lookup name with
  | none =>
      rw [hfield] at h
      exact Or.inl ⟨(Except.ok.inj h).symm, nofun⟩
  | some v =>
      rw [hfield] at h
      rcases optional_ofValue_eq_ok_iff.1 h with ⟨rfl, rfl⟩ | ⟨-, a, hread, rfl⟩
      · exact Or.inl ⟨rfl, fun _ hv => (Option.some.inj hv).symm⟩
      · exact Or.inr ⟨v, a, rfl, hread, rfl⟩

theorem exists_of_mem_optional {a : α}
    (h : Fields.optional ⟨ofNamed fields, rest⟩ name read = .ok result) (ha : a ∈ result) :
    ∃ v, read (ofValue v) = .ok a := by
  rcases optional_ofNamed_eq_ok h with ⟨rfl, -⟩ | ⟨v, b, -, hread, rfl⟩
  · exact nomatch ha
  · exact ⟨v, Option.some.inj ha ▸ hread⟩

/-- What is seen of the values that are read is seen of an optional field. -/
theorem bind_lookup_of_optional {seen : Value → Option β} {kept : α → Option β}
    (h : Fields.optional ⟨ofNamed fields, rest⟩ name read = .ok result)
    (hnull : seen .null = none) (hread : ∀ v a, read (ofValue v) = .ok a → kept a = seen v) :
    (fields.lookup name).bind seen = result.bind kept := by
  rcases optional_ofNamed_eq_ok h with ⟨rfl, hnothing⟩ | ⟨v, a, hfield, hok, rfl⟩
  · cases hfield : fields.lookup name with
    | none => rfl
    | some v => rw [hnothing v hfield, Option.bind_some, hnull, Option.bind_none]
  · rw [hfield, Option.bind_some, Option.bind_some, hread v a hok]

end

/-- The items of a field that holds a list, none if it is left out. -/
def itemsOf : Option Value → List Value
  | some (.array items) => items
  | _ => []

/-- A list that may be left out was read item by item. -/
theorem forall₂_of_withDefault {fields : List (String × Value)} {rest : List (String × Document)}
    {name : String} {read : Document → Except Fault α} {as : List α}
    (h : Fields.withDefault ⟨ofNamed fields, rest⟩ name [] (listOf read) = .ok as) :
    List.Forall₂ (fun item a => read (ofValue item) = .ok a) (itemsOf (fields.lookup name)) as := by
  rw [withDefault_ofNamed] at h
  cases hfield : fields.lookup name with
  | none =>
      rw [hfield] at h
      obtain rfl := Except.ok.inj h
      exact .nil
  | some v =>
      rw [hfield] at h
      obtain ⟨items, rfl, hitems⟩ := listOf_ofValue_eq_ok_iff.1 h
      exact hitems

/-! ### Attributes beside the declared fields -/

/-- Attributes as an open record keeps them: none of a declared name, no name twice, and each in
canonical form. -/
structure ExtraSound (names : List String) (extra : List (String × Value)) : Prop where
  nodup : (extra.map Prod.fst).Nodup
  undeclared : ∀ field ∈ extra, field.1 ∉ names
  canonical : ∀ field ∈ extra, field.2.canonical = field.2

/-- What an open record keeps beside its declared fields are the other attributes, all of them. -/
theorem extra_of_ofOpenRecord {v : Value} {f : Fields} {extra : List (String × Value)}
    (h : ofOpenRecord names (ofValue v) = .ok f) (hextra : f.extra = .ok extra) :
    ExtraSound names extra ∧ ∀ name ∉ names, extra.lookup name = v.attribute? name := by
  obtain ⟨fields, rfl, -, rfl⟩ := ofOpenRecord_eq_ok_iff.1 h
  rw [extra_ofNamed] at hextra
  obtain rfl := Except.ok.inj hextra
  constructor
  · -- Setting fields invents none, so each is one that was beside, in canonical form.
    refine ⟨nodup_foldl_setField _, fun field hfield => ?_, fun field hfield => ?_⟩
    all_goals obtain ⟨other, hother, rfl⟩ := List.mem_map.1 (mem_of_mem_foldl_setField hfield)
    · simpa using (List.mem_filter.1 hother).2
    · exact Value.canonical_canonical other.2
  · intro name hname
    rw [lookup_foldl_setField, ← List.map_reverse, Value.attribute?,
      ← lookup_reverse_fieldsBeside hname fields]
    exact lookup_map_prod Function.injective_id Value.canonical name _

theorem ExtraSound.extra_ofNamed {extra : List (String × Value)} (h : ExtraSound names extra)
    (declared : List (String × Document)) :
    Fields.extra ⟨declared, ofNamed extra⟩ = .ok extra := by
  have hcanonical : extra.map (Prod.map id Value.canonical) = extra :=
    map_eq_self_iff.2 fun field hfield => Prod.ext rfl (h.canonical field hfield)
  rw [Fields.extra_ofNamed, hcanonical, foldl_setField_eq_self h.nodup]

/-! ### What is read back -/

/-- Fields that are written in the order in which they are declared, each at most once. -/
def Written (names : List String) (fields : List (String × Value)) : Prop :=
  (fields.map Prod.fst).Sublist names

/-- Fields that are written as declared are read back, with other attributes behind them. -/
theorem ofOpenRecord_written {fields extra : List (String × Value)} (hnames : names.Nodup)
    (hwritten : Written names fields) (hextra : ExtraSound names extra) :
    ofOpenRecord names (ofValue (.object (fields ++ extra))) =
      .ok ⟨ofNamed fields, ofNamed extra⟩ := by
  have hdeclared : ∀ field ∈ fields, names.contains field.1 = true := by
    intro field hfield
    simpa using hwritten.subset (List.mem_map_of_mem hfield)
  have hother : ∀ field ∈ extra, (!names.contains field.1) = true := by
    simpa using hextra.undeclared
  have hamong : fieldsAmong names (fields ++ extra) = fields := by
    rw [fieldsAmong, List.filter_append, List.filter_eq_self.2 hdeclared,
      List.filter_eq_nil_iff.2 (by simpa using hextra.undeclared), List.append_nil]
  have hbeside : fieldsBeside names (fields ++ extra) = extra := by
    rw [fieldsBeside, List.filter_append, List.filter_eq_self.2 hother,
      List.filter_eq_nil_iff.2 (by simpa using hdeclared), List.nil_append]
  refine ofOpenRecord_eq_ok_iff.2 ⟨fields ++ extra, rfl, ?_, ?_⟩
  · rw [hamong]
    exact hwritten.nodup hnames
  · rw [hamong, hbeside]

theorem ofRecord_written {fields : List (String × Value)} (hnames : names.Nodup)
    (hwritten : Written names fields) :
    ofRecord names (ofValue (.object fields)) = .ok ⟨ofNamed fields, []⟩ := by
  -- An object that is read as a record is sorted like an open one, and here nothing is beside.
  have hnone : ExtraSound names [] := ⟨List.nodup_nil, nofun, nofun⟩
  have hopen := ofOpenRecord_written hnames hwritten hnone
  rwa [List.append_nil] at hopen

namespace Written

variable {fields : List (String × Value)} {name : String}

theorem nil : Written [] [] :=
  List.Sublist.slnil

theorem always {value : Value} (h : Written names fields) :
    Written (name :: names) ((name, value) :: fields) :=
  List.Sublist.cons_cons name h

/-- A group of fields of one name, if it is written at all. -/
theorem group {group : List (String × Value)} (hgroup : Written [name] group)
    (h : Written names fields) : Written (name :: names) (group ++ fields) := by
  rw [Written, List.map_append]
  exact List.Sublist.append hgroup h

end Written

end Fields

end ProxyChain
