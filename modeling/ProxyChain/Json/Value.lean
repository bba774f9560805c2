import ProxyChain.Sequence

/-!
# ProxyChain.Json.Value

**JSON values.** Objects are lists of fields, because the order of fields is part of what a
profile looks like on disk.

Design points:

* A number is an exact integer or the bit pattern of a finite double; which of the two is decided
  when a text is read, so equality of values is decidable and no float operation is needed.
* `Value.canonical` sorts the fields of every object and keeps the last of several fields with one
  name. It is the form in which attributes that the program does not interpret are stored below
  their top level.
-/

namespace ProxyChain.Json

/-- A JSON number. -/
inductive Number
  /-- An integer, exactly. -/
  | int (value : Int)
  /-- A finite double, by its bit pattern. -/
  | float (bits : UInt64)
  deriving Repr, DecidableEq, Inhabited

/-- A JSON value. -/
inductive Value
  | null
  | bool (value : Bool)
  | number (value : Number)
  | string (value : String)
  | array (items : List Value)
  /-- Fields in the order in which they are written. -/
  | object (fields : List (String × Value))
  deriving Repr, Inhabited

namespace Value

/-! ### Decidable equality -/

mutual

/-- Equality of values is decided by walking both. -/
def decEq : (a b : Value) → Decidable (a = b)
  | .null, b => match b with
    | .null => isTrue rfl
    | .bool _ | .number _ | .string _ | .array _ | .object _ => isFalse (by simp)
  | .bool x, b => match b with
    | .bool y => decidable_of_iff (x = y) (by simp)
    | .null | .number _ | .string _ | .array _ | .object _ => isFalse (by simp)
  | .number x, b => match b with
    | .number y => decidable_of_iff (x = y) (by simp)
    | .null | .bool _ | .string _ | .array _ | .object _ => isFalse (by simp)
  | .string x, b => match b with
    | .string y => decidable_of_iff (x = y) (by simp)
    | .null | .bool _ | .number _ | .array _ | .object _ => isFalse (by simp)
  | .array xs, b => match b with
    | .array ys => @decidable_of_iff _ (xs = ys) (by simp) (decEqItems xs ys)
    | .null | .bool _ | .number _ | .string _ | .object _ => isFalse (by simp)
  | .object xs, b => match b with
    | .object ys => @decidable_of_iff _ (xs = ys) (by simp) (decEqFields xs ys)
    | .null | .bool _ | .number _ | .string _ | .array _ => isFalse (by simp)

/-- Equality of the items of two arrays. -/
def decEqItems : (a b : List Value) → Decidable (a = b)
  | [], [] => isTrue rfl
  | [], _ :: _ => isFalse (by simp)
  | _ :: _, [] => isFalse (by simp)
  | x :: xs, y :: ys =>
    @decidable_of_iff _ (x = y ∧ xs = ys) (by simp)
      (@instDecidableAnd _ _ (decEq x y) (decEqItems xs ys))

/-- Equality of the fields of two objects. -/
def decEqFields : (a b : List (String × Value)) → Decidable (a = b)
  | [], [] => isTrue rfl
  | [], _ :: _ => isFalse (by simp)
  | _ :: _, [] => isFalse (by simp)
  | (j, x) :: xs, (k, y) :: ys =>
    @decidable_of_iff _ (j = k ∧ x = y ∧ xs = ys) (by simp [and_assoc])
      (@instDecidableAnd _ _ inferInstance (@instDecidableAnd _ _ (decEq x y) (decEqFields xs ys)))

end

instance : DecidableEq Value := decEq

/-! ### Fields -/

/-- The value of the first field of that name. -/
def field? (name : String) : Value → Option Value
  | .object fields => fields.lookup name
  | _ => none

end Value

/-- Sets a field of an object: in place when the name is there, else at the end. -/
def setField (name : String) (value : α) (fields : List (String × α)) : List (String × α) :=
  setBy Prod.fst (name, value) fields

/-- Sets a field in fields that are sorted by name, and keeps them sorted. -/
def insertField (name : String) (value : α) : List (String × α) → List (String × α)
  | [] => [(name, value)]
  | (k, v) :: rest =>
    if k = name then (k, value) :: rest
    else if name < k then (name, value) :: (k, v) :: rest
    else (k, v) :: insertField name value rest

/-- The fields sorted by name, the last of several with one name kept. -/
def sortFields (fields : List (String × α)) : List (String × α) :=
  fields.foldl (fun acc field => insertField field.1 field.2 acc) []

namespace Value

mutual

/-- The value with the fields of every object sorted by name, the last of one name kept. -/
def canonical : Value → Value
  | .array items => .array (canonicalItems items)
  | .object fields => .object (sortFields (canonicalFields fields))
  | .null => .null
  | .bool b => .bool b
  | .number n => .number n
  | .string s => .string s

/-- Every item in canonical form. -/
def canonicalItems : List Value → List Value
  | [] => []
  | item :: rest => item.canonical :: canonicalItems rest

/-- Every field with its value in canonical form, the fields as they stand. -/
def canonicalFields : List (String × Value) → List (String × Value)
  | [] => []
  | (name, value) :: rest => (name, value.canonical) :: canonicalFields rest

end

end Value

end ProxyChain.Json
