/-
The data values of sample documents and configuration files: scalars, arrays and objects whose
members keep their order. Whole numbers are unbounded and are not floating-point numbers: `1` and
`1.0` are two values.
-/
import SampleTypes.Assoc
import SampleTypes.Binary64

namespace SampleTypes

/-- A data value. -/
inductive Value where
  | null
  | bool (b : Bool)
  | int (n : Int)
  | float (x : Binary64)
  | string (s : String)
  | array (elements : List Value)
  | object (members : List (String × Value))
  deriving Inhabited

namespace Value

/-! ## Equality -/

mutual

/-- Equality of values is decidable. -/
def decEq : (a b : Value) → Decidable (a = b)
  | .null, .null => isTrue rfl
  | .bool a, .bool b => decidable_of_iff (a = b) (by simp)
  | .int a, .int b => decidable_of_iff (a = b) (by simp)
  | .float a, .float b => decidable_of_iff (a = b) (by simp)
  | .string a, .string b => decidable_of_iff (a = b) (by simp)
  | .array as, .array bs =>
    have := decEqElements as bs
    decidable_of_iff (as = bs) (by simp)
  | .object as, .object bs =>
    have := decEqMembers as bs
    decidable_of_iff (as = bs) (by simp)
  | .null, .bool _ | .null, .int _ | .null, .float _ | .null, .string _ | .null, .array _
  | .null, .object _ => isFalse nofun
  | .bool _, .null | .bool _, .int _ | .bool _, .float _ | .bool _, .string _ | .bool _, .array _
  | .bool _, .object _ => isFalse nofun
  | .int _, .null | .int _, .bool _ | .int _, .float _ | .int _, .string _ | .int _, .array _
  | .int _, .object _ => isFalse nofun
  | .float _, .null | .float _, .bool _ | .float _, .int _ | .float _, .string _
  | .float _, .array _ | .float _, .object _ => isFalse nofun
  | .string _, .null | .string _, .bool _ | .string _, .int _ | .string _, .float _
  | .string _, .array _ | .string _, .object _ => isFalse nofun
  | .array _, .null | .array _, .bool _ | .array _, .int _ | .array _, .float _
  | .array _, .string _ | .array _, .object _ => isFalse nofun
  | .object _, .null | .object _, .bool _ | .object _, .int _ | .object _, .float _
  | .object _, .string _ | .object _, .array _ => isFalse nofun

/-- Equality of element lists is decidable. -/
def decEqElements : (as bs : List Value) → Decidable (as = bs)
  | [], [] => isTrue rfl
  | [], _ :: _ | _ :: _, [] => isFalse nofun
  | a :: as, b :: bs =>
    have := decEq a b
    have := decEqElements as bs
    decidable_of_iff (a = b ∧ as = bs) (by simp)

/-- Equality of member lists is decidable. -/
def decEqMembers : (as bs : List (String × Value)) → Decidable (as = bs)
  | [], [] => isTrue rfl
  | [], _ :: _ | _ :: _, [] => isFalse nofun
  | (j, a) :: as, (k, b) :: bs =>
    have := decEq a b
    have := decEqMembers as bs
    decidable_of_iff (j = k ∧ a = b ∧ as = bs) (by simp [and_assoc])

end

instance : DecidableEq Value := decEq

/-! ## Members -/

/-- Members from pairs in order, of which the last one for a key gives the value. -/
def ofPairs (pairs : List (String × Value)) : List (String × Value) :=
  Assoc.setAll [] pairs

mutual

/-- No object in the value, at any depth, has a key twice. -/
def HasDistinctKeys : Value → Prop
  | .array es => elementsHaveDistinctKeys es
  | .object ms => (ms.map Prod.fst).Nodup ∧ membersHaveDistinctKeys ms
  | _ => True

/-- `HasDistinctKeys` for every element. -/
def elementsHaveDistinctKeys : List Value → Prop
  | [] => True
  | v :: rest => HasDistinctKeys v ∧ elementsHaveDistinctKeys rest

/-- `HasDistinctKeys` for the value of every member. -/
def membersHaveDistinctKeys : List (String × Value) → Prop
  | [] => True
  | (_, v) :: rest => HasDistinctKeys v ∧ membersHaveDistinctKeys rest

end

theorem elementsHaveDistinctKeys_iff {es : List Value} :
    elementsHaveDistinctKeys es ↔ ∀ v ∈ es, v.HasDistinctKeys := by
  induction es with
  | nil => simp [elementsHaveDistinctKeys]
  | cons v rest ih => rw [elementsHaveDistinctKeys, ih, List.forall_mem_cons]

theorem membersHaveDistinctKeys_iff {ms : List (String × Value)} :
    membersHaveDistinctKeys ms ↔ ∀ m ∈ ms, m.2.HasDistinctKeys := by
  induction ms with
  | nil => simp [membersHaveDistinctKeys]
  | cons m rest ih => rw [membersHaveDistinctKeys, ih, List.forall_mem_cons]

end Value

end SampleTypes
