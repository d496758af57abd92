/-
The source of a record line by line: a line in front, one line for each field in order, and a line
behind (`getElem?_fieldLines`, `getElem?_decoderLines`).
-/
import SampleTypes.Haskell.Declaration

namespace SampleTypes.Haskell

open Text

/-! ## Fields -/

theorem length_fieldNames (r : Record FieldType) : r.fieldNames.length = r.fields.length :=
  List.length_map _

/-- The line of a field, told by its place among the fields. -/
def fieldLine (names : TypeNames) (width i : Nat) (f : String × FieldType) : String :=
  (if i = 0 then "    " else "  , ") ++ label width f.1 ++ " :: " ++ typeExpression names true f.2

theorem length_leads (n : Nat) : (leads n).length = n := by
  cases n <;> simp [leads]

theorem getElem?_leads {n i : Nat} (h : i < n) :
    (leads n)[i]? = some (if i = 0 then "    " else "  , ") := by
  cases n with
  | zero => omega
  | succ n =>
    cases i with
    | zero => rfl
    | succ i => simp [leads, Nat.lt_of_succ_lt_succ h]

theorem length_fieldLines (names : TypeNames) (r : Record FieldType) :
    (fieldLines names r).length = r.fields.length := by
  rw [fieldLines, List.length_zipWith, length_leads, Nat.min_self]

theorem getElem?_fieldLines (names : TypeNames) (r : Record FieldType) (i : Nat) :
    (fieldLines names r)[i]? =
      r.fields[i]?.map (fieldLine names (1 + longest r.fieldNames) i) := by
  rw [fieldLines, List.getElem?_zipWith]
  cases hfield : r.fields[i]? with
  | none => cases (leads r.fields.length)[i]? <;> rfl
  | some f =>
    obtain ⟨hi, -⟩ := List.getElem?_eq_some_iff.1 hfield
    rw [getElem?_leads hi]
    rfl

theorem fieldLine_mem {names : TypeNames} {r : Record FieldType} {i : Nat} {f : String × FieldType}
    (h : r.fields[i]? = some f) :
    fieldLine names (1 + longest r.fieldNames) i f ∈ fieldLines names r :=
  List.mem_of_getElem? (by rw [getElem?_fieldLines, h, Option.map_some])

theorem fieldLines_eq (names : TypeNames) (r : Record FieldType) :
    fieldLines names r = r.fields.mapIdx (fieldLine names (1 + longest r.fieldNames)) := by
  apply List.ext_getElem?
  intro i
  rw [getElem?_fieldLines, List.getElem?_mapIdx]

/-- The lines of the `data` declaration of a record. -/
def typeLines (names : TypeNames) (r : Record FieldType) : List String :=
  ("data " ++ r.name ++ " = " ++ r.name ++ " \x7b") :: fieldLines names r ++
    ["\x7d deriving (Show, Data, Typeable)"]

theorem recordType_eq (names : TypeNames) (r : Record FieldType) :
    recordType names r = unlines (typeLines names r) :=
  rfl

theorem length_typeLines (names : TypeNames) (r : Record FieldType) :
    (typeLines names r).length = r.fields.length + 2 := by
  rw [typeLines, List.length_append, List.length_cons, length_fieldLines]
  rfl

/-! ## Look-ups -/

theorem length_lookupLines (fields : List String) :
    (lookupLines fields).length = fields.length := by
  fun_induction lookupLines fields with
  | case1 | case2 => rfl
  | case3 field next rest ih => simp [ih]

/-- All look-ups but the last are applied to the next one. -/
theorem getElem?_lookupLines (fields : List String) (i : Nat) :
    (lookupLines fields)[i]? =
      fields[i]?.map fun field =>
        lookup field ++ if i + 1 < fields.length then " <*>" else "" := by
  fun_induction lookupLines fields generalizing i with
  | case1 => rfl
  | case2 field => cases i <;> simp
  | case3 field next rest ih =>
    cases i with
    | zero => simp
    | succ i => simp [ih]

theorem length_decoderLines (r : Record FieldType) :
    (decoderLines r).length = r.fields.length + 1 := by
  unfold decoderLines
  split
  · next h => rw [← length_fieldNames, h]; rfl
  · rw [List.length_cons, length_lookupLines, length_fieldNames]

theorem getElem?_decoderLines {r : Record FieldType} {i : Nat} {field : String}
    (h : r.fieldNames[i]? = some field) :
    (decoderLines r)[i + 1]? =
      some (lookup field ++ if i + 1 < r.fields.length then " <*>" else "") := by
  unfold decoderLines
  split
  · next hnil => rw [hnil] at h; cases h
  · rw [List.getElem?_cons_succ, getElem?_lookupLines, h, length_fieldNames]
    rfl

/-- The lines of the decoder of a record. -/
def instanceLines (r : Record FieldType) : List String :=
  ("instance FromJSON " ++ r.name ++ " where") :: decoderLines r ++
    ["  parseJSON _            = empty"]

theorem recordDecoder_eq (r : Record FieldType) :
    recordDecoder r = unlines (instanceLines r) :=
  rfl

theorem length_instanceLines (r : Record FieldType) :
    (instanceLines r).length = r.fields.length + 3 := by
  rw [instanceLines, List.length_append, List.length_cons, length_decoderLines]
  rfl

end SampleTypes.Haskell
