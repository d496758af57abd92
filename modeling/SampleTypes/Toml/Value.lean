/-
The values of TOML tables: data values, and dates and times. A table that is written in one line with
its members, an inline table, is told apart from one with a header, since messages name its kind by
another word.
-/
import SampleTypes.Toml.Date
import SampleTypes.Value.Display

namespace SampleTypes.Toml

/-- A value in a table. Null cannot be written; it occurs in tables that are not read from a text. -/
inductive Value where
  | null
  | bool (b : Bool)
  | int (n : Int)
  | float (x : Binary64)
  | string (s : String)
  | date (d : Date)
  | time (t : Time)
  | moment (m : Moment)
  | array (elements : List Value)
  | table (isInline : Bool) (members : List (String × Value))
  deriving Inhabited

/-- The members of a table in order. -/
abbrev Members := Assoc String Value

namespace Value

/-! ## Data values -/

mutual

/-- A data value as a value of a table. -/
def ofData : SampleTypes.Value → Value
  | .null => .null
  | .bool b => .bool b
  | .int n => .int n
  | .float x => .float x
  | .string s => .string s
  | .array es => .array (ofElements es)
  | .object ms => .table false (ofMembers ms)

/-- Data values as the elements of an array. -/
def ofElements : List SampleTypes.Value → List Value
  | [] => []
  | v :: rest => ofData v :: ofElements rest

/-- The members of an object as those of a table. -/
def ofMembers : List (String × SampleTypes.Value) → Members
  | [] => []
  | (k, v) :: rest => (k, ofData v) :: ofMembers rest

end

mutual

/-- A value as a data value, which does not tell how a table is written; dates and times are none. -/
def toData? : Value → Option SampleTypes.Value
  | .null => some .null
  | .bool b => some (.bool b)
  | .int n => some (.int n)
  | .float x => some (.float x)
  | .string s => some (.string s)
  | .date _ | .time _ | .moment _ => none
  | .array es => (toElements? es).map .array
  | .table _ ms => (toMembers? ms).map .object

/-- The elements of an array as data values. -/
def toElements? : List Value → Option (List SampleTypes.Value)
  | [] => some []
  | v :: rest => do
    let v ← toData? v
    let rest ← toElements? rest
    return v :: rest

/-- The members of a table as those of an object. -/
def toMembers? : Members → Option (List (String × SampleTypes.Value))
  | [] => some []
  | (k, v) :: rest => do
    let v ← toData? v
    let rest ← toMembers? rest
    return (k, v) :: rest

end

mutual

theorem toData?_ofData (v : SampleTypes.Value) : toData? (ofData v) = some v := by
  cases v with
  | array es => simp [ofData, toData?, toElements?_ofElements es]
  | object ms => simp [ofData, toData?, toMembers?_ofMembers ms]
  | _ => rfl

theorem toElements?_ofElements (es : List SampleTypes.Value) :
    toElements? (ofElements es) = some es := by
  cases es with
  | nil => rfl
  | cons v rest => simp [ofElements, toElements?, toData?_ofData v, toElements?_ofElements rest]

theorem toMembers?_ofMembers (ms : List (String × SampleTypes.Value)) :
    toMembers? (ofMembers ms) = some ms := by
  cases ms with
  | nil => rfl
  | cons m rest =>
    obtain ⟨k, v⟩ := m
    simp [ofMembers, toMembers?, toData?_ofData v, toMembers?_ofMembers rest]

end

/-! ## In messages -/

/-- The name of a value's kind in messages. -/
def kindName : Value → String
  | .null => "NoneType"
  | .bool _ => "bool"
  | .int _ => "int"
  | .float _ => "float"
  | .string _ => "str"
  | .date _ => "date"
  | .time _ => "time"
  | .moment _ => "datetime"
  | .array _ => "list"
  | .table true _ => "DynamicInlineTableDict"
  | .table false _ => "dict"

/-- The name of the kind in messages about breakdowns, which say where dates and times are from. -/
def fullKindName (v : Value) : String :=
  match v with
  | .date _ | .time _ | .moment _ => "datetime." ++ v.kindName
  | v => v.kindName

mutual

/-- The display form of a value. -/
def display : Value → String
  | .null => SampleTypes.Value.null.display
  | .bool b => (SampleTypes.Value.bool b).display
  | .int n => (SampleTypes.Value.int n).display
  | .float x => (SampleTypes.Value.float x).display
  | .string s => (SampleTypes.Value.string s).display
  | .date d => d.display
  | .time t => t.display
  | .moment m => m.display
  | .array es => "[" ++ displayElements es ++ "]"
  | .table _ ms => "\x7b" ++ displayMembers ms ++ "\x7d"

/-- The display forms of elements with a comma and a space between neighbours. -/
def displayElements : List Value → String
  | [] => ""
  | [v] => display v
  | v :: w :: rest => display v ++ ", " ++ displayElements (w :: rest)

/-- The display forms of members with a comma and a space between neighbours. -/
def displayMembers : Members → String
  | [] => ""
  | [(k, v)] => Text.quoted k ++ ": " ++ display v
  | (k, v) :: m :: rest => Text.quoted k ++ ": " ++ display v ++ ", " ++ displayMembers (m :: rest)

end

mutual

/-- A data value is shown in a table as it is shown elsewhere. -/
theorem display_ofData (v : SampleTypes.Value) : (ofData v).display = v.display := by
  cases v with
  | array es => simp [ofData, display, SampleTypes.Value.display, displayElements_ofElements es]
  | object ms => simp [ofData, display, SampleTypes.Value.display, displayMembers_ofMembers ms]
  | _ => rfl

theorem displayElements_ofElements (es : List SampleTypes.Value) :
    displayElements (ofElements es) = SampleTypes.Value.displayElements es := by
  match es with
  | [] => rfl
  | [v] => simp [ofElements, displayElements, SampleTypes.Value.displayElements, display_ofData v]
  | v :: w :: rest =>
    have hrest := displayElements_ofElements (w :: rest)
    rw [ofElements] at hrest
    simp [ofElements, displayElements, SampleTypes.Value.displayElements, display_ofData v, hrest]

theorem displayMembers_ofMembers (ms : List (String × SampleTypes.Value)) :
    displayMembers (ofMembers ms) = SampleTypes.Value.displayMembers ms := by
  match ms with
  | [] => rfl
  | [(k, v)] => simp [ofMembers, displayMembers, SampleTypes.Value.displayMembers, display_ofData v]
  | (k, v) :: (k', w) :: rest =>
    have hrest := displayMembers_ofMembers ((k', w) :: rest)
    rw [ofMembers] at hrest
    simp [ofMembers, displayMembers, SampleTypes.Value.displayMembers, display_ofData v, hrest]

end

end Value

end SampleTypes.Toml
