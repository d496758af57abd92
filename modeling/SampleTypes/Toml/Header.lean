/-
Table headers: the names in the brackets, and the table that they open. Tables that lie on the way
are made when they are missing; of an array, the last element is meant.

A place in a table is a path: at every step either a name is looked up or the last element is taken.
-/
import SampleTypes.Toml.Assignment
import SampleTypes.Toml.Key

namespace SampleTypes.Toml

open Text (trimmed)

/-! ## Names -/

/-- The text starts and ends with the same character. -/
def isEnclosed (s : List Char) : Bool :=
  1 < s.length && s.head? == s.getLast?

/-- Puts the parts of a name in quotes together again that points have parted. -/
def closeName (name : List Char) : List (List Char) → ReadM (List Char × List (List Char))
  | [] =>
    if isEnclosed (trimmed name) then .ok (inner 1 (trimmed name), [])
    else faulty (.unclosedName (String.ofList (trimmed name)))
  | next :: rest =>
    if isEnclosed (trimmed name) then .ok (inner 1 (trimmed name), next :: rest)
    else closeName (name ++ '.' :: next) rest

/-- The names that stand between points. -/
def headerNames : (fuel : Nat) → List (List Char) → ReadM (List String)
  | 0, _ | _, [] => .ok []
  | fuel + 1, name :: rest => do
    let name := trimmed name
    if name.head?.any isQuote then
      let (name, rest) ← closeName name rest
      return String.ofList name :: (← headerNames fuel rest)
    else if isBareKey (String.ofList name) then
      return String.ofList name :: (← headerNames fuel rest)
    else faulty (.bareName (String.ofList name))

/-- The names in a header, and whether it is one of an array. The line starts with a bracket. -/
def readHeader (line : List Char) : ReadM (List String × Bool) := do
  if line.length = 1 then faulty .loneBracket
  let isArray := (line.drop 1).head? == some '['
  let close := if isArray then [']', ']'] else [']']
  let line := line.drop close.length
  let count := countUpToOutside close false (splitAtQuotes line)
  let pieces := Text.piecesUpTo count close line
  if pieces.length < count + 1 || !(pieces.getLast?.all (fun rest => (trimmed rest).isEmpty)) then
    faulty .headerNotAlone
  let parts := Text.splitChars '.' (Text.joinPieces close pieces.dropLast)
  return (← headerNames parts.length parts, isArray)

/-! ## Places -/

/-- A step to a value inside of another one. -/
inductive Step where
  | name (name : String)
  /-- To the last element, or the last character of a text. -/
  | last
  deriving DecidableEq, Repr

/-- The steps to a place, from the outside. -/
abbrev Place := List Step

/-- The last element of an array or character of a text. -/
def lastOf : Value → ReadM Value
  | .array es =>
    match es.getLast? with
    | some v => .ok v
    | none => broken .pastEnd
  | .string s =>
    match s.toList.getLast? with
    | some c => .ok (.string (String.singleton c))
    | none => broken .pastEnd
  | v => broken (.notIndexed v.fullKindName)

/-- The value at a place. -/
def valueAt : Place → Value → Value
  | [], v => v
  | .name name :: place, .table _ ms => valueAt place ((Assoc.get? name ms).getD .null)
  | .last :: place, v =>
    match lastOf v with
    | .ok v => valueAt place v
    | .error _ => .null
  | _, _ => .null

/-- A table with another value at a place; what a text holds is left as it is. -/
def setAt (new : Value) : Place → Value → Value
  | [], _ => new
  | .name name :: place, .table isInline ms =>
    match Assoc.get? name ms with
    | some inner => .table isInline (Assoc.set name (setAt new place inner) ms)
    | none => .table isInline ms
  | .last :: place, .array es =>
    match es.getLast? with
    | some v => .array (es.dropLast ++ [setAt new place v])
    | none => .array es
  | _, v => v

/-! ## Opening tables -/

/-- Tables that are being opened, and the place reached so far. -/
structure Opening where
  root : Value
  place : Place := []
  /-- The names of tables that were made on the way to others. -/
  implicit : List String

namespace Opening

/-- The value at the place reached. -/
def here (o : Opening) : Value :=
  valueAt o.place o.root

/-- The same with another value at the place reached. -/
def put (o : Opening) (v : Value) : Opening :=
  { o with root := setAt v o.place o.root }

/-- What is made for a missing name: a table, or an array of one. -/
def made (isElement : Bool) : Value :=
  if isElement then .array [.table false []] else .table false []

/-- Opens a name that is there, and comes last, once more. -/
def reopen (o : Opening) (name : String) (isArray : Bool) (v : Value) : ReadM Opening :=
  if name ∈ o.implicit then
    if isArray then faulty .implicitArray
    else .ok { o with implicit := o.implicit.erase name }
  else if isArray then
    match v with
    | .array es =>
      let longer := Value.array (es ++ [.table false []])
      .ok { o with root := setAt longer (o.place ++ [.name name]) o.root }
    | v => broken (.notExtensible v.fullKindName)
  else faulty (.tableExists name o.here.display)

/-- Goes to a name in a table. -/
def enterTable (o : Opening) (name : String) (isLast isArray isInline : Bool) (ms : Members) :
    ReadM Opening :=
  match Assoc.get? name ms with
  | some v => if isLast then o.reopen name isArray v else .ok o
  | none =>
    let o := o.put (.table isInline (Assoc.set name (made (isLast && isArray)) ms))
    .ok (if isLast then o else { o with implicit := o.implicit ++ [name] })

/-- Goes to a name in the last element of what is at the place reached. -/
def enterLast (o : Opening) (name : String) (isElement : Bool) : ReadM Opening := do
  let inside := { o with place := o.place ++ [.last] }
  match ← lastOf o.here with
  | .table isInline ms =>
    if (Assoc.get? name ms).isSome then return inside
    else return inside.put (.table isInline (Assoc.set name (made isElement) ms))
  | .string s => if textContains s name then broken .keyOfText else broken (.notAssignable "str")
  | .array _ => broken .keyOfArray
  | v => broken (.noMembers v.fullKindName)

/-- Goes on to the last element of an array or character of a text. -/
def toElement (o : Opening) : ReadM Opening := do
  match o.here with
  | .table _ _ => return o
  | v =>
    let _ ← lastOf v
    return { o with place := o.place ++ [.last] }

/-- Goes to a name of a header. -/
def enter (o : Opening) (name : String) (isLast isArray : Bool) : ReadM Opening := do
  if name = "" then faulty .emptyName
  let inside ←
    match o.here with
    | .table isInline ms => o.enterTable name isLast isArray isInline ms
    | _ => o.enterLast name (isLast && isArray)
  let there := { inside with place := inside.place ++ [.name name] }
  if isArray then there.toElement else return there

/-- Goes to the names of a header in order. -/
def enterAll (o : Opening) (isArray : Bool) : List String → ReadM Opening
  | [] => .ok o
  | name :: rest => do
    let o ← o.enter name rest.isEmpty isArray
    enterAll o isArray rest

end Opening

end SampleTypes.Toml
