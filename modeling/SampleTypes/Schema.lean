/-
The schema of a survey: one declaration for every name, the first one discovered, with the types of
its payloads, and what was found on the way: shapes with several names, declarations dropped in
favour of an earlier one, and types that need to be corrected by hand.
-/
import SampleTypes.Diagnostic
import SampleTypes.Survey
import SampleTypes.Value.Display

namespace SampleTypes

namespace Schema

/-! ## Findings -/

/-- What is worth telling about a schema. -/
inductive Finding where
  /-- A shape was declared under several names; its objects have the type `winner`. -/
  | sharedShape (shape : Shape) (names : List String) (winner : String)
  /-- A declaration was dropped, since another one of its name was discovered before; both are
  described. -/
  | collision (dropped kept : String)
  /-- The type of an alias is not known. -/
  | unresolvedAlias (name : String) (type : FieldType)
  /-- The type of a field is not known. -/
  | unresolvedField (record field : String) (type : FieldType)

/-- The level of a finding. -/
def Finding.level : Finding → Diagnostic.Level
  | .sharedShape .. => .info
  | _ => .warning

/-- The words for a finding. -/
def Finding.message : Finding → String
  | .sharedShape shape names winner =>
    "Shape (" ++ Declaration.listNames shape.keys ++ ") declared as " ++ Text.join ", " names ++
      "; nested values of this shape resolve to " ++ Text.quoted winner
  | .collision dropped kept =>
    "Name collision: " ++ dropped ++ " dropped in favor of " ++ kept
  | .unresolvedAlias name type =>
    "Unresolved element type for alias " ++ Text.quoted name ++ ": " ++ type.describe ++
      " needs manual correction"
  | .unresolvedField record field type =>
    "Unresolved type for field " ++ record ++ "." ++ field ++ ": " ++ type.describe ++
      " needs manual correction"

/-- The finding as it is reported. -/
def Finding.diagnostic (f : Finding) : Diagnostic :=
  ⟨f.level, f.message⟩

/-- A dropped declaration. -/
def Finding.isCollision : Finding → Bool
  | .collision .. => true
  | _ => false

end Schema

/-- Declarations with distinct names, and the findings in the order in which they were made. -/
structure Schema where
  declarations : List (Declaration FieldType)
  findings : List Schema.Finding

namespace Schema

/-! ## Errors -/

/-- Why a survey has no schema. -/
inductive Error where
  /-- A shape has several names and was never entered. -/
  | shapeNotEntered (shape : Shape)
  /-- The value of an alias that has to be described has no extent. -/
  | uncountable (element : Value)
  deriving DecidableEq

/-- The words for an error. -/
def Error.message : Error → String
  | .shapeNotEntered shape => "no record of the shape (" ++ Declaration.listNames shape.keys ++ ")"
  | .uncountable element => "object of type '" ++ element.kindName ++ "' has no len()"

/-! ## One declaration for every name -/

/-- The first declaration of every name, after those already kept. -/
def keepFirst (kept : List (Declaration Value)) :
    List (Declaration Value) → List (Declaration Value)
  | [] => kept
  | d :: rest =>
    if kept.any (fun k => k.name == d.name) then keepFirst kept rest
    else keepFirst (kept ++ [d]) rest

/-- The finding that one declaration is dropped for another one of its name. -/
def collision (dropped kept : Declaration Value) : Except Error Finding := do
  let droppedText ← dropped.describe.mapError .uncountable
  let keptText ← kept.describe.mapError .uncountable
  return .collision droppedText keptText

/-- A finding for every declaration that is dropped for a different one of its name. -/
def collisions (kept : List (Declaration Value)) :
    List (Declaration Value) → Except Error (List Finding)
  | [] => .ok []
  | d :: rest =>
    match kept.find? (fun k => k.name == d.name) with
    | none => collisions (kept ++ [d]) rest
    | some first =>
      if first.identity = d.identity then collisions kept rest
      else do
        let found ← collision d first
        let more ← collisions kept rest
        return found :: more

/-! ## Types -/

/-- A declaration with the types of its payloads. -/
def typed (s : Survey) (policy : Survey.ElementPolicy) :
    Declaration Value → Declaration FieldType
  | .record r => .record ⟨r.name, r.fields.map (fun (key, v) => (key, s.typeOf policy v))⟩
  | .alias a => .alias ⟨a.name, s.typeOf policy a.element⟩

/-- A finding for every type in a declaration that is not known. -/
def unresolved : Declaration FieldType → List Finding
  | .alias a => if a.element.isUnresolved then [.unresolvedAlias a.name a.element] else []
  | .record r =>
    r.fields.flatMap (fun (key, type) =>
      if type.isUnresolved then [.unresolvedField r.name key type] else [])

/-! ## Shapes with several names -/

/-- The findings about one shape and the names of its records. -/
def sharedShape (s : Survey) (shape : Shape) (names : List String) : Except Error (List Finding) :=
  if 1 < names.length then
    match s.byShape.get? shape with
    | some r => .ok [.sharedShape shape names r.name]
    | none => .error (.shapeNotEntered shape)
  else .ok []

/-- The findings about all shapes, in the order of their discovery. -/
def sharedShapes (s : Survey) : Assoc Shape (List String) → Except Error (List Finding)
  | [] => .ok []
  | (shape, names) :: rest => do
    let found ← sharedShape s shape names
    let more ← sharedShapes s rest
    return found ++ more

/-! ## The schema -/

/-- The schema of a survey. -/
def ofSurvey (s : Survey) (policy : Survey.ElementPolicy) : Except Error Schema := do
  let shared ← sharedShapes s s.namesByShape
  let dropped ← collisions [] s.discovered
  let declarations := (keepFirst [] s.discovered).map (typed s policy)
  return {
    declarations := declarations
    findings := shared ++ dropped ++ declarations.flatMap unresolved }

/-- The records in order. -/
def records (s : Schema) : List (Record FieldType) :=
  s.declarations.filterMap Declaration.record?

/-- The names of the records in order. -/
def recordNames (s : Schema) : List String :=
  s.records.map Record.name

/-- The declaration of a name. -/
def get? (s : Schema) (name : String) : Option (Declaration FieldType) :=
  s.declarations.find? (fun d => d.name == name)

/-- The findings as they are reported. -/
def diagnostics (s : Schema) : List Diagnostic :=
  s.findings.map Finding.diagnostic

end Schema

end SampleTypes
