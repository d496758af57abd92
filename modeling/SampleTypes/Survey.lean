/-
What a walk through a document finds. A survey keeps the latest record of every shape, by which
objects get their types, and the distinct declarations in the order in which they were completed.

`visit` walks a value under a name. An object is entered under its shape before its members are
visited and declared after them; an array is declared after its elements. So nested declarations
come before the ones that contain them.
-/
import SampleTypes.Declaration
import SampleTypes.FieldType
import SampleTypes.Naming

namespace SampleTypes

/-- What was found so far. -/
structure Survey where
  /-- The latest record of every shape, in the order in which the shapes were first entered. -/
  byShape : Assoc Shape (Record Value) := []
  /-- The distinct declarations in the order in which they were completed. -/
  discovered : List (Declaration Value) := []
  /-- The identities of the discovered declarations. -/
  identities : List Declaration.Identity := []

namespace Survey

/-- A survey of nothing. -/
def empty : Survey := {}

/-! ## Single steps -/

/-- Makes a record the latest one of its shape. -/
def enter (s : Survey) (r : Record Value) : Survey :=
  { s with byShape := s.byShape.set r.shape r }

/-- A declaration with this identity was discovered. -/
def has (s : Survey) (d : Declaration Value) : Bool :=
  d.identity ∈ s.identities

/-- Adds a declaration at the end, unless one with its identity was discovered. The answer is whether
it was added. -/
def add (s : Survey) (d : Declaration Value) : Bool × Survey :=
  if s.has d then (false, s)
  else
    (true, { s with
      discovered := s.discovered ++ [d]
      identities := d.identity :: s.identities })

/-- Adds a declaration, if it is new. -/
def declare (s : Survey) (d : Declaration Value) : Survey :=
  (s.add d).2

theorem declare_of_has {s : Survey} {d : Declaration Value} (h : s.has d = true) :
    s.declare d = s := by
  rw [declare, add, if_pos h]

theorem declare_of_not_has {s : Survey} {d : Declaration Value} (h : ¬ s.has d = true) :
    s.declare d = { s with
      discovered := s.discovered ++ [d]
      identities := d.identity :: s.identities } := by
  rw [declare, add, if_neg h]

/-- The latest record with the shape of an object. -/
def lookup? (s : Survey) (members : List (String × Value)) : Option (Record Value) :=
  s.byShape.get? (Shape.ofMembers members)

/-- Adds a name at the end, unless it is there. -/
def addName (name : String) (names : List String) : List String :=
  if name ∈ names then names else names ++ [name]

/-- The distinct record names of every shape, in the order of discovery. -/
def namesByShape (s : Survey) : Assoc Shape (List String) :=
  (s.discovered.filterMap Declaration.record?).foldl
    (fun names r => names.set r.shape (addName r.name ((names.get? r.shape).getD []))) []

/-! ## The walk -/

/-- The name under which the elements of an array are visited. -/
def elementName (name : String) : String :=
  pascalCase (singular name)

mutual

/-- Walks a value under a name. -/
def visit (s : Survey) (name : String) : Value → Survey
  | .object members =>
    (visitMembers (s.enter ⟨name, members⟩) members).declare (.record ⟨name, members⟩)
  | .array elements =>
    (visitElements s (elementName name) elements).declare (.alias ⟨name, .array elements⟩)
  | _ => s

/-- Walks elements in order, all under one name. -/
def visitElements (s : Survey) (name : String) : List Value → Survey
  | [] => s
  | v :: rest => visitElements (visit s name v) name rest

/-- Walks members in order, each under the name made from its key. -/
def visitMembers (s : Survey) : List (String × Value) → Survey
  | [] => s
  | (key, v) :: rest => visitMembers (visit s (pascalCase key) v) rest

end

/--
Walks a document. Without `declareRoot` only the members of a top-level object are walked.
-/
def visitDocument (s : Survey) (rootName : String) (declareRoot : Bool) (document : Value) :
    Survey :=
  if declareRoot then s.visit rootName document
  else
    match document with
    | .object members => s.visitMembers members
    | _ => s

/-- The survey of one document. -/
def ofDocument (rootName : String) (declareRoot : Bool) (document : Value) : Survey :=
  empty.visitDocument rootName declareRoot document

/-! ## Types of values -/

/-- Which elements decide the type of a sequence: the first of these kinds does. -/
inductive ElementPolicy where
  /-- Objects of a known shape. -/
  | objects
  /-- Objects of a known shape, and scalars other than null. -/
  | objectsAndScalars
  deriving DecidableEq, Repr

/-- The type of an object: the latest record of its shape. -/
def objectType? (s : Survey) (members : List (String × Value)) : Option FieldType :=
  (s.lookup? members).map (fun r => .record r.name)

/-- The type of a value that is no object and no array. -/
def scalarType? : Value → Option FieldType
  | .null => some .null
  | .bool _ => some .bool
  | .int _ | .float _ => some .number
  | .string s => some (.text (some s))
  | .array _ | .object _ => none

/-- The type that an element gives to its sequence, if the policy lets it decide. -/
def decidingType? (s : Survey) (policy : ElementPolicy) : Value → Option FieldType
  | .object members => s.objectType? members
  | .array _ | .null => none
  | v =>
    match policy with
    | .objects => none
    | .objectsAndScalars => scalarType? v

/-- The type of a sequence: that of its first element that decides, else unknown. -/
def sequenceType (s : Survey) (policy : ElementPolicy) (elements : List Value) : FieldType :=
  .sequence ((elements.findSome? (s.decidingType? policy)).getD .unknown)

/-- The type of a value. -/
def typeOf (s : Survey) (policy : ElementPolicy) : Value → FieldType
  | .object members => (s.objectType? members).getD .unknown
  | .array elements => s.sequenceType policy elements
  | v => (scalarType? v).getD .unknown

end Survey

end SampleTypes
