/-
The types of a schema. A survey takes part in them only by the name it has for each shape:
`typed_eq_map` says that typing a declaration is to type its payloads by these names, and
`nameOf?_visitAll` that the name of a shape is that of its last object.
-/
import SampleTypes.Proofs.Survey.Walk
import SampleTypes.Schema

namespace SampleTypes

/-! ## Payloads -/

namespace Record

variable {α β γ : Type}

/-- The record with the payloads of its fields changed. -/
def map (f : α → β) (r : Record α) : Record β :=
  ⟨r.name, r.fields.map (fun (key, v) => (key, f v))⟩

@[simp] theorem name_map (f : α → β) (r : Record α) : (r.map f).name = r.name := rfl

@[simp] theorem fieldNames_map (f : α → β) (r : Record α) : (r.map f).fieldNames = r.fieldNames := by
  simp [map, fieldNames, Function.comp_def]

@[simp] theorem shape_map (f : α → β) (r : Record α) : (r.map f).shape = r.shape := by
  have h := fieldNames_map f r
  simp only [fieldNames] at h
  rw [shape, shape, Shape.ofMembers, Shape.ofMembers, h]

theorem map_map (g : β → γ) (f : α → β) (r : Record α) :
    (r.map f).map g = r.map (fun v => g (f v)) := by
  simp [map]

end Record

namespace Declaration

variable {α β γ : Type}

/-- The declaration with its payloads changed. -/
def map (f : α → β) : Declaration α → Declaration β
  | .record r => .record (r.map f)
  | .alias a => .alias ⟨a.name, f a.element⟩

/-- The payloads of the fields in order, or that of an alias. -/
def payloads : Declaration α → List α
  | .record r => r.fields.map Prod.snd
  | .alias a => [a.element]

@[simp] theorem name_map (f : α → β) (d : Declaration α) : (d.map f).name = d.name := by
  cases d <;> rfl

@[simp] theorem payloads_map (f : α → β) (d : Declaration α) :
    (d.map f).payloads = d.payloads.map f := by
  cases d with
  | record r => simp [map, Record.map, payloads]
  | «alias» a => rfl

theorem map_map (g : β → γ) (f : α → β) (d : Declaration α) :
    (d.map f).map g = d.map (fun v => g (f v)) := by
  cases d with
  | record r => rw [map, map, map, Record.map_map]
  | «alias» a => rfl

end Declaration

/-! ## Types by the names of shapes -/

namespace FieldType

/-- What an element gives to its sequence: an object the record of its shape, and a scalar that is
not null its own type, if the policy lets scalars decide. -/
def ofElement? (nameOf : Shape → Option String) (policy : Survey.ElementPolicy) :
    Value → Option FieldType
  | .object members => (nameOf (Shape.ofMembers members)).map .record
  | .array _ | .null => none
  | v => if policy = .objectsAndScalars then Survey.scalarType? v else none

/-- The type of a value: of an object the record of its shape, of an array a sequence of what its
first deciding element gives, and of a scalar its own. -/
def ofValue (nameOf : Shape → Option String) (policy : Survey.ElementPolicy) : Value → FieldType
  | .object members => ((nameOf (Shape.ofMembers members)).map .record).getD .unknown
  | .array elements => .sequence ((elements.findSome? (ofElement? nameOf policy)).getD .unknown)
  | v => (Survey.scalarType? v).getD .unknown

end FieldType

namespace Survey

/-- The name of the record of a shape. -/
def nameOf? (s : Survey) (shape : Shape) : Option String :=
  (s.byShape.get? shape).map Record.name

/-- The name of the last of some records that has a shape. -/
def lastName (rs : List (Record Value)) (shape : Shape) : Option String :=
  (rs.reverse.find? (fun r => r.shape == shape)).map Record.name

theorem objectType?_eq (s : Survey) (ms : List (String × Value)) :
    s.objectType? ms = (s.nameOf? (Shape.ofMembers ms)).map .record := by
  simp only [objectType?, lookup?, nameOf?, Option.map_map]
  rfl

theorem decidingType?_eq (s : Survey) (policy : ElementPolicy) :
    s.decidingType? policy = FieldType.ofElement? s.nameOf? policy := by
  funext v
  cases v with
  | null | array => rfl
  | bool | int | float | string => cases policy <;> rfl
  | object ms => exact s.objectType?_eq ms

theorem typeOf_eq (s : Survey) (policy : ElementPolicy) :
    s.typeOf policy = FieldType.ofValue s.nameOf? policy := by
  funext v
  cases v with
  | null | bool | int | float | string => rfl
  | array es => rw [typeOf, sequenceType, decidingType?_eq, FieldType.ofValue]
  | object ms => rw [typeOf, objectType?_eq, FieldType.ofValue]

theorem nameOf?_visitAll (vs : List Visit) :
    (empty.visitAll vs).nameOf? = lastName (vs.flatMap Visit.objects) := by
  funext shape
  rw [nameOf?, get?_byShape_visitAll, lastName]

/-- After a walk, a value is typed by the last objects of their shapes. -/
theorem typeOf_visitAll (policy : ElementPolicy) (vs : List Visit) :
    (empty.visitAll vs).typeOf policy =
      FieldType.ofValue (lastName (vs.flatMap Visit.objects)) policy := by
  rw [typeOf_eq, nameOf?_visitAll]

/-- A name by which the last record of a shape goes is that of some record of the shape. -/
theorem mem_of_lastName_eq_some {rs : List (Record Value)} {shape : Shape} {name : String}
    (h : lastName rs shape = some name) : ∃ r ∈ rs, r.shape = shape ∧ r.name = name := by
  obtain ⟨r, hr, hn⟩ := Option.map_eq_some_iff.1 h
  refine ⟨r, List.mem_reverse.1 (List.mem_of_find?_eq_some hr), ?_, hn⟩
  simpa using List.find?_some hr

/-- A shape that some record has goes by a name. -/
theorem exists_lastName_eq_some {rs : List (Record Value)} {r : Record Value} (h : r ∈ rs) :
    ∃ name, lastName rs r.shape = some name := by
  have hr : (rs.reverse.find? (fun r' => r'.shape == r.shape)).isSome := by
    rw [List.find?_isSome]
    exact ⟨r, List.mem_reverse.2 h, by simp⟩
  obtain ⟨r', hr'⟩ := Option.isSome_iff_exists.1 hr
  exact ⟨r'.name, by rw [lastName, hr']; rfl⟩

end Survey

theorem Schema.typed_eq_map (s : Survey) (policy : Survey.ElementPolicy) :
    Schema.typed s policy = Declaration.map (FieldType.ofValue s.nameOf? policy) := by
  funext d
  cases d <;> simp [Schema.typed, Declaration.map, Record.map, Survey.typeOf_eq]

end SampleTypes
