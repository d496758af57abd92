/-
The skeleton of a document, in which every scalar is the plainest of its kind. A walk of the
skeleton finds the skeletons of what a walk of the document finds: `Visit.objects_skeleton` and
`Visit.containers_skeleton`.
-/
import SampleTypes.Proofs.Schema.Findings

namespace SampleTypes

/-! ## Skeletons -/

namespace Value

mutual

/-- The value with every scalar made the plainest of its kind. All numbers are of one kind. -/
def skeleton : Value → Value
  | .null => .null
  | .bool _ => .bool false
  | .int _ | .float _ => .int 0
  | .string _ => .string ""
  | .array es => .array (elementSkeletons es)
  | .object ms => .object (memberSkeletons ms)

/-- The skeleton of every element. -/
def elementSkeletons : List Value → List Value
  | [] => []
  | v :: rest => skeleton v :: elementSkeletons rest

/-- The skeleton of the value of every member. -/
def memberSkeletons : List (String × Value) → List (String × Value)
  | [] => []
  | (key, v) :: rest => (key, skeleton v) :: memberSkeletons rest

end

theorem elementSkeletons_eq (es : List Value) : elementSkeletons es = es.map skeleton := by
  induction es with
  | nil => rfl
  | cons v rest ih => rw [elementSkeletons, ih, List.map_cons]

theorem memberSkeletons_eq (ms : List (String × Value)) :
    memberSkeletons ms = ms.map (fun (key, v) => (key, skeleton v)) := by
  induction ms with
  | nil => rfl
  | cons m rest ih => rw [memberSkeletons, ih, List.map_cons]

end Value

theorem Shape.ofMembers_memberSkeletons (ms : List (String × Value)) :
    Shape.ofMembers (Value.memberSkeletons ms) = Shape.ofMembers ms := by
  rw [Value.memberSkeletons_eq]
  exact Record.shape_map Value.skeleton ⟨"", ms⟩

/-- The record with the skeletons of its values. -/
def Record.skeleton (r : Record Value) : Record Value :=
  r.map Value.skeleton

@[simp] theorem Record.shape_skeleton (r : Record Value) : r.skeleton.shape = r.shape :=
  r.shape_map Value.skeleton

namespace Declaration

/-- The declaration with the skeletons of its values. -/
def skeleton (d : Declaration Value) : Declaration Value :=
  d.map Value.skeleton

@[simp] theorem name_skeleton (d : Declaration Value) : d.skeleton.name = d.name :=
  d.name_map _

theorem record?_skeleton (d : Declaration Value) :
    d.skeleton.record? = d.record?.map Record.skeleton := by
  cases d <;> rfl

/-- The extent of what a walk declares is that of its skeleton. -/
theorem summary_skeleton {c : Visit} {d : Declaration Value} (h : c.declaration? = some d) :
    d.skeleton.summary = d.summary := by
  obtain ⟨name, v⟩ := c
  cases v with
  | null | bool | int | float | string => simp [Visit.declaration?] at h
  | array es =>
    simp only [Visit.declaration?, Option.some.injEq] at h
    subst h
    simp [skeleton, map, summary, describe, countOf?, Value.skeleton, Value.elementSkeletons_eq]
  | object ms =>
    simp only [Visit.declaration?, Option.some.injEq] at h
    subst h
    simp only [skeleton, map, summary, describe, Record.name_map, Record.fieldNames_map]

end Declaration

/-! ## Walks of skeletons -/

namespace Visit

/-- The visit of the skeleton. -/
def skeleton (c : Visit) : Visit :=
  ⟨c.name, c.value.skeleton⟩

theorem children_skeleton (c : Visit) : c.skeleton.children = c.children.map skeleton := by
  obtain ⟨name, v⟩ := c
  cases v with
  | null | bool | int | float | string => rfl
  | array es =>
    simp only [skeleton, Value.skeleton, Value.elementSkeletons_eq, children, List.map_map]
    rfl
  | object ms =>
    simp only [skeleton, Value.skeleton, Value.memberSkeletons_eq, children, List.map_map]
    rfl

theorem record?_skeleton (c : Visit) : c.skeleton.record? = c.record?.map Record.skeleton := by
  obtain ⟨name, v⟩ := c
  cases v with
  | null | bool | int | float | string | array => rfl
  | object ms =>
    simp [skeleton, Value.skeleton, Value.memberSkeletons_eq, record?, Record.skeleton, Record.map]

theorem declaration?_skeleton (c : Visit) :
    c.skeleton.declaration? = c.declaration?.map Declaration.skeleton := by
  obtain ⟨name, v⟩ := c
  cases v with
  | null | bool | int | float | string | array => rfl
  | object ms =>
    simp [skeleton, Value.skeleton, Value.memberSkeletons_eq, declaration?, Declaration.skeleton,
      Declaration.map, Record.map]

theorem objects_skeleton (c : Visit) : c.skeleton.objects = c.objects.map Record.skeleton := by
  induction c using Visit.induction with
  | step c ih =>
    rw [objects_eq, objects_eq, record?_skeleton, children_skeleton, List.map_append,
      List.flatMap_map, List.map_flatMap, List.flatMap_congr ih]
    cases c.record? <;> rfl

theorem containers_skeleton (c : Visit) :
    c.skeleton.containers = c.containers.map Declaration.skeleton := by
  induction c using Visit.induction with
  | step c ih =>
    rw [containers_eq, containers_eq, declaration?_skeleton, children_skeleton, List.map_append,
      List.flatMap_map, List.map_flatMap, List.flatMap_congr ih]
    cases c.declaration? <;> rfl

theorem roots_skeleton (rootName : String) (declareRoot : Bool) (document : Value) :
    roots rootName declareRoot document.skeleton =
      (roots rootName declareRoot document).map skeleton := by
  cases declareRoot with
  | true => rfl
  | false =>
    cases document with
    | null | bool | int | float | string | array => rfl
    | object ms => exact children_skeleton ⟨rootName, .object ms⟩

end Visit

end SampleTypes
