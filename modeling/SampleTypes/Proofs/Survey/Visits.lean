/-
The visits of a walk as lists. `Visit.objects` lists the objects in a value, each before the objects
in it, and `Visit.containers` lists its objects and arrays, each after the containers in it. Both
name every value as the walk does.

`objects_eq` and `containers_eq` say so by the children of a visit, and `Visit.induction` proves by
them what holds of every visit.
-/
import SampleTypes.Survey

namespace SampleTypes

/-- A value and the name under which it is visited. -/
structure Visit where
  name : String
  value : Value

/-! ## The values in a value -/

namespace Value

mutual

/-- The objects in a value as records, each before the objects in it. -/
def objects (name : String) : Value → List (Record Value)
  | .object members => ⟨name, members⟩ :: memberObjects members
  | .array elements => elementObjects (pascalCase (singular name)) elements
  | _ => []

/-- The objects in elements that share a name. -/
def elementObjects (name : String) : List Value → List (Record Value)
  | [] => []
  | v :: rest => objects name v ++ elementObjects name rest

/-- The objects in members, each of which is named by its key. -/
def memberObjects : List (String × Value) → List (Record Value)
  | [] => []
  | (key, v) :: rest => objects (pascalCase key) v ++ memberObjects rest

end

mutual

/-- The objects and arrays in a value as declarations, each after those in it. -/
def containers (name : String) : Value → List (Declaration Value)
  | .object members => memberContainers members ++ [.record ⟨name, members⟩]
  | .array elements =>
    elementContainers (pascalCase (singular name)) elements ++ [.alias ⟨name, .array elements⟩]
  | _ => []

/-- The objects and arrays in elements that share a name. -/
def elementContainers (name : String) : List Value → List (Declaration Value)
  | [] => []
  | v :: rest => containers name v ++ elementContainers name rest

/-- The objects and arrays in members, each of which is named by its key. -/
def memberContainers : List (String × Value) → List (Declaration Value)
  | [] => []
  | (key, v) :: rest => containers (pascalCase key) v ++ memberContainers rest

end

end Value

/-! ## Visits and their children -/

namespace Visit

/-- The objects of a visit. -/
def objects (c : Visit) : List (Record Value) :=
  c.value.objects c.name

/-- The objects and arrays of a visit. -/
def containers (c : Visit) : List (Declaration Value) :=
  c.value.containers c.name

/-- A visit of a member, named by its key. -/
def ofMember (m : String × Value) : Visit :=
  ⟨pascalCase m.1, m.2⟩

/-- A visit of an element of the array that has the name. -/
def ofElement (arrayName : String) (v : Value) : Visit :=
  ⟨pascalCase (singular arrayName), v⟩

/-- The visits of the members of an object or the elements of an array. -/
def children : Visit → List Visit
  | ⟨_, .object members⟩ => members.map ofMember
  | ⟨name, .array elements⟩ => elements.map (ofElement name)
  | _ => []

/-- The record of an object. -/
def record? : Visit → Option (Record Value)
  | ⟨name, .object members⟩ => some ⟨name, members⟩
  | _ => none

/-- The declaration of an object or an array. -/
def declaration? : Visit → Option (Declaration Value)
  | ⟨name, .object members⟩ => some (.record ⟨name, members⟩)
  | ⟨name, .array elements⟩ => some (.alias ⟨name, .array elements⟩)
  | _ => none

theorem sizeOf_lt_of_mem_children {c d : Visit} (h : d ∈ c.children) :
    sizeOf d.value < sizeOf c.value := by
  obtain ⟨name, v⟩ := c
  cases v with
  | null | bool | int | float | string => simp [children] at h
  | array es =>
    obtain ⟨v, hv, rfl⟩ := List.mem_map.1 h
    have := List.sizeOf_lt_of_mem hv
    simp only [ofElement, Value.array.sizeOf_spec]
    omega
  | object ms =>
    obtain ⟨⟨key, v⟩, hm, rfl⟩ := List.mem_map.1 h
    have := List.sizeOf_lt_of_mem hm
    simp only [Prod.mk.sizeOf_spec] at this
    simp only [ofMember, Value.object.sizeOf_spec]
    omega

/-- What holds of a visit if it holds of its children holds of every visit. -/
@[elab_as_elim]
theorem induction {motive : Visit → Prop}
    (step : ∀ c, (∀ d ∈ c.children, motive d) → motive c) (c : Visit) : motive c :=
  step c fun d hd =>
    have := sizeOf_lt_of_mem_children hd
    induction step d
termination_by sizeOf c.value

/-! ## Lists of visits -/

theorem elementObjects_eq (name : String) (es : List Value) :
    Value.elementObjects (pascalCase (singular name)) es =
      (es.map (ofElement name)).flatMap objects := by
  induction es with
  | nil => rfl
  | cons v rest ih => simp [Value.elementObjects, ih, objects, ofElement]

theorem memberObjects_eq (ms : List (String × Value)) :
    Value.memberObjects ms = (ms.map ofMember).flatMap objects := by
  induction ms with
  | nil => rfl
  | cons m rest ih => simp [Value.memberObjects, ih, objects, ofMember]

theorem elementContainers_eq (name : String) (es : List Value) :
    Value.elementContainers (pascalCase (singular name)) es =
      (es.map (ofElement name)).flatMap containers := by
  induction es with
  | nil => rfl
  | cons v rest ih => simp [Value.elementContainers, ih, containers, ofElement]

theorem memberContainers_eq (ms : List (String × Value)) :
    Value.memberContainers ms = (ms.map ofMember).flatMap containers := by
  induction ms with
  | nil => rfl
  | cons m rest ih => simp [Value.memberContainers, ih, containers, ofMember]

/-- An object comes before the objects in it. -/
theorem objects_eq (c : Visit) :
    c.objects = c.record?.toList ++ c.children.flatMap objects := by
  obtain ⟨name, v⟩ := c
  cases v with
  | null | bool | int | float | string => rfl
  | array es => simpa [objects, Value.objects, record?, children] using elementObjects_eq name es
  | object ms => simpa [objects, Value.objects, record?, children] using memberObjects_eq ms

/-- A container comes after the containers in it. -/
theorem containers_eq (c : Visit) :
    c.containers = c.children.flatMap containers ++ c.declaration?.toList := by
  obtain ⟨name, v⟩ := c
  cases v with
  | null | bool | int | float | string => rfl
  | array es =>
    simpa [containers, Value.containers, declaration?, children] using elementContainers_eq name es
  | object ms =>
    simpa [containers, Value.containers, declaration?, children] using memberContainers_eq ms

/-! ## What is declared -/

/-- The visit of a declared value. -/
def ofDeclaration : Declaration Value → Visit
  | .record r => ⟨r.name, .object r.fields⟩
  | .alias a => ⟨a.name, a.element⟩

theorem eq_ofDeclaration {c : Visit} {d : Declaration Value} (h : c.declaration? = some d) :
    c = ofDeclaration d := by
  obtain ⟨name, v⟩ := c
  cases v with
  | null | bool | int | float | string => simp [declaration?] at h
  | array es | object ms =>
    simp only [declaration?, Option.some.injEq] at h
    subst h
    rfl

theorem mem_containers_self {c : Visit} {d : Declaration Value} (h : c.declaration? = some d) :
    d ∈ c.containers := by
  rw [containers_eq, h]
  simp

theorem mem_containers_of_mem_children {c e : Visit} {d : Declaration Value} (he : e ∈ c.children)
    (hd : d ∈ e.containers) : d ∈ c.containers := by
  rw [containers_eq]
  exact List.mem_append_left _ (List.mem_flatMap.2 ⟨e, he, hd⟩)

theorem declaration?_ofDeclaration {c : Visit} {d : Declaration Value} (h : d ∈ c.containers) :
    (ofDeclaration d).declaration? = some d := by
  induction c using Visit.induction with
  | step c ih =>
    rw [containers_eq, List.mem_append, List.mem_flatMap] at h
    rcases h with ⟨e, he, hd⟩ | hd
    · exact ih e he hd
    · rw [Option.mem_toList] at hd
      rwa [← eq_ofDeclaration hd]

/-- What is in a declared container is declared too. -/
theorem containers_subset {c : Visit} {d : Declaration Value} (h : d ∈ c.containers) :
    (ofDeclaration d).containers ⊆ c.containers := by
  induction c using Visit.induction with
  | step c ih =>
    intro x hx
    rw [containers_eq, List.mem_append, List.mem_flatMap] at h
    rcases h with ⟨e, he, hd⟩ | hd
    · exact mem_containers_of_mem_children he (ih e he hd hx)
    · rw [Option.mem_toList] at hd
      rwa [eq_ofDeclaration hd]

/-- What a child of a declared container declares is declared too. -/
theorem mem_containers_of_child {c e : Visit} {d x : Declaration Value} (hd : d ∈ c.containers)
    (he : e ∈ (ofDeclaration d).children) (hx : e.declaration? = some x) : x ∈ c.containers :=
  containers_subset hd (mem_containers_of_mem_children he (mem_containers_self hx))

theorem record_mem_containers {c : Visit} {r : Record Value} :
    .record r ∈ c.containers ↔ r ∈ c.objects := by
  induction c using Visit.induction with
  | step c ih =>
    rw [containers_eq, objects_eq, List.mem_append, List.mem_append, or_comm]
    refine or_congr ?_ ?_
    · obtain ⟨name, v⟩ := c
      cases v <;> simp [declaration?, record?]
    · simp only [List.mem_flatMap]
      exact exists_congr fun e => and_congr_right fun he => ih e he

/-! ## Documents -/

/-- The visits with which the walk of a document starts. -/
def roots (rootName : String) (declareRoot : Bool) (document : Value) : List Visit :=
  if declareRoot then [⟨rootName, document⟩]
  else
    match document with
    | .object members => members.map ofMember
    | _ => []

end Visit

end SampleTypes
