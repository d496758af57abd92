/-
The declaration of a top-level object. It is completed last, so declaring it changes nothing of the
declarations of what is in it: the shapes that show in their types are those of objects in it
(`map_ofValue_nested`). And of two declarations of a name the first is kept, so the top-level object
is declared exactly if nothing in it has its name (`declarationsOf_root`).
-/
import SampleTypes.Proofs.Schema.Pipeline

namespace SampleTypes

/-! ## Objects that show in a type -/

/-- The object is the value, or an element of it: its shape can show in the type of the value. -/
inductive Value.Exposes : Value → List (String × Value) → Prop
  | self : Exposes (.object ms) ms
  | element (h : .object ms ∈ es) : Exposes (.array es) ms

namespace FieldType

variable {nameOf nameOf' : Shape → Option String} {policy : Survey.ElementPolicy}

theorem findSome?_ofElement?_congr {es : List Value}
    (h : ∀ ms, .object ms ∈ es → nameOf (Shape.ofMembers ms) = nameOf' (Shape.ofMembers ms)) :
    es.findSome? (ofElement? nameOf policy) = es.findSome? (ofElement? nameOf' policy) := by
  induction es with
  | nil => rfl
  | cons v rest ih =>
    have hv : ofElement? nameOf policy v = ofElement? nameOf' policy v := by
      cases v with
      | null | bool | int | float | string | array => rfl
      | object ms => rw [ofElement?, ofElement?, h ms List.mem_cons_self]
    rw [List.findSome?_cons, List.findSome?_cons, hv,
      ih fun ms hms => h ms (List.mem_cons_of_mem _ hms)]

/-- A type depends on the names of the exposed objects' shapes only. -/
theorem ofValue_congr {v : Value}
    (h : ∀ ms, v.Exposes ms → nameOf (Shape.ofMembers ms) = nameOf' (Shape.ofMembers ms)) :
    ofValue nameOf policy v = ofValue nameOf' policy v := by
  cases v with
  | null | bool | int | float | string => rfl
  | array es =>
    rw [ofValue, ofValue, findSome?_ofElement?_congr fun ms hms => h ms (.element hms)]
  | object ms => rw [ofValue, ofValue, h ms .self]

end FieldType

theorem Declaration.map_congr {α β : Type} {f g : α → β} {d : Declaration α}
    (h : ∀ v ∈ d.payloads, f v = g v) : d.map f = d.map g := by
  cases d with
  | «alias» a => rw [map, map, h a.element (by simp [payloads])]
  | record r =>
    have hfields : ∀ p ∈ r.fields, (p.1, f p.2) = (p.1, g p.2) := fun p hp => by
      rw [h p.2 (List.mem_map_of_mem hp)]
    rw [map, map, Record.map, Record.map, List.map_congr_left hfields]

/-! ## Objects in payloads -/

namespace Visit

theorem exists_mem_objects_of_exposes {v : Value} {ms : List (String × Value)} (h : v.Exposes ms)
    (name : String) : ∃ n, ⟨n, ms⟩ ∈ (⟨name, v⟩ : Visit).objects := by
  cases h with
  | self => exact ⟨name, by rw [objects_eq]; simp [record?]⟩
  | @element ms es h =>
    refine ⟨pascalCase (singular name), ?_⟩
    rw [objects_eq, children]
    refine List.mem_append_right _ (List.mem_flatMap.2 ⟨_, List.mem_map_of_mem h, ?_⟩)
    rw [objects_eq]
    simp [ofElement, record?]

theorem objects_subset {c : Visit} {d : Declaration Value} (h : d ∈ c.containers) :
    (ofDeclaration d).objects ⊆ c.objects := by
  intro r hr
  rw [← record_mem_containers] at hr ⊢
  exact containers_subset h hr

/-- An object that a payload of a declared container exposes is visited. -/
theorem exists_mem_objects_of_payload {c : Visit} {d : Declaration Value} (hd : d ∈ c.containers)
    {v : Value} (hv : v ∈ d.payloads) {ms : List (String × Value)} (h : v.Exposes ms) :
    ∃ n, ⟨n, ms⟩ ∈ c.objects := by
  cases d with
  | «alias» a =>
    obtain rfl := List.mem_singleton.1 hv
    obtain ⟨n, hn⟩ := exists_mem_objects_of_exposes h a.name
    exact ⟨n, objects_subset hd hn⟩
  | record r =>
    obtain ⟨m, hm, rfl⟩ := List.mem_map.1 hv
    obtain ⟨n, hn⟩ := exists_mem_objects_of_exposes h (pascalCase m.1)
    have hchild : ofMember m ∈ (ofDeclaration (.record r)).children := List.mem_map_of_mem hm
    refine ⟨n, objects_subset hd ?_⟩
    rw [objects_eq]
    exact List.mem_append_right _ (List.mem_flatMap.2 ⟨_, hchild, hn⟩)

end Visit

/-! ## One more object in front -/

/-- The name of a shape that some record has does not depend on the records before. -/
theorem Survey.lastName_append_of_mem {rs : List (Record Value)} {r : Record Value} (h : r ∈ rs)
    (before : List (Record Value)) :
    lastName (before ++ rs) r.shape = lastName rs r.shape := by
  obtain ⟨name, hname⟩ := exists_lastName_eq_some h
  obtain ⟨r', hr', -⟩ := Option.map_eq_some_iff.1 hname
  rw [lastName, lastName, List.reverse_append, List.find?_append, hr', Option.some_or]

namespace Schema

variable (policy : Survey.ElementPolicy) (rootName : String) (members : List (String × Value))

/-- The types in a nested declaration are not changed by objects that are entered before. -/
theorem map_ofValue_nested {vs : List Visit} {d : Declaration Value}
    (hd : d ∈ vs.flatMap Visit.containers) (before : List (Record Value)) :
    d.map (FieldType.ofValue (Survey.lastName (before ++ vs.flatMap Visit.objects)) policy) =
      d.map (FieldType.ofValue (Survey.lastName (vs.flatMap Visit.objects)) policy) := by
  refine Declaration.map_congr fun v hv => FieldType.ofValue_congr fun ms hms => ?_
  obtain ⟨c, hc, hdc⟩ := List.mem_flatMap.1 hd
  obtain ⟨n, hn⟩ := Visit.exists_mem_objects_of_payload hdc hv hms
  exact Survey.lastName_append_of_mem (List.mem_flatMap.2 ⟨c, hc, hn⟩) before

/-- Objects that are entered before do not change what is declared. -/
theorem declarationsOf_eq_of_before (vs : List Visit) (before : List (Record Value)) :
    (firsts Declaration.name (vs.flatMap Visit.containers)).map (Declaration.map
      (FieldType.ofValue (Survey.lastName (before ++ vs.flatMap Visit.objects)) policy)) =
      declarationsOf policy vs :=
  List.map_congr_left fun _ hd =>
    map_ofValue_nested policy ((firsts_sublist _ _).subset hd) before

/-! ## The top-level object -/

theorem containers_root :
    [(⟨rootName, .object members⟩ : Visit)].flatMap Visit.containers =
      (members.map Visit.ofMember).flatMap Visit.containers ++ [.record ⟨rootName, members⟩] := by
  rw [List.flatMap_singleton, Visit.containers_eq]
  rfl

theorem objects_root :
    [(⟨rootName, .object members⟩ : Visit)].flatMap Visit.objects =
      [⟨rootName, members⟩] ++ (members.map Visit.ofMember).flatMap Visit.objects := by
  rw [List.flatMap_singleton, Visit.objects_eq]
  rfl

/-- The declaration of the top-level object, typed by the walk that declares it. -/
def rootDeclaration : Declaration FieldType :=
  typed (Survey.ofDocument rootName true (.object members)) policy (.record ⟨rootName, members⟩)

theorem typed_ofDocument (declareRoot : Bool) (document : Value) :
    typed (Survey.ofDocument rootName declareRoot document) policy =
      Declaration.map (FieldType.ofValue
        (Survey.lastName ((Visit.roots rootName declareRoot document).flatMap Visit.objects))
        policy) := by
  rw [typed_eq_map, Survey.ofDocument_eq, Survey.nameOf?_visitAll]

/-- Declaring the top-level object adds it at the end, unless its name is taken. -/
theorem declarationsOf_root :
    declarationsOf policy [⟨rootName, .object members⟩] =
      declarationsOf policy (members.map Visit.ofMember) ++
        if rootName ∈ (declarationsOf policy (members.map Visit.ofMember)).map Declaration.name
        then [] else [rootDeclaration policy rootName members] := by
  have hroot : rootDeclaration policy rootName members =
      (Declaration.record ⟨rootName, members⟩).map (FieldType.ofValue (Survey.lastName
        ([⟨rootName, members⟩] ++ (members.map Visit.ofMember).flatMap Visit.objects)) policy) := by
    rw [rootDeclaration, typed_ofDocument, ← objects_root]
    rfl
  have hname : (Declaration.record (⟨rootName, members⟩ : Record Value)).name = rootName := rfl
  rw [hroot, declarationsOf, containers_root, objects_root, firsts_append_singleton, hname]
  by_cases h : rootName ∈
      ((members.map Visit.ofMember).flatMap Visit.containers).map Declaration.name
  · rw [if_pos h, if_pos (mem_names_declarationsOf.2 h), List.append_nil,
      declarationsOf_eq_of_before]
  · rw [if_neg h, if_neg (fun hmem => h (mem_names_declarationsOf.1 hmem)), List.map_append,
      declarationsOf_eq_of_before, List.map_singleton]

/-- **Declaring the top-level object does not disturb the rest.** The declarations are those that
there are without it, followed by its record exactly if none of them has its name. -/
theorem declarations_declareRoot :
    ∃ bare full,
      ofSurvey (Survey.ofDocument rootName false (.object members)) policy = .ok bare ∧
      ofSurvey (Survey.ofDocument rootName true (.object members)) policy = .ok full ∧
      full.declarations = bare.declarations ++
        if rootName ∈ bare.declarations.map Declaration.name then []
        else [rootDeclaration policy rootName members] := by
  rw [Survey.ofDocument_eq, Survey.ofDocument_eq]
  exact ⟨_, _, ofSurvey_visitAll policy _, ofSurvey_visitAll policy _,
    declarationsOf_root policy rootName members⟩

/-! ## Where it is declared -/

/-- What is declared under a name is the first container of that name. -/
theorem get?_ofVisits (vs : List Visit) (name : String) :
    (ofVisits policy vs).get? name =
      ((vs.flatMap Visit.containers).find? (fun d => d.name == name)).map
        (Declaration.map
          (FieldType.ofValue (Survey.lastName (vs.flatMap Visit.objects)) policy)) := by
  simp only [get?, ofVisits, declarationsOf, List.find?_map, Function.comp_def,
    Declaration.name_map]
  rw [find?_firsts fun _ _ h => h]

/-- **The top-level object is declared last, unless a container in it has its name**; then the first
one of these, in the order in which they are completed, is what the name declares. -/
theorem topLevel_declared_last :
    ∃ schema,
      ofSurvey (Survey.ofDocument rootName true (.object members)) policy = .ok schema ∧
      ((∀ d ∈ Value.memberContainers members, d.name ≠ rootName) →
        schema.declarations.getLast? = some (.record ⟨rootName, members.map fun (key, v) =>
          (key, (Survey.ofDocument rootName true (.object members)).typeOf policy v)⟩)) ∧
      ∀ first, (Value.memberContainers members).find? (fun d => d.name == rootName) = some first →
        schema.get? rootName =
          some (typed (Survey.ofDocument rootName true (.object members)) policy first) := by
  refine ⟨ofVisits policy [⟨rootName, .object members⟩], ?_, fun h => ?_, fun first h => ?_⟩
  · rw [Survey.ofDocument_eq]
    exact ofSurvey_visitAll policy _
  · have hfree : rootName ∉
        (declarationsOf policy (members.map Visit.ofMember)).map Declaration.name := by
      rw [mem_names_declarationsOf, ← Visit.memberContainers_eq]
      intro hmem
      obtain ⟨d, hd, hname⟩ := List.mem_map.1 hmem
      exact h d hd hname
    rw [ofVisits, declarationsOf_root, if_neg hfree, List.getLast?_concat]
    rfl
  · rw [get?_ofVisits, containers_root, ← Visit.memberContainers_eq, List.find?_append, h,
      typed_ofDocument]
    rfl

/-- An object with two members, the first of which is an object as well. -/
def keyed (key : String) : List (String × Value) :=
  [(key, .object [("id", .int 1)]), ("name", .string "x")]

/-- An object under the key `owner` leaves the name free, one under the key `root` takes it. -/
theorem topLevel_declared_last_keyed :
    (∃ schema,
      ofSurvey (Survey.ofDocument "Root" true (.object (keyed "owner"))) .objects = .ok schema ∧
      schema.declarations.getLast? = some (.record ⟨"Root", (keyed "owner").map fun (key, v) =>
        (key, (Survey.ofDocument "Root" true (.object (keyed "owner"))).typeOf .objects v)⟩)) ∧
    ∃ schema,
      ofSurvey (Survey.ofDocument "Root" true (.object (keyed "root"))) .objects = .ok schema ∧
      schema.get? "Root" =
        some (typed (Survey.ofDocument "Root" true (.object (keyed "root"))) .objects
          (.record ⟨"Root", [("id", .int 1)]⟩)) := by
  obtain ⟨free, hfree, hlast, -⟩ := topLevel_declared_last .objects "Root" (keyed "owner")
  obtain ⟨taken, htaken, -, hfirst⟩ := topLevel_declared_last .objects "Root" (keyed "root")
  exact ⟨⟨free, hfree, hlast (by decide +kernel)⟩,
    ⟨taken, htaken, hfirst _ (by decide +kernel)⟩⟩

/-- A top-level object is not always declared last: under the name `Root`, an object in it may be
declared in its place. -/
theorem not_declared_last_keyed_root :
    isTypeName "Root" = true ∧
    ¬ ∃ schema,
      ofSurvey (Survey.ofDocument "Root" true (.object (keyed "root"))) .objects = .ok schema ∧
      schema.declarations.getLast? = some (.record ⟨"Root", (keyed "root").map fun (key, v) =>
        (key, (Survey.ofDocument "Root" true (.object (keyed "root"))).typeOf .objects v)⟩) := by
  refine ⟨by decide +kernel, ?_⟩
  rintro ⟨schema, hschema, hlast⟩
  have hnested : (ofSurvey (Survey.ofDocument "Root" true (.object (keyed "root")))
      .objects).toOption.map (fun schema => schema.declarations.getLast?) =
        some (some (.record ⟨"Root", [("id", .number)]⟩)) := by decide +kernel
  rw [hschema, Except.toOption, Option.map_some, hlast] at hnested
  simp [keyed] at hnested

end Schema

end SampleTypes
