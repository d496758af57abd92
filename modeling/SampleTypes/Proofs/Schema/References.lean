/-
The records to which the types of a schema refer. Every name is declared once, and every reference
goes to a declared name, whatever was dropped. If nothing was dropped, it goes to a record of the
shape of the object that decided the type, and if no shape has several names, that record is named
as the object was visited.

What carries both: a reference is to the name of a shape, which is the name of some object that was
visited (`FieldType.decidedBy_of_mem_references`, `Survey.mem_of_lastName_eq_some`), and of all
declarations of that name the first is kept.
-/
import SampleTypes.Proofs.Schema.Pipeline

namespace SampleTypes

/-! ## The object behind a reference -/

namespace FieldType

variable {nameOf : Shape → Option String} {policy : Survey.ElementPolicy}

/-- The object decides the type of the value: it is the value, or its first element that decides. -/
inductive DecidedBy (nameOf : Shape → Option String) (policy : Survey.ElementPolicy) :
    Value → List (String × Value) → Prop
  | self : DecidedBy nameOf policy (.object ms) ms
  | element (h : ∀ v ∈ before, ofElement? nameOf policy v = none) :
      DecidedBy nameOf policy (.array (before ++ .object ms :: after)) ms

theorem mem_of_decidedBy_array {es : List Value} {ms : List (String × Value)}
    (h : DecidedBy nameOf policy (.array es) ms) : .object ms ∈ es := by
  cases h with
  | element h => simp

theorem object_of_ofElement? {v : Value} {t : FieldType} {name : String}
    (h : ofElement? nameOf policy v = some t) (hn : name ∈ t.references) :
    ∃ ms, v = .object ms ∧ nameOf (Shape.ofMembers ms) = some name := by
  cases v with
  | null | array => simp [ofElement?] at h
  | bool | int | float | string =>
    cases policy <;> simp only [ofElement?, Survey.scalarType?, reduceCtorEq, if_false, if_true,
      Option.some.injEq] at h
    subst h
    simp [references] at hn
  | object ms =>
    obtain ⟨name', hname, rfl⟩ := Option.map_eq_some_iff.1 h
    simp only [references, List.mem_singleton] at hn
    exact ⟨ms, rfl, hn ▸ hname⟩

/-- A reference comes from an object, and is to the name of its shape. -/
theorem decidedBy_of_mem_references {v : Value} {name : String}
    (h : name ∈ (ofValue nameOf policy v).references) :
    ∃ ms, DecidedBy nameOf policy v ms ∧ nameOf (Shape.ofMembers ms) = some name := by
  cases v with
  | null | bool | int | float | string => simp [ofValue, Survey.scalarType?, references] at h
  | object ms =>
    refine ⟨ms, .self, ?_⟩
    rw [ofValue] at h
    cases hn : nameOf (Shape.ofMembers ms) with
    | none => simp [hn, references] at h
    | some name' =>
      simp only [hn, Option.map_some, Option.getD_some, references, List.mem_singleton] at h
      rw [h]
  | array es =>
    rw [ofValue, references] at h
    cases hf : es.findSome? (ofElement? nameOf policy) with
    | none => simp [hf, references] at h
    | some t =>
      rw [hf, Option.getD_some] at h
      obtain ⟨before, v, after, rfl, hv, hbefore⟩ := List.findSome?_eq_some_iff.1 hf
      obtain ⟨ms, rfl, hname⟩ := object_of_ofElement? hv h
      exact ⟨ms, .element hbefore, hname⟩

end FieldType

namespace Schema

variable {policy : Survey.ElementPolicy} {vs : List Visit}

/-! ## Every reference is declared -/

theorem mem_names_of_lastName {shape : Shape} {name : String}
    (h : Survey.lastName (vs.flatMap Visit.objects) shape = some name) :
    name ∈ (declarationsOf policy vs).map Declaration.name := by
  obtain ⟨r, hr, -, rfl⟩ := Survey.mem_of_lastName_eq_some h
  exact mem_names_declarationsOf.2 (List.mem_map_of_mem (record_mem_containers.2 hr))

/-- **Names are distinct and references are declared**, whatever was dropped. -/
theorem names_nodup_references_declared (rootName : String) (declareRoot : Bool) (document : Value)
    (policy : Survey.ElementPolicy) :
    ∃ schema,
      ofSurvey (Survey.ofDocument rootName declareRoot document) policy = .ok schema ∧
      (schema.declarations.map Declaration.name).Nodup ∧
      ∀ d ∈ schema.declarations, ∀ t ∈ d.payloads, ∀ name ∈ t.references,
        name ∈ schema.declarations.map Declaration.name := by
  rw [Survey.ofDocument_eq]
  refine ⟨_, ofSurvey_visitAll policy _, ?_, ?_⟩
  · have h := map_name_declarationsOf policy (Visit.roots rootName declareRoot document)
    simp only [ofVisits, h]
    exact nodup_map_firsts _ _
  · intro d hd t ht name hname
    obtain ⟨raw, -, rfl⟩ := List.mem_map.1 hd
    rw [Declaration.payloads_map] at ht
    obtain ⟨v, -, rfl⟩ := List.mem_map.1 ht
    obtain ⟨ms, -, hlast⟩ := FieldType.decidedBy_of_mem_references hname
    exact mem_names_of_lastName hlast

/-! ## Nothing dropped -/

/-- Declarations that are left when identities are told apart have their identity alone. -/
theorem eq_of_identity_eq {d e : Declaration Value} (hd : d ∈ distinctContainers vs)
    (he : e ∈ distinctContainers vs) (h : d.identity = e.identity) : d = e :=
  List.inj_on_of_nodup_map (nodup_map_firsts _ _) hd he h

/-- What is not reported as dropped is the first of its name, or the same as the first. -/
theorem identity_eq_first {d : Declaration Value} (hd : d ∈ distinctContainers vs)
    (h : ∀ f ∈ droppedOf vs, f.isCollision = false) :
    ∃ first,
      (vs.flatMap Visit.containers).find? (fun k => k.name == d.name) = some first ∧
      first.identity = d.identity := by
  obtain ⟨first, hf⟩ := exists_find?_key
    (List.mem_map_of_mem (f := Declaration.name) (mem_of_mem_distinctContainers hd))
  refine ⟨first, hf, ?_⟩
  by_contra hne
  have hdrop : droppedFor (vs.flatMap Visit.containers) d =
      some (.collision d.summary first.summary) := by
    rw [droppedFor, hf, Option.bind_some, if_neg hne]
  have := h _ (List.mem_filterMap.2 ⟨d, hd, hdrop⟩)
  simp [Finding.isCollision] at this

theorem nodup_names_of_no_collision (h : ∀ f ∈ droppedOf vs, f.isCollision = false) :
    ((distinctContainers vs).map Declaration.name).Nodup := by
  refine List.Nodup.map_on ?_ (List.Nodup.of_map _ (nodup_map_firsts Declaration.identity _))
  intro d hd e he hname
  obtain ⟨first, hf, hfd⟩ := identity_eq_first hd h
  obtain ⟨first', hf', hfe⟩ := identity_eq_first he h
  rw [hname, hf', Option.some.injEq] at hf
  exact eq_of_identity_eq hd he (by rw [← hfd, ← hf, hfe])

/-- Without collisions, every discovered declaration is kept. -/
theorem declarationsOf_of_no_collision (h : ∀ f ∈ droppedOf vs, f.isCollision = false) :
    declarationsOf policy vs = (distinctContainers vs).map
      (Declaration.map
        (FieldType.ofValue (Survey.lastName (vs.flatMap Visit.objects)) policy)) := by
  rw [declarationsOf, ← firsts_name_distinctContainers,
    firsts_eq_self (nodup_names_of_no_collision h)]

/-- Without collisions, the name of a shape is that of a kept record of the shape. -/
theorem get?_of_lastName (h : ∀ f ∈ droppedOf vs, f.isCollision = false) {shape : Shape}
    {name : String} (hn : Survey.lastName (vs.flatMap Visit.objects) shape = some name) :
    ∃ r, (ofVisits policy vs).get? name = some (.record r) ∧ r.shape = shape := by
  obtain ⟨r, hr, hs, rfl⟩ := Survey.mem_of_lastName_eq_some hn
  obtain ⟨r', hr', hname, hshape⟩ := exists_mem_distinctRecords hr
  have hfind := find?_of_nodup_map (nodup_names_of_no_collision h) (mem_distinctRecords.1 hr')
  let typed := Declaration.map
    (FieldType.ofValue (Survey.lastName (vs.flatMap Visit.objects)) policy)
  have hget : (ofVisits policy vs).get? r.name = some (typed (.record r')) := by
    simp only [Schema.get?, ofVisits, declarationsOf_of_no_collision h, List.find?_map,
      Function.comp_def, Declaration.name_map]
    rw [← hname]
    exact congrArg (Option.map typed) hfind
  refine ⟨_, hget, ?_⟩
  rw [Record.shape_map, ← hs, ← hshape]

/-! ## One name for every shape -/

theorem mem_namesOf {r : Record Value} (h : r ∈ vs.flatMap Visit.objects) :
    r.name ∈ Survey.namesOf (distinctRecords vs) r.shape :=
  mem_namesOf_iff.2 (List.mem_map_of_mem (record_mem_containers.2 h))

theorem mem_namesOfShapes {r : Record Value} (h : r ∈ vs.flatMap Visit.objects) :
    (r.shape, Survey.namesOf (distinctRecords vs) r.shape) ∈
      Survey.namesOfShapes (distinctRecords vs) :=
  Survey.mem_namesOfShapes_iff.2 ⟨Survey.mem_map_shape_of_mem_namesOf (mem_namesOf h), rfl⟩

/-- If no shape is reported as shared, every shape of an object has one name at most. -/
theorem length_namesOf_le_one (h : ∀ f ∈ sharedOf vs, f.level ≠ .info) {r : Record Value}
    (hr : r ∈ vs.flatMap Visit.objects) :
    (Survey.namesOf (distinctRecords vs) r.shape).length ≤ 1 := by
  by_contra hl
  obtain ⟨winner, hwinner⟩ := Survey.exists_lastName_eq_some hr
  have hf : sharedFinding (Survey.lastName (vs.flatMap Visit.objects))
      (r.shape, Survey.namesOf (distinctRecords vs) r.shape) =
        some (.sharedShape r.shape (Survey.namesOf (distinctRecords vs) r.shape) winner) := by
    rw [sharedFinding, if_pos (Nat.not_le.1 hl), hwinner]
    rfl
  exact h _ (List.mem_filterMap.2 ⟨_, mem_namesOfShapes hr, hf⟩) rfl

theorem name_eq_of_shape_eq (h : ∀ f ∈ sharedOf vs, f.level ≠ .info) {r r' : Record Value}
    (hr : r ∈ vs.flatMap Visit.objects) (hr' : r' ∈ vs.flatMap Visit.objects)
    (hs : r.shape = r'.shape) : r.name = r'.name := by
  have hl := length_namesOf_le_one h hr
  have hn := mem_namesOf hr
  have hn' := hs ▸ mem_namesOf hr'
  generalize Survey.namesOf (distinctRecords vs) r.shape = names at hl hn hn'
  rcases names with _ | ⟨name, _ | ⟨name', rest⟩⟩
  · simp at hn
  · simp only [List.mem_singleton] at hn hn'
    rw [hn, hn']
  · simp at hl

/-- If no shape is reported as shared, the name of an object's shape is that of its visit. -/
theorem lastName_eq_of_mem_objects (h : ∀ f ∈ sharedOf vs, f.level ≠ .info) {r : Record Value}
    (hr : r ∈ vs.flatMap Visit.objects) :
    Survey.lastName (vs.flatMap Visit.objects) r.shape = some r.name := by
  obtain ⟨name, hname⟩ := Survey.exists_lastName_eq_some hr
  obtain ⟨r', hr', hs, rfl⟩ := Survey.mem_of_lastName_eq_some hname
  rw [hname, name_eq_of_shape_eq h hr' hr hs]

/-! ## Objects in fields -/

theorem mem_objects_of_field {r : Record Value} {key : String} {ms : List (String × Value)}
    (hr : r ∈ vs.flatMap Visit.objects) (hf : (key, .object ms) ∈ r.fields) :
    ⟨pascalCase key, ms⟩ ∈ vs.flatMap Visit.objects := by
  rw [← record_mem_containers, List.mem_flatMap] at hr ⊢
  obtain ⟨c, hc, hrc⟩ := hr
  have hchild : Visit.ofMember (key, .object ms) ∈ (Visit.ofDeclaration (.record r)).children :=
    List.mem_map_of_mem hf
  exact ⟨c, hc, Visit.mem_containers_of_child hrc hchild rfl⟩

theorem mem_objects_of_element {r : Record Value} {key : String} {es : List Value}
    {ms : List (String × Value)} (hr : r ∈ vs.flatMap Visit.objects)
    (hf : (key, .array es) ∈ r.fields) (he : .object ms ∈ es) :
    ⟨pascalCase (singular (pascalCase key)), ms⟩ ∈ vs.flatMap Visit.objects := by
  rw [← record_mem_containers, List.mem_flatMap] at hr ⊢
  obtain ⟨c, hc, hrc⟩ := hr
  have hfield : Visit.ofMember (key, .array es) ∈ (Visit.ofDeclaration (.record r)).children :=
    List.mem_map_of_mem hf
  have harray : .alias ⟨pascalCase key, .array es⟩ ∈ c.containers :=
    Visit.mem_containers_of_child hrc hfield rfl
  have hchild : Visit.ofElement (pascalCase key) (.object ms) ∈
      (Visit.ofDeclaration (.alias ⟨pascalCase key, .array es⟩)).children :=
    List.mem_map_of_mem he
  exact ⟨c, hc, Visit.mem_containers_of_child harray hchild rfl⟩

/-! ## Soundness -/

/-- The types of a schema refer to kept records of the shapes that gave the types. -/
structure ReferencesSound (s : Survey) (policy : Survey.ElementPolicy)
    (objects : List (Record Value)) (schema : Schema) : Prop where
  /-- Every discovered declaration is kept. -/
  kept : schema.declarations = s.discovered.map (typed s policy)
  /-- The type of an object names a kept record with exactly its keys. -/
  object : ∀ o ∈ objects, ∃ name r,
    s.typeOf policy (.object o.fields) = .record name ∧
      schema.get? name = some (.record r) ∧ r.shape = Shape.ofMembers o.fields
  /-- A reference in a type goes to a kept record with the keys of the object that decided it. -/
  payload : ∀ d ∈ s.discovered, ∀ v ∈ d.payloads, ∀ name ∈ (s.typeOf policy v).references,
    ∃ ms r, FieldType.DecidedBy s.nameOf? policy v ms ∧
      schema.get? name = some (.record r) ∧ r.shape = Shape.ofMembers ms

/-- The types of fields refer to the names that are made from the keys. -/
structure ReferencesNamed (s : Survey) (policy : Survey.ElementPolicy) : Prop where
  object : ∀ r, .record r ∈ s.discovered → ∀ key ms, (key, .object ms) ∈ r.fields →
    s.typeOf policy (.object ms) = .record (pascalCase key)
  element : ∀ r, .record r ∈ s.discovered → ∀ key es, (key, .array es) ∈ r.fields →
    ∀ name ∈ (s.typeOf policy (.array es)).references,
      name = pascalCase (singular (pascalCase key))

theorem typeOf_object_of_lastName {ms : List (String × Value)} {name : String}
    (h : Survey.lastName (vs.flatMap Visit.objects) (Shape.ofMembers ms) = some name) :
    (Survey.empty.visitAll vs).typeOf policy (.object ms) = .record name := by
  rw [Survey.typeOf_visitAll, FieldType.ofValue, h]
  rfl

theorem referencesSound_of_no_collision (h : ∀ f ∈ droppedOf vs, f.isCollision = false) :
    ReferencesSound (Survey.empty.visitAll vs) policy (vs.flatMap Visit.objects)
      (ofVisits policy vs) where
  kept := by
    rw [typed_eq_map, Survey.nameOf?_visitAll, Survey.discovered_visitAll]
    exact declarationsOf_of_no_collision h
  object o ho := by
    obtain ⟨name, hname⟩ := Survey.exists_lastName_eq_some ho
    obtain ⟨r, hget, hshape⟩ := get?_of_lastName h hname
    exact ⟨name, r, typeOf_object_of_lastName hname, hget, hshape⟩
  payload d _ v _ name hname := by
    rw [Survey.typeOf_visitAll] at hname
    obtain ⟨ms, hdecided, hlast⟩ := FieldType.decidedBy_of_mem_references hname
    obtain ⟨r, hget, hshape⟩ := get?_of_lastName h hlast
    rw [Survey.nameOf?_visitAll]
    exact ⟨ms, r, hdecided, hget, hshape⟩

theorem referencesNamed_of_no_shared (h : ∀ f ∈ sharedOf vs, f.level ≠ .info) :
    ReferencesNamed (Survey.empty.visitAll vs) policy where
  object r hr key ms hf := by
    rw [Survey.discovered_visitAll] at hr
    have hobject := record_mem_containers.1 (mem_of_mem_distinctContainers hr)
    exact typeOf_object_of_lastName
      (lastName_eq_of_mem_objects h (mem_objects_of_field hobject hf))
  element r hr key es hf name hname := by
    rw [Survey.discovered_visitAll] at hr
    rw [Survey.typeOf_visitAll] at hname
    have hobject := record_mem_containers.1 (mem_of_mem_distinctContainers hr)
    obtain ⟨ms, hdecided, hms⟩ := FieldType.decidedBy_of_mem_references hname
    have hlast := lastName_eq_of_mem_objects h (mem_objects_of_element hobject hf
      (FieldType.mem_of_decidedBy_array hdecided))
    exact Option.some.inj (hms.symm.trans hlast)

/-- **References are sound where nothing collided**, and where also no shape has several names, they
are to the names that the keys of the fields give. -/
theorem references_sound (rootName : String) (declareRoot : Bool) (document : Value)
    (policy : Survey.ElementPolicy) :
    ∃ schema,
      ofSurvey (Survey.ofDocument rootName declareRoot document) policy = .ok schema ∧
      ((∀ f ∈ schema.findings, f.isCollision = false) →
        ReferencesSound (Survey.ofDocument rootName declareRoot document) policy
            ((Visit.roots rootName declareRoot document).flatMap Visit.objects) schema ∧
          ((∀ f ∈ schema.findings, f.level ≠ .info) →
            ReferencesNamed (Survey.ofDocument rootName declareRoot document) policy)) := by
  rw [Survey.ofDocument_eq]
  refine ⟨_, ofSurvey_visitAll policy _, fun hcollision => ⟨?_, fun hinfo => ?_⟩⟩
  · refine referencesSound_of_no_collision fun f hf => hcollision f ?_
    exact List.mem_append_left _ (List.mem_append_right _ hf)
  · refine referencesNamed_of_no_shared fun f hf => hinfo f ?_
    exact List.mem_append_left _ (List.mem_append_left _ hf)

/-- A record with a record, a sequence of records and a scalar in it. -/
def ownedItems : Value :=
  .object [
    ("owner", .object [("login", .string "x")]),
    ("items", .array [.null, .object [("id", .int 1), ("note", .null)]]),
    ("open", .bool true)]

theorem references_sound_ownedItems :
    ∃ schema,
      ofSurvey (Survey.ofDocument "Root" true ownedItems) .objects = .ok schema ∧
      ReferencesSound (Survey.ofDocument "Root" true ownedItems) .objects
        ((Visit.roots "Root" true ownedItems).flatMap Visit.objects) schema ∧
      ReferencesNamed (Survey.ofDocument "Root" true ownedItems) .objects := by
  obtain ⟨schema, hschema, h⟩ := references_sound "Root" true ownedItems .objects
  have hnone : (ofSurvey (Survey.ofDocument "Root" true ownedItems) .objects).toOption.map
      (fun schema => schema.findings.length) = some 0 := by decide +kernel
  rw [hschema, Except.toOption, Option.map_some, Option.some.injEq, List.length_eq_zero_iff]
    at hnone
  have hsound := h (by simp [hnone])
  exact ⟨schema, hschema, hsound.1, hsound.2 (by simp [hnone])⟩

end Schema

end SampleTypes
