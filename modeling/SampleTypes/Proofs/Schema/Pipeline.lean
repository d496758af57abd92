/-
The schema of a walked document, told directly. Neither the order in which a walk enters and
declares nor its leaving out of what it has seen shows in the declarations: they are the first
container of every name, and their payloads get the names of the last objects of their shapes.

`ofSurvey_visitAll` tells the whole schema of any sequence of visits, findings included, and that
there is one.
-/
import SampleTypes.Proofs.Schema.Findings

namespace SampleTypes.Schema

/-- The first container of every name, with the types of its payloads. -/
def declarationsOf (policy : Survey.ElementPolicy) (vs : List Visit) :
    List (Declaration FieldType) :=
  (firsts Declaration.name (vs.flatMap Visit.containers)).map
    (Declaration.map (FieldType.ofValue (Survey.lastName (vs.flatMap Visit.objects)) policy))

theorem map_name_declarationsOf (policy : Survey.ElementPolicy) (vs : List Visit) :
    (declarationsOf policy vs).map Declaration.name =
      (firsts Declaration.name (vs.flatMap Visit.containers)).map Declaration.name := by
  rw [declarationsOf, List.map_map]
  simp only [Function.comp_def, Declaration.name_map]

/-- Every name of a container is declared. -/
theorem mem_names_declarationsOf {policy : Survey.ElementPolicy} {vs : List Visit} {name : String} :
    name ∈ (declarationsOf policy vs).map Declaration.name ↔
      name ∈ (vs.flatMap Visit.containers).map Declaration.name := by
  rw [map_name_declarationsOf, mem_map_firsts fun _ _ h => h]

/-- The containers of some visits without those of an identity that was there before. -/
def distinctContainers (vs : List Visit) : List (Declaration Value) :=
  firsts Declaration.identity (vs.flatMap Visit.containers)

/-- The records among them. -/
def distinctRecords (vs : List Visit) : List (Record Value) :=
  (distinctContainers vs).filterMap Declaration.record?

/-- The findings about shapes with several names. -/
def sharedOf (vs : List Visit) : List Finding :=
  (Survey.namesOfShapes (distinctRecords vs)).filterMap
    (sharedFinding (Survey.lastName (vs.flatMap Visit.objects)))

/-- The findings about dropped declarations. -/
def droppedOf (vs : List Visit) : List Finding :=
  (distinctContainers vs).filterMap (droppedFor (vs.flatMap Visit.containers))

/-- The schema of some visits. -/
def ofVisits (policy : Survey.ElementPolicy) (vs : List Visit) : Schema where
  declarations := declarationsOf policy vs
  findings := sharedOf vs ++ droppedOf vs ++ (declarationsOf policy vs).flatMap unresolved

/-! ## A schema for every walk -/

theorem mem_of_mem_distinctContainers {vs : List Visit} {d : Declaration Value}
    (h : d ∈ distinctContainers vs) : d ∈ vs.flatMap Visit.containers :=
  (firsts_sublist _ _).subset h

theorem firsts_name_distinctContainers (vs : List Visit) :
    firsts Declaration.name (distinctContainers vs) =
      firsts Declaration.name (vs.flatMap Visit.containers) :=
  firsts_firsts (fun _ _ h => Declaration.name_of_identity h) _

theorem mem_filterMap_record? {α : Type} {ds : List (Declaration α)} {r : Record α} :
    r ∈ ds.filterMap Declaration.record? ↔ .record r ∈ ds := by
  rw [List.mem_filterMap]
  constructor
  · rintro ⟨d, hd, hr⟩
    cases d with
    | «alias» a => cases hr
    | record r' => cases hr; exact hd
  · exact fun h => ⟨_, h, rfl⟩

theorem mem_distinctRecords {vs : List Visit} {r : Record Value} :
    r ∈ distinctRecords vs ↔ .record r ∈ distinctContainers vs :=
  mem_filterMap_record?

theorem record_mem_containers {vs : List Visit} {r : Record Value} :
    .record r ∈ vs.flatMap Visit.containers ↔ r ∈ vs.flatMap Visit.objects := by
  simp only [List.mem_flatMap, Visit.record_mem_containers]

theorem mem_identities_distinctContainers {vs : List Visit} {i : Declaration.Identity} :
    i ∈ (distinctContainers vs).map Declaration.identity ↔
      i ∈ (vs.flatMap Visit.containers).map Declaration.identity :=
  mem_map_firsts fun _ _ h => h

/-- A record that is declared anywhere has a representative among the distinct ones. -/
theorem exists_mem_distinctRecords {vs : List Visit} {r : Record Value}
    (h : r ∈ vs.flatMap Visit.objects) :
    ∃ r' ∈ distinctRecords vs, r'.name = r.name ∧ r'.shape = r.shape := by
  have hid : .record r.name r.shape ∈ (distinctContainers vs).map Declaration.identity := by
    rw [mem_identities_distinctContainers, Declaration.record_mem_map_identity]
    exact ⟨r, record_mem_containers.2 h, rfl, rfl⟩
  obtain ⟨r', hr', hname, hshape⟩ := Declaration.record_mem_map_identity.1 hid
  exact ⟨r', mem_distinctRecords.2 hr', hname, hshape⟩

/-- The distinct shapes are those of all objects. -/
theorem mem_shapes_distinctRecords {vs : List Visit} {shape : Shape} :
    shape ∈ (distinctRecords vs).map Record.shape ↔
      shape ∈ (vs.flatMap Visit.objects).map Record.shape := by
  constructor
  · intro h
    obtain ⟨r, hr, rfl⟩ := List.mem_map.1 h
    exact List.mem_map_of_mem (record_mem_containers.1
      (mem_of_mem_distinctContainers (mem_distinctRecords.1 hr)))
  · intro h
    obtain ⟨r, hr, rfl⟩ := List.mem_map.1 h
    obtain ⟨r', hr', -, hs⟩ := exists_mem_distinctRecords hr
    exact hs ▸ List.mem_map_of_mem hr'

/-- A shape goes by the names with which it makes an identity. -/
theorem mem_namesOf_filterMap_record? {ds : List (Declaration Value)} {shape : Shape}
    {name : String} :
    name ∈ Survey.namesOf (ds.filterMap Declaration.record?) shape ↔
      .record name shape ∈ ds.map Declaration.identity := by
  rw [Declaration.record_mem_map_identity, Survey.namesOf, mem_firsts_id, List.mem_map]
  refine exists_congr fun r => ?_
  rw [List.mem_filter, mem_filterMap_record?, beq_iff_eq]
  tauto

theorem mem_namesOf_iff {vs : List Visit} {shape : Shape} {name : String} :
    name ∈ Survey.namesOf (distinctRecords vs) shape ↔
      .record name shape ∈ (vs.flatMap Visit.containers).map Declaration.identity := by
  rw [← mem_identities_distinctContainers]
  exact mem_namesOf_filterMap_record?

theorem describe_of_mem_distinctContainers {vs : List Visit} {d : Declaration Value}
    (h : d ∈ distinctContainers vs) : d.describe = .ok d.summary := by
  obtain ⟨c, -, hd⟩ := List.mem_flatMap.1 (mem_of_mem_distinctContainers h)
  exact Declaration.describe_of_visit (Visit.declaration?_ofDeclaration hd)

/-- Every shape of a declared record goes by a name. -/
theorem lastName_of_mem_namesOfShapes {vs : List Visit} {p : Shape × List String}
    (h : p ∈ Survey.namesOfShapes (distinctRecords vs)) :
    ∃ name, Survey.lastName (vs.flatMap Visit.objects) p.1 = some name := by
  have hs := (Survey.mem_namesOfShapes_iff.1 h).1
  rw [mem_shapes_distinctRecords] at hs
  obtain ⟨r, hr, hshape⟩ := List.mem_map.1 hs
  rw [← hshape]
  exact Survey.exists_lastName_eq_some hr

/-- What is kept of the distinct containers is the first container of every name. -/
theorem keepFirst_distinctContainers (vs : List Visit) :
    keepFirst [] (distinctContainers vs) =
      firsts Declaration.name (vs.flatMap Visit.containers) := by
  rw [← firsts_name_distinctContainers]
  exact keepFirst_eq [] _

/-- **A walk has a schema**, and its visits tell it. -/
theorem ofSurvey_visitAll (policy : Survey.ElementPolicy) (vs : List Visit) :
    ofSurvey (Survey.empty.visitAll vs) policy = .ok (ofVisits policy vs) := by
  have hd : (Survey.empty.visitAll vs).discovered = distinctContainers vs :=
    Survey.discovered_visitAll vs
  have hn := Survey.nameOf?_visitAll vs
  have hshared : sharedShapes (Survey.empty.visitAll vs) (Survey.empty.visitAll vs).namesByShape =
      .ok (sharedOf vs) := by
    rw [Survey.namesByShape_eq, hd, sharedShapes_eq, hn]
    · rfl
    · intro p hp
      rw [hn]
      exact lastName_of_mem_namesOfShapes hp
  have hdropped : collisions [] (distinctContainers vs) = .ok (droppedOf vs) := by
    rw [droppedOf, ← droppedFor_firsts_identity]
    exact collisions_eq [] _ (fun _ h => describe_of_mem_distinctContainers h)
  rw [ofSurvey, hshared, hd, hdropped, keepFirst_distinctContainers, typed_eq_map, hn]
  rfl

theorem keepFirst_discovered_visitAll (vs : List Visit) :
    keepFirst [] (Survey.empty.visitAll vs).discovered =
      firsts Declaration.name (vs.flatMap Visit.containers) := by
  rw [Survey.discovered_visitAll]
  exact keepFirst_distinctContainers vs

/-- Every kept declaration is typed, and that is all there is. -/
theorem declarations_ofVisits (policy : Survey.ElementPolicy) (vs : List Visit) :
    (ofVisits policy vs).declarations = (keepFirst [] (Survey.empty.visitAll vs).discovered).map
      (typed (Survey.empty.visitAll vs) policy) := by
  rw [keepFirst_discovered_visitAll, typed_eq_map, Survey.nameOf?_visitAll]
  rfl

/-! ## Findings by their kinds -/

theorem kind_of_mem_sharedOf {f : Finding} {vs : List Visit} (h : f ∈ sharedOf vs) :
    f.isCollision = false ∧ f.level = .info := by
  obtain ⟨p, -, hp⟩ := List.mem_filterMap.1 h
  rw [sharedFinding] at hp
  split at hp
  · obtain ⟨winner, -, rfl⟩ := Option.map_eq_some_iff.1 hp
    exact ⟨rfl, rfl⟩
  · cases hp

theorem kind_of_mem_droppedOf {f : Finding} {vs : List Visit} (h : f ∈ droppedOf vs) :
    f.isCollision = true ∧ f.level = .warning := by
  obtain ⟨d, -, hd⟩ := List.mem_filterMap.1 h
  obtain ⟨kept, rfl⟩ := eq_collision_of_droppedFor hd
  exact ⟨rfl, rfl⟩

theorem kind_of_mem_unresolved {f : Finding} {ds : List (Declaration FieldType)}
    (h : f ∈ ds.flatMap unresolved) : f.isCollision = false ∧ f.level = .warning := by
  obtain ⟨d, -, hd⟩ := List.mem_flatMap.1 h
  cases d with
  | «alias» a =>
    rw [unresolved] at hd
    split at hd
    · obtain rfl := List.mem_singleton.1 hd
      exact ⟨rfl, rfl⟩
    · cases hd
  | record r =>
    obtain ⟨⟨key, type⟩, -, hfield⟩ := List.mem_flatMap.1 hd
    by_cases ht : type.isUnresolved = true
    · simp only [ht, if_true, List.mem_singleton] at hfield
      subst hfield
      exact ⟨rfl, rfl⟩
    · simp [ht] at hfield

/-- The findings of a level that only shared shapes have. -/
theorem filter_info_ofVisits (policy : Survey.ElementPolicy) (vs : List Visit) :
    (ofVisits policy vs).findings.filter (fun f => f.level == .info) = sharedOf vs := by
  have hshared : ∀ f ∈ sharedOf vs, (f.level == .info) = true := fun f hf => by
    simp [(kind_of_mem_sharedOf hf).2]
  have hdropped : ∀ f ∈ droppedOf vs, ¬ (f.level == .info) = true := fun f hf => by
    simp [(kind_of_mem_droppedOf hf).2]
  have hunresolved : ∀ f ∈ (declarationsOf policy vs).flatMap unresolved,
      ¬ (f.level == .info) = true := fun f hf => by
    simp [(kind_of_mem_unresolved hf).2]
  rw [ofVisits, List.filter_append, List.filter_append, List.filter_eq_self.2 hshared,
    List.filter_eq_nil_iff.2 hdropped, List.filter_eq_nil_iff.2 hunresolved, List.append_nil,
    List.append_nil]

/-! ## Documents -/

/-- **The declarations of a document, told directly**: its containers in the order in which they
are completed, the first of every name, each payload with the types that the last objects of their
shapes name. Leaving out what was seen with the same identity changes nothing of it. -/
theorem declarations_ofDocument (rootName : String) (declareRoot : Bool) (document : Value)
    (policy : Survey.ElementPolicy) :
    ∃ schema,
      ofSurvey (Survey.ofDocument rootName declareRoot document) policy = .ok schema ∧
      schema.declarations =
        (firsts Declaration.name
          ((Visit.roots rootName declareRoot document).flatMap Visit.containers)).map
          (Declaration.map (FieldType.ofValue
            (Survey.lastName ((Visit.roots rootName declareRoot document).flatMap Visit.objects))
            policy)) ∧
      keepFirst [] (Survey.ofDocument rootName declareRoot document).discovered =
        keepFirst [] ((Visit.roots rootName declareRoot document).flatMap Visit.containers) := by
  rw [Survey.ofDocument_eq]
  refine ⟨_, ofSurvey_visitAll policy _, rfl, ?_⟩
  rw [Survey.discovered_visitAll]
  have h := fun ds => keepFirst_eq [] ds
  simp only [firsts_nil, List.nil_append] at h
  rw [h, h, firsts_firsts fun _ _ hid => Declaration.name_of_identity hid]

end SampleTypes.Schema
