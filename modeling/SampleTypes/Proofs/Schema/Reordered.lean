/-
What the order of members has no part in. How much a walk finds and how much of it is kept is told
by the set of identities that it completes, in whatever order: the names, the shapes and the names of
every shape, the number of declarations that are dropped (`length_droppedOf`) and the number of
shapes with several names (`length_sharedOf`). Reordered documents complete the same identities.
-/
import Mathlib.Data.Finset.Dedup
import SampleTypes.Proofs.Schema.References
import SampleTypes.Proofs.Survey.Reordered

namespace SampleTypes

namespace Schema

variable {vs ws : List Visit}

/-! ## What identities tell -/

/-- The visits complete containers of the same identities. -/
def SameIdentities (vs ws : List Visit) : Prop :=
  ∀ i, i ∈ (vs.flatMap Visit.containers).map Declaration.identity ↔
    i ∈ (ws.flatMap Visit.containers).map Declaration.identity

theorem SameIdentities.perm (h : SameIdentities vs ws) :
    ((distinctContainers vs).map Declaration.identity).Perm
      ((distinctContainers ws).map Declaration.identity) :=
  perm_map_firsts h

/-! ### Names -/

theorem SameIdentities.mem_names (h : SameIdentities vs ws) (name : String) :
    name ∈ (vs.flatMap Visit.containers).map Declaration.name ↔
      name ∈ (ws.flatMap Visit.containers).map Declaration.name := by
  have hnames : ∀ ds : List (Declaration Value),
      ds.map Declaration.name = (ds.map Declaration.identity).map Declaration.Identity.name := by
    intro ds
    simp only [List.map_map, Function.comp_def, Declaration.name_identity]
  rw [hnames, hnames, List.mem_map, List.mem_map]
  exact exists_congr fun i => and_congr_left fun _ => h i

/-! ### Shapes -/

theorem mem_shapes_iff {shape : Shape} :
    shape ∈ (vs.flatMap Visit.objects).map Record.shape ↔
      ∃ name, .record name shape ∈ (vs.flatMap Visit.containers).map Declaration.identity := by
  rw [List.mem_map]
  constructor
  · rintro ⟨r, hr, rfl⟩
    exact ⟨r.name, Declaration.record_mem_map_identity.2
      ⟨r, record_mem_containers.2 hr, rfl, rfl⟩⟩
  · rintro ⟨name, h⟩
    obtain ⟨r, hr, -, hs⟩ := Declaration.record_mem_map_identity.1 h
    exact ⟨r, record_mem_containers.1 hr, hs⟩

theorem SameIdentities.mem_shapes (h : SameIdentities vs ws) (shape : Shape) :
    shape ∈ (vs.flatMap Visit.objects).map Record.shape ↔
      shape ∈ (ws.flatMap Visit.objects).map Record.shape := by
  rw [mem_shapes_iff, mem_shapes_iff]
  exact exists_congr fun name => h _

theorem SameIdentities.namesOf_perm (h : SameIdentities vs ws) (shape : Shape) :
    (Survey.namesOf (distinctRecords vs) shape).Perm
      (Survey.namesOf (distinctRecords ws) shape) := by
  refine (List.perm_ext_iff_of_nodup (Survey.nodup_namesOf _ _) (Survey.nodup_namesOf _ _)).2 ?_
  intro name
  rw [mem_namesOf_iff, mem_namesOf_iff, h]

/-! ### Numbers -/

/-- A shape is reported as shared if it has several names. -/
theorem length_sharedOf (vs : List Visit) :
    (sharedOf vs).length = (firsts id ((distinctRecords vs).map Record.shape)).countP
      (fun shape => 1 < (Survey.namesOf (distinctRecords vs) shape).length) := by
  have hfinding : ∀ p ∈ Survey.namesOfShapes (distinctRecords vs),
      ((sharedFinding (Survey.lastName (vs.flatMap Visit.objects)) p).isSome = true ↔
        decide (1 < p.2.length) = true) := by
    intro p hp
    obtain ⟨name, hname⟩ := lastName_of_mem_namesOfShapes hp
    by_cases hl : 1 < p.2.length <;> simp [sharedFinding, hname, hl]
  rw [sharedOf, List.length_filterMap_eq_countP, List.countP_congr hfinding,
    Survey.namesOfShapes, List.countP_map]
  rfl

theorem SameIdentities.length_sharedOf (h : SameIdentities vs ws) :
    (sharedOf vs).length = (sharedOf ws).length := by
  have hshapes : (firsts id ((distinctRecords vs).map Record.shape)).Perm
      (firsts id ((distinctRecords ws).map Record.shape)) := by
    refine (List.perm_ext_iff_of_nodup (nodup_firsts_id _) (nodup_firsts_id _)).2 fun shape => ?_
    rw [mem_firsts_id, mem_firsts_id, mem_shapes_distinctRecords, mem_shapes_distinctRecords,
      h.mem_shapes]
  have hlength : ∀ shape : Shape, (Survey.namesOf (distinctRecords vs) shape).length =
      (Survey.namesOf (distinctRecords ws) shape).length :=
    fun shape => (h.namesOf_perm shape).length_eq
  rw [Schema.length_sharedOf, Schema.length_sharedOf]
  simp only [hlength]
  exact hshapes.countP_eq _

/-- Of declarations with distinct identities, each is the first of its name or dropped. -/
theorem length_filterMap_droppedFor {ds : List (Declaration Value)}
    (h : (ds.map Declaration.identity).Nodup) :
    (ds.filterMap (droppedFor ds)).length + (firsts Declaration.name ds).length = ds.length := by
  -- From the end, since a declaration has no part in what becomes of those before it.
  induction ds using List.reverseRecOn with
  | nil => rfl
  | append_singleton ds d ih =>
    rw [List.map_append, List.map_singleton, List.nodup_append] at h
    obtain ⟨hds, -, hd⟩ := h
    have hbefore : ds.filterMap (droppedFor (ds ++ [d])) = ds.filterMap (droppedFor ds) :=
      List.filterMap_congr fun e he => droppedFor_append (List.mem_map_of_mem he) [d]
    rw [List.filterMap_append, hbefore, firsts_append_singleton, List.length_append,
      List.length_append]
    have ih := ih hds
    by_cases hname : d.name ∈ ds.map Declaration.name
    · have hnew : d.identity ∉ ds.map Declaration.identity :=
        fun hmem => hd _ hmem _ List.mem_cons_self rfl
      obtain ⟨f, hf⟩ := Option.isSome_iff_exists.1 (isSome_droppedFor hname hnew)
      rw [if_pos hname, List.filterMap_cons_some ((droppedFor_append hname [d]).trans hf)]
      simp only [List.filterMap_nil, List.length_singleton]
      omega
    · rw [if_neg hname, List.filterMap_cons_none (droppedFor_of_not_mem hname []),
        List.length_append]
      simp only [List.filterMap_nil, List.length_nil, List.length_singleton]
      omega

/-- Every discovered declaration is kept or reported as dropped. -/
theorem length_droppedOf (vs : List Visit) :
    (droppedOf vs).length + (firsts Declaration.name (vs.flatMap Visit.containers)).length =
      (distinctContainers vs).length := by
  rw [droppedOf, ← droppedFor_firsts_identity, ← firsts_name_distinctContainers]
  exact length_filterMap_droppedFor (nodup_map_firsts _ _)

theorem SameIdentities.length_droppedOf (h : SameIdentities vs ws) :
    (droppedOf vs).length = (droppedOf ws).length := by
  have hkept : (firsts Declaration.name (vs.flatMap Visit.containers)).length =
      (firsts Declaration.name (ws.flatMap Visit.containers)).length :=
    length_firsts_congr h.mem_names
  have hdistinct : (distinctContainers vs).length = (distinctContainers ws).length :=
    length_firsts_congr h
  have hvs := Schema.length_droppedOf vs
  have hws := Schema.length_droppedOf ws
  omega

/-! ## Findings by their kinds -/

theorem countP_isCollision_ofVisits (policy : Survey.ElementPolicy) (vs : List Visit) :
    (ofVisits policy vs).findings.countP Finding.isCollision = (droppedOf vs).length := by
  have hshared : ∀ f ∈ sharedOf vs, ¬ f.isCollision = true := fun f hf => by
    simp [(kind_of_mem_sharedOf hf).1]
  have hdropped : ∀ f ∈ droppedOf vs, f.isCollision = true := fun f hf =>
    (kind_of_mem_droppedOf hf).1
  have hunresolved : ∀ f ∈ (declarationsOf policy vs).flatMap unresolved,
      ¬ f.isCollision = true := fun f hf => by
    simp [(kind_of_mem_unresolved hf).1]
  rw [ofVisits, List.countP_append, List.countP_append, List.countP_eq_zero.2 hshared,
    List.countP_eq_length.2 hdropped, List.countP_eq_zero.2 hunresolved]
  omega

theorem count_info_ofVisits (policy : Survey.ElementPolicy) (vs : List Visit) :
    Diagnostic.count .info (ofVisits policy vs).diagnostics = (sharedOf vs).length := by
  rw [Diagnostic.count, diagnostics, List.countP_map, List.countP_eq_length_filter,
    ← filter_info_ofVisits policy vs]
  rfl

end Schema

/-! ## Reordered documents -/

/-- Two surveys found as much: the same identities, as many declarations, the same shapes, and the
same names for every shape. -/
structure Survey.SameExtent (a b : Survey) : Prop where
  identities : ∀ i, i ∈ a.discovered.map Declaration.identity ↔
    i ∈ b.discovered.map Declaration.identity
  length : a.discovered.length = b.discovered.length
  shapes : ∀ shape, shape ∈ Assoc.keys a.byShape ↔ shape ∈ Assoc.keys b.byShape
  names : ∀ shape, (a.namesByShape.get? shape).map List.toFinset =
    (b.namesByShape.get? shape).map List.toFinset

/-- Two schemas keep and report as much: they declare the same names and have as many findings
about dropped declarations and about shapes with several names. -/
structure Schema.SameExtent (a b : Schema) : Prop where
  names : ∀ name, name ∈ a.declarations.map Declaration.name ↔
    name ∈ b.declarations.map Declaration.name
  dropped : a.findings.countP Finding.isCollision = b.findings.countP Finding.isCollision
  shared : Diagnostic.count .info a.diagnostics = Diagnostic.count .info b.diagnostics

namespace Schema

variable {vs ws : List Visit}

theorem SameIdentities.survey (h : SameIdentities vs ws) :
    Survey.SameExtent (Survey.empty.visitAll vs) (Survey.empty.visitAll ws) where
  identities i := by
    rw [Survey.discovered_visitAll, Survey.discovered_visitAll]
    exact h.perm.mem_iff
  length := by
    rw [Survey.discovered_visitAll, Survey.discovered_visitAll]
    exact length_firsts_congr h
  shapes shape := by
    rw [Survey.keys_byShape_visitAll, Survey.keys_byShape_visitAll, mem_firsts_id, mem_firsts_id,
      h.mem_shapes]
  names shape := by
    have hget : ∀ us : List Visit, (Survey.empty.visitAll us).namesByShape.get? shape =
        if shape ∈ (us.flatMap Visit.objects).map Record.shape then
          some (Survey.namesOf (distinctRecords us) shape)
        else none := by
      intro us
      rw [Survey.namesByShape_eq, Survey.discovered_visitAll, Survey.namesOfShapes,
        Assoc.get?_map_pair]
      simp only [mem_firsts_id]
      exact if_congr mem_shapes_distinctRecords rfl rfl
    rw [hget, hget]
    by_cases hs : shape ∈ (vs.flatMap Visit.objects).map Record.shape
    · rw [if_pos hs, if_pos ((h.mem_shapes shape).1 hs), Option.map_some, Option.map_some,
        List.toFinset_eq_of_perm _ _ (h.namesOf_perm shape)]
    · rw [if_neg hs, if_neg (fun hws => hs ((h.mem_shapes shape).2 hws))]

theorem SameIdentities.schema (h : SameIdentities vs ws) (policy : Survey.ElementPolicy) :
    SameExtent (ofVisits policy vs) (ofVisits policy ws) where
  names name := by
    simp only [ofVisits]
    rw [mem_names_declarationsOf, mem_names_declarationsOf, h.mem_names]
  dropped := by
    rw [countP_isCollision_ofVisits, countP_isCollision_ofVisits, h.length_droppedOf]
  shared := by
    rw [count_info_ofVisits, count_info_ofVisits, h.length_sharedOf]

/-- **The order of members changes neither what is found nor how much is dropped.** -/
theorem sameExtent_of_reordered {v w : Value} (h : v.Reordered w) (hv : v.HasDistinctKeys)
    (rootName : String) (declareRoot : Bool) (policy : Survey.ElementPolicy) :
    Survey.SameExtent (Survey.ofDocument rootName declareRoot v)
        (Survey.ofDocument rootName declareRoot w) ∧
      ∃ a b,
        ofSurvey (Survey.ofDocument rootName declareRoot v) policy = .ok a ∧
        ofSurvey (Survey.ofDocument rootName declareRoot w) policy = .ok b ∧ SameExtent a b := by
  have hids : SameIdentities (Visit.roots rootName declareRoot v)
      (Visit.roots rootName declareRoot w) :=
    Visit.mem_identities_roots_iff rootName declareRoot h hv
  rw [Survey.ofDocument_eq, Survey.ofDocument_eq]
  exact ⟨hids.survey, _, _, ofSurvey_visitAll policy _, ofSurvey_visitAll policy _,
    hids.schema policy⟩

/-- A list that holds a team, and an owner. -/
def staff : Value :=
  .object [
    ("teams", .array [.object [("size", .int 2), ("lead", .object [("id", .int 1)])], .null]),
    ("owner", .object [("id", .int 2)])]

/-- The members of the document and those of the team are given in another order. -/
def staffReordered : Value :=
  .object [
    ("owner", .object [("id", .int 2)]),
    ("teams", .array [.object [("lead", .object [("id", .int 1)]), ("size", .int 2)], .null])]

theorem sameExtent_of_reordered_staff :
    staff.Reordered staffReordered ∧ staff.HasDistinctKeys ∧
      Survey.SameExtent (Survey.ofDocument "Root" true staff)
        (Survey.ofDocument "Root" true staffReordered) ∧
      ∃ a b,
        ofSurvey (Survey.ofDocument "Root" true staff) .objects = .ok a ∧
        ofSurvey (Survey.ofDocument "Root" true staffReordered) .objects = .ok b ∧
        SameExtent a b := by
  have hteams : Value.ReorderedElements
      [.object [("size", .int 2), ("lead", .object [("id", .int 1)])], .null]
      [.object [("lead", .object [("id", .int 1)]), ("size", .int 2)], .null] :=
    .cons (.object (.cons (.refl _) (.cons (.refl _) .nil)) (.swap _ _ _)) (.cons (.refl _) .nil)
  have hstaff : staff.Reordered staffReordered :=
    .object (.cons (.array hteams) (.cons (.refl _) .nil)) (.swap _ _ _)
  have hkeys : staff.HasDistinctKeys := by
    simp [staff, Value.HasDistinctKeys, Value.membersHaveDistinctKeys,
      Value.elementsHaveDistinctKeys]
  exact ⟨hstaff, hkeys, sameExtent_of_reordered hstaff hkeys "Root" true .objects⟩

end Schema

end SampleTypes
