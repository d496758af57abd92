/-
The shapes that are reported to have several names. Their names are gathered from the distinct
declared records, and the winner is looked up among the entered ones: two lists that are written at
different moments of a walk. Both hold every object that was visited, so the look-up finds a record,
and its name is one of those that are listed.
-/
import SampleTypes.Proofs.Schema.Samples

namespace SampleTypes.Schema

/-! ## Names in the order of completion -/

/-- The objects of some visits, each after the objects in it. -/
def completedRecords (vs : List Visit) : List (Record Value) :=
  (vs.flatMap Visit.containers).filterMap Declaration.record?

/-- The shapes of some records that go by two names at least, in the order of their first records. -/
def sharedShapesOf (rs : List (Record Value)) : List Shape :=
  (firsts id (rs.map Record.shape)).filter (fun shape => 1 < (Survey.namesOf rs shape).length)

variable (vs : List Visit)

theorem mem_completedRecords {vs : List Visit} {r : Record Value} :
    r ∈ completedRecords vs ↔ r ∈ vs.flatMap Visit.objects :=
  mem_filterMap_record?.trans record_mem_containers

theorem distinctRecords_eq : distinctRecords vs =
    firsts (fun r => (Declaration.record r).identity) (completedRecords vs) :=
  filterMap_record?_firsts_identity _

/-- Leaving out records of an identity that was there before leaves out no name. -/
theorem namesOf_distinctRecords (shape : Shape) :
    Survey.namesOf (distinctRecords vs) shape = Survey.namesOf (completedRecords vs) shape := by
  have hshape : ∀ a b : Record Value,
      (Declaration.record a).identity = (Declaration.record b).identity →
        (a.shape == shape) = (b.shape == shape) := by
    intro a b h
    rw [(Declaration.Identity.record.inj h).2]
  rw [distinctRecords_eq, Survey.namesOf, ← firsts_filter hshape]
  exact firsts_id_map_firsts (fun _ _ h => (Declaration.Identity.record.inj h).1) _

theorem namesOfShapes_distinctRecords :
    Survey.namesOfShapes (distinctRecords vs) = Survey.namesOfShapes (completedRecords vs) := by
  have hshapes : firsts id ((distinctRecords vs).map Record.shape) =
      firsts id ((completedRecords vs).map Record.shape) := by
    rw [distinctRecords_eq]
    exact firsts_id_map_firsts (fun _ _ h => (Declaration.Identity.record.inj h).2) _
  rw [Survey.namesOfShapes, hshapes, Survey.namesOfShapes]
  exact List.map_congr_left fun shape _ => by rw [namesOf_distinctRecords]

/-! ## The report -/

/-- The name by which values of a shape go. -/
def winnerOf (shape : Shape) : String :=
  (Survey.lastName (vs.flatMap Visit.objects) shape).getD ""

variable {vs}

theorem lastName_eq_winnerOf {shape : Shape}
    (h : shape ∈ (completedRecords vs).map Record.shape) :
    Survey.lastName (vs.flatMap Visit.objects) shape = some (winnerOf vs shape) := by
  obtain ⟨r, hr, rfl⟩ := List.mem_map.1 h
  obtain ⟨name, hname⟩ := Survey.exists_lastName_eq_some (mem_completedRecords.1 hr)
  rw [winnerOf, hname, Option.getD_some]

/-- The winner is one of the names of the shape. -/
theorem winnerOf_mem_namesOf {shape : Shape}
    (h : shape ∈ (completedRecords vs).map Record.shape) :
    winnerOf vs shape ∈ Survey.namesOf (completedRecords vs) shape := by
  obtain ⟨r, hr, hshape, hname⟩ := Survey.mem_of_lastName_eq_some (lastName_eq_winnerOf h)
  rw [← hname, Survey.namesOf, mem_firsts_id]
  exact List.mem_map_of_mem (List.mem_filter.2 ⟨mem_completedRecords.2 hr, by simpa using hshape⟩)

variable (vs)

theorem sharedOf_eq : sharedOf vs =
    (sharedShapesOf (completedRecords vs)).map fun shape =>
      .sharedShape shape (Survey.namesOf (completedRecords vs) shape) (winnerOf vs shape) := by
  rw [sharedOf, namesOfShapes_distinctRecords, Survey.namesOfShapes, List.filterMap_map,
    sharedShapesOf]
  generalize hshapes : firsts id ((completedRecords vs).map Record.shape) = shapes
  rw [← List.filterMap_eq_map, List.filterMap_filter]
  refine List.filterMap_congr fun shape hs => ?_
  rw [← hshapes, mem_firsts_id] at hs
  simp [sharedFinding, lastName_eq_winnerOf hs]

/-- **Shared shapes are reported exactly, and every walk has a schema.** After any sequence of
visits, the findings for information are one for each shape under which objects were visited with
two names at least, in the order in which the shapes are first completed. It lists the distinct
names of these objects in the order in which they are completed; the winner is one of them, and
every object of the shape has the winner's type. -/
theorem sharedShapes_reported (policy : Survey.ElementPolicy) :
    ∃ schema, ∃ winner : Shape → String,
      ofSurvey (Survey.empty.visitAll vs) policy = .ok schema ∧
      schema.diagnostics.filter (fun d => d.level == .info) =
        (sharedShapesOf (completedRecords vs)).map (fun shape =>
          (Finding.sharedShape shape (Survey.namesOf (completedRecords vs) shape)
            (winner shape)).diagnostic) ∧
      ∀ shape ∈ (completedRecords vs).map Record.shape,
        winner shape ∈ Survey.namesOf (completedRecords vs) shape ∧
        ∀ ms, Shape.ofMembers ms = shape →
          (Survey.empty.visitAll vs).typeOf policy (.object ms) = .record (winner shape) := by
  refine ⟨_, winnerOf vs, ofSurvey_visitAll policy vs, ?_, fun shape hs => ⟨?_, ?_⟩⟩
  · have hinfo : (ofVisits policy vs).diagnostics.filter (fun d => d.level == .info) =
        ((ofVisits policy vs).findings.filter (fun f => f.level == .info)).map
          Finding.diagnostic := List.filter_map
    rw [hinfo, filter_info_ofVisits, sharedOf_eq, List.map_map]
    rfl
  · exact winnerOf_mem_namesOf hs
  · rintro ms rfl
    rw [Survey.typeOf_visitAll, FieldType.ofValue, lastName_eq_winnerOf hs]
    rfl

end SampleTypes.Schema
