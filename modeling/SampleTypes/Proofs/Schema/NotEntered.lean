/-
Which surveys have no schema. A walk enters every object that it declares, so walks never fail; after
other steps a shape may go by several names while the survey has no record of it. The steps alone
tell of which shapes this is so (`isLeftOut_iff`), and nothing else fails (`ofSurvey_eq_error_iff`).
-/
import Mathlib.Data.Finset.Card
import SampleTypes.Proofs.Schema.Pipeline
import SampleTypes.Proofs.Survey.Steps

namespace SampleTypes

/-! ## Shapes that are left out -/

namespace Survey

/-- Records of the shape were declared under two names at least, and none was entered. -/
def IsLeftOut (steps : List Step) (shape : Shape) : Prop :=
  (∃ r r', .record r ∈ declared steps ∧ .record r' ∈ declared steps ∧
    r.shape = shape ∧ r'.shape = shape ∧ r.name ≠ r'.name) ∧
  ∀ r ∈ entered steps, r.shape ≠ shape

/-- A shape has several names exactly if two of them differ. -/
theorem one_lt_length_namesOf_iff {rs : List (Record Value)} {shape : Shape} :
    1 < (namesOf rs shape).length ↔
      ∃ a ∈ namesOf rs shape, ∃ b ∈ namesOf rs shape, a ≠ b := by
  rw [← List.toFinset_card_of_nodup (nodup_namesOf rs shape), Finset.one_lt_card]
  simp only [List.mem_toFinset]

variable {steps : List Step}

/-- Leaving out declarations of an identity that was there before leaves out no name. -/
theorem mem_namesOf_discovered_iff {shape : Shape} {name : String} :
    name ∈ namesOf ((empty.run steps).discovered.filterMap Declaration.record?) shape ↔
      ∃ r, .record r ∈ declared steps ∧ r.name = name ∧ r.shape = shape := by
  rw [Schema.mem_namesOf_filterMap_record?, (declared_run steps).discovered,
    mem_map_firsts fun _ _ h => h, Declaration.record_mem_map_identity]

/-- **The shapes that are left out are those with several names and without a record.** -/
theorem isLeftOut_iff {shape : Shape} :
    IsLeftOut steps shape ↔
      ∃ p ∈ (empty.run steps).namesByShape,
        Schema.lacksRecord (empty.run steps) p = true ∧ p.1 = shape := by
  simp only [Schema.lacksRecord, Bool.and_eq_true, decide_eq_true_eq, Option.isNone_iff_eq_none,
    get?_byShape_run_eq_none, namesByShape_eq]
  constructor
  · rintro ⟨⟨r, r', hr, hr', rfl, hshape, hname⟩, hentered⟩
    have hmem := mem_namesOf_discovered_iff.2 ⟨r, hr, rfl, rfl⟩
    have hmem' := mem_namesOf_discovered_iff.2 ⟨r', hr', rfl, hshape⟩
    exact ⟨(r.shape, _), mem_namesOfShapes_iff.2 ⟨mem_map_shape_of_mem_namesOf hmem, rfl⟩,
      ⟨one_lt_length_namesOf_iff.2 ⟨_, hmem, _, hmem', hname⟩, hentered⟩, rfl⟩
  · rintro ⟨p, hp, ⟨hlength, hentered⟩, rfl⟩
    rw [(mem_namesOfShapes_iff.1 hp).2] at hlength
    obtain ⟨a, ha, b, hb, hne⟩ := one_lt_length_namesOf_iff.1 hlength
    obtain ⟨r, hr, rfl, hshape⟩ := mem_namesOf_discovered_iff.1 ha
    obtain ⟨r', hr', rfl, hshape'⟩ := mem_namesOf_discovered_iff.1 hb
    exact ⟨⟨r, r', hr, hr', hshape, hshape', hne⟩, hentered⟩

/-- A declared alias has a length, so every declaration of the steps can be described. -/
theorem describe_of_mem_declared {d : Declaration Value} (h : d ∈ declared steps) :
    d.describe = .ok d.summary := by
  obtain ⟨step, -, hstep⟩ := List.mem_filterMap.1 h
  cases step with
  | enter r => cases hstep
  | declareRecord r | declareAlias name elements =>
    cases hstep
    rfl

end Survey

namespace Schema

open Survey (Step IsLeftOut)

/-! ## What fails -/

/-- If dropped declarations can be described, only the first shape without a record fails. -/
theorem ofSurvey_eq_error_iff {s : Survey} (policy : Survey.ElementPolicy)
    (h : ∀ d ∈ s.discovered, d.describe = .ok d.summary) {e : Error} :
    ofSurvey s policy = .error e ↔
      ∃ p, s.namesByShape.find? (lacksRecord s) = some p ∧ e = .shapeNotEntered p.1 := by
  have hdropped : collisions [] s.discovered =
      .ok (s.discovered.filterMap (droppedFor s.discovered)) := collisions_eq [] s.discovered h
  rw [ofSurvey, sharedShapes_eq_find?, hdropped]
  cases s.namesByShape.find? (lacksRecord s) with
  | none => simp [bind, Except.bind, pure, Except.pure]
  | some p => simp [bind, Except.bind, eq_comm]

/-- **The views of a survey drift apart without harm, but for one case.** After any steps the survey
is consistent. It has no schema exactly if some shape was declared under two names at least and
never entered, and then the error names such a shape. -/
theorem consistent_and_error_iff_isLeftOut (steps : List Step) (policy : Survey.ElementPolicy) :
    (Survey.empty.run steps).Consistent steps ∧
    ((∃ shape, ofSurvey (Survey.empty.run steps) policy = .error (.shapeNotEntered shape)) ↔
      ∃ shape, IsLeftOut steps shape) ∧
    ∀ e, ofSurvey (Survey.empty.run steps) policy = .error e →
      ∃ shape, e = .shapeNotEntered shape ∧ IsLeftOut steps shape := by
  have hdescribe : ∀ d ∈ (Survey.empty.run steps).discovered, d.describe = .ok d.summary := by
    rw [(Survey.declared_run steps).discovered]
    exact fun d hd => Survey.describe_of_mem_declared ((firsts_sublist _ _).subset hd)
  have herror : ∀ e, ofSurvey (Survey.empty.run steps) policy = .error e →
      ∃ shape, e = .shapeNotEntered shape ∧ IsLeftOut steps shape := by
    intro e he
    obtain ⟨p, hp, rfl⟩ := (ofSurvey_eq_error_iff policy hdescribe).1 he
    exact ⟨p.1, rfl, Survey.isLeftOut_iff.2
      ⟨p, List.mem_of_find?_eq_some hp, List.find?_some hp, rfl⟩⟩
  refine ⟨Survey.consistent_run steps, ⟨?_, ?_⟩, herror⟩
  · rintro ⟨shape, hshape⟩
    obtain ⟨shape, -, hleft⟩ := herror _ hshape
    exact ⟨shape, hleft⟩
  · rintro ⟨shape, hleft⟩
    obtain ⟨p, hp, hlacks, -⟩ := Survey.isLeftOut_iff.1 hleft
    obtain ⟨q, hq⟩ := Option.isSome_iff_exists.1 (List.find?_isSome.2 ⟨p, hp, hlacks⟩)
    exact ⟨q.1, (ofSurvey_eq_error_iff policy hdescribe).2 ⟨q, hq, rfl⟩⟩

example : ofSurvey (Survey.empty.run [.declareRecord ⟨"A", []⟩, .declareRecord ⟨"B", []⟩]) .objects =
    .error (.shapeNotEntered .empty) := by
  rfl

end Schema

end SampleTypes
