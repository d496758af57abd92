/-
What a survey holds after any steps. A walk enters an object and declares it under the same name;
here records are entered and declarations are declared on their own and in any order, so the latest
records and the discovered declarations may drift apart. Each of the two is still told by its own
steps (`run_eq`), and `Consistent` says what this comes to.
-/
import SampleTypes.Proofs.Survey.Walk

namespace SampleTypes

/-- Members with the same keys have the same shape. -/
theorem Shape.ofMembers_congr {α : Type} {ms ms' : List (String × α)}
    (h : ∀ key, key ∈ ms.map Prod.fst ↔ key ∈ ms'.map Prod.fst) :
    ofMembers ms = ofMembers ms' :=
  ext_mem fun key => by rw [ofMembers, ofMembers, mem_keys_ofKeys, mem_keys_ofKeys, h]

namespace Assoc

variable {κ ν : Type} [DecidableEq κ]

/-- With distinct keys, the pairs are what is looked up. -/
theorem mem_iff_get?_eq_some {pairs : Assoc κ ν} (h : (keys pairs).Nodup) {key : κ} {value : ν} :
    (key, value) ∈ pairs ↔ pairs.get? key = some value := by
  induction pairs with
  | nil => simp
  | cons p rest ih =>
    obtain ⟨k, v⟩ := p
    obtain ⟨hk, hrest⟩ := List.nodup_cons.1 h
    rw [List.mem_cons, ih hrest, get?]
    by_cases hkey : k = key
    · subst hkey
      rw [if_pos rfl, get?_eq_none hk]
      simp [eq_comm]
    · rw [if_neg hkey]
      simp [Ne.symm hkey]

end Assoc

namespace Survey

/-- A step of a survey. An alias is declared for an array. -/
inductive Step where
  | enter (r : Record Value)
  | declareRecord (r : Record Value)
  | declareAlias (name : String) (elements : List Value)

namespace Step

/-- The record that a step enters. -/
def record? : Step → Option (Record Value)
  | .enter r => some r
  | .declareRecord _ | .declareAlias _ _ => none

/-- The declaration that a step declares. -/
def declaration? : Step → Option (Declaration Value)
  | .enter _ => none
  | .declareRecord r => some (.record r)
  | .declareAlias name elements => some (.alias ⟨name, .array elements⟩)

end Step

/-- Takes a step. -/
def take (s : Survey) : Step → Survey
  | .enter r => s.enter r
  | .declareRecord r => s.declare (.record r)
  | .declareAlias name elements => s.declare (.alias ⟨name, .array elements⟩)

/-- Takes steps in order. -/
def run (s : Survey) (steps : List Step) : Survey :=
  steps.foldl take s

/-- The records that steps enter, in order. -/
def entered (steps : List Step) : List (Record Value) :=
  steps.filterMap Step.record?

/-- The declarations that steps declare, in order. -/
def declared (steps : List Step) : List (Declaration Value) :=
  steps.filterMap Step.declaration?

/-! ## The two views -/

theorem take_eq (s : Survey) (step : Step) :
    s.take step = (s.enterAll step.record?.toList).declareAll step.declaration?.toList := by
  cases step <;> rfl

/-- **Steps of the two kinds do not meet**: what was entered tells the latest records, and what was
declared tells the declarations. -/
theorem run_eq (s : Survey) (steps : List Step) :
    s.run steps = (s.enterAll (entered steps)).declareAll (declared steps) := by
  induction steps generalizing s with
  | nil => rfl
  | cons step rest ih =>
    have hentered : entered (step :: rest) = step.record?.toList ++ entered rest := by
      cases step <;> rfl
    have hdeclared : declared (step :: rest) = step.declaration?.toList ++ declared rest := by
      cases step <;> rfl
    rw [hentered, hdeclared, enterAll_append, declareAll_append, ← declareAll_enterAll, ← take_eq]
    exact ih (s.take step)

theorem declared_run (steps : List Step) : Declared (empty.run steps) (declared steps) := by
  rw [run_eq]
  exact declared_views _ _

theorem keys_byShape_run (steps : List Step) :
    Assoc.keys (empty.run steps).byShape = firsts id ((entered steps).map Record.shape) := by
  rw [run_eq, keys_byShape_views]

theorem get?_byShape_run (steps : List Step) (shape : Shape) :
    (empty.run steps).byShape.get? shape =
      (entered steps).reverse.find? (fun r => r.shape == shape) := by
  rw [run_eq, get?_byShape_views]

/-- A shape is without a record exactly if no record of it was entered. -/
theorem get?_byShape_run_eq_none {steps : List Step} {shape : Shape} :
    (empty.run steps).byShape.get? shape = none ↔ ∀ r ∈ entered steps, r.shape ≠ shape := by
  rw [get?_byShape_run, List.find?_eq_none]
  simp

/-! ## Consistency -/

/-- The last of some records that have the shape. -/
def IsLatest (rs : List (Record Value)) (shape : Shape) (r : Record Value) : Prop :=
  r.shape = shape ∧
    ∃ before after, rs = before ++ r :: after ∧ ∀ other ∈ after, other.shape ≠ shape

theorem isLatest_iff {rs : List (Record Value)} {shape : Shape} {r : Record Value} :
    IsLatest rs shape r ↔ rs.reverse.find? (fun r => r.shape == shape) = some r := by
  rw [List.find?_eq_some_iff_append, IsLatest, beq_iff_eq]
  refine and_congr_right fun _ => ?_
  constructor
  · rintro ⟨before, after, rfl, hafter⟩
    exact ⟨after.reverse, before.reverse, by simp, by simpa using hafter⟩
  · rintro ⟨after, before, hrs, hafter⟩
    refine ⟨before.reverse, after.reverse, ?_, by simpa using hafter⟩
    rw [← List.reverse_reverse rs, hrs]
    simp

/-- What holds of a survey after some steps, whatever they are. -/
structure Consistent (s : Survey) (steps : List Step) : Prop where
  /-- The identities are those of what is discovered. -/
  identities : ∀ i, i ∈ s.identities ↔ i ∈ s.discovered.map Declaration.identity
  /-- No two discovered declarations are the same one. -/
  distinct : (s.discovered.map Declaration.identity).Nodup
  /-- What is discovered is the first declaration of every identity, in the order of the steps. -/
  discovered : s.discovered = firsts Declaration.identity (declared steps)
  /-- A new declaration is told to be new, and added at the end. -/
  new : ∀ d, d.identity ∉ s.discovered.map Declaration.identity →
    s.has d = false ∧
    s.add d = (true, { s with
      discovered := s.discovered ++ [d]
      identities := d.identity :: s.identities })
  /-- A declaration that was discovered is told to be so, and nothing changes. -/
  known : ∀ d, d.identity ∈ s.discovered.map Declaration.identity →
    s.has d = true ∧ s.add d = (false, s)
  /-- No shape has two records. -/
  shapes : (Assoc.keys s.byShape).Nodup
  /-- The record of a shape has that shape, and is the last one that was entered with it. -/
  latest : ∀ shape r, (shape, r) ∈ s.byShape ↔ IsLatest (entered steps) shape r
  /-- Members with the same keys have the same record. -/
  lookup : ∀ ms ms' : List (String × Value),
    (∀ key, key ∈ ms.map Prod.fst ↔ key ∈ ms'.map Prod.fst) → s.lookup? ms = s.lookup? ms'

/-- **Every survey after steps is consistent**, in whatever order records are entered and
declarations are declared. -/
theorem consistent_run (steps : List Step) : Consistent (empty.run steps) steps := by
  have hdeclared := declared_run steps
  have hidentities : ∀ i, i ∈ (empty.run steps).identities ↔
      i ∈ (empty.run steps).discovered.map Declaration.identity := fun i => by
    rw [hdeclared.identities, hdeclared.discovered, mem_map_firsts fun _ _ h => h]
  have hhas : ∀ d, (empty.run steps).has d = true ↔
      d.identity ∈ (empty.run steps).discovered.map Declaration.identity := fun d => by
    rw [has, decide_eq_true_eq, hidentities]
  have hshapes : (Assoc.keys (empty.run steps).byShape).Nodup := by
    rw [keys_byShape_run]
    exact nodup_firsts_id _
  refine
    { identities := hidentities
      distinct := ?_
      discovered := hdeclared.discovered
      new := fun d hd => ?_
      known := fun d hd => ⟨(hhas d).2 hd, if_pos ((hhas d).2 hd)⟩
      shapes := hshapes
      latest := fun shape r => ?_
      lookup := fun ms ms' h => by rw [lookup?, lookup?, Shape.ofMembers_congr h] }
  · rw [hdeclared.discovered]
    exact nodup_map_firsts _ _
  · have hnew : ¬ (empty.run steps).has d = true := fun h => hd ((hhas d).1 h)
    exact ⟨Bool.eq_false_iff.2 hnew, if_neg hnew⟩
  · rw [Assoc.mem_iff_get?_eq_some hshapes, get?_byShape_run, isLatest_iff]

end Survey

end SampleTypes
