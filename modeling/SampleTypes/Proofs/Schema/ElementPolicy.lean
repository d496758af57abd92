/-
The two element policies compared. Whether scalars decide shows in a type only where a scalar is the
first element that could decide: `findSome?_ofElement?_objectsAndScalars` gives what the one policy
finds in terms of what the other finds. So letting scalars decide changes no declaration but in such
types, and resolves some that were unresolved.
-/
import Mathlib.Data.List.Flatten
import SampleTypes.Generation
import SampleTypes.Proofs.Schema.Unresolved

namespace SampleTypes

/-! ## Types -/

/-- The type of the first element of an array that is an object or a scalar other than null, if that
is a scalar. -/
def Value.leadingScalarType? : Value → Option FieldType
  | .array es => (es.find? (decides .objectsAndScalars)).bind Survey.scalarType?
  | _ => none

namespace FieldType

variable {nameOf : Shape → Option String}

/-- Letting scalars decide finds a leading scalar, else what objects alone give. -/
theorem findSome?_ofElement?_objectsAndScalars {es : List Value}
    (h : ∀ ms, .object ms ∈ es → (nameOf (Shape.ofMembers ms)).isSome) :
    es.findSome? (ofElement? nameOf .objectsAndScalars) =
      (Value.array es).leadingScalarType?.or (es.findSome? (ofElement? nameOf .objects)) := by
  simp only [Value.leadingScalarType?]
  induction es with
  | nil => rfl
  | cons v rest ih =>
    have ih := ih fun ms hms => h ms (List.mem_cons_of_mem _ hms)
    cases v with
    | null | array => exact ih
    | bool | int | float | string => rfl
    | object ms =>
      obtain ⟨name, hname⟩ := Option.isSome_iff_exists.1 (h ms List.mem_cons_self)
      have hms : ∀ policy, ofElement? nameOf policy (.object ms) = some (.record name) :=
        fun policy => by rw [ofElement?, hname, Option.map_some]
      rw [List.findSome?_cons, List.findSome?_cons, hms, hms]
      rfl

/-- Objects alone give records. -/
theorem eq_record_of_ofElement?_objects {v : Value} {t : FieldType}
    (h : ofElement? nameOf .objects v = some t) : ∃ name, t = .record name := by
  cases v with
  | null | bool | int | float | string | array => cases h
  | object ms =>
    obtain ⟨name, -, rfl⟩ := Option.map_eq_some_iff.1 h
    exact ⟨name, rfl⟩

theorem ne_of_scalarType? {v : Value} {t : FieldType} (h : Survey.scalarType? v = some t) :
    t ≠ .unknown ∧ ∀ name, t ≠ .record name := by
  cases v <;> cases h <;> simp

variable {v : Value} (h : ∀ ms, v.Exposes ms → (nameOf (Shape.ofMembers ms)).isSome)

include h

/-- With a leading scalar, an array is a sequence of its type. -/
theorem ofValue_of_leadingScalarType? {t : FieldType} (ht : v.leadingScalarType? = some t) :
    ofValue nameOf .objectsAndScalars v = .sequence t := by
  cases v with
  | null | bool | int | float | string | object => cases ht
  | array es =>
    rw [ofValue, findSome?_ofElement?_objectsAndScalars fun ms hms => h ms (.element hms), ht]
    rfl

/-- **Types differ exactly where a scalar leads.** -/
theorem ofValue_ne_iff :
    ofValue nameOf .objects v ≠ ofValue nameOf .objectsAndScalars v ↔
      v.leadingScalarType?.isSome := by
  cases hlead : v.leadingScalarType? with
  | none =>
    have heq : ofValue nameOf .objects v = ofValue nameOf .objectsAndScalars v := by
      cases v with
      | null | bool | int | float | string | object => rfl
      | array es =>
        rw [ofValue, ofValue,
          findSome?_ofElement?_objectsAndScalars fun ms hms => h ms (.element hms), hlead,
          Option.none_or]
    simp [heq]
  | some t =>
    rw [ofValue_of_leadingScalarType? h hlead]
    refine iff_of_true (fun heq => ?_) rfl
    cases v with
    | null | bool | int | float | string | object => cases hlead
    | array es =>
      obtain ⟨e, -, he⟩ := Option.bind_eq_some_iff.1 hlead
      obtain ⟨hunknown, hrecord⟩ := ne_of_scalarType? he
      rw [ofValue, sequence.injEq] at heq
      cases hf : es.findSome? (ofElement? nameOf .objects) with
      | none => exact hunknown (by rw [← heq, hf]; rfl)
      | some u =>
        obtain ⟨_, _, _, -, hu, -⟩ := List.findSome?_eq_some_iff.1 hf
        obtain ⟨name, rfl⟩ := eq_record_of_ofElement?_objects hu
        exact hrecord name (by rw [← heq, hf]; rfl)

end FieldType

/-! ## Warnings -/

/-- What no element decides if scalars may, none decides if they may not. -/
theorem Value.isUndecided_objects {v : Value} (h : v.isUndecided .objectsAndScalars = true) :
    v.isUndecided .objects = true := by
  cases v with
  | null | bool | int | float | string | object => cases h
  | array es =>
    refine List.all_eq_true.2 fun e he => ?_
    have hdecides := List.all_eq_true.1 h e he
    cases e with
    | null | array | bool | int | float | string => rfl
    | object ms => cases hdecides

namespace Schema

theorem undecidedFindings_sublist (d : Declaration Value) :
    (undecidedFindings .objectsAndScalars d).Sublist (undecidedFindings .objects d) := by
  cases d with
  | «alias» a =>
    rw [undecidedFindings, undecidedFindings]
    by_cases ha : a.element.isUndecided .objectsAndScalars = true
    · rw [if_pos ha, if_pos (Value.isUndecided_objects ha)]
    · rw [if_neg ha]
      exact List.nil_sublist _
  | record r =>
    exact (List.monotone_filter_right r.fields fun _ => Value.isUndecided_objects).map _

/-! ## Two runs -/

/-- What changes in a schema if scalars may decide: types where a scalar leads, and fewer warnings
that a type is not known. -/
structure ScalarsRefine (s : Survey) (strict scalar : Schema) : Prop where
  /-- The same names, kinds and fields in the same order. -/
  outline : scalar.declarations.map (Declaration.map fun _ => ()) =
    strict.declarations.map (Declaration.map fun _ => ())
  typed_strict : strict.declarations = (keepFirst [] s.discovered).map (typed s .objects)
  typed_scalar : scalar.declarations =
    (keepFirst [] s.discovered).map (typed s .objectsAndScalars)
  /-- Types differ exactly where a scalar leads. -/
  differs : ∀ d ∈ keepFirst [] s.discovered, ∀ v ∈ d.payloads,
    (s.typeOf .objects v ≠ s.typeOf .objectsAndScalars v ↔ v.leadingScalarType?.isSome)
  /-- And there they are sequences of the type of that scalar. -/
  leads : ∀ d ∈ keepFirst [] s.discovered, ∀ v ∈ d.payloads, ∀ t,
    v.leadingScalarType? = some t → s.typeOf .objectsAndScalars v = .sequence t
  unresolved : (scalar.diagnostics.filter Diagnostic.isUnresolved).Sublist
    (strict.diagnostics.filter Diagnostic.isUnresolved)
  others : scalar.diagnostics.filter (fun d => !d.isUnresolved) =
    strict.diagnostics.filter (fun d => !d.isUnresolved)

theorem scalarsRefine_ofVisits (vs : List Visit) :
    ScalarsRefine (Survey.empty.visitAll vs) (ofVisits .objects vs)
      (ofVisits .objectsAndScalars vs) where
  outline := by simp [ofVisits, declarationsOf, Declaration.map_map, Function.comp_def]
  typed_strict := declarations_ofVisits _ vs
  typed_scalar := declarations_ofVisits _ vs
  differs d hd v hv := by
    rw [Survey.typeOf_visitAll, Survey.typeOf_visitAll]
    exact FieldType.ofValue_ne_iff (isSome_lastName_of_kept hd hv)
  leads d hd v hv t ht := by
    rw [Survey.typeOf_visitAll]
    exact FieldType.ofValue_of_leadingScalarType? (isSome_lastName_of_kept hd hv) ht
  unresolved := by
    have hwords := fun policy => filter_diagnostics id (ofVisits policy vs)
    simp only [id] at hwords
    rw [hwords, hwords, filter_isUnresolved_ofVisits, filter_isUnresolved_ofVisits,
      flatMap_unresolved_declarationsOf, flatMap_unresolved_declarationsOf]
    exact (List.Sublist.flatMap_right _ fun d _ => undecidedFindings_sublist d).map _
  others := by
    rw [filter_diagnostics, filter_diagnostics, filter_not_isUnresolved_ofVisits,
      filter_not_isUnresolved_ofVisits]

/-- **Letting scalars decide is a conservative refinement**, for every document and all settings. -/
theorem scalarSequences_refine (s : Settings) (document : Value) :
    ∃ strict scalar,
      ofDocument { s with scalarSequences := false } document = .ok strict ∧
      ofDocument { s with scalarSequences := true } document = .ok scalar ∧
      ScalarsRefine (Survey.ofDocument s.rootName s.declareRoot document) strict scalar := by
  simp only [ofDocument, Survey.ofDocument_eq]
  exact ⟨_, _, ofSurvey_visitAll _ _, ofSurvey_visitAll _ _, scalarsRefine_ofVisits _⟩

end Schema

end SampleTypes
