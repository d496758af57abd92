/-
What of a document a schema depends on: its skeleton. Every part of the schema of some visits is
told by the skeletons of the visits, but for samples (`sameUpToSamples_skeleton`), so two documents
of one skeleton have the same schema up to samples.

The one thing that shows more is the identity of an alias, which holds the text of its array: one of
two walks may skip an alias that the other discovers. That alias has the name of an earlier
declaration, so it is reported as dropped and never kept.
-/
import SampleTypes.Generation
import SampleTypes.Proofs.Schema.Pipeline
import SampleTypes.Proofs.Schema.Skeleton

namespace SampleTypes

/-! ## Names of shapes -/

namespace Survey

theorem lastName_skeleton (rs : List (Record Value)) :
    lastName (rs.map Record.skeleton) = lastName rs := by
  funext shape
  rw [lastName, lastName, ← List.map_reverse, List.find?_map, Option.map_map]
  simp only [Function.comp_def, Record.shape_skeleton]
  rfl

theorem namesOf_skeleton (rs : List (Record Value)) :
    namesOf (rs.map Record.skeleton) = namesOf rs := by
  funext shape
  rw [namesOf, namesOf, List.filter_map, List.map_map]
  simp only [Function.comp_def, Record.shape_skeleton]
  rfl

theorem namesOfShapes_skeleton (rs : List (Record Value)) :
    namesOfShapes (rs.map Record.skeleton) = namesOfShapes rs := by
  rw [namesOfShapes, namesOfShapes, namesOf_skeleton, List.map_map]
  simp only [Function.comp_def, Record.shape_skeleton]

end Survey

/-! ## Types -/

namespace FieldType

variable (nameOf : Shape → Option String) (policy : Survey.ElementPolicy)

theorem unsampled_ofElement? (v : Value) :
    (ofElement? nameOf policy v.skeleton).map unsampled =
      (ofElement? nameOf policy v).map unsampled := by
  cases v with
  | null | array => rfl
  | bool | int | float | string => cases policy <;> rfl
  | object ms =>
    rw [Value.skeleton, ofElement?, ofElement?, Shape.ofMembers_memberSkeletons]

/-- What a value and its skeleton have as types differs in samples only. -/
theorem unsampled_ofValue (v : Value) :
    (ofValue nameOf policy v.skeleton).unsampled = (ofValue nameOf policy v).unsampled := by
  cases v with
  | null | bool | int | float | string => rfl
  | array es =>
    have h : ((es.map Value.skeleton).findSome? (ofElement? nameOf policy)).map unsampled =
        (es.findSome? (ofElement? nameOf policy)).map unsampled := by
      rw [List.map_findSome?, List.map_findSome?, List.findSome?_map]
      simp only [Function.comp_def, unsampled_ofElement?]
    simp only [Value.skeleton, Value.elementSkeletons_eq, ofValue, unsampled]
    revert h
    cases (es.map Value.skeleton).findSome? (ofElement? nameOf policy) <;>
      cases es.findSome? (ofElement? nameOf policy) <;> simp
  | object ms =>
    rw [Value.skeleton, ofValue, ofValue, Shape.ofMembers_memberSkeletons]

theorem isUnresolved_unsampled (t : FieldType) : t.unsampled.isUnresolved = t.isUnresolved := by
  induction t with
  | text | number | bool | null | record | unknown => rfl
  | sequence t ih => exact ih

theorem unsampled_of_isUnresolved {t : FieldType} (h : t.isUnresolved = true) :
    t.unsampled = t := by
  induction t with
  | text | number | bool | null | record => simp [isUnresolved] at h
  | unknown => rfl
  | sequence t ih => rw [unsampled, ih h]

end FieldType

/-! ## Declarations -/

/-- The declaration without the samples in its types. -/
def Declaration.unsampled (d : Declaration FieldType) : Declaration FieldType :=
  d.map FieldType.unsampled

theorem Declaration.unsampled_map_skeleton (nameOf : Shape → Option String)
    (policy : Survey.ElementPolicy) (d : Declaration Value) :
    (d.skeleton.map (FieldType.ofValue nameOf policy)).unsampled =
      (d.map (FieldType.ofValue nameOf policy)).unsampled := by
  rw [unsampled, unsampled, skeleton, map_map, map_map, map_map]
  simp only [FieldType.unsampled_ofValue]

namespace Schema

theorem flatMap_objects_skeleton (vs : List Visit) :
    (vs.map Visit.skeleton).flatMap Visit.objects =
      (vs.flatMap Visit.objects).map Record.skeleton := by
  rw [List.flatMap_map, List.map_flatMap]
  simp only [Visit.objects_skeleton]

theorem flatMap_containers_skeleton (vs : List Visit) :
    (vs.map Visit.skeleton).flatMap Visit.containers =
      (vs.flatMap Visit.containers).map Declaration.skeleton := by
  rw [List.flatMap_map, List.map_flatMap]
  simp only [Visit.containers_skeleton]

theorem declarationsOf_skeleton (policy : Survey.ElementPolicy) (vs : List Visit) :
    (declarationsOf policy (vs.map Visit.skeleton)).map Declaration.unsampled =
      (declarationsOf policy vs).map Declaration.unsampled := by
  rw [declarationsOf, declarationsOf, flatMap_objects_skeleton, flatMap_containers_skeleton,
    Survey.lastName_skeleton, firsts_map, List.map_map, List.map_map, List.map_map]
  simp only [Declaration.name_skeleton, Function.comp_def, Declaration.unsampled_map_skeleton]

/-! ## Findings -/

/-- The records that are left when identities are told apart are those that are left when the
records alone are. -/
theorem filterMap_record?_firsts_identity (ds : List (Declaration Value)) :
    (firsts Declaration.identity ds).filterMap Declaration.record? =
      firsts (fun r => (Declaration.record r).identity) (ds.filterMap Declaration.record?) := by
  induction ds with
  | nil => rfl
  | cons d rest ih =>
    rw [firsts_cons]
    cases d with
    | record r =>
      have hr : (Declaration.record r).record? = some r := rfl
      rw [List.filterMap_cons_some hr, List.filterMap_cons_some hr, firsts_cons, ← ih,
        List.filterMap_filter, List.filter_filterMap]
      congr 2
      funext e
      cases e <;> simp [Declaration.record?, Declaration.identity, Option.filter]
    | «alias» a =>
      have ha : (Declaration.alias a).record? = none := rfl
      rw [List.filterMap_cons_none ha, List.filterMap_cons_none ha, ← ih, List.filterMap_filter]
      congr 1
      funext e
      cases e <;> simp [Declaration.record?, Declaration.identity]

theorem distinctRecords_skeleton (vs : List Visit) :
    distinctRecords (vs.map Visit.skeleton) = (distinctRecords vs).map Record.skeleton := by
  have hrecords : ∀ ds : List (Declaration Value),
      (ds.map Declaration.skeleton).filterMap Declaration.record? =
        (ds.filterMap Declaration.record?).map Record.skeleton := by
    intro ds
    rw [List.filterMap_map, List.map_filterMap]
    simp only [Function.comp_def, Declaration.record?_skeleton]
  rw [distinctRecords, distinctRecords, distinctContainers, distinctContainers,
    filterMap_record?_firsts_identity, filterMap_record?_firsts_identity,
    flatMap_containers_skeleton, hrecords, firsts_map]
  simp only [Declaration.identity, Record.shape_skeleton]
  rfl

theorem sharedOf_skeleton (vs : List Visit) : sharedOf (vs.map Visit.skeleton) = sharedOf vs := by
  rw [sharedOf, sharedOf, distinctRecords_skeleton, flatMap_objects_skeleton,
    Survey.namesOfShapes_skeleton, Survey.lastName_skeleton]

/-- The finding is that an alias was dropped. -/
def Finding.dropsAlias : Finding → Bool
  | .collision dropped _ => "alias ".toList.isPrefixOf dropped.toList
  | _ => false

theorem dropsAlias_record (r : Record Value) (kept : String) :
    (Finding.collision (Declaration.record r).summary kept).dropsAlias = false := by
  have h : (Declaration.record r).summary.toList = "record ".toList ++
      (Text.quoted r.name ++ " (" ++ Declaration.listNames r.fieldNames ++ ")").toList := by
    simp [Declaration.summary, Declaration.describe, Except.toOption]
  rw [Finding.dropsAlias, h]
  rfl

theorem dropsAlias_alias {a : Alias Value} (kept : String)
    (h : (Declaration.alias a).describe = .ok (Declaration.alias a).summary) :
    (Finding.collision (Declaration.alias a).summary kept).dropsAlias = true := by
  rw [Declaration.describe] at h
  split at h
  · next n _ =>
    simp only [Except.ok.injEq] at h
    rw [Finding.dropsAlias, ← h, String.append_assoc, String.append_assoc, String.append_assoc,
      String.toList_append, List.isPrefixOf_iff_prefix]
    exact List.prefix_append _ _
  · simp at h

/-- Of the findings about dropped declarations, those that are left are about records. -/
theorem filter_droppedOf (vs : List Visit) :
    (droppedOf vs).filter (fun f => !f.dropsAlias) =
      (distinctRecords vs).filterMap
        (fun r => droppedFor (vs.flatMap Visit.containers) (.record r)) := by
  rw [droppedOf, distinctRecords, List.filter_filterMap, List.filterMap_filterMap]
  refine List.filterMap_congr fun d hd => ?_
  have hdescribe := describe_of_mem_distinctContainers hd
  cases d with
  | record r =>
    simp only [Declaration.record?, Option.bind_some]
    cases hf : droppedFor (vs.flatMap Visit.containers) (.record r) with
    | none => rfl
    | some f =>
      obtain ⟨kept, rfl⟩ := eq_collision_of_droppedFor hf
      simp [Option.filter, dropsAlias_record]
  | «alias» a =>
    simp only [Declaration.record?, Option.bind_none]
    cases hf : droppedFor (vs.flatMap Visit.containers) (.alias a) with
    | none => rfl
    | some f =>
      obtain ⟨kept, rfl⟩ := eq_collision_of_droppedFor hf
      simp [Option.filter, dropsAlias_alias kept hdescribe]

theorem identity_skeleton_eq_iff (d : Declaration Value) (r : Record Value) :
    d.skeleton.identity = (Declaration.record r.skeleton).identity ↔
      d.identity = (Declaration.record r).identity := by
  cases d with
  | record r' =>
    have h : (Declaration.record r').skeleton = .record r'.skeleton := rfl
    rw [h, Declaration.identity, Declaration.identity, Record.shape_skeleton,
      Record.shape_skeleton]
    rfl
  | «alias» a => simp [Declaration.skeleton, Declaration.map, Declaration.identity]

theorem droppedFor_skeleton {ds : List (Declaration Value)} {r : Record Value}
    (hds : ∀ d ∈ ds, d.skeleton.summary = d.summary) (hr : .record r ∈ ds) :
    droppedFor (ds.map Declaration.skeleton) (.record r.skeleton) =
      droppedFor ds (.record r) := by
  rw [droppedFor, droppedFor, List.find?_map]
  simp only [Function.comp_def, Declaration.name_skeleton]
  cases hf : ds.find? (fun k => k.name == (Declaration.record r).name) with
  | none =>
    have hself := List.find?_eq_none.1 hf _ hr
    simp at hself
  | some first =>
    have hf' : ds.find? (fun k => k.name == (Declaration.record r.skeleton).name) = some first := hf
    have hsummary : (Declaration.record r.skeleton).summary = (Declaration.record r).summary :=
      hds _ hr
    rw [hf', Option.map_some, Option.bind_some, Option.bind_some, hsummary,
      hds first (List.mem_of_find?_eq_some hf)]
    simp only [identity_skeleton_eq_iff]

theorem filter_droppedOf_skeleton (vs : List Visit) :
    (droppedOf (vs.map Visit.skeleton)).filter (fun f => !f.dropsAlias) =
      (droppedOf vs).filter (fun f => !f.dropsAlias) := by
  have hds : ∀ d ∈ vs.flatMap Visit.containers, d.skeleton.summary = d.summary := by
    intro d hd
    obtain ⟨c, -, hc⟩ := List.mem_flatMap.1 hd
    exact Declaration.summary_skeleton (Visit.declaration?_ofDeclaration hc)
  rw [filter_droppedOf, filter_droppedOf, distinctRecords_skeleton, flatMap_containers_skeleton,
    List.filterMap_map]
  refine List.filterMap_congr fun r hr => ?_
  exact droppedFor_skeleton hds (mem_of_mem_distinctContainers (mem_distinctRecords.1 hr))

theorem unresolved_unsampled (d : Declaration FieldType) : unresolved d.unsampled = unresolved d := by
  cases d with
  | «alias» a =>
    simp only [Declaration.unsampled, Declaration.map, unresolved,
      FieldType.isUnresolved_unsampled]
    split
    · next h => rw [FieldType.unsampled_of_isUnresolved h]
    · rfl
  | record r =>
    simp only [Declaration.unsampled, Declaration.map, Record.map, unresolved, List.flatMap_map,
      FieldType.isUnresolved_unsampled]
    refine List.flatMap_congr fun p _ => ?_
    split
    · next h => rw [FieldType.unsampled_of_isUnresolved h]
    · rfl

theorem flatMap_unresolved_skeleton (policy : Survey.ElementPolicy) (vs : List Visit) :
    (declarationsOf policy (vs.map Visit.skeleton)).flatMap unresolved =
      (declarationsOf policy vs).flatMap unresolved := by
  have h : ∀ ds : List (Declaration FieldType),
      ds.flatMap unresolved = (ds.map Declaration.unsampled).flatMap unresolved := by
    intro ds
    rw [List.flatMap_map]
    simp only [unresolved_unsampled]
  rw [h, declarationsOf_skeleton, ← h]

end Schema

/-! ## Source text -/

namespace Haskell

variable {names : TypeNames}

theorem plainType_unsampled (t : FieldType) : plainType names t.unsampled = plainType names t := by
  induction t with
  | text | number | bool | null | record | unknown => rfl
  | sequence element ih =>
    cases element with
    | text | number | bool | null | record | unknown => rfl
    | sequence =>
      simp only [FieldType.unsampled, plainType] at ih ⊢
      rw [ih]

theorem typeExpression_unsampled (h : names.sampleComments = false) (t : FieldType) :
    typeExpression names true t.unsampled = typeExpression names true t := by
  cases t with
  | text sample =>
    cases sample with
    | none => rfl
    | some sample => simp [FieldType.unsampled, typeExpression, plainType, h]
  | number | bool | null | record | unknown => rfl
  | sequence element => exact plainType_unsampled (.sequence element)

/-- Without comments no sample is shown. -/
theorem render_unsampled (h : names.sampleComments = false) (d : Declaration FieldType) :
    render names d.unsampled = render names d := by
  cases d with
  | «alias» a =>
    simp only [Declaration.unsampled, Declaration.map, render, aliasType,
      typeExpression_unsampled h]
  | record r =>
    simp only [Declaration.unsampled, Declaration.map, render, recordType, recordDecoder,
      decoderLines, fieldLines, Record.name_map, Record.fieldNames_map]
    simp only [Record.map, List.length_map, List.zipWith_map_right, typeExpression_unsampled h]

end Haskell

/-! ## Two documents of one skeleton -/

namespace Schema

/-- Two schemas are equal but for the samples in their types and for the aliases that are reported
as dropped. -/
structure SameUpToSamples (a b : Schema) : Prop where
  declarations : a.declarations.map Declaration.unsampled = b.declarations.map Declaration.unsampled
  findings : a.findings.filter (fun f => !f.dropsAlias) = b.findings.filter (fun f => !f.dropsAlias)

theorem SameUpToSamples.rendered {a b : Schema} (h : SameUpToSamples a b) {s : Settings}
    (hs : s.typeNames.sampleComments = false) : a.rendered s = b.rendered s := by
  have hr : ∀ schema : Schema, schema.rendered s =
      (schema.declarations.map Declaration.unsampled).map (Haskell.render s.typeNames) := by
    intro schema
    rw [Schema.rendered, List.map_map]
    simp only [Function.comp_def, Haskell.render_unsampled hs]
  rw [hr, hr, h.declarations]

theorem SameUpToSamples.symm {a b : Schema} (h : SameUpToSamples a b) : SameUpToSamples b a :=
  ⟨h.declarations.symm, h.findings.symm⟩

theorem SameUpToSamples.trans {a b c : Schema} (h : SameUpToSamples a b)
    (h' : SameUpToSamples b c) : SameUpToSamples a c :=
  ⟨h.declarations.trans h'.declarations, h.findings.trans h'.findings⟩

theorem sameUpToSamples_skeleton (policy : Survey.ElementPolicy) (vs : List Visit) :
    SameUpToSamples (ofVisits policy (vs.map Visit.skeleton)) (ofVisits policy vs) := by
  refine ⟨declarationsOf_skeleton policy vs, ?_⟩
  simp only [ofVisits, List.filter_append, sharedOf_skeleton, filter_droppedOf_skeleton,
    flatMap_unresolved_skeleton]

/-- **Sample values do not influence the schema.** Two documents of one skeleton both have a
schema; the declarations are equal but for samples, the findings are equal but for dropped
aliases, and without comments the source text of every declaration is the same. -/
theorem ofDocument_congr_skeleton (s : Settings) {v w : Value} (h : v.skeleton = w.skeleton) :
    ∃ a b, ofDocument s v = .ok a ∧ ofDocument s w = .ok b ∧
      a.declarations.map Declaration.unsampled = b.declarations.map Declaration.unsampled ∧
      a.findings.filter (fun f => !f.dropsAlias) = b.findings.filter (fun f => !f.dropsAlias) ∧
      ∀ t : Settings, t.typeNames.sampleComments = false → a.rendered t = b.rendered t := by
  have hroots : (Visit.roots s.rootName s.declareRoot v).map Visit.skeleton =
      (Visit.roots s.rootName s.declareRoot w).map Visit.skeleton := by
    rw [← Visit.roots_skeleton, ← Visit.roots_skeleton, h]
  have hv := sameUpToSamples_skeleton s.elementPolicy (Visit.roots s.rootName s.declareRoot v)
  have hw := sameUpToSamples_skeleton s.elementPolicy (Visit.roots s.rootName s.declareRoot w)
  rw [hroots] at hv
  have hab := hv.symm.trans hw
  refine ⟨_, _, ?_, ?_, hab.declarations, hab.findings, fun t ht => hab.rendered ht⟩
  · rw [ofDocument, Survey.ofDocument_eq, ofSurvey_visitAll]
  · rw [ofDocument, Survey.ofDocument_eq, ofSurvey_visitAll]

/-- Two items with one tag each, the second of which is given. -/
def taggedItems (tag : Int) : Value :=
  .object [("items", .array [
    .object [("tags", .array [.int 1]), ("note", .string "first")],
    .object [("tags", .array [.int tag]), ("note", .null)]])]

/-- The second alias for the tags is discovered in one of the documents only. -/
theorem ofDocument_congr_skeleton_taggedItems :
    (taggedItems 1).skeleton = (taggedItems 2).skeleton ∧
    ∃ a b, ofDocument (.ofLayer .empty) (taggedItems 1) = .ok a ∧
      ofDocument (.ofLayer .empty) (taggedItems 2) = .ok b ∧
      a.declarations.map Declaration.unsampled = b.declarations.map Declaration.unsampled ∧
      a.findings.filter (fun f => !f.dropsAlias) = b.findings.filter (fun f => !f.dropsAlias) ∧
      ∀ t : Settings, t.typeNames.sampleComments = false → a.rendered t = b.rendered t :=
  ⟨rfl, ofDocument_congr_skeleton (.ofLayer .empty) rfl⟩

end Schema

end SampleTypes
