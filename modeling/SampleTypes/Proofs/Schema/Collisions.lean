/-
The declarations that are dropped by their names. The loop over the names warns only if two
identities differ, so that it misses none depends on the survey, which never holds two declarations
of one identity (`length_filterMap_droppedFor`). `repeated` says which declarations there are to
warn of without the loop, by their places alone.
-/
import SampleTypes.Proofs.Schema.Reordered
import SampleTypes.Proofs.Schema.Unresolved

namespace SampleTypes

/-! ## Words -/

/-- A warning that a declaration is dropped, told by its words. -/
def Diagnostic.isCollision (d : Diagnostic) : Bool :=
  d.warnsOf "Name collision: "

namespace Schema

/-- The words of a finding tell whether a declaration is dropped. -/
theorem Finding.isCollision_diagnostic (f : Finding) : f.diagnostic.isCollision = f.isCollision := by
  cases f with
  | sharedShape shape names winner => rfl
  | collision dropped kept =>
    have h : (Finding.collision dropped kept).diagnostic = ⟨.warning,
        "Name collision: " ++ (dropped ++ (" dropped in favor of " ++ kept))⟩ := by
      simp only [← String.append_assoc]
      rfl
    rw [h, Diagnostic.isCollision, Diagnostic.warnsOf_append (by decide)]
    rfl
  | unresolvedAlias name type =>
    have h : (Finding.unresolvedAlias name type).diagnostic = ⟨.warning,
        "Unresolved element type for alias " ++ (Text.quoted name ++ (": " ++ (type.describe ++
          " needs manual correction")))⟩ := by
      simp only [← String.append_assoc]
      rfl
    rw [h, Diagnostic.isCollision, Diagnostic.warnsOf_append (by decide)]
    rfl
  | unresolvedField record field type =>
    have h : (Finding.unresolvedField record field type).diagnostic = ⟨.warning,
        "Unresolved type for field " ++ (record ++ ("." ++ (field ++ (": " ++ (type.describe ++
          " needs manual correction")))))⟩ := by
      simp only [← String.append_assoc]
      rfl
    rw [h, Diagnostic.isCollision, Diagnostic.warnsOf_append (by decide)]
    rfl

/-! ## What there is to warn of -/

/-- The declarations that are not the first of their name, in order. -/
def repeated (ds : List (Declaration Value)) : List (Declaration Value) :=
  (ds.zipIdx.filter (fun p => ds.findIdx (fun d => d.name == p.1.name) < p.2)).map Prod.fst

theorem repeated_append_singleton (ds : List (Declaration Value)) (d : Declaration Value) :
    repeated (ds ++ [d]) =
      repeated ds ++ if d.name ∈ ds.map Declaration.name then [d] else [] := by
  have hfirst : ∀ e : Declaration Value, e.name ∈ ds.map Declaration.name →
      ds.findIdx (fun k => k.name == e.name) < ds.length := by
    intro e he
    obtain ⟨k, hk, hke⟩ := List.mem_map.1 he
    exact List.findIdx_lt_length_of_exists ⟨k, hk, by simpa using hke⟩
  have hbefore : ∀ p ∈ ds.zipIdx,
      decide ((ds ++ [d]).findIdx (fun e => e.name == p.1.name) < p.2) =
        decide (ds.findIdx (fun e => e.name == p.1.name) < p.2) := by
    intro p hp
    have hmem : p.1 ∈ ds := List.fst_mem_of_mem_zipIdx hp
    rw [List.findIdx_append, if_pos (hfirst p.1 (List.mem_map_of_mem hmem))]
  have hlast : (ds ++ [d]).findIdx (fun e => e.name == d.name) < ds.length ↔
      d.name ∈ ds.map Declaration.name := by
    rw [List.findIdx_append]
    constructor
    · intro h
      by_contra hd
      have hno : ds.findIdx (fun e => e.name == d.name) = ds.length := by
        rw [List.findIdx_eq_length]
        intro e he
        exact beq_eq_false_iff_ne.2 fun hed => hd (List.mem_map.2 ⟨e, he, hed⟩)
      simp [hno] at h
    · intro h
      simp [hfirst d h]
  rw [repeated, List.zipIdx_append, List.filter_append, List.map_append, List.filter_congr hbefore]
  simp only [List.zipIdx_singleton, Nat.zero_add, List.filter_cons, hlast, List.filter_nil,
    decide_eq_true_eq]
  by_cases hd : d.name ∈ ds.map Declaration.name
  · rw [if_pos hd, if_pos hd]
    rfl
  · rw [if_neg hd, if_neg hd]
    rfl

theorem mem_of_mem_repeated {ds : List (Declaration Value)} {d : Declaration Value}
    (h : d ∈ repeated ds) : d ∈ ds := by
  obtain ⟨p, hp, rfl⟩ := List.mem_map.1 h
  exact List.fst_mem_of_mem_zipIdx (List.mem_filter.1 hp).1

/-! ## The report -/

/-- With distinct identities, there is a finding for every repeated name. -/
theorem forall₂_droppedFor_repeated {ds : List (Declaration Value)}
    (h : (ds.map Declaration.identity).Nodup) :
    List.Forall₂ (fun f d => droppedFor ds d = some f) (ds.filterMap (droppedFor ds))
      (repeated ds) := by
  -- From the end: what comes after a declaration decides nothing about it.
  induction ds using List.reverseRecOn with
  | nil => exact .nil
  | append_singleton ds d ih =>
    rw [List.map_append, List.map_singleton, List.nodup_append] at h
    obtain ⟨hds, -, hd⟩ := h
    have hbefore : ∀ e ∈ ds, droppedFor (ds ++ [d]) e = droppedFor ds e :=
      fun e he => droppedFor_append (List.mem_map_of_mem he) [d]
    have hih : List.Forall₂ (fun f e => droppedFor (ds ++ [d]) e = some f)
        (ds.filterMap (droppedFor ds)) (repeated ds) := by
      refine List.forall₂_iff_get.2 ⟨(ih hds).length_eq, fun i hi hi' => ?_⟩
      rw [hbefore _ (mem_of_mem_repeated (List.get_mem _ _))]
      exact (ih hds).get hi hi'
    rw [List.filterMap_append, List.filterMap_congr hbefore, repeated_append_singleton]
    by_cases hname : d.name ∈ ds.map Declaration.name
    · have hnew : d.identity ∉ ds.map Declaration.identity :=
        fun hmem => hd _ hmem _ List.mem_cons_self rfl
      obtain ⟨f, hf⟩ := Option.isSome_iff_exists.1 (isSome_droppedFor hname hnew)
      have hlast : droppedFor (ds ++ [d]) d = some f := (droppedFor_append hname [d]).trans hf
      rw [if_pos hname, List.filterMap_cons_some hlast]
      exact List.rel_append hih (.cons hlast .nil)
    · rw [if_neg hname, List.filterMap_cons_none (droppedFor_of_not_mem hname [])]
      exact List.rel_append hih .nil

/-- The warning describes a dropped declaration and the first one of its name, which is what the
schema has under that name. -/
def Reports (s : Survey) (policy : Survey.ElementPolicy) (schema : Schema) (warning : Diagnostic)
    (dropped : Declaration Value) : Prop :=
  ∃ kept droppedText keptText,
    s.discovered.find? (fun d => d.name == dropped.name) = some kept ∧
    schema.get? dropped.name = some (typed s policy kept) ∧
    dropped.describe = .ok droppedText ∧
    kept.describe = .ok keptText ∧
    warning =
      ⟨.warning, "Name collision: " ++ droppedText ++ " dropped in favor of " ++ keptText⟩

variable {policy : Survey.ElementPolicy}

theorem filter_isCollision_ofVisits (vs : List Visit) :
    (ofVisits policy vs).diagnostics.filter Diagnostic.isCollision =
      (droppedOf vs).map Finding.diagnostic := by
  have hshared : ∀ f ∈ sharedOf vs, ¬ f.isCollision = true := fun f hf => by
    simp [(kind_of_mem_sharedOf hf).1]
  have hdropped : ∀ f ∈ droppedOf vs, f.isCollision = true := fun f hf =>
    (kind_of_mem_droppedOf hf).1
  have hunresolved : ∀ f ∈ (declarationsOf policy vs).flatMap unresolved,
      ¬ f.isCollision = true := fun f hf => by
    simp [(kind_of_mem_unresolved hf).1]
  have hwords : Diagnostic.isCollision ∘ Finding.diagnostic = Finding.isCollision :=
    funext Finding.isCollision_diagnostic
  rw [diagnostics, List.filter_map, hwords, ofVisits, List.filter_append, List.filter_append,
    List.filter_eq_nil_iff.2 hshared, List.filter_eq_self.2 hdropped,
    List.filter_eq_nil_iff.2 hunresolved, List.nil_append, List.append_nil]

theorem reports_of_droppedFor {vs : List Visit} {d : Declaration Value} {f : Finding}
    (hd : d ∈ distinctContainers vs) (hf : droppedFor (distinctContainers vs) d = some f) :
    Reports (Survey.empty.visitAll vs) policy (ofVisits policy vs) f.diagnostic d := by
  obtain ⟨kept, hkept, hcollision⟩ := Option.bind_eq_some_iff.1 hf
  split at hcollision
  · cases hcollision
  · obtain rfl := Option.some.inj hcollision
    have hfirst : (vs.flatMap Visit.containers).find? (fun k => k.name == d.name) = some kept := by
      rw [← hkept]
      exact (find?_firsts (fun _ _ h => Declaration.name_of_identity h) _ _).symm
    refine ⟨kept, d.summary, kept.summary, ?_, ?_, ?_, ?_, rfl⟩
    · rw [Survey.discovered_visitAll]
      exact hkept
    · rw [get?_ofVisits, hfirst, typed_eq_map, Survey.nameOf?_visitAll]
      rfl
    · exact describe_of_mem_distinctContainers hd
    · exact describe_of_mem_distinctContainers (List.mem_of_find?_eq_some hkept)

/-- **No declaration is dropped silently.** After any sequence of visits, the warnings that a
declaration is dropped are one for each discovered declaration that is not the first of its name, in
the order of discovery. Each describes that declaration and the one that is kept in its place. So
the warnings and the declarations of the schema are together as many as what was discovered. -/
theorem collisions_reported (policy : Survey.ElementPolicy) (vs : List Visit) :
    ∃ schema,
      ofSurvey (Survey.empty.visitAll vs) policy = .ok schema ∧
      List.Forall₂ (Reports (Survey.empty.visitAll vs) policy schema)
        (schema.diagnostics.filter Diagnostic.isCollision)
        (repeated (Survey.empty.visitAll vs).discovered) ∧
      (schema.diagnostics.filter Diagnostic.isCollision).length + schema.declarations.length =
        (Survey.empty.visitAll vs).discovered.length := by
  refine ⟨_, ofSurvey_visitAll policy vs, ?_, ?_⟩
  · have hd : (Survey.empty.visitAll vs).discovered = distinctContainers vs :=
      Survey.discovered_visitAll vs
    have hall := forall₂_droppedFor_repeated (nodup_map_firsts Declaration.identity
      (vs.flatMap Visit.containers))
    rw [filter_isCollision_ofVisits, hd, List.forall₂_map_left_iff, droppedOf,
      ← droppedFor_firsts_identity]
    refine List.forall₂_iff_get.2 ⟨hall.length_eq, fun i hi hi' => ?_⟩
    exact reports_of_droppedFor (mem_of_mem_repeated (List.get_mem _ _)) (hall.get hi hi')
  · have hlength := length_droppedOf vs
    have hdeclared : (ofVisits policy vs).declarations.length =
        (firsts Declaration.name (vs.flatMap Visit.containers)).length := by
      simp [ofVisits, declarationsOf]
    have hdiscovered : (Survey.empty.visitAll vs).discovered.length =
        (distinctContainers vs).length := by
      rw [Survey.discovered_visitAll]
      rfl
    rw [filter_isCollision_ofVisits, List.length_map]
    omega

end Schema

end SampleTypes
