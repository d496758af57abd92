/-
What a survey holds after a sequence of visits. A walk enters its objects in their order and
declares its containers in theirs; the two do not meet, since entering touches the shapes only and
declaring the declarations only. So a walk is told by the two lists of its visits (`visitAll_eq`):
the record of a shape is the last one entered (`get?_byShape_visitAll`), the shapes are in the order
in which they were first entered (`keys_byShape_visitAll`), and what is discovered is the first
declaration of every identity (`discovered_visitAll`). `holds_after_visits` puts these together.
-/
import SampleTypes.OrderedMap
import SampleTypes.Proofs.FirstOfKey
import SampleTypes.Proofs.Survey.Visits

namespace SampleTypes.Survey

/-- Enters records in order. -/
def enterAll (s : Survey) (rs : List (Record Value)) : Survey :=
  rs.foldl enter s

/-- Declares declarations in order. -/
def declareAll (s : Survey) (ds : List (Declaration Value)) : Survey :=
  ds.foldl declare s

/-- Walks values in order. -/
def visitAll (s : Survey) (vs : List Visit) : Survey :=
  vs.foldl (fun s c => s.visit c.name c.value) s

/-! ## Entering and declaring -/

theorem declare_enter (s : Survey) (d : Declaration Value) (r : Record Value) :
    (s.declare d).enter r = (s.enter r).declare d := by
  by_cases h : s.has d = true
  · have h' : (s.enter r).has d = true := h
    rw [declare_of_has h, declare_of_has h']
  · have h' : ¬ (s.enter r).has d = true := h
    rw [declare_of_not_has h, declare_of_not_has h']
    rfl

theorem declareAll_enter (s : Survey) (ds : List (Declaration Value)) (r : Record Value) :
    (s.declareAll ds).enter r = (s.enter r).declareAll ds := by
  induction ds generalizing s with
  | nil => rfl
  | cons d rest ih =>
    simp only [declareAll, List.foldl_cons] at ih ⊢
    rw [ih, declare_enter]

theorem declareAll_enterAll (s : Survey) (ds : List (Declaration Value)) (rs : List (Record Value)) :
    (s.declareAll ds).enterAll rs = (s.enterAll rs).declareAll ds := by
  induction rs generalizing s with
  | nil => rfl
  | cons r rest ih =>
    simp only [enterAll, List.foldl_cons] at ih ⊢
    rw [declareAll_enter, ih]

theorem enterAll_append (s : Survey) (rs rs' : List (Record Value)) :
    s.enterAll (rs ++ rs') = (s.enterAll rs).enterAll rs' :=
  List.foldl_append

theorem declareAll_append (s : Survey) (ds ds' : List (Declaration Value)) :
    s.declareAll (ds ++ ds') = (s.declareAll ds).declareAll ds' :=
  List.foldl_append

/-! ## A walk by its visits -/

theorem visitMembers_eq (s : Survey) (ms : List (String × Value)) :
    s.visitMembers ms = s.visitAll (ms.map Visit.ofMember) := by
  induction ms generalizing s with
  | nil => rfl
  | cons m rest ih => exact ih _

theorem visitElements_eq (s : Survey) (name : String) (es : List Value) :
    s.visitElements (elementName name) es = s.visitAll (es.map (Visit.ofElement name)) := by
  induction es generalizing s with
  | nil => rfl
  | cons v rest ih => exact ih _

/-- An object is entered before its children are visited, a container is declared after. -/
theorem visit_eq_visitAll_children (s : Survey) (c : Visit) :
    s.visit c.name c.value =
      ((s.enterAll c.record?.toList).visitAll c.children).declareAll c.declaration?.toList := by
  obtain ⟨name, v⟩ := c
  cases v with
  | null | bool | int | float | string => rfl
  | array es =>
    simp only [visit, visitElements_eq]
    rfl
  | object ms =>
    simp only [visit, visitMembers_eq]
    rfl

/-- If each of some visits is told by its two lists, so are they together. -/
theorem visitAll_eq_of {vs : List Visit}
    (h : ∀ c ∈ vs, ∀ s : Survey, s.visit c.name c.value =
      (s.enterAll c.objects).declareAll c.containers) (s : Survey) :
    s.visitAll vs =
      (s.enterAll (vs.flatMap Visit.objects)).declareAll (vs.flatMap Visit.containers) := by
  induction vs generalizing s with
  | nil => rfl
  | cons c rest ih =>
    have hrest := ih (fun c hc => h c (List.mem_cons_of_mem _ hc))
    have hc := h c List.mem_cons_self s
    simp only [visitAll, List.foldl_cons] at hrest ⊢
    rw [hc, hrest, declareAll_enterAll, List.flatMap_cons, List.flatMap_cons, enterAll_append,
      declareAll_append]

theorem visit_eq (c : Visit) (s : Survey) :
    s.visit c.name c.value = (s.enterAll c.objects).declareAll c.containers := by
  induction c using Visit.induction generalizing s with
  | step c ih =>
    rw [visit_eq_visitAll_children, visitAll_eq_of ih, Visit.objects_eq, Visit.containers_eq,
      enterAll_append, declareAll_append]

/-- **A walk enters its objects and declares its containers**, whatever was found before. -/
theorem visitAll_eq (s : Survey) (vs : List Visit) :
    s.visitAll vs =
      (s.enterAll (vs.flatMap Visit.objects)).declareAll (vs.flatMap Visit.containers) :=
  visitAll_eq_of (fun c _ => visit_eq c) s

theorem ofDocument_eq (rootName : String) (declareRoot : Bool) (document : Value) :
    ofDocument rootName declareRoot document =
      empty.visitAll (Visit.roots rootName declareRoot document) := by
  cases declareRoot with
  | true => rfl
  | false =>
    cases document with
    | object ms => exact visitMembers_eq empty ms
    | null | bool | int | float | string | array => rfl

/-! ## The record of a shape -/

@[simp] theorem byShape_declareAll (s : Survey) (ds : List (Declaration Value)) :
    (s.declareAll ds).byShape = s.byShape := by
  induction ds generalizing s with
  | nil => rfl
  | cons d rest ih =>
    have hd : (s.declare d).byShape = s.byShape := by
      by_cases h : s.has d = true
      · rw [declare_of_has h]
      · rw [declare_of_not_has h]
    simp only [declareAll, List.foldl_cons] at ih ⊢
    rw [ih, hd]

/-- The last of the entered records of a shape counts, else the one that was there before. -/
theorem get?_byShape_enterAll (s : Survey) (rs : List (Record Value)) (shape : Shape) :
    (s.enterAll rs).byShape.get? shape =
      (rs.reverse.find? (fun r => r.shape == shape)).or (s.byShape.get? shape) := by
  induction rs generalizing s with
  | nil => rfl
  | cons r rest ih =>
    simp only [enterAll, List.foldl_cons] at ih ⊢
    rw [ih, List.reverse_cons, List.find?_append, Option.or_assoc]
    congr 1
    by_cases hr : r.shape = shape
    · subst hr
      simp [enter]
    · have hb : (r.shape == shape) = false := by simpa using hr
      simp only [enter, List.find?_cons, hb, List.find?_nil, Option.none_or]
      exact Assoc.get?_set_other (Ne.symm hr) r s.byShape

theorem get?_byShape_views (rs : List (Record Value)) (ds : List (Declaration Value))
    (shape : Shape) :
    ((empty.enterAll rs).declareAll ds).byShape.get? shape =
      rs.reverse.find? (fun r => r.shape == shape) := by
  rw [byShape_declareAll, get?_byShape_enterAll]
  exact Option.or_none

theorem get?_byShape_visitAll (vs : List Visit) (shape : Shape) :
    (empty.visitAll vs).byShape.get? shape =
      (vs.flatMap Visit.objects).reverse.find? (fun r => r.shape == shape) := by
  rw [visitAll_eq, get?_byShape_views]

theorem keys_byShape_enterAll {s : Survey} {shapes : List Shape}
    (h : Assoc.keys s.byShape = firsts id shapes) (rs : List (Record Value)) :
    Assoc.keys (s.enterAll rs).byShape = firsts id (shapes ++ rs.map Record.shape) := by
  induction rs generalizing s shapes with
  | nil => rwa [List.map_nil, List.append_nil]
  | cons r rest ih =>
    have hr : Assoc.keys (s.enter r).byShape = firsts id (shapes ++ [r.shape]) := by
      rw [enter, Assoc.keys_set, h, firsts_append_singleton, List.map_id]
      simp only [mem_firsts_id, id]
    rw [List.map_cons, List.append_cons]
    exact ih hr

theorem keys_byShape_views (rs : List (Record Value)) (ds : List (Declaration Value)) :
    Assoc.keys ((empty.enterAll rs).declareAll ds).byShape = firsts id (rs.map Record.shape) := by
  have hempty : Assoc.keys Survey.empty.byShape = firsts id [] := rfl
  rw [byShape_declareAll, keys_byShape_enterAll hempty, List.nil_append]

theorem keys_byShape_visitAll (vs : List Visit) :
    Assoc.keys (empty.visitAll vs).byShape =
      firsts id ((vs.flatMap Visit.objects).map Record.shape) := by
  rw [visitAll_eq, keys_byShape_views]

/-! ## What is discovered -/

/-- The survey has declared `ds` and nothing else. -/
structure Declared (s : Survey) (ds : List (Declaration Value)) : Prop where
  discovered : s.discovered = firsts Declaration.identity ds
  identities : ∀ i, i ∈ s.identities ↔ i ∈ ds.map Declaration.identity

theorem Declared.empty : Declared Survey.empty [] := ⟨rfl, by simp [Survey.empty]⟩

theorem Declared.declare {s : Survey} {ds : List (Declaration Value)} (h : Declared s ds)
    (d : Declaration Value) : Declared (s.declare d) (ds ++ [d]) := by
  have hd : s.has d = true ↔ d.identity ∈ ds.map Declaration.identity := by
    rw [has, decide_eq_true_eq, h.identities]
  by_cases hs : s.has d = true
  · rw [declare_of_has hs]
    refine ⟨?_, fun i => ?_⟩
    · rw [firsts_append_singleton, if_pos (hd.1 hs), h.discovered]
    · rw [h.identities, List.map_append, List.mem_append, List.map_singleton, List.mem_singleton]
      exact ⟨.inl, fun hi => hi.elim id (fun hi => hi ▸ hd.1 hs)⟩
  · rw [declare_of_not_has hs]
    refine ⟨?_, fun i => ?_⟩
    · rw [firsts_append_singleton, if_neg (fun hm => hs (hd.2 hm)), ← h.discovered]
    · rw [List.mem_cons, h.identities, List.map_append, List.mem_append, List.map_singleton,
        List.mem_singleton, or_comm]

theorem Declared.declareAll {s : Survey} {ds : List (Declaration Value)} (h : Declared s ds)
    (ds' : List (Declaration Value)) : Declared (s.declareAll ds') (ds ++ ds') := by
  induction ds' generalizing s ds with
  | nil =>
    rw [List.append_nil]
    exact h
  | cons d rest ih =>
    rw [List.append_cons]
    exact ih (h.declare d)

theorem Declared.enterAll {s : Survey} {ds : List (Declaration Value)} (h : Declared s ds)
    (rs : List (Record Value)) : Declared (s.enterAll rs) ds := by
  induction rs generalizing s with
  | nil => exact h
  | cons r rest ih => exact ih ⟨h.discovered, h.identities⟩

theorem declared_views (rs : List (Record Value)) (ds : List (Declaration Value)) :
    Declared ((empty.enterAll rs).declareAll ds) ds :=
  (Declared.empty.enterAll rs).declareAll ds

theorem declared_visitAll (vs : List Visit) :
    Declared (empty.visitAll vs) (vs.flatMap Visit.containers) := by
  rw [visitAll_eq]
  exact declared_views _ _

theorem discovered_visitAll (vs : List Visit) :
    (empty.visitAll vs).discovered =
      firsts Declaration.identity (vs.flatMap Visit.containers) :=
  (declared_visitAll vs).discovered

theorem mem_identities_visitAll (vs : List Visit) (i : Declaration.Identity) :
    i ∈ (empty.visitAll vs).identities ↔
      i ∈ (empty.visitAll vs).discovered.map Declaration.identity := by
  rw [(declared_visitAll vs).identities, discovered_visitAll, mem_map_firsts fun _ _ h => h]

/-! ## The whole survey -/

/-- **What a survey holds after any sequence of visits.** Every shape has the last of the objects
with that shape, in the order in which objects are entered, and the shapes are in the order of their
first objects. What is discovered is the first container of every identity, in the order in which
containers are completed, and the identities are those of what is discovered. -/
theorem holds_after_visits (vs : List Visit) :
    (∀ shape, (empty.visitAll vs).byShape.get? shape =
      (vs.flatMap Visit.objects).reverse.find? (fun r => r.shape == shape)) ∧
    Assoc.keys (empty.visitAll vs).byShape =
      firsts id ((vs.flatMap Visit.objects).map Record.shape) ∧
    (empty.visitAll vs).discovered =
      firsts Declaration.identity (vs.flatMap Visit.containers) ∧
    ∀ i, i ∈ (empty.visitAll vs).identities ↔
      i ∈ (empty.visitAll vs).discovered.map Declaration.identity :=
  ⟨get?_byShape_visitAll vs, keys_byShape_visitAll vs, discovered_visitAll vs,
    mem_identities_visitAll vs⟩

end SampleTypes.Survey
