/-
Walks over surveys that hold something already. A walk only extends a survey: what was discovered
stays in front, and the shapes that were entered keep their places. And it settles: the same walk
again changes nothing (`visitAll_visitAll`). All its identities are known by then, so nothing is
declared. Its objects are entered once more, each over what the first walk left for its shape, and
what was entered in between does not show in the end (`Assoc.setAll_setAll_self`).
-/
import SampleTypes.Proofs.Survey.Walk

namespace SampleTypes

/-! ## Keys that are set again -/

namespace Assoc

variable {κ ν : Type} [DecidableEq κ]

theorem keys_prefix_set (key : κ) (value : ν) (pairs : Assoc κ ν) :
    keys pairs <+: keys (set key value pairs) := by
  rw [keys_set]
  split
  · exact List.prefix_rfl
  · exact List.prefix_append _ _

theorem keys_prefix_setAll (earlier later : Assoc κ ν) :
    keys earlier <+: keys (setAll earlier later) := by
  induction later generalizing earlier with
  | nil => exact List.prefix_rfl
  | cons p rest ih => exact (keys_prefix_set p.1 p.2 earlier).trans (ih _)

/-- A value does not show if its key is set after it once more. -/
theorem setAll_set_of_mem {k : κ} (v : ν) {later earlier : Assoc κ ν} (hlater : k ∈ keys later)
    (hk : k ∈ keys earlier) : setAll (set k v earlier) later = setAll earlier later := by
  induction later generalizing earlier with
  | nil => cases hlater
  | cons p rest ih =>
    obtain ⟨j, w⟩ := p
    change setAll (set j w (set k v earlier)) rest = setAll (set j w earlier) rest
    by_cases hj : j = k
    · subst hj
      rw [set_set_self]
    · have hrest : k ∈ keys rest := (List.mem_cons.1 hlater).resolve_left (Ne.symm hj)
      rw [← set_comm hj v w hk, ih hrest (mem_keys_set.2 (.inr hk))]

/-- Setting the same pairs again leaves values and places as they are. -/
theorem setAll_setAll_self (earlier later : Assoc κ ν) :
    setAll (setAll earlier later) later = setAll earlier later := by
  induction later generalizing earlier with
  | nil => rfl
  | cons p rest ih =>
    obtain ⟨k, v⟩ := p
    change setAll (set k v (setAll (set k v earlier) rest)) rest = setAll (set k v earlier) rest
    have hk : k ∈ keys (set k v earlier) := mem_keys_set.2 (.inl rfl)
    have hset : setAll (set k v (setAll (set k v earlier) rest)) rest =
        setAll (setAll (set k v earlier) rest) rest := by
      by_cases hrest : k ∈ keys rest
      · exact setAll_set_of_mem v hrest ((keys_prefix_setAll _ rest).subset hk)
      · rw [set_setAll v hrest hk, set_set_self]
    rw [hset, ih]

end Assoc

namespace Survey

/-! ## Entering again -/

theorem enterAll_eq (s : Survey) (rs : List (Record Value)) :
    s.enterAll rs =
      { s with byShape := Assoc.setAll s.byShape (rs.map fun r => (r.shape, r)) } := by
  induction rs generalizing s with
  | nil => rfl
  | cons r rest ih => exact ih (s.enter r)

theorem enterAll_enterAll (s : Survey) (rs : List (Record Value)) :
    (s.enterAll rs).enterAll rs = s.enterAll rs := by
  rw [enterAll_eq, enterAll_eq, Assoc.setAll_setAll_self]

/-! ## Declaring again -/

theorem discovered_prefix_declareAll (s : Survey) (ds : List (Declaration Value)) :
    s.discovered <+: (s.declareAll ds).discovered := by
  induction ds generalizing s with
  | nil => exact List.prefix_rfl
  | cons d rest ih =>
    have hd : s.discovered <+: (s.declare d).discovered := by
      by_cases h : s.has d = true
      · have hsame : (s.declare d).discovered = s.discovered := by rw [declare_of_has h]
        exact hsame ▸ List.prefix_rfl
      · rw [declare_of_not_has h]
        exact List.prefix_append _ _
    exact hd.trans (ih _)

theorem mem_identities_declare {s : Survey} {d : Declaration Value} {i : Declaration.Identity} :
    i ∈ (s.declare d).identities ↔ i = d.identity ∨ i ∈ s.identities := by
  by_cases h : s.has d = true
  · have hd : d.identity ∈ s.identities := of_decide_eq_true h
    rw [declare_of_has h]
    exact ⟨.inr, fun hi => hi.elim (fun hi => hi ▸ hd) id⟩
  · rw [declare_of_not_has h]
    exact List.mem_cons

theorem mem_identities_declareAll {s : Survey} {ds : List (Declaration Value)}
    {i : Declaration.Identity} :
    i ∈ (s.declareAll ds).identities ↔ i ∈ ds.map Declaration.identity ∨ i ∈ s.identities := by
  induction ds generalizing s with
  | nil => simp [declareAll]
  | cons d rest ih =>
    have hrest := ih (s := s.declare d)
    rw [mem_identities_declare] at hrest
    rw [List.map_cons, List.mem_cons, or_assoc, or_left_comm]
    exact hrest

/-- Nothing is declared that is known. -/
theorem declareAll_of_known {s : Survey} {ds : List (Declaration Value)}
    (h : ∀ d ∈ ds, d.identity ∈ s.identities) : s.declareAll ds = s := by
  induction ds with
  | nil => rfl
  | cons d rest ih =>
    rw [List.forall_mem_cons] at h
    have hd : s.declare d = s := declare_of_has (decide_eq_true h.1)
    exact (congrArg (declareAll · rest) hd).trans (ih h.2)

theorem declareAll_declareAll (s : Survey) (ds : List (Declaration Value)) :
    (s.declareAll ds).declareAll ds = s.declareAll ds :=
  declareAll_of_known fun _ hd => mem_identities_declareAll.2 (.inl (List.mem_map_of_mem hd))

/-! ## Walking again -/

theorem discovered_prefix_visitAll (s : Survey) (vs : List Visit) :
    s.discovered <+: (s.visitAll vs).discovered := by
  have h := discovered_prefix_declareAll (s.enterAll (vs.flatMap Visit.objects))
    (vs.flatMap Visit.containers)
  rw [← visitAll_eq, enterAll_eq] at h
  exact h

theorem keys_prefix_visitAll (s : Survey) (vs : List Visit) :
    Assoc.keys s.byShape <+: Assoc.keys (s.visitAll vs).byShape := by
  rw [visitAll_eq, byShape_declareAll, enterAll_eq]
  exact Assoc.keys_prefix_setAll _ _

theorem visitAll_visitAll (s : Survey) (vs : List Visit) :
    (s.visitAll vs).visitAll vs = s.visitAll vs := by
  rw [visitAll_eq s, visitAll_eq, declareAll_enterAll, enterAll_enterAll, declareAll_declareAll]

/-- **A walk only extends, and once is enough.** Whatever was found before, what was discovered
stays in front of what is discovered, every shape that was entered stays where it was, and walking
the same value under the same name again leaves the whole survey as it is. -/
theorem visit_extends_and_settles (s : Survey) (name : String) (v : Value) :
    s.discovered <+: (s.visit name v).discovered ∧
    Assoc.keys s.byShape <+: Assoc.keys (s.visit name v).byShape ∧
    (s.visit name v).visit name v = s.visit name v :=
  ⟨discovered_prefix_visitAll s [⟨name, v⟩], keys_prefix_visitAll s [⟨name, v⟩],
    visitAll_visitAll s [⟨name, v⟩]⟩

end Survey

end SampleTypes
