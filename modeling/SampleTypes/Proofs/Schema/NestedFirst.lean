/-
Nested containers come first. A walk completes a container right after all that is nested in it, so
in the list of what it completes, whatever is nested in a declaration stands before every occurrence
of it (`nestedBefore_containers`). Leaving out what has a known key keeps this, for any key: the kept
declaration is the first of its key, and what stood before it is still told by its keys
(`NestedBefore.exists_lt`). With identities as keys this is the list of what is discovered, with
names the list of what a schema declares.
-/
import SampleTypes.Proofs.Schema.Pipeline

namespace SampleTypes

namespace Visit

/-! ## What is nested in a declaration -/

/-- The walk of the one visit comes to the other: to a child, or to a child of a visit that it comes
to. -/
inductive Encloses (c : Visit) : Visit → Prop
  | child (he : e ∈ c.children) : Encloses c e
  | deeper (hf : Encloses c f) (he : e ∈ f.children) : Encloses c e

variable {c e : Visit} {d x : Declaration Value} {ds es : List (Declaration Value)}

/-- What the walk of a declared value declares before the value itself. -/
def nested (d : Declaration Value) : List (Declaration Value) :=
  (ofDeclaration d).children.flatMap containers

theorem Encloses.containers_subset (h : c.Encloses e) :
    e.containers ⊆ c.children.flatMap containers := by
  induction h with
  | child he => exact fun x hx => List.mem_flatMap.2 ⟨_, he, hx⟩
  | deeper _ he ih => exact fun x hx => ih (mem_containers_of_mem_children he hx)

theorem Encloses.mem_nested (h : (ofDeclaration d).Encloses e) (hx : e.declaration? = some x) :
    x ∈ nested d :=
  h.containers_subset (mem_containers_self hx)

/-! ## The order of completion -/

/-- What is nested in a declaration of the list stands before it. -/
def NestedBefore (ds : List (Declaration Value)) : Prop :=
  ∀ before d after, ds = before ++ d :: after → nested d ⊆ before

/-- Declarations may follow whose nested ones are among the first ones, or before them. -/
theorem NestedBefore.append_of (hds : NestedBefore ds)
    (hes : ∀ before d after, es = before ++ d :: after → nested d ⊆ ds ++ before) :
    NestedBefore (ds ++ es) := by
  intro before d after h
  rcases List.append_eq_append_iff.1 h with ⟨front, rfl, hfront⟩ | ⟨back, hback, hafter⟩
  · exact hes front d after hfront
  · cases back with
    | nil =>
      rw [List.append_nil] at hback
      have hnested := hes [] d after hafter.symm
      rwa [List.append_nil, hback] at hnested
    | cons d' back =>
      obtain ⟨rfl, rfl⟩ := List.cons.inj hafter
      exact hds before d back hback

theorem NestedBefore.append (hds : NestedBefore ds) (hes : NestedBefore es) :
    NestedBefore (ds ++ es) :=
  hds.append_of fun before d after h _ hx => List.mem_append_right _ (hes before d after h hx)

theorem NestedBefore.flatMap {vs : List Visit} (h : ∀ c ∈ vs, NestedBefore c.containers) :
    NestedBefore (vs.flatMap containers) := by
  induction vs with
  | nil => simp [NestedBefore]
  | cons c rest ih =>
    rw [List.forall_mem_cons] at h
    exact h.1.append (ih h.2)

theorem nestedBefore_containers (c : Visit) : NestedBefore c.containers := by
  induction c using Visit.induction with
  | step c ih =>
    rw [containers_eq]
    refine (NestedBefore.flatMap ih).append_of fun before d after h => ?_
    have hd : d ∈ c.declaration?.toList := by simp [h]
    -- the last container of a visit is its own, so what is nested in it are all before
    rw [Option.mem_toList] at hd
    rw [nested, ← eq_ofDeclaration hd]
    exact List.subset_append_left _ _

/-- What is nested in the first declaration of a key has keys that come before. -/
theorem NestedBefore.exists_lt {κ : Type} [DecidableEq κ] {key : Declaration Value → κ}
    (hds : NestedBefore ds) {i : Nat} (hd : (firsts key ds)[i]? = some d) (hx : x ∈ nested d) :
    ∃ j < i, ∃ d', (firsts key ds)[j]? = some d' ∧ key d' = key x := by
  obtain ⟨before, after, rfl, htake⟩ := exists_append_of_getElem?_firsts hd
  have hbefore : key x ∈ (firsts key before).map key :=
    (mem_map_firsts fun _ _ h => h).2 (List.mem_map_of_mem (hds before d after rfl hx))
  rw [htake] at hbefore
  obtain ⟨d', hd', hkey⟩ := List.mem_map.1 hbefore
  obtain ⟨j, hj⟩ := List.mem_iff_getElem?.1 hd'
  rw [List.getElem?_take] at hj
  split at hj
  · next hlt => exact ⟨j, hlt, d', hj, hkey⟩
  · cases hj

end Visit

namespace Schema

open Visit

/-- **Nested containers are discovered and declared first.** Take any object or array that the walk
of a declared raw value comes to, at any depth, under the name that the walk gives it. If the value
was discovered, something with the identity of the nested container was discovered before it; and if
it is declared in the schema, the name of the container is declared before it. -/
theorem nested_declared_first (rootName : String) (declareRoot : Bool) (document : Value)
    (policy : Survey.ElementPolicy) :
    let s := Survey.ofDocument rootName declareRoot document
    (∀ (i : Nat) (d : Declaration Value), s.discovered[i]? = some d →
      ∀ (e : Visit) (x : Declaration Value), (ofDeclaration d).Encloses e → e.declaration? = some x →
        ∃ j < i, ∃ d', s.discovered[j]? = some d' ∧ d'.identity = x.identity) ∧
    ∃ schema, ofSurvey s policy = .ok schema ∧
      ∀ (i : Nat) (t : Declaration FieldType), schema.declarations[i]? = some t →
        ∃ d, (keepFirst [] s.discovered)[i]? = some d ∧ t = typed s policy d ∧
          ∀ (e : Visit) (x : Declaration Value), (ofDeclaration d).Encloses e → e.declaration? = some x →
            ∃ j < i, ∃ t', schema.declarations[j]? = some t' ∧ t'.name = x.name := by
  intro s
  have hs : s = Survey.empty.visitAll (roots rootName declareRoot document) :=
    Survey.ofDocument_eq rootName declareRoot document
  generalize roots rootName declareRoot document = vs at hs
  clear_value s
  subst hs
  have hbefore : NestedBefore (vs.flatMap containers) :=
    NestedBefore.flatMap fun c _ => nestedBefore_containers c
  refine ⟨fun i d hd e x he hx => ?_, _, ofSurvey_visitAll policy vs, fun i t ht => ?_⟩
  · rw [Survey.discovered_visitAll] at hd ⊢
    exact hbefore.exists_lt hd (he.mem_nested hx)
  · rw [declarations_ofVisits, List.getElem?_map] at ht
    obtain ⟨d, hd, rfl⟩ := Option.map_eq_some_iff.1 ht
    refine ⟨d, hd, rfl, fun e x he hx => ?_⟩
    rw [keepFirst_discovered_visitAll] at hd
    obtain ⟨j, hj, d', hd', hname⟩ := hbefore.exists_lt hd (he.mem_nested hx)
    refine ⟨j, hj, typed (Survey.empty.visitAll vs) policy d', ?_, ?_⟩
    · rw [declarations_ofVisits, keepFirst_discovered_visitAll, List.getElem?_map, hd',
        Option.map_some]
    · rw [typed_eq_map, Declaration.name_map, hname]

/-- A value with the name and the keys of one nested in it is taken for known. -/
example :
    (Survey.ofDocument "Root" true (.object [("root", .object [("root", .int 1)])])).discovered =
      [.record ⟨"Root", [("root", .int 1)]⟩] := by
  decide +kernel

end Schema

end SampleTypes
