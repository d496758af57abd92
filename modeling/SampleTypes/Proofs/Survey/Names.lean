/-
Where the names of a survey come from. Every container is named by the name with which its visit
starts or by a key of a nested object, changed as the walk changes names. So what keys are made of
carries over to the names of declarations (`names_containers`), and from there to all words of a
schema (`names_ofDocument`, `words_ofDocument`).
-/
import SampleTypes.Generation
import SampleTypes.Proofs.Naming
import SampleTypes.Proofs.Schema.References

namespace SampleTypes

/-- A key of an object in a value, at any depth. -/
inductive Value.HasKey (key : String) : Value → Prop
  | here {members : List (String × Value)} (h : key ∈ members.map Prod.fst) :
      HasKey key (.object members)
  | member {members : List (String × Value)} {m : String × Value} (hm : m ∈ members)
      (h : HasKey key m.2) : HasKey key (.object members)
  | element {elements : List Value} {v : Value} (hv : v ∈ elements) (h : HasKey key v) :
      HasKey key (.array elements)

theorem Value.hasKey_object {key : String} {members : List (String × Value)} :
    HasKey key (.object members) ↔
      key ∈ members.map Prod.fst ∨ ∃ m ∈ members, HasKey key m.2 := by
  constructor
  · rintro (h | ⟨hm, h⟩)
    · exact .inl h
    · exact .inr ⟨_, hm, h⟩
  · rintro (h | ⟨m, hm, h⟩)
    · exact .here h
    · exact .member hm h

theorem Value.hasKey_array {key : String} {elements : List Value} :
    HasKey key (.array elements) ↔ ∃ v ∈ elements, HasKey key v := by
  constructor
  · rintro (_ | _ | ⟨hv, h⟩)
    exact ⟨_, hv, h⟩
  · rintro ⟨v, hv, h⟩
    exact .element hv h

/-- What names have if keys have something else: making names from keys and from the names of
arrays keeps it. -/
structure CarriesOver (Keyed Named : String → Prop) : Prop where
  ofKey : ∀ key, Keyed key → Named (pascalCase key)
  ofArray : ∀ name, Named name → Named (pascalCase (singular name))

namespace Visit

variable {Keyed Named : String → Prop}

/-- A visit under a good name of a value with good keys. -/
def IsNamedWell (Keyed Named : String → Prop) (c : Visit) : Prop :=
  Named c.name ∧ ∀ key, c.value.HasKey key → Keyed key

theorem IsNamedWell.children (hover : CarriesOver Keyed Named) {c : Visit}
    (hc : c.IsNamedWell Keyed Named) : ∀ e ∈ c.children, e.IsNamedWell Keyed Named := by
  obtain ⟨name, v⟩ := c
  obtain ⟨hname, hkeys⟩ := hc
  intro e he
  cases v with
  | null | bool | int | float | string => simp [Visit.children] at he
  | array es =>
    obtain ⟨v, hv, rfl⟩ := List.mem_map.1 he
    exact ⟨hover.ofArray name hname, fun key hkey => hkeys key (.element hv hkey)⟩
  | object ms =>
    obtain ⟨m, hm, rfl⟩ := List.mem_map.1 he
    have hkeyed := hkeys m.1 (.here (List.mem_map_of_mem hm))
    exact ⟨hover.ofKey m.1 hkeyed, fun key hkey => hkeys key (.member hm hkey)⟩

/-- The containers of a visit are named as well as the visit, and so are their fields. -/
theorem names_containers (hover : CarriesOver Keyed Named) {c : Visit}
    (hc : c.IsNamedWell Keyed Named) {d : Declaration Value} (hd : d ∈ c.containers) :
    (ofDeclaration d).IsNamedWell Keyed Named := by
  induction c using Visit.induction with
  | step c ih =>
    rw [containers_eq, List.mem_append, List.mem_flatMap] at hd
    rcases hd with ⟨e, he, hd⟩ | hd
    · exact ih e he (hc.children hover e he) hd
    · rw [Option.mem_toList] at hd
      rwa [← eq_ofDeclaration hd]

theorem isNamedWell_roots (hover : CarriesOver Keyed Named) {rootName : String}
    (hroot : Named rootName) (declareRoot : Bool) {document : Value}
    (hkeys : ∀ key, document.HasKey key → Keyed key) :
    ∀ c ∈ roots rootName declareRoot document, c.IsNamedWell Keyed Named := by
  have hdocument : IsNamedWell Keyed Named ⟨rootName, document⟩ := ⟨hroot, hkeys⟩
  intro c hc
  unfold roots at hc
  split at hc
  · rwa [List.mem_singleton.1 hc]
  · split at hc
    · exact hdocument.children hover c hc
    · cases hc

end Visit

/-! ## The words of a schema -/

/-- Every document has a schema, that of its visits. -/
theorem Schema.ofDocument_eq (s : Settings) (document : Value) :
    ofDocument s document =
      .ok (ofVisits s.elementPolicy (Visit.roots s.rootName s.declareRoot document)) := by
  rw [ofDocument, Survey.ofDocument_eq, ofSurvey_visitAll]

theorem Schema.names_ofDocument {Keyed Named : String → Prop} (hover : CarriesOver Keyed Named)
    {s : Settings} (hroot : Named s.rootName) {document : Value}
    (hkeys : ∀ key, document.HasKey key → Keyed key) {schema : Schema}
    (h : ofDocument s document = .ok schema) {d : Declaration FieldType}
    (hd : d ∈ schema.declarations) :
    Named d.name ∧ (∀ r ∈ d.record?, ∀ field ∈ r.fieldNames, Keyed field) ∧
      ∀ t ∈ d.payloads, ∀ name ∈ t.references, Named name := by
  have hroots := Visit.isNamedWell_roots hover hroot s.declareRoot hkeys
  have hcontainers : ∀ e ∈ (Visit.roots s.rootName s.declareRoot document).flatMap Visit.containers,
      (Visit.ofDeclaration e).IsNamedWell Keyed Named := by
    intro e he
    obtain ⟨c, hc, he⟩ := List.mem_flatMap.1 he
    exact Visit.names_containers hover (hroots c hc) he
  rw [ofDocument_eq] at h
  obtain rfl := Except.ok.inj h
  obtain ⟨raw, hraw, rfl⟩ := List.mem_map.1 hd
  have hraw := hcontainers raw ((firsts_sublist _ _).subset hraw)
  refine ⟨?_, ?_, ?_⟩
  · cases raw <;> exact hraw.1
  · cases raw with
    | «alias» a => simp [Declaration.map, Declaration.record?]
    | record r =>
      simp only [Declaration.map, Declaration.record?, Option.mem_def, Option.some.injEq, forall_eq',
        Record.fieldNames_map]
      exact fun field hfield => hraw.2 field (.here hfield)
  · intro t ht name hname
    rw [Declaration.payloads_map] at ht
    obtain ⟨v, -, rfl⟩ := List.mem_map.1 ht
    obtain ⟨ms, -, hlast⟩ := FieldType.decidedBy_of_mem_references hname
    obtain ⟨r, hr, -, rfl⟩ := Survey.mem_of_lastName_eq_some hlast
    exact (hcontainers _ (record_mem_containers.2 hr)).1

/-- The words that the source of a declaration holds as they are. -/
def Declaration.words : Declaration FieldType → List String
  | .record r => r.name :: r.fieldNames ++ (r.fields.map Prod.snd).flatMap FieldType.references
  | .alias a => a.name :: a.element.references

theorem Declaration.forall_mem_words_record {p : String → Prop} {r : Record FieldType} :
    (∀ word ∈ (Declaration.record r).words, p word) ↔
      p r.name ∧ ∀ f ∈ r.fields, p f.1 ∧ ∀ name ∈ f.2.references, p name := by
  simp only [words, List.cons_append, List.forall_mem_cons, List.forall_mem_append,
    Record.fieldNames, List.forall_mem_map, List.forall_mem_flatMap]
  exact and_congr_right fun _ => forall₂_and.symm

/-- What keys have carries over to all words of the schema. -/
theorem Schema.words_ofDocument {Named : String → Prop} (hover : CarriesOver Named Named)
    {s : Settings} (hroot : Named s.rootName) {document : Value}
    (hkeys : ∀ key, document.HasKey key → Named key) {schema : Schema}
    (h : ofDocument s document = .ok schema) {d : Declaration FieldType}
    (hd : d ∈ schema.declarations) : ∀ word ∈ d.words, Named word := by
  obtain ⟨hname, hfields, htypes⟩ := names_ofDocument hover hroot hkeys h hd
  cases d with
  | record r =>
    exact Declaration.forall_mem_words_record.2 ⟨hname, fun f hf =>
      ⟨hfields r rfl f.1 (List.mem_map_of_mem hf), htypes f.2 (List.mem_map_of_mem hf)⟩⟩
  | «alias» a => exact List.forall_mem_cons.2 ⟨hname, htypes _ (List.mem_singleton_self _)⟩

/-- A character before the letters is brought in by no change of names. -/
theorem carriesOver_avoids {x : Char} (hx : x.toNat < 65) :
    CarriesOver (Text.Avoids x) (Text.Avoids x) where
  ofKey _ hkey := (avoids_pascalCase hx).2 hkey
  ofArray _ hname := (avoids_pascalCase hx).2 (avoids_singular hname)

end SampleTypes
