/-
Walks of values that differ in the order of members only. The children of two such visits match in
any order (`Reordered.children`), and by induction on the children the walks complete containers of
the same identities (`Reordered.mem_identities_iff`), since an identity holds the keys of a record
as a set and the contents of an alias as canonical text.
-/
import SampleTypes.Proofs.Survey.Visits
import SampleTypes.Proofs.Value.Reordered

namespace SampleTypes.Visit

/-- The visits have one name, and the second one has the value of the first reordered. -/
structure Reordered (c d : Visit) : Prop where
  name : c.name = d.name
  value : c.value.Reordered d.value

theorem Reordered.refl (c : Visit) : Reordered c c := ⟨rfl, .refl c.value⟩

/-! ## Lists of visits -/

/-- Every visit of the one list has a reordered one in the other. -/
structure Matched (cs ds : List Visit) : Prop where
  forth : ∀ c ∈ cs, ∃ d ∈ ds, Reordered c d
  back : ∀ d ∈ ds, ∃ c ∈ cs, Reordered c d

theorem Matched.refl (cs : List Visit) : Matched cs cs :=
  ⟨fun c hc => ⟨c, hc, .refl c⟩, fun c hc => ⟨c, hc, .refl c⟩⟩

theorem Matched.cons {c d : Visit} {cs ds : List Visit} (hc : Reordered c d) (h : Matched cs ds) :
    Matched (c :: cs) (d :: ds) := by
  constructor
  · intro e he
    rcases List.mem_cons.1 he with rfl | he
    · exact ⟨d, List.mem_cons_self, hc⟩
    · obtain ⟨f, hf, hef⟩ := h.forth e he
      exact ⟨f, List.mem_cons_of_mem _ hf, hef⟩
  · intro f hf
    rcases List.mem_cons.1 hf with rfl | hf
    · exact ⟨c, List.mem_cons_self, hc⟩
    · obtain ⟨e, he, hef⟩ := h.back f hf
      exact ⟨e, List.mem_cons_of_mem _ he, hef⟩

theorem Matched.perm {cs ds es : List Visit} (h : Matched cs ds) (hp : ds.Perm es) :
    Matched cs es := by
  constructor
  · intro c hc
    obtain ⟨d, hd, hcd⟩ := h.forth c hc
    exact ⟨d, hp.mem_iff.1 hd, hcd⟩
  · intro d hd
    exact h.back d (hp.mem_iff.2 hd)

theorem Matched.of_elements (name : String) {es fs : List Value}
    (h : Value.ReorderedElements es fs) :
    Matched (es.map (ofElement name)) (fs.map (ofElement name)) := by
  induction es generalizing fs with
  | nil => cases h; exact .refl []
  | cons v rest ih =>
    cases h with
    | cons hv h => exact .cons ⟨rfl, hv⟩ (ih h)

theorem Matched.of_members {ms ns : List (String × Value)} (h : Value.ReorderedMembers ms ns) :
    Matched (ms.map ofMember) (ns.map ofMember) := by
  induction ms generalizing ns with
  | nil => cases h; exact .refl []
  | cons m rest ih =>
    cases h with
    | cons hv h => exact .cons ⟨rfl, hv⟩ (ih h)

theorem Reordered.children {c d : Visit} (h : Reordered c d) : Matched c.children d.children := by
  obtain ⟨name, v⟩ := c
  obtain ⟨name', w⟩ := d
  obtain ⟨rfl, hv⟩ := h
  cases hv with
  | refl => exact .refl _
  | array h => exact .of_elements name h
  | object h hp => exact (Matched.of_members h).perm (hp.map ofMember)

/-! ## Distinct keys -/

theorem hasDistinctKeys_of_mem_children {c d : Visit} (h : c.value.HasDistinctKeys)
    (hd : d ∈ c.children) : d.value.HasDistinctKeys := by
  obtain ⟨name, v⟩ := c
  cases v with
  | null | bool | int | float | string => simp [children] at hd
  | array es =>
    obtain ⟨v, hv, rfl⟩ := List.mem_map.1 hd
    exact Value.elementsHaveDistinctKeys_iff.1 h v hv
  | object ms =>
    obtain ⟨m, hm, rfl⟩ := List.mem_map.1 hd
    exact Value.membersHaveDistinctKeys_iff.1 h.2 m hm

/-! ## Identities -/

/-- What reordered visits declare has one identity. -/
theorem Reordered.identity_declaration? {c d : Visit} (h : Reordered c d)
    (hc : c.value.HasDistinctKeys) :
    c.declaration?.map Declaration.identity = d.declaration?.map Declaration.identity := by
  obtain ⟨name, v⟩ := c
  obtain ⟨name', w⟩ := d
  obtain ⟨rfl, hv⟩ := h
  cases hv with
  | refl => rfl
  | array h =>
    have htext := (Value.Reordered.array h).canonical_eq hc
    simp only [declaration?, Option.map_some, Declaration.identity, htext]
  | @object ms ns ps h hp =>
    have hshape : Shape.ofMembers ms = Shape.ofMembers ps := by
      refine Shape.ext_mem fun key => ?_
      rw [Shape.ofMembers, Shape.ofMembers, Shape.mem_keys_ofKeys, Shape.mem_keys_ofKeys,
        h.keys_eq, (hp.map Prod.fst).mem_iff]
    simp only [declaration?, Option.map_some, Declaration.identity, Record.shape, hshape]

/-- If what matches has containers of the same identities, so have the lists. -/
theorem Matched.mem_identities_iff_of {cs ds : List Visit} (h : Matched cs ds)
    {i : Declaration.Identity}
    (hi : ∀ c ∈ cs, ∀ d, Reordered c d →
      (i ∈ c.containers.map Declaration.identity ↔ i ∈ d.containers.map Declaration.identity)) :
    i ∈ (cs.flatMap containers).map Declaration.identity ↔
      i ∈ (ds.flatMap containers).map Declaration.identity := by
  simp only [List.map_flatMap, List.mem_flatMap]
  constructor
  · rintro ⟨c, hc, hic⟩
    obtain ⟨d, hd, hcd⟩ := h.forth c hc
    exact ⟨d, hd, (hi c hc d hcd).1 hic⟩
  · rintro ⟨d, hd, hid⟩
    obtain ⟨c, hc, hcd⟩ := h.back d hd
    exact ⟨c, hc, (hi c hc d hcd).2 hid⟩

/-- Reordered visits complete containers of the same identities. -/
theorem Reordered.mem_identities_iff {c d : Visit} (h : Reordered c d)
    (hc : c.value.HasDistinctKeys) (i : Declaration.Identity) :
    i ∈ c.containers.map Declaration.identity ↔ i ∈ d.containers.map Declaration.identity := by
  induction c using Visit.induction generalizing d with
  | step c ih =>
    have hchildren := h.children.mem_identities_iff_of (i := i) fun e he f hef =>
      ih e he hef (hasDistinctKeys_of_mem_children hc he)
    have hself : i ∈ c.declaration?.toList.map Declaration.identity ↔
        i ∈ d.declaration?.toList.map Declaration.identity := by
      rw [← Option.toList_map, ← Option.toList_map, h.identity_declaration? hc]
    rw [containers_eq c, containers_eq d, List.map_append, List.map_append, List.mem_append,
      List.mem_append, hchildren, hself]

/-! ## Documents -/

theorem matched_roots (rootName : String) (declareRoot : Bool) {v w : Value}
    (h : v.Reordered w) : Matched (roots rootName declareRoot v) (roots rootName declareRoot w) := by
  cases declareRoot with
  | true => exact .cons ⟨rfl, h⟩ (.refl [])
  | false =>
    cases h with
    | refl => exact .refl _
    | array h => exact .refl []
    | object h hp => exact (Matched.of_members h).perm (hp.map ofMember)

theorem hasDistinctKeys_of_mem_roots {rootName : String} {declareRoot : Bool} {document : Value}
    (h : document.HasDistinctKeys) {c : Visit} (hc : c ∈ roots rootName declareRoot document) :
    c.value.HasDistinctKeys := by
  cases declareRoot with
  | true =>
    obtain rfl := List.mem_singleton.1 hc
    exact h
  | false =>
    cases document with
    | null | bool | int | float | string | array => simp [roots] at hc
    | object ms =>
      exact hasDistinctKeys_of_mem_children (c := ⟨rootName, .object ms⟩) h hc

/-- The walks of reordered documents complete containers of the same identities. -/
theorem mem_identities_roots_iff (rootName : String) (declareRoot : Bool) {v w : Value}
    (h : v.Reordered w) (hv : v.HasDistinctKeys) (i : Declaration.Identity) :
    i ∈ ((roots rootName declareRoot v).flatMap containers).map Declaration.identity ↔
      i ∈ ((roots rootName declareRoot w).flatMap containers).map Declaration.identity :=
  (matched_roots rootName declareRoot h).mem_identities_iff_of fun _ hc _ hcd =>
    hcd.mem_identities_iff (hasDistinctKeys_of_mem_roots hv hc) i

end SampleTypes.Visit
