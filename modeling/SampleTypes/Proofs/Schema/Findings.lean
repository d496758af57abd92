/-
The findings of a schema, each in closed form: which declarations are kept (`keepFirst_eq`), which
are reported as dropped (`collisions_eq`), and which shapes are reported as shared
(`namesByShape_eq`, `sharedShapes_eq`).
-/
import SampleTypes.Proofs.Schema.Typing

namespace SampleTypes

/-! ## Kept and dropped declarations -/

namespace Declaration

/-- The words that describe a declaration; a declaration without description has none. -/
def summary (d : Declaration Value) : String :=
  d.describe.toOption.getD ""

/-- The name in an identity. -/
def Identity.name : Identity → String
  | .record name _ | .alias name _ => name

@[simp] theorem name_identity (d : Declaration Value) : d.identity.name = d.name := by
  cases d <;> rfl

theorem name_of_identity {d e : Declaration Value} (h : d.identity = e.identity) :
    d.name = e.name := by
  rw [← name_identity, h, name_identity]

/-- The identity of a record is that of a record of its name and shape. -/
theorem record_mem_map_identity {ds : List (Declaration Value)} {name : String} {shape : Shape} :
    .record name shape ∈ ds.map identity ↔
      ∃ r, .record r ∈ ds ∧ r.name = name ∧ r.shape = shape := by
  rw [List.mem_map]
  constructor
  · rintro ⟨d, hd, hi⟩
    cases d with
    | «alias» a => simp [identity] at hi
    | record r =>
      simp only [identity, Identity.record.injEq] at hi
      exact ⟨r, hd, hi⟩
  · rintro ⟨r, hr, rfl, rfl⟩
    exact ⟨_, hr, rfl⟩

theorem describe_of_visit {c : Visit} {d : Declaration Value} (h : c.declaration? = some d) :
    d.describe = .ok d.summary := by
  obtain ⟨name, v⟩ := c
  cases v with
  | null | bool | int | float | string => simp [Visit.declaration?] at h
  | array es | object ms =>
    simp only [Visit.declaration?, Option.some.injEq] at h
    subst h
    rfl

end Declaration

namespace Schema

theorem keepFirst_eq (seen ds : List (Declaration Value)) :
    keepFirst (firsts Declaration.name seen) ds = firsts Declaration.name (seen ++ ds) := by
  induction ds generalizing seen with
  | nil => rw [keepFirst, List.append_nil]
  | cons d rest ih =>
    have hany : (firsts Declaration.name seen).any (fun k => k.name == d.name) = true ↔
        d.name ∈ seen.map Declaration.name := by
      rw [← mem_map_firsts (fun (a b : Declaration Value) h => h), List.any_eq_true, List.mem_map]
      simp only [beq_iff_eq]
    rw [keepFirst, List.append_cons seen d rest, ← ih, firsts_append_singleton]
    by_cases hd : d.name ∈ seen.map Declaration.name
    · rw [if_pos hd, if_pos (hany.2 hd)]
    · rw [if_neg hd, if_neg (fun h => hd (hany.1 h))]

/-- The finding about a declaration, if the first one of its name among some is a different one. -/
def droppedFor (ds : List (Declaration Value)) (d : Declaration Value) : Option Finding :=
  (ds.find? (fun k => k.name == d.name)).bind fun first =>
    if first.identity = d.identity then none else some (.collision d.summary first.summary)

/-- What comes after a declaration of the name has no part in it. -/
theorem droppedFor_append {ds : List (Declaration Value)} {d : Declaration Value}
    (h : d.name ∈ ds.map Declaration.name) (es : List (Declaration Value)) :
    droppedFor (ds ++ es) d = droppedFor ds d := by
  obtain ⟨first, hfirst⟩ := exists_find?_key h
  rw [droppedFor, droppedFor, List.find?_append, hfirst, Option.some_or]

/-- The first declaration of a name is not dropped. -/
theorem droppedFor_of_not_mem {ds : List (Declaration Value)} {d : Declaration Value}
    (h : d.name ∉ ds.map Declaration.name) (es : List (Declaration Value)) :
    droppedFor (ds ++ d :: es) d = none := by
  simp [droppedFor, List.find?_append, find?_key_eq_none.2 h]

/-- A declaration is dropped if its name was there before and its identity was not. -/
theorem isSome_droppedFor {ds : List (Declaration Value)} {d : Declaration Value}
    (hname : d.name ∈ ds.map Declaration.name)
    (hid : d.identity ∉ ds.map Declaration.identity) : (droppedFor ds d).isSome := by
  obtain ⟨first, hfirst⟩ := exists_find?_key hname
  have hne : first.identity ≠ d.identity := fun heq =>
    hid (heq ▸ List.mem_map_of_mem (List.mem_of_find?_eq_some hfirst))
  rw [droppedFor, hfirst, Option.bind_some, if_neg hne]
  rfl

theorem eq_collision_of_droppedFor {ds : List (Declaration Value)} {d : Declaration Value}
    {f : Finding} (h : droppedFor ds d = some f) : ∃ kept, f = .collision d.summary kept := by
  obtain ⟨first, -, hf⟩ := Option.bind_eq_some_iff.1 h
  split at hf
  · cases hf
  · exact ⟨first.summary, (Option.some.inj hf).symm⟩

theorem droppedFor_firsts_identity (ds : List (Declaration Value)) :
    droppedFor (firsts Declaration.identity ds) = droppedFor ds := by
  funext d
  rw [droppedFor, droppedFor, find?_firsts fun _ _ h => Declaration.name_of_identity h]

theorem collisions_eq (seen ds : List (Declaration Value))
    (h : ∀ d ∈ seen ++ ds, d.describe = .ok d.summary) :
    collisions (firsts Declaration.name seen) ds =
      .ok (ds.filterMap (droppedFor (seen ++ ds))) := by
  induction ds generalizing seen with
  | nil => rfl
  | cons d rest ih =>
    have hrest := ih (seen ++ [d]) (by rwa [← List.append_cons])
    rw [firsts_append_singleton, ← List.append_cons] at hrest
    rw [collisions, find?_firsts (fun (a b : Declaration Value) h => h)]
    cases hf : seen.find? (fun k => k.name == d.name) with
    | none =>
      have hd : d.name ∉ seen.map Declaration.name := find?_key_eq_none.1 hf
      rw [if_neg hd] at hrest
      rw [List.filterMap_cons_none (droppedFor_of_not_mem hd rest)]
      exact hrest
    | some first =>
      have hmem := List.mem_of_find?_eq_some hf
      have hname : first.name = d.name := by simpa using List.find?_some hf
      have hd : d.name ∈ seen.map Declaration.name := hname ▸ List.mem_map_of_mem hmem
      have hdrop : droppedFor (seen ++ d :: rest) d =
          if first.identity = d.identity then none
          else some (.collision d.summary first.summary) := by
        rw [droppedFor_append hd, droppedFor, hf, Option.bind_some]
      rw [if_pos hd] at hrest
      by_cases hid : first.identity = d.identity
      · rw [if_pos hid] at hdrop
        simp only [if_pos hid, List.filterMap_cons_none hdrop]
        exact hrest
      · rw [if_neg hid] at hdrop
        simp only [if_neg hid, List.filterMap_cons_some hdrop, hrest, collision,
          h d (by simp), h first (List.mem_append_left _ hmem)]
        rfl

end Schema

/-! ## Names of shapes -/

namespace Assoc

variable {κ ν : Type} [DecidableEq κ]

theorem get?_map_pair (f : κ → ν) (key : κ) (keys : List κ) :
    get? key (keys.map fun k => (k, f k)) = if key ∈ keys then some (f key) else none := by
  induction keys with
  | nil => rfl
  | cons k rest ih =>
    rw [List.map_cons, get?]
    by_cases hk : k = key
    · simp [hk]
    · simp [hk, ih, Ne.symm hk]

theorem set_map_pair (f : κ → ν) (key : κ) (value : ν) {keys : List κ} (h : keys.Nodup) :
    set key value (keys.map fun k => (k, f k)) =
      (if key ∈ keys then keys else keys ++ [key]).map
        fun k => (k, if k = key then value else f k) := by
  induction keys with
  | nil => simp [set]
  | cons k rest ih =>
    rw [List.nodup_cons] at h
    rw [List.map_cons, set]
    by_cases hk : k = key
    · subst hk
      have hrest : ∀ j ∈ rest, (j, f j) = (j, if j = k then value else f j) := by
        intro j hj
        rw [if_neg (fun e : j = k => h.1 (e ▸ hj))]
      simp [List.map_congr_left hrest]
    · rw [if_neg hk, ih h.2]
      by_cases hm : key ∈ rest <;> simp [hm, hk, Ne.symm hk]

end Assoc

namespace Survey

/-- The distinct names of the records that have a shape, in order. -/
def namesOf (rs : List (Record Value)) (shape : Shape) : List String :=
  firsts id ((rs.filter fun r => r.shape == shape).map Record.name)

/-- Every shape of some records in order, with the distinct names of the records that have it. -/
def namesOfShapes (rs : List (Record Value)) : Assoc Shape (List String) :=
  (firsts id (rs.map Record.shape)).map fun shape => (shape, namesOf rs shape)

theorem nodup_namesOf (rs : List (Record Value)) (shape : Shape) : (namesOf rs shape).Nodup :=
  nodup_firsts_id _

theorem mem_namesOfShapes_iff {rs : List (Record Value)} {p : Shape × List String} :
    p ∈ namesOfShapes rs ↔ p.1 ∈ rs.map Record.shape ∧ p.2 = namesOf rs p.1 := by
  obtain ⟨shape, names⟩ := p
  rw [namesOfShapes, List.mem_map]
  simp only [mem_firsts_id, Prod.mk.injEq]
  constructor
  · rintro ⟨shape, hshape, rfl, rfl⟩
    exact ⟨hshape, rfl⟩
  · rintro ⟨hshape, rfl⟩
    exact ⟨shape, hshape, rfl, rfl⟩

/-- A shape with a name is one of the shapes. -/
theorem mem_map_shape_of_mem_namesOf {rs : List (Record Value)} {shape : Shape} {name : String}
    (h : name ∈ namesOf rs shape) : shape ∈ rs.map Record.shape := by
  obtain ⟨r, hr, -⟩ := List.mem_map.1 (mem_firsts_id.1 h)
  obtain ⟨hr, hshape⟩ := List.mem_filter.1 hr
  exact List.mem_map.2 ⟨r, hr, beq_iff_eq.1 hshape⟩

theorem addName_firsts (name : String) (names : List String) :
    addName name (firsts id names) = firsts id (names ++ [name]) := by
  rw [firsts_append_singleton, addName, List.map_id]
  simp only [mem_firsts_id, id]

theorem namesOf_append_singleton (rs : List (Record Value)) (r : Record Value) (shape : Shape) :
    namesOf (rs ++ [r]) shape =
      if shape = r.shape then addName r.name (namesOf rs shape) else namesOf rs shape := by
  rw [namesOf, List.filter_append, List.map_append]
  by_cases hs : shape = r.shape
  · subst hs
    rw [if_pos rfl, namesOf, addName_firsts]
    simp
  · have hb : (r.shape == shape) = false := by simpa using Ne.symm hs
    rw [if_neg hs, namesOf]
    simp [hb]

/-- Naming the records one after the other gives every shape its names. -/
theorem namesByShape_eq (s : Survey) :
    s.namesByShape = namesOfShapes (s.discovered.filterMap Declaration.record?) := by
  rw [namesByShape]
  generalize s.discovered.filterMap Declaration.record? = rs
  induction rs using List.reverseRecOn with
  | nil => rfl
  | append_singleton rs r ih =>
    have hget : ((namesOfShapes rs).get? r.shape).getD [] = namesOf rs r.shape := by
      rw [namesOfShapes, Assoc.get?_map_pair]
      by_cases hr : r.shape ∈ firsts id (rs.map Record.shape)
      · rw [if_pos hr, Option.getD_some]
      · rw [if_neg hr, namesOf, List.filter_eq_nil_iff.2]
        · rfl
        · intro r' hr' hs
          rw [mem_firsts_id] at hr
          exact hr (List.mem_map.2 ⟨r', hr', by simpa using hs⟩)
    have hnodup : (firsts id (rs.map Record.shape)).Nodup := by
      simpa using nodup_map_firsts id (rs.map Record.shape)
    rw [List.foldl_append, ih, List.foldl_cons, List.foldl_nil, hget, namesOfShapes,
      Assoc.set_map_pair _ _ _ hnodup, namesOfShapes, List.map_append, List.map_singleton,
      firsts_append_singleton, List.map_id]
    simp only [mem_firsts_id, id]
    refine List.map_congr_left fun shape _ => ?_
    rw [namesOf_append_singleton]
    by_cases hs : shape = r.shape
    · rw [if_pos hs, if_pos hs, hs]
    · rw [if_neg hs, if_neg hs]

end Survey

namespace Schema

/-- The finding about a shape with its names, if it has more than one. -/
def sharedFinding (nameOf : Shape → Option String) (p : Shape × List String) : Option Finding :=
  if 1 < p.2.length then (nameOf p.1).map (.sharedShape p.1 p.2) else none

/-- A shape with several names of which the survey has no record. -/
def lacksRecord (s : Survey) (p : Shape × List String) : Bool :=
  1 < p.2.length && (s.byShape.get? p.1).isNone

theorem sharedShape_eq (s : Survey) (p : Shape × List String) :
    sharedShape s p.1 p.2 =
      if lacksRecord s p then .error (.shapeNotEntered p.1)
      else .ok (sharedFinding s.nameOf? p).toList := by
  rw [sharedShape, lacksRecord, sharedFinding, Survey.nameOf?]
  by_cases hl : 1 < p.2.length
  · cases s.byShape.get? p.1 <;> simp [hl]
  · simp [hl]

/-- The first shape without a record fails. -/
theorem sharedShapes_eq_find? (s : Survey) (names : Assoc Shape (List String)) :
    sharedShapes s names =
      match names.find? (lacksRecord s) with
      | some p => .error (.shapeNotEntered p.1)
      | none => .ok (names.filterMap (sharedFinding s.nameOf?)) := by
  induction names with
  | nil => rfl
  | cons p rest ih =>
    rw [sharedShapes, ih, sharedShape_eq s p, List.find?_cons]
    cases lacksRecord s p with
    | true => rfl
    | false =>
      cases rest.find? (lacksRecord s) with
      | some q => rfl
      | none =>
        cases hf : sharedFinding s.nameOf? p with
        | none =>
          rw [List.filterMap_cons_none hf]
          rfl
        | some found =>
          rw [List.filterMap_cons_some hf]
          rfl

/-- If each of the shapes was entered, nothing fails. -/
theorem sharedShapes_eq {s : Survey} {names : Assoc Shape (List String)}
    (h : ∀ p ∈ names, ∃ name, s.nameOf? p.1 = some name) :
    sharedShapes s names = .ok (names.filterMap (sharedFinding s.nameOf?)) := by
  have hnone : names.find? (lacksRecord s) = none := by
    refine List.find?_eq_none.2 fun p hp => ?_
    obtain ⟨name, hname⟩ := h p hp
    obtain ⟨r, hr, -⟩ := Option.map_eq_some_iff.1 hname
    simp [lacksRecord, hr]
  rw [sharedShapes_eq_find?, hnone]

end Schema

end SampleTypes
