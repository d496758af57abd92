/-
Values that differ in the order of members only, at any depth. If no object in them has a key twice,
as in every document that is read (`Json.hasDistinctKeys_parse`), such values have one sorted form
(`Reordered.sorted_eq`), so the canonical text does not tell them apart.
-/
import SampleTypes.Json.Printer

namespace SampleTypes.Value

/-! ## The relation -/

mutual

/-- The second value is the first one with the members of objects in it, at any depth, in any
order. -/
inductive Reordered : Value → Value → Prop
  | refl (v : Value) : Reordered v v
  | array (h : ReorderedElements es fs) : Reordered (.array es) (.array fs)
  /-- Each member stands for a reordered one of its key; then the members are permuted. -/
  | object (h : ReorderedMembers ms ns) (hp : ns.Perm ps) : Reordered (.object ms) (.object ps)

/-- Element by element, in place. -/
inductive ReorderedElements : List Value → List Value → Prop
  | nil : ReorderedElements [] []
  | cons (hv : Reordered v w) (h : ReorderedElements es fs) : ReorderedElements (v :: es) (w :: fs)

/-- Member by member, in place and under the same keys. -/
inductive ReorderedMembers : List (String × Value) → List (String × Value) → Prop
  | nil : ReorderedMembers [] []
  | cons (hv : Reordered v w) (h : ReorderedMembers ms ns) :
      ReorderedMembers ((key, v) :: ms) ((key, w) :: ns)

end

theorem ReorderedMembers.keys_eq {ms ns : List (String × Value)} (h : ReorderedMembers ms ns) :
    ms.map Prod.fst = ns.map Prod.fst := by
  induction ms generalizing ns with
  | nil => cases h; rfl
  | cons m rest ih =>
    cases h with
    | cons hv h => rw [List.map_cons, List.map_cons, ih h]

/-! ## Sorted forms -/

theorem sortedMembers_eq (ms : List (String × Value)) :
    sortedMembers ms = ms.map (fun (key, v) => (key, sorted v)) := by
  induction ms with
  | nil => rfl
  | cons m rest ih => rw [sortedMembers, ih, List.map_cons]

theorem keys_sortedMembers (ms : List (String × Value)) :
    (sortedMembers ms).map Prod.fst = ms.map Prod.fst := by
  simp [sortedMembers_eq, Function.comp_def]

mutual

/-- Reordered values have one sorted form. -/
theorem Reordered.sorted_eq {v w : Value} : v.Reordered w → v.HasDistinctKeys → v.sorted = w.sorted
  | .refl v, _ => rfl
  | .array h, hd => by rw [sorted, sorted, h.sorted_eq hd]
  | @Reordered.object ms ns ps h hp, hd => by
    have hperm : (sortedMembers ns).Perm (sortedMembers ps) := by
      rw [sortedMembers_eq, sortedMembers_eq]
      exact hp.map _
    have hkeys : ((sortedMembers ns).map Prod.fst).Nodup := by
      rw [keys_sortedMembers, ← h.keys_eq]
      exact hd.1
    rw [sorted, sorted, h.sorted_eq hd.2, sortByKey_eq_of_perm hperm hkeys]

theorem ReorderedElements.sorted_eq {es fs : List Value} :
    ReorderedElements es fs → elementsHaveDistinctKeys es → sortedElements es = sortedElements fs
  | .nil, _ => rfl
  | .cons hv h, hd => by
    rw [sortedElements, sortedElements, hv.sorted_eq hd.1, h.sorted_eq hd.2]

theorem ReorderedMembers.sorted_eq {ms ns : List (String × Value)} :
    ReorderedMembers ms ns → membersHaveDistinctKeys ms → sortedMembers ms = sortedMembers ns
  | .nil, _ => rfl
  | .cons hv h, hd => by
    rw [sortedMembers, sortedMembers, hv.sorted_eq hd.1, h.sorted_eq hd.2]

end

/-- The canonical text does not tell reordered values apart. -/
theorem Reordered.canonical_eq {v w : Value} (h : v.Reordered w) (hv : v.HasDistinctKeys) :
    Json.canonical v = Json.canonical w := by
  rw [Json.canonical, Json.canonical, h.sorted_eq hv]

end SampleTypes.Value
