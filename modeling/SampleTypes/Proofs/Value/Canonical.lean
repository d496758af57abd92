/-
What the canonical text of a value tells. Values of one sorted form differ in the order of members
only (`reordered_of_sorted_eq`), and a text tells the value it was printed from; so canonical texts
are equal for reordered values and for no others (`canonical_eq_iff`). That makes the identity of an
alias exact.
-/
import SampleTypes.Declaration
import SampleTypes.Proofs.Json.Injective
import SampleTypes.Proofs.Value.Reordered

namespace SampleTypes

namespace Value

/-! ## Values of one sorted form -/

/-- What is a permutation of an image is the image of a permutation. -/
theorem exists_perm_of_perm_map {α β : Type} {f : α → β} {ys : List β} {xs : List α}
    (h : ys.Perm (xs.map f)) : ∃ zs : List α, zs.Perm xs ∧ ys = zs.map f := by
  generalize hmap : xs.map f = target at h
  induction h generalizing xs with
  | nil => exact ⟨[], by simpa using hmap.symm, rfl⟩
  | cons y _ ih =>
    obtain ⟨x, rest, rfl, rfl, hrest⟩ := List.map_eq_cons_iff.1 hmap
    obtain ⟨zs, hzs, rfl⟩ := ih hrest
    exact ⟨x :: zs, hzs.cons x, rfl⟩
  | swap y z ys =>
    obtain ⟨x, rest, rfl, rfl, hrest⟩ := List.map_eq_cons_iff.1 hmap
    obtain ⟨x', rest, rfl, rfl, rfl⟩ := List.map_eq_cons_iff.1 hrest
    exact ⟨x' :: x :: rest, .swap x x' rest, rfl⟩
  | trans _ _ ih ih' =>
    obtain ⟨zs, hzs, hmid⟩ := ih' hmap
    obtain ⟨zs', hzs', hys⟩ := ih hmid.symm
    exact ⟨zs', hzs'.trans hzs, hys⟩

mutual

/-- Values of one sorted form are reordered. -/
theorem reordered_of_sorted_eq (v w : Value) (h : v.sorted = w.sorted) : v.Reordered w := by
  match v with
  | .null | .bool _ | .int _ | .float _ | .string _ =>
    cases w <;> cases h
    exact .refl _
  | .array es =>
    cases w with
    | array fs => exact .array (reorderedElements_of_sorted_eq es fs (array.inj h))
    | null | bool | int | float | string | object => simp [sorted] at h
  | .object ms =>
    cases w with
    | object ns =>
      have hperm : (sortedMembers ms).Perm (ns.map fun (key, v) => (key, sorted v)) := by
        rw [← sortedMembers_eq]
        exact (sortByKey_perm _).symm.trans (object.inj h ▸ sortByKey_perm _)
      -- The members of `w` in the order in which those of `v` stand.
      obtain ⟨ps, hps, hsorted⟩ := exists_perm_of_perm_map hperm
      rw [← sortedMembers_eq] at hsorted
      exact .object (reorderedMembers_of_sorted_eq ms ps hsorted) hps
    | null | bool | int | float | string | array => simp [sorted] at h

theorem reorderedElements_of_sorted_eq (es fs : List Value)
    (h : sortedElements es = sortedElements fs) : ReorderedElements es fs := by
  match es, fs with
  | [], [] => exact .nil
  | [], _ :: _ => cases h
  | _ :: _, [] => cases h
  | v :: es, w :: fs =>
    obtain ⟨hv, hes⟩ := List.cons.inj h
    exact .cons (reordered_of_sorted_eq v w hv) (reorderedElements_of_sorted_eq es fs hes)

theorem reorderedMembers_of_sorted_eq (ms ns : List (String × Value))
    (h : sortedMembers ms = sortedMembers ns) : ReorderedMembers ms ns := by
  match ms, ns with
  | [], [] => exact .nil
  | [], _ :: _ => cases h
  | _ :: _, [] => cases h
  | (key, v) :: ms, (key', w) :: ns =>
    obtain ⟨hm, hms⟩ := List.cons.inj h
    obtain ⟨rfl, hv⟩ := Prod.mk.inj hm
    exact .cons (reordered_of_sorted_eq v w hv) (reorderedMembers_of_sorted_eq ms ns hms)

end

/-- Only values of one kind are reordered: `1`, `1.0`, `true` and `"1"` are four. -/
theorem Reordered.kindName_eq {v w : Value} (h : v.Reordered w) : v.kindName = w.kindName := by
  cases h <;> rfl

theorem Reordered.of_singletons {v w : Value} (h : (Value.array [v]).Reordered (.array [w])) :
    v.Reordered w := by
  cases h with
  | refl => exact .refl v
  | array h =>
    cases h with
    | cons hv => exact hv

/-! ## Canonical texts -/

/-- **Canonical texts are equal for values that differ in the order of members, and for no
others.** -/
theorem canonical_eq_iff {v w : Value} (hv : v.HasDistinctKeys) :
    Json.canonical v = Json.canonical w ↔ v.Reordered w :=
  ⟨fun h => reordered_of_sorted_eq v w (Json.print_injective h), fun h => h.canonical_eq hv⟩

end Value

namespace Declaration

/-! ## Aliases -/

/-- **The identity of an alias is exact**: its name, and its value up to the order of members at any
depth. The objects of every document that is read have distinct keys (`Json.hasDistinctKeys_parse`).
-/
theorem identity_alias_eq_iff {a b : Alias Value} (ha : a.element.HasDistinctKeys) :
    (Declaration.alias a).identity = (Declaration.alias b).identity ↔
      a.name = b.name ∧ a.element.Reordered b.element := by
  rw [identity, identity, Identity.alias.injEq, Value.canonical_eq_iff ha]

/-- An array that holds objects at two depths. -/
def nestedItems : Value :=
  .array [.object [("id", .int 1), ("tags", .array [.object [("a", .null), ("b", .bool true)]])]]

/-- The members of both objects are given in another order. -/
def nestedItemsReordered : Value :=
  .array [.object [("tags", .array [.object [("b", .bool true), ("a", .null)]]), ("id", .int 1)]]

/-- Four values of four kinds. -/
def ones : List Value :=
  [.int 1, .float (.ofDecimal false 1 0), .bool true, .string "1"]

/-- Aliases of reordered arrays are the same one; those of `1`, `1.0`, `true` and `"1"` are four. -/
theorem identity_alias_eq_iff_items :
    nestedItems.HasDistinctKeys ∧
      (Declaration.alias ⟨"Items", nestedItems⟩).identity =
        (Declaration.alias ⟨"Items", nestedItemsReordered⟩).identity ∧
      (∀ v ∈ ones, (Value.array [v]).HasDistinctKeys) ∧
      ones.Pairwise fun v w =>
        (Declaration.alias ⟨"Items", .array [v]⟩).identity ≠
          (Declaration.alias ⟨"Items", .array [w]⟩).identity := by
  have hitems : nestedItems.HasDistinctKeys := by
    simp [nestedItems, Value.HasDistinctKeys, Value.membersHaveDistinctKeys,
      Value.elementsHaveDistinctKeys]
  have hones : ∀ v ∈ ones, (Value.array [v]).HasDistinctKeys := by
    simp [ones, Value.HasDistinctKeys, Value.elementsHaveDistinctKeys]
  have htags : Value.Reordered (.array [.object [("a", .null), ("b", .bool true)]])
      (.array [.object [("b", .bool true), ("a", .null)]]) :=
    .array (.cons (.object (.cons (.refl _) (.cons (.refl _) .nil)) (.swap _ _ _)) .nil)
  have hreordered : nestedItems.Reordered nestedItemsReordered :=
    .array (.cons (.object (.cons (.refl _) (.cons htags .nil)) (.swap _ _ _)) .nil)
  have hkinds : ones.Pairwise fun v w => v.kindName ≠ w.kindName := by decide +kernel
  refine ⟨hitems, (identity_alias_eq_iff hitems).2 ⟨rfl, hreordered⟩, hones, ?_⟩
  refine hkinds.imp_of_mem fun hv _ hne h => hne ?_
  exact ((identity_alias_eq_iff (hones _ hv)).1 h).2.of_singletons.kindName_eq

end Declaration

end SampleTypes
