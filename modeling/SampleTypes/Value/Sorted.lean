/-
Values with the members of every object in the order of their keys, compared by code point. Two
values that differ only in the order of members have one sorted form.
-/
import SampleTypes.Value

namespace SampleTypes.Value

/-- Puts a member in front of the first one whose key is not smaller than its own. -/
def insertByKey {α : Type} (m : String × α) : List (String × α) → List (String × α)
  | [] => [m]
  | n :: rest => if n.1 < m.1 then n :: insertByKey m rest else m :: n :: rest

/-- Members in the order of their keys; members of one key keep their order. -/
def sortByKey {α : Type} (ms : List (String × α)) : List (String × α) :=
  ms.foldr insertByKey []

mutual

/-- A value with the members of every object in it sorted. -/
def sorted : Value → Value
  | .array es => .array (sortedElements es)
  | .object ms => .object (sortByKey (sortedMembers ms))
  | v => v

/-- Every element sorted. -/
def sortedElements : List Value → List Value
  | [] => []
  | v :: rest => sorted v :: sortedElements rest

/-- The value of every member sorted; the members stay in place. -/
def sortedMembers : List (String × Value) → List (String × Value)
  | [] => []
  | (k, v) :: rest => (k, sorted v) :: sortedMembers rest

end

theorem insertByKey_perm {α : Type} (m : String × α) (ms : List (String × α)) :
    (insertByKey m ms).Perm (m :: ms) := by
  induction ms with
  | nil => exact .refl _
  | cons n rest ih =>
    rw [insertByKey]
    split
    · exact (ih.cons n).trans (.swap m n rest)
    · exact .refl _

theorem sortByKey_perm {α : Type} (ms : List (String × α)) : (sortByKey ms).Perm ms := by
  induction ms with
  | nil => exact .refl _
  | cons m rest ih => exact (insertByKey_perm m _).trans (ih.cons m)

theorem pairwise_insertByKey {α : Type} {m : String × α} {ms : List (String × α)}
    (h : ms.Pairwise (fun a b => a.1 < b.1)) (hm : m.1 ∉ ms.map Prod.fst) :
    (insertByKey m ms).Pairwise (fun a b => a.1 < b.1) := by
  induction ms with
  | nil => simp [insertByKey]
  | cons n rest ih =>
    obtain ⟨hn, hrest⟩ := List.pairwise_cons.1 h
    rw [List.map_cons, List.mem_cons, not_or] at hm
    rw [insertByKey]
    split
    · next hlt =>
      refine List.pairwise_cons.2 ⟨fun b hb => ?_, ih hrest hm.2⟩
      rcases List.mem_cons.1 ((insertByKey_perm m rest).mem_iff.1 hb) with rfl | hb
      · exact hlt
      · exact hn b hb
    · next hge =>
      have hlt : m.1 < n.1 := Std.lt_of_le_of_ne (String.not_lt.1 hge) hm.1
      refine List.pairwise_cons.2 ⟨fun b hb => ?_, h⟩
      rcases List.mem_cons.1 hb with rfl | hb
      · exact hlt
      · exact String.lt_trans hlt (hn b hb)

theorem pairwise_sortByKey {α : Type} {ms : List (String × α)} (h : (ms.map Prod.fst).Nodup) :
    (sortByKey ms).Pairwise (fun a b => a.1 < b.1) := by
  induction ms with
  | nil => exact .nil
  | cons m rest ih =>
    obtain ⟨hm, hrest⟩ := List.nodup_cons.1 h
    exact pairwise_insertByKey (ih hrest)
      (fun hmem => hm (((sortByKey_perm rest).map Prod.fst).mem_iff.1 hmem))

/-- Members with distinct keys have one order by their keys. -/
theorem sortByKey_eq_of_perm {α : Type} {ms ns : List (String × α)} (h : ms.Perm ns)
    (hk : (ms.map Prod.fst).Nodup) : sortByKey ms = sortByKey ns := by
  have hperm : (sortByKey ms).Perm (sortByKey ns) :=
    (sortByKey_perm ms).trans (h.trans (sortByKey_perm ns).symm)
  have hk' : (ns.map Prod.fst).Nodup := (h.map Prod.fst).nodup_iff.1 hk
  exact hperm.eq_of_pairwise
    (fun a b _ _ hab hba => absurd (String.lt_trans hab hba) (String.lt_irrefl a.1))
    (pairwise_sortByKey hk) (pairwise_sortByKey hk')

end SampleTypes.Value
