/-
Association lists: pairs of a key and a value in order, looked up by the first pair with a key.
Setting a key that is there keeps its place; a new key comes last.
-/
namespace SampleTypes

/-- Pairs of a key and a value. -/
abbrev Assoc (κ ν : Type) := List (κ × ν)

namespace Assoc

variable {κ ν : Type} [DecidableEq κ]

/-- The value of a key. -/
def get? (key : κ) : Assoc κ ν → Option ν
  | [] => none
  | (k, v) :: rest => if k = key then some v else get? key rest

/-- Gives a key a value. -/
def set (key : κ) (value : ν) : Assoc κ ν → Assoc κ ν
  | [] => [(key, value)]
  | (k, v) :: rest => if k = key then (k, value) :: rest else (k, v) :: set key value rest

/-- Takes a key away. -/
def erase (key : κ) (pairs : Assoc κ ν) : Assoc κ ν :=
  pairs.filter (fun p => p.1 ≠ key)

/-- Sets the keys of `later` in order, over `earlier`. -/
def setAll (earlier later : Assoc κ ν) : Assoc κ ν :=
  later.foldl (fun pairs (k, v) => set k v pairs) earlier

@[simp] theorem get?_nil (key : κ) : get? key ([] : Assoc κ ν) = none := rfl

@[simp] theorem get?_set_self (key : κ) (value : ν) (pairs : Assoc κ ν) :
    get? key (set key value pairs) = some value := by
  induction pairs with
  | nil => simp [set, get?]
  | cons p rest ih =>
    obtain ⟨k, v⟩ := p
    by_cases h : k = key <;> simp [set, get?, h, ih]

theorem get?_set_other {key other : κ} (h : other ≠ key) (value : ν) (pairs : Assoc κ ν) :
    get? other (set key value pairs) = get? other pairs := by
  induction pairs with
  | nil => simp [set, get?, Ne.symm h]
  | cons p rest ih =>
    obtain ⟨k, v⟩ := p
    by_cases hk : k = key
    · subst hk
      simp [set, get?, Ne.symm h]
    · simp [set, get?, hk, ih]

theorem get?_erase_self (key : κ) (pairs : Assoc κ ν) : get? key (erase key pairs) = none := by
  induction pairs with
  | nil => rfl
  | cons p rest ih =>
    obtain ⟨k, v⟩ := p
    by_cases hk : k = key
    · simpa [erase, hk] using ih
    · simpa [erase, get?, hk] using ih

theorem get?_erase_other {key other : κ} (h : other ≠ key) (pairs : Assoc κ ν) :
    get? other (erase key pairs) = get? other pairs := by
  induction pairs with
  | nil => rfl
  | cons p rest ih =>
    obtain ⟨k, v⟩ := p
    by_cases hk : k = key
    · subst hk
      simpa [erase, get?, Ne.symm h] using ih
    · by_cases ho : k = other
      · simp [erase, get?, ho, h]
      · simpa [erase, get?, hk, ho] using ih

theorem mem_set {key : κ} {value : ν} {p : κ × ν} {pairs : Assoc κ ν}
    (h : p ∈ set key value pairs) : p = (key, value) ∨ p ∈ pairs := by
  induction pairs with
  | nil => exact .inl (List.mem_singleton.1 h)
  | cons q rest ih =>
    obtain ⟨k, v⟩ := q
    rw [set] at h
    split at h
    · next hk =>
      subst hk
      exact (List.mem_cons.1 h).imp id (List.mem_cons_of_mem _)
    · rcases List.mem_cons.1 h with rfl | h
      · exact .inr List.mem_cons_self
      · exact (ih h).imp id (List.mem_cons_of_mem _)

theorem mem_setAll {p : κ × ν} {earlier later : Assoc κ ν} (h : p ∈ setAll earlier later) :
    p ∈ earlier ∨ p ∈ later := by
  induction later generalizing earlier with
  | nil => exact .inl h
  | cons q rest ih =>
    have hrest : p ∈ setAll (set q.1 q.2 earlier) rest := h
    rcases ih hrest with hset | hrest
    · rcases mem_set hset with rfl | hearlier
      · exact .inr List.mem_cons_self
      · exact .inl hearlier
    · exact .inr (List.mem_cons_of_mem _ hrest)

end Assoc

end SampleTypes
