/-
Maps whose keys are distinct and keep the order in which they were first set. Laying one map over
another sets its keys in order: `overlay_assoc`, `overlay_empty` and `empty_overlay` say that this
is a monoid, order included.
-/
import SampleTypes.Assoc

namespace SampleTypes

/-! ## Keys of association lists -/

namespace Assoc

variable {κ ν : Type}

/-- The keys in order. -/
def keys (pairs : Assoc κ ν) : List κ :=
  pairs.map Prod.fst

variable [DecidableEq κ]

theorem mem_keys_set {k key : κ} {value : ν} {pairs : Assoc κ ν} :
    k ∈ keys (set key value pairs) ↔ k = key ∨ k ∈ keys pairs := by
  induction pairs with
  | nil => simp [set, keys]
  | cons p rest ih =>
    obtain ⟨j, v⟩ := p
    by_cases hj : j = key
    · simp [set, keys, hj]
    · simp only [keys] at ih
      simp only [set, hj, if_false, keys, List.map_cons, List.mem_cons, ih]
      grind

theorem nodup_keys_set {key : κ} {value : ν} {pairs : Assoc κ ν} (h : (keys pairs).Nodup) :
    (keys (set key value pairs)).Nodup := by
  induction pairs with
  | nil => simp [set, keys]
  | cons p rest ih =>
    obtain ⟨j, v⟩ := p
    obtain ⟨hj, hrest⟩ := List.nodup_cons.1 h
    by_cases hk : j = key
    · simpa [set, hk, keys] using h
    · have hmem : j ∉ keys (set key value rest) := by
        rw [mem_keys_set]
        rintro (rfl | hm)
        · exact hk rfl
        · exact hj hm
      simpa [set, hk, keys] using List.nodup_cons.2 ⟨hmem, ih hrest⟩

theorem nodup_keys_setAll {later : Assoc κ ν} {earlier : Assoc κ ν} (h : (keys earlier).Nodup) :
    (keys (setAll earlier later)).Nodup := by
  induction later generalizing earlier with
  | nil => exact h
  | cons p rest ih => exact ih (nodup_keys_set h)

theorem set_set_self (key : κ) (v w : ν) (pairs : Assoc κ ν) :
    set key v (set key w pairs) = set key v pairs := by
  induction pairs with
  | nil => simp [set]
  | cons p rest ih =>
    obtain ⟨j, u⟩ := p
    by_cases hj : j = key <;> simp [set, hj, ih]

theorem set_comm {k j : κ} (hne : j ≠ k) (v w : ν) {pairs : Assoc κ ν} (hk : k ∈ keys pairs) :
    set k v (set j w pairs) = set j w (set k v pairs) := by
  induction pairs with
  | nil => simp [keys] at hk
  | cons p rest ih =>
    obtain ⟨i, u⟩ := p
    by_cases hi : i = k
    · subst hi
      simp [set, Ne.symm hne]
    · have hk' : k ∈ keys rest := by
        rcases List.mem_cons.1 hk with h | h
        · exact absurd h.symm hi
        · exact h
      by_cases hij : i = j
      · simp [set, hij, hne]
      · simp [set, hi, hij, ih hk']

theorem set_setAll {k : κ} (v : ν) {later earlier : Assoc κ ν} (hlater : k ∉ keys later)
    (hk : k ∈ keys earlier) :
    set k v (setAll earlier later) = setAll (set k v earlier) later := by
  induction later generalizing earlier with
  | nil => rfl
  | cons p rest ih =>
    obtain ⟨j, w⟩ := p
    have hj : j ≠ k := fun h => hlater (by simp [keys, h])
    have hrest : k ∉ keys rest := fun h => hlater (List.mem_cons_of_mem _ h)
    change set k v (setAll (set j w earlier) rest) = setAll (set j w (set k v earlier)) rest
    rw [ih hrest (mem_keys_set.2 (.inr hk)), set_comm hj v w hk]

theorem setAll_set {k : κ} (v : ν) {later : Assoc κ ν} (h : (keys later).Nodup)
    (earlier : Assoc κ ν) :
    setAll earlier (set k v later) = set k v (setAll earlier later) := by
  induction later generalizing earlier with
  | nil => rfl
  | cons p rest ih =>
    obtain ⟨j, w⟩ := p
    obtain ⟨hj, hrest⟩ := List.nodup_cons.1 h
    by_cases hk : j = k
    · subst hk
      have hset : set j v ((j, w) :: rest) = (j, v) :: rest := by simp [set]
      rw [hset]
      change setAll (set j v earlier) rest = set j v (setAll (set j w earlier) rest)
      rw [set_setAll v hj (mem_keys_set.2 (.inl rfl)), set_set_self]
    · have hset : set k v ((j, w) :: rest) = (j, w) :: set k v rest := by simp [set, hk]
      rw [hset]
      exact ih hrest (set j w earlier)

theorem setAll_assoc {b : Assoc κ ν} (h : (keys b).Nodup) (a c : Assoc κ ν) :
    setAll a (setAll b c) = setAll (setAll a b) c := by
  induction c generalizing b with
  | nil => rfl
  | cons p rest ih =>
    obtain ⟨k, v⟩ := p
    change setAll a (setAll (set k v b) rest) = setAll (set k v (setAll a b)) rest
    rw [ih (nodup_keys_set h), setAll_set v h]

theorem set_append_of_not_mem {k : κ} (v : ν) {pairs : Assoc κ ν} (h : k ∉ keys pairs) :
    set k v pairs = pairs ++ [(k, v)] := by
  induction pairs with
  | nil => rfl
  | cons p rest ih =>
    obtain ⟨j, w⟩ := p
    have hj : j ≠ k := fun e => h (by simp [keys, e])
    have hrest : k ∉ keys rest := fun e => h (List.mem_cons_of_mem _ e)
    simp [set, hj, ih hrest]

/-- A new key comes last, and a key that is there keeps its place. -/
theorem keys_set (key : κ) (value : ν) (pairs : Assoc κ ν) :
    keys (set key value pairs) = if key ∈ keys pairs then keys pairs else keys pairs ++ [key] := by
  by_cases hk : key ∈ keys pairs
  · rw [if_pos hk]
    induction pairs with
    | nil => simp [keys] at hk
    | cons p rest ih =>
      obtain ⟨j, w⟩ := p
      by_cases hj : j = key
      · simp [set, keys, hj]
      · have hrest : key ∈ keys rest := (List.mem_cons.1 hk).resolve_left (Ne.symm hj)
        have ih := ih hrest
        simp only [keys] at ih
        simp [set, keys, hj, ih]
  · rw [if_neg hk, set_append_of_not_mem value hk]
    simp [keys]

theorem setAll_eq_append {later earlier : Assoc κ ν} (h : (keys (earlier ++ later)).Nodup) :
    setAll earlier later = earlier ++ later := by
  induction later generalizing earlier with
  | nil => simp [setAll]
  | cons p rest ih =>
    obtain ⟨k, v⟩ := p
    have hk : k ∉ keys earlier := by
      simp only [keys, List.map_append, List.map_cons, List.nodup_append] at h
      intro hm
      exact h.2.2 k hm k (by simp) rfl
    change setAll (set k v earlier) rest = _
    rw [set_append_of_not_mem v hk, ih (by simpa using h)]
    simp

theorem get?_eq_none {key : κ} {pairs : Assoc κ ν} (h : key ∉ keys pairs) :
    get? key pairs = none := by
  induction pairs with
  | nil => rfl
  | cons p rest ih =>
    obtain ⟨k, v⟩ := p
    have hk : k ≠ key := fun e => h (by simp [keys, e])
    rw [get?, if_neg hk]
    exact ih fun e => h (List.mem_cons_of_mem _ e)

theorem get?_setAll {later : Assoc κ ν} (h : (keys later).Nodup) (earlier : Assoc κ ν) (key : κ) :
    get? key (setAll earlier later) = (get? key later).or (get? key earlier) := by
  induction later generalizing earlier with
  | nil => rfl
  | cons p rest ih =>
    obtain ⟨k, v⟩ := p
    obtain ⟨hk, hrest⟩ := List.nodup_cons.1 h
    have hset : get? key (setAll earlier ((k, v) :: rest)) =
        (get? key rest).or (get? key (set k v earlier)) := ih hrest (set k v earlier)
    rw [hset, get?]
    by_cases hkey : k = key
    · subst hkey
      rw [if_pos rfl, get?_eq_none hk, get?_set_self, Option.none_or, Option.some_or]
    · rw [if_neg hkey, get?_set_other (Ne.symm hkey)]

end Assoc

/-! ## Maps -/

/-- A map with its keys in order. -/
structure OrderedMap (κ ν : Type) where
  pairs : Assoc κ ν
  distinct : (Assoc.keys pairs).Nodup

namespace OrderedMap

variable {κ ν : Type} [DecidableEq κ]

instance [DecidableEq ν] : DecidableEq (OrderedMap κ ν) := fun a b =>
  decidable_of_iff (a.pairs = b.pairs) (by cases a; cases b; simp)

/-- The map without keys. -/
def empty : OrderedMap κ ν := ⟨[], by simp [Assoc.keys]⟩

/-- The map of pairs in order, of which the last one for a key gives the value. -/
def ofPairs (pairs : Assoc κ ν) : OrderedMap κ ν :=
  ⟨Assoc.setAll [] pairs, Assoc.nodup_keys_setAll (by simp [Assoc.keys])⟩

/-- The value of a key. -/
def get? (m : OrderedMap κ ν) (key : κ) : Option ν :=
  Assoc.get? key m.pairs

/-- The keys and values of `high`, set in order over `low`. -/
def overlay (low high : OrderedMap κ ν) : OrderedMap κ ν :=
  ⟨Assoc.setAll low.pairs high.pairs, Assoc.nodup_keys_setAll low.distinct⟩

omit [DecidableEq κ] in
theorem ext {a b : OrderedMap κ ν} (h : a.pairs = b.pairs) : a = b := by
  cases a
  cases b
  subst h
  rfl

/-- A key that `high` has gets its value from there. -/
theorem get?_overlay (low high : OrderedMap κ ν) (key : κ) :
    (low.overlay high).get? key = (high.get? key).or (low.get? key) :=
  Assoc.get?_setAll high.distinct low.pairs key

theorem get?_ofPairs {pairs : Assoc κ ν} (h : (Assoc.keys pairs).Nodup) (key : κ) :
    (ofPairs pairs).get? key = Assoc.get? key pairs := by
  simpa [get?, ofPairs] using Assoc.get?_setAll h [] key

theorem overlay_assoc (a b c : OrderedMap κ ν) :
    overlay (overlay a b) c = overlay a (overlay b c) :=
  ext (Assoc.setAll_assoc b.distinct a.pairs c.pairs).symm

theorem overlay_empty (m : OrderedMap κ ν) : overlay m empty = m := rfl

theorem empty_overlay (m : OrderedMap κ ν) : overlay empty m = m :=
  ext (by
    have h : (Assoc.keys ([] ++ m.pairs)).Nodup := m.distinct
    simpa [overlay, empty] using Assoc.setAll_eq_append h)

end OrderedMap

end SampleTypes
