/-
The first element of every key in a list. Later elements of a key that was there before are left
out, and the rest keeps its order.

`firsts_append_singleton` is one step of a loop that skips what it has seen. `firsts_firsts` says
that leaving out by a finer key first makes no difference.
-/
import Mathlib.Data.List.Induction
import Mathlib.Data.List.Nodup

namespace SampleTypes

variable {α β κ ι : Type} [DecidableEq κ] [DecidableEq ι]

/-- The elements whose key no earlier element has, in order. -/
def firsts (key : α → κ) (xs : List α) : List α :=
  xs.eraseDupsBy (fun a b => key a == key b)

/-! ## One element in front -/

@[simp] theorem firsts_nil (key : α → κ) : firsts key [] = [] := rfl

/-- Elements may be left out by their key before or after. -/
theorem firsts_filter {key : α → κ} {p : α → Bool} (hp : ∀ a b, key a = key b → p a = p b)
    (xs : List α) : firsts key (xs.filter p) = (firsts key xs).filter p := by
  induction hn : xs.length using Nat.strongRecOn generalizing xs with
  | ind n ih =>
  cases xs with
  | nil => rfl
  | cons a rest =>
    have hlen : (rest.filter fun b => (key b == key a) = false).length < n := by
      have := List.length_filter_le (fun b => decide ((key b == key a) = false)) rest
      rw [← hn, List.length_cons]
      omega
    have hrest := ih _ hlen _ rfl
    simp only [firsts] at hrest ⊢
    rw [List.eraseDupsBy_cons]
    by_cases ha : p a = true
    · rw [List.filter_cons_of_pos ha, List.eraseDupsBy_cons, List.filter_cons_of_pos ha, ← hrest,
        List.filter_filter, List.filter_filter]
      simp only [Bool.and_comm]
    · rw [List.filter_cons_of_neg ha, List.filter_cons_of_neg ha, ← hrest, List.filter_filter]
      -- An element with the key of `a` is left out like `a`.
      congr 1
      refine List.filter_congr fun b _ => ?_
      by_cases hb : key b = key a
      · rw [hp b a hb]
        simp [ha]
      · simp [hb]

theorem firsts_cons (key : α → κ) (a : α) (rest : List α) :
    firsts key (a :: rest) = a :: (firsts key rest).filter (fun b => key b ≠ key a) := by
  have hp : ∀ b c, key b = key c → decide (key b ≠ key a) = decide (key c ≠ key a) :=
    fun b c hbc => by rw [hbc]
  rw [← firsts_filter hp]
  simp only [firsts, List.eraseDupsBy_cons]
  congr 3
  funext b
  simp

/-! ## Keys -/

theorem firsts_sublist (key : α → κ) (xs : List α) : (firsts key xs).Sublist xs := by
  induction xs with
  | nil => exact .slnil
  | cons a rest ih =>
    rw [firsts_cons]
    exact (List.filter_sublist.trans ih).cons_cons a

theorem nodup_map_firsts (key : α → κ) (xs : List α) : ((firsts key xs).map key).Nodup := by
  induction xs with
  | nil => simp
  | cons a rest ih =>
    rw [firsts_cons, List.map_cons, List.nodup_cons]
    refine ⟨?_, (List.filter_sublist.map key).nodup ih⟩
    intro h
    obtain ⟨b, hb, hba⟩ := List.mem_map.1 h
    simp only [List.mem_filter, decide_eq_true_eq] at hb
    exact hb.2 hba

theorem firsts_eq_self {key : α → κ} {xs : List α} (h : (xs.map key).Nodup) :
    firsts key xs = xs := by
  induction xs with
  | nil => rfl
  | cons a rest ih =>
    rw [List.map_cons, List.nodup_cons] at h
    rw [firsts_cons, ih h.2, List.filter_eq_self.2]
    intro b hb
    simp only [decide_eq_true_eq]
    exact fun hba => h.1 (hba ▸ List.mem_map_of_mem hb)

/-- With distinct keys, an element is found by its key. -/
theorem find?_of_nodup_map {key : α → κ} {xs : List α} (h : (xs.map key).Nodup) {a : α}
    (ha : a ∈ xs) : xs.find? (fun b => key b == key a) = some a := by
  cases hf : xs.find? (fun b => key b == key a) with
  | none =>
    have := List.find?_eq_none.1 hf a ha
    simp at this
  | some b =>
    have hb : key b = key a := by simpa using List.find?_some hf
    rw [List.inj_on_of_nodup_map h (List.mem_of_find?_eq_some hf) ha hb]

theorem find?_key_eq_none {key : α → κ} {xs : List α} {k : κ} :
    xs.find? (fun a => key a == k) = none ↔ k ∉ xs.map key := by
  simp [List.find?_eq_none]

/-- A key that is there has a first element. -/
theorem exists_find?_key {key : α → κ} {xs : List α} {k : κ} (h : k ∈ xs.map key) :
    ∃ a, xs.find? (fun a => key a == k) = some a := by
  cases hf : xs.find? (fun a => key a == k) with
  | none => exact absurd h (find?_key_eq_none.1 hf)
  | some a => exact ⟨a, rfl⟩

/-! ## A coarser key -/

section Coarser

variable {fine : α → κ} {coarse : α → ι} (hc : ∀ a b, fine a = fine b → coarse a = coarse b)

include hc

theorem find?_firsts (xs : List α) (k : ι) :
    (firsts fine xs).find? (fun a => coarse a == k) = xs.find? (fun a => coarse a == k) := by
  induction xs with
  | nil => rfl
  | cons a rest ih =>
    rw [firsts_cons, List.find?_cons, List.find?_cons]
    by_cases ha : coarse a = k
    · simp [ha]
    · have hak : (coarse a == k) = false := by simpa using ha
      simp only [hak]
      rw [← ih, List.find?_filter]
      congr 1
      funext b
      by_cases hb : coarse b = k
      · have : fine b ≠ fine a := fun h => ha ((hc b a h).symm.trans hb)
        simp [this, hb]
      · have : (coarse b == k) = false := by simpa using hb
        simp [this]

theorem mem_map_firsts {k : ι} {xs : List α} :
    k ∈ (firsts fine xs).map coarse ↔ k ∈ xs.map coarse := by
  have h : ∀ ys : List α, k ∈ ys.map coarse ↔ (ys.find? (fun a => coarse a == k)).isSome := by
    simp [List.find?_isSome]
  rw [h, h, find?_firsts hc]

end Coarser

/-- With the same keys, the first elements of the keys have the keys in some order. -/
theorem perm_map_firsts {key : α → κ} {xs ys : List α}
    (h : ∀ k, k ∈ xs.map key ↔ k ∈ ys.map key) :
    ((firsts key xs).map key).Perm ((firsts key ys).map key) := by
  refine (List.perm_ext_iff_of_nodup (nodup_map_firsts key xs) (nodup_map_firsts key ys)).2 ?_
  intro k
  rw [mem_map_firsts fun _ _ h => h, mem_map_firsts fun _ _ h => h, h k]

theorem length_firsts_congr {key : α → κ} {xs ys : List α}
    (h : ∀ k, k ∈ xs.map key ↔ k ∈ ys.map key) :
    (firsts key xs).length = (firsts key ys).length := by
  simpa using (perm_map_firsts h).length_eq

theorem mem_firsts_id {k : κ} {ks : List κ} : k ∈ firsts id ks ↔ k ∈ ks := by
  have h : k ∈ (firsts id ks).map id ↔ k ∈ ks.map id := mem_map_firsts (fun _ _ h => h)
  rwa [List.map_id, List.map_id] at h

theorem nodup_firsts_id (ks : List κ) : (firsts id ks).Nodup := by
  simpa using nodup_map_firsts id ks

/-- One more element at the end is left out if its key was there. -/
theorem firsts_append_singleton (key : α → κ) (xs : List α) (a : α) :
    firsts key (xs ++ [a]) =
      if key a ∈ xs.map key then firsts key xs else firsts key xs ++ [a] := by
  induction xs with
  | nil => simp [firsts_cons]
  | cons x rest ih =>
    rw [List.cons_append, firsts_cons, firsts_cons, ih]
    by_cases ha : key a = key x
    · split <;> simp [ha]
    · by_cases hr : key a ∈ rest.map key
      · rw [if_pos hr, if_pos (by rw [List.map_cons]; exact List.mem_cons_of_mem _ hr)]
      · rw [if_neg hr, if_neg (by rw [List.map_cons, List.mem_cons]; tauto)]
        simp [ha]

/-- What stands in front of a first element are the first elements of what was in front of it. -/
theorem exists_append_of_getElem?_firsts {key : α → κ} {xs : List α} {i : Nat} {a : α}
    (h : (firsts key xs)[i]? = some a) :
    ∃ before after, xs = before ++ a :: after ∧ firsts key before = (firsts key xs).take i := by
  induction xs using List.reverseRecOn with
  | nil => cases h
  | append_singleton rest b ih =>
    -- nothing in front of `a` changes if `a` is one of the earlier elements
    have hrest (hi : (firsts key rest)[i]? = some a) : ∃ before after,
        rest ++ [b] = before ++ a :: after ∧ firsts key before = (firsts key rest).take i := by
      obtain ⟨before, after, rfl, htake⟩ := ih hi
      exact ⟨before, after ++ [b], by simp, htake⟩
    rw [firsts_append_singleton] at h ⊢
    split at h
    · next hb =>
      rw [if_pos hb]
      exact hrest h
    · next hb =>
      rw [if_neg hb]
      rcases Nat.lt_trichotomy i (firsts key rest).length with hi | rfl | hi
      · rw [List.getElem?_append_left hi] at h
        rw [List.take_append_of_le_length (Nat.le_of_lt hi)]
        exact hrest h
      · rw [List.getElem?_concat_length, Option.some.injEq] at h
        subst h
        exact ⟨rest, [], rfl, List.take_left.symm⟩
      · have hlength : (firsts key rest ++ [b]).length ≤ i := by
          rw [List.length_append]
          exact hi
        rw [List.getElem?_eq_none hlength] at h
        cases h

theorem firsts_firsts {fine : α → κ} {coarse : α → ι}
    (hc : ∀ a b, fine a = fine b → coarse a = coarse b) (xs : List α) :
    firsts coarse (firsts fine xs) = firsts coarse xs := by
  induction xs using List.reverseRecOn with
  | nil => rfl
  | append_singleton rest a ih =>
    rw [firsts_append_singleton fine, firsts_append_singleton coarse]
    by_cases ha : fine a ∈ rest.map fine
    · obtain ⟨b, hb, hba⟩ := List.mem_map.1 ha
      have hca : coarse a ∈ rest.map coarse := hc b a hba ▸ List.mem_map_of_mem hb
      rw [if_pos ha, if_pos hca, ih]
    · rw [if_neg ha, firsts_append_singleton, ih]
      simp only [mem_map_firsts hc]

theorem firsts_map (key : β → κ) (f : α → β) (xs : List α) :
    firsts key (xs.map f) = (firsts (fun a => key (f a)) xs).map f := by
  induction xs with
  | nil => rfl
  | cons a rest ih =>
    rw [List.map_cons, firsts_cons, firsts_cons, ih, List.map_cons, List.filter_map]
    rfl

/-- A function of the key takes the same values on the first elements of the keys. -/
theorem firsts_id_map_firsts {key : α → κ} {f : α → ι} (hf : ∀ a b, key a = key b → f a = f b)
    (xs : List α) : firsts id ((firsts key xs).map f) = firsts id (xs.map f) := by
  rw [firsts_map, firsts_map]
  exact congrArg (List.map f) (firsts_firsts hf xs)

end SampleTypes
