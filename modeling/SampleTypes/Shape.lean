/-
The shape of an object: the set of its keys. A shape lists its keys in ascending order, so two
shapes are equal exactly when they have the same keys; `ext_mem` says so.
-/
import SampleTypes.Value

namespace SampleTypes

/-- A set of keys. -/
structure Shape where
  keys : List String
  ascending : keys.Pairwise (· < ·)
  deriving DecidableEq

namespace Shape

/-- Puts a key at its place in ascending keys, unless it is there. -/
def insertKey (key : String) : List String → List String
  | [] => [key]
  | k :: rest =>
    if key < k then key :: k :: rest
    else if key = k then k :: rest
    else k :: insertKey key rest

theorem mem_insertKey {key k : String} {keys : List String} :
    k ∈ insertKey key keys ↔ k = key ∨ k ∈ keys := by
  induction keys with
  | nil => simp [insertKey]
  | cons a rest ih =>
    simp only [insertKey]
    split
    · simp
    · split
      · next h => subst h; simp
      · simp only [List.mem_cons, ih]
        grind

theorem pairwise_insertKey {key : String} {keys : List String} (h : keys.Pairwise (· < ·)) :
    (insertKey key keys).Pairwise (· < ·) := by
  induction keys with
  | nil => simp [insertKey]
  | cons a rest ih =>
    obtain ⟨hlt, hrest⟩ := List.pairwise_cons.1 h
    simp only [insertKey]
    split
    · next hk =>
      refine List.pairwise_cons.2 ⟨fun b hb => ?_, h⟩
      rcases List.mem_cons.1 hb with rfl | hb
      · exact hk
      · exact String.lt_trans hk (hlt b hb)
    · split
      · exact h
      · next hk hne =>
        refine List.pairwise_cons.2 ⟨fun b hb => ?_, ih hrest⟩
        rcases mem_insertKey.1 hb with rfl | hb
        · exact Std.lt_of_le_of_ne (String.not_lt.1 hk) (Ne.symm hne)
        · exact hlt b hb

/-- The shape without keys. -/
def empty : Shape := ⟨[], .nil⟩

/-- A shape with one more key. -/
def insert (key : String) (s : Shape) : Shape :=
  ⟨insertKey key s.keys, pairwise_insertKey s.ascending⟩

/-- The set of some keys. -/
def ofKeys (keys : List String) : Shape :=
  keys.foldr insert empty

/-- The shape of an object with the given members. -/
def ofMembers {α : Type} (members : List (String × α)) : Shape :=
  ofKeys (members.map Prod.fst)

theorem mem_keys_ofKeys {k : String} {keys : List String} : k ∈ (ofKeys keys).keys ↔ k ∈ keys := by
  induction keys with
  | nil => simp [ofKeys, empty]
  | cons a rest ih =>
    have : (ofKeys (a :: rest)).keys = insertKey a (ofKeys rest).keys := rfl
    rw [this, mem_insertKey, ih, List.mem_cons]

/-- Shapes with the same keys are equal. -/
theorem ext_mem {s t : Shape} (h : ∀ k, k ∈ s.keys ↔ k ∈ t.keys) : s = t := by
  obtain ⟨ks, hs⟩ := s
  obtain ⟨kt, ht⟩ := t
  have nodup {keys : List String} (hk : keys.Pairwise (· < ·)) : keys.Nodup := by
    refine List.Pairwise.imp ?_ hk
    intro a b hlt heq
    exact String.lt_irrefl b (heq ▸ hlt)
  have hperm : ks.Perm kt := (List.perm_ext_iff_of_nodup (nodup hs) (nodup ht)).2 h
  have : ks = kt := hperm.eq_of_pairwise
    (fun a b _ _ hab hba => absurd (String.lt_trans hab hba) (String.lt_irrefl a)) hs ht
  subst this
  rfl

end Shape

end SampleTypes
