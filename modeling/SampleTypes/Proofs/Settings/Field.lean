/-
The settings one by one. A layer gives a value for some of them, and merging layers is, for each
setting alone, taking the value of the highest layer that gives one (`get?_mergeAll`); the sources
and the findings of the layers are all kept, in order.
-/
import Mathlib.Data.List.Induction
import SampleTypes.Settings.Basic

namespace SampleTypes

namespace Settings

/-- A setting that a settings file can give, with the type of its values. -/
inductive Field : Type → Type where
  | rootName : Field String
  | declareRoot : Field Bool
  | scalarSequences : Field Bool
  | typeName (slot : TypeSlot) : Field String
  | sampleComments : Field Bool
  | modulePrefix : Field String
  | extension : Field String
  | outputDir : Field Path

variable {α : Type}

/-- The value that a layer gives a setting. -/
def Layer.get? (l : Layer) : Field α → Option α
  | .rootName => l.rootName
  | .declareRoot => l.declareRoot
  | .scalarSequences => l.scalarSequences
  | .typeName slot => l.typeNames.get? slot
  | .sampleComments => l.sampleComments
  | .modulePrefix => l.modulePrefix
  | .extension => l.extension
  | .outputDir => l.outputDir

/-- The value of a setting. -/
def get (s : Settings) : Field α → α
  | .rootName => s.rootName
  | .declareRoot => s.declareRoot
  | .scalarSequences => s.scalarSequences
  | .typeName slot => nameOf s.typeNames slot
  | .sampleComments => s.typeNames.sampleComments
  | .modulePrefix => s.modulePrefix
  | .extension => s.extension
  | .outputDir => s.outputDir

/-- Settings that a layer gives stay what they are when the others are decided. -/
theorem get_ofLayer {l : Layer} {f : Field α} {a : α} (h : l.get? f = some a) :
    (ofLayer l).get f = a := by
  cases f with
  | typeName slot => cases slot <;> simp_all [Layer.get?, get, ofLayer, nameOf, Layer.haskellNames]
  | _ => simp_all [Layer.get?, get, ofLayer, Layer.haskellNames]

/-! ## Merging -/

namespace Layer

theorem get?_merge (low high : Layer) (f : Field α) :
    (low.merge high).get? f = (high.get? f).or (low.get? f) := by
  cases f with
  | typeName slot => exact OrderedMap.get?_overlay _ _ slot
  | _ => rfl

/-- What the values of two layers have, those of the merged layer have. -/
theorem forall_get?_merge {P : α → Prop} {low high : Layer} {f : Field α}
    (hlow : ∀ a, low.get? f = some a → P a) (hhigh : ∀ a, high.get? f = some a → P a) :
    ∀ a, (low.merge high).get? f = some a → P a := by
  intro a h
  rw [get?_merge, Option.or_eq_some_iff] at h
  rcases h with h | ⟨-, h⟩
  · exact hhigh a h
  · exact hlow a h

/-- Layers merged from the lowest to the highest. -/
def mergeAll (layers : List Layer) : Layer :=
  layers.foldl merge empty

theorem mergeAll_append_singleton (layers : List Layer) (l : Layer) :
    mergeAll (layers ++ [l]) = (mergeAll layers).merge l := by
  rw [mergeAll, List.foldl_append]
  rfl

theorem get?_empty (f : Field α) : empty.get? f = none := by
  cases f <;> rfl

/-- **The highest layer that gives a value decides.** -/
theorem get?_mergeAll (layers : List Layer) (f : Field α) :
    (mergeAll layers).get? f = layers.reverse.findSome? (fun l => l.get? f) := by
  induction layers using List.reverseRecOn with
  | nil => exact get?_empty f
  | append_singleton layers l ih =>
    rw [mergeAll_append_singleton, get?_merge, ih, List.reverse_append, List.reverse_singleton,
      List.singleton_append, List.findSome?_cons]
    cases l.get? f <;> rfl

theorem sources_mergeAll (layers : List Layer) :
    (mergeAll layers).sources = layers.flatMap Layer.sources := by
  induction layers using List.reverseRecOn with
  | nil => rfl
  | append_singleton layers l ih =>
    rw [mergeAll_append_singleton, List.flatMap_append, ← ih, List.flatMap_singleton]
    rfl

theorem findings_mergeAll (layers : List Layer) :
    (mergeAll layers).findings = layers.flatMap Layer.findings := by
  induction layers using List.reverseRecOn with
  | nil => rfl
  | append_singleton layers l ih =>
    rw [mergeAll_append_singleton, List.flatMap_append, ← ih, List.flatMap_singleton]
    rfl

end Layer

end Settings

end SampleTypes
