/-
Merging layers as an algebra. Layers with `merge` are a monoid, so that a list of layers may be
merged in groups (`mergeAll_append`), and what is merged can be told part by part: a value that may
be left open is that of the last layer that gives one, the type names have their keys in the order in
which they were first given, and the sources and findings of all layers are kept, in order.
-/
import SampleTypes.Proofs.FirstOfKey
import SampleTypes.Proofs.Settings.Field

namespace SampleTypes

/-! ## Keys of maps that are laid over each other -/

namespace Assoc

variable {κ ν : Type} [DecidableEq κ]

theorem keys_setAll {earlier : Assoc κ ν} {ks : List κ} (h : keys earlier = firsts id ks)
    (later : Assoc κ ν) : keys (setAll earlier later) = firsts id (ks ++ keys later) := by
  induction later generalizing earlier ks with
  | nil => simpa [setAll, keys] using h
  | cons p rest ih =>
    obtain ⟨k, v⟩ := p
    have hset : keys (set k v earlier) = firsts id (ks ++ [k]) := by
      rw [keys_set, h, firsts_append_singleton, List.map_id]
      simp only [mem_firsts_id, id_eq]
    have hrest : keys (setAll earlier ((k, v) :: rest)) = firsts id (ks ++ [k] ++ keys rest) :=
      ih hset
    rw [hrest, List.append_assoc]
    rfl

end Assoc

namespace OrderedMap

variable {κ ν : Type} [DecidableEq κ]

/-- The keys in order. -/
def keys (m : OrderedMap κ ν) : List κ :=
  Assoc.keys m.pairs

theorem keys_overlay {low : OrderedMap κ ν} {ks : List κ} (h : low.keys = firsts id ks)
    (high : OrderedMap κ ν) : (low.overlay high).keys = firsts id (ks ++ high.keys) :=
  Assoc.keys_setAll h high.pairs

end OrderedMap

namespace Settings

variable {α : Type}

/-- A value that a layer may leave open, with its type. The type names are a map of their own. -/
inductive Scalar : Type → Type where
  | verbosity : Scalar Int
  | applyChanges : Scalar Bool
  | rootName : Scalar String
  | declareRoot : Scalar Bool
  | scalarSequences : Scalar Bool
  | sampleComments : Scalar Bool
  | modulePrefix : Scalar String
  | extension : Scalar String
  | outputDir : Scalar Path

namespace Layer

/-- The value that a layer gives, if it does not leave it open. -/
def scalar? (l : Layer) : Scalar α → Option α
  | .verbosity => l.verbosity
  | .applyChanges => l.applyChanges
  | .rootName => l.rootName
  | .declareRoot => l.declareRoot
  | .scalarSequences => l.scalarSequences
  | .sampleComments => l.sampleComments
  | .modulePrefix => l.modulePrefix
  | .extension => l.extension
  | .outputDir => l.outputDir

theorem scalar?_merge (low high : Layer) (s : Scalar α) :
    (low.merge high).scalar? s = (high.scalar? s).or (low.scalar? s) := by
  cases s <;> rfl

/-! ## Groups of layers -/

instance : Std.Associative merge := ⟨merge_assoc⟩

/-- Layers that are merged in two groups are merged. -/
theorem mergeAll_append (layers more : List Layer) :
    mergeAll (layers ++ more) = (mergeAll layers).merge (mergeAll more) := by
  have hlayers : mergeAll (layers ++ more) = more.foldl merge ((mergeAll layers).merge empty) := by
    rw [merge_empty, mergeAll, mergeAll, List.foldl_append]
  rw [hlayers, List.foldl_assoc]
  rfl

/-- The last layer that gives a part decides it, if later layers win wherever they give it. -/
theorem getLast?_of_merge (part : Layer → Option α) (hempty : part empty = none)
    (hmerge : ∀ low high : Layer, part (low.merge high) = (part high).or (part low))
    (layers : List Layer) : part (mergeAll layers) = (layers.filterMap part).getLast? := by
  induction layers using List.reverseRecOn with
  | nil => exact hempty
  | append_singleton layers l ih =>
    rw [mergeAll_append_singleton, hmerge, ih, List.filterMap_append, List.getLast?_append]
    congr 1
    cases h : part l <;> simp [h]

theorem keys_typeNames_mergeAll (layers : List Layer) :
    (mergeAll layers).typeNames.keys = firsts id (layers.flatMap fun l => l.typeNames.keys) := by
  induction layers using List.reverseRecOn with
  | nil => rfl
  | append_singleton layers l ih =>
    rw [mergeAll_append_singleton, List.flatMap_append, List.flatMap_singleton]
    exact OrderedMap.keys_overlay ih l.typeNames

/-- **Layers are a monoid**, and a merged list of them is told part by part by the layers alone. A
value that is given is given, also if it is false or empty. -/
theorem merge_monoid :
    (∀ a b c : Layer, (a.merge b).merge c = a.merge (b.merge c)) ∧
    (∀ a : Layer, a.merge empty = a ∧ empty.merge a = a) ∧
    (∀ layers more : List Layer,
      mergeAll (layers ++ more) = (mergeAll layers).merge (mergeAll more)) ∧
    ∀ layers : List Layer,
      (∀ {α : Type} (s : Scalar α),
        (mergeAll layers).scalar? s = (layers.filterMap fun l => l.scalar? s).getLast?) ∧
      (mergeAll layers).typeNames.keys = firsts id (layers.flatMap fun l => l.typeNames.keys) ∧
      (∀ slot, (mergeAll layers).typeNames.get? slot =
        (layers.filterMap fun l => l.typeNames.get? slot).getLast?) ∧
      (mergeAll layers).sources = layers.flatMap Layer.sources ∧
      (mergeAll layers).findings = layers.flatMap Layer.findings := by
  refine ⟨merge_assoc, fun a => ⟨merge_empty a, empty_merge a⟩, mergeAll_append, fun layers => ?_⟩
  refine ⟨fun s => ?_, keys_typeNames_mergeAll layers, fun slot => ?_, sources_mergeAll layers,
    findings_mergeAll layers⟩
  · have hempty : empty.scalar? s = none := by cases s <;> rfl
    exact getLast?_of_merge (fun l => l.scalar? s) hempty (fun _ _ => scalar?_merge _ _ s) layers
  · exact getLast?_of_merge (fun l => l.typeNames.get? slot) rfl
      (fun _ _ => OrderedMap.get?_overlay _ _ slot) layers

end Layer

end Settings

end SampleTypes
