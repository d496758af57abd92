/-
The comments that show samples. A comment ends with its line, so it may stand at the end of a line
only, and nothing in it may end the line. Inside brackets there is none, at any depth
(`typeExpression_sequence`): what starts a comment there could only come from a name
(`holdsDashes_typeExpression_plain`). At the end of a line the breaks in a sample are escaped
(`avoids_typeExpression`).
-/
import SampleTypes.Proofs.Haskell.Breaks
import SampleTypes.Proofs.Schema.Samples

namespace SampleTypes

/-! ## What starts a comment -/

namespace Text

/-- Two dashes next to each other, with which a comment starts. -/
def HoldsDashes (s : String) : Prop :=
  ['-', '-'] <:+: s.toList

variable {s t u : String}

theorem not_holdsDashes (hs : Avoids '-' s) : ¬ HoldsDashes s :=
  fun h => hs (h.subset List.mem_cons_self)

theorem holdsDashes_append (h : Avoids '-' s ∨ Avoids '-' t) :
    HoldsDashes (s ++ t) ↔ HoldsDashes s ∨ HoldsDashes t := by
  rw [HoldsDashes, String.toList_append, List.infix_append_iff_ne_nil]
  constructor
  · rintro (hs | ht | ⟨front, back, hfront, hback, hdashes, hs, ht⟩)
    · exact .inl hs
    · exact .inr ht
    · -- the pair would be cut in two, with a dash on either side
      have hall : ∀ c ∈ front ++ back, c = '-' := by
        rw [← hdashes]
        simp
      obtain ⟨c, hc⟩ := List.exists_mem_of_ne_nil front hfront
      obtain ⟨d, hd⟩ := List.exists_mem_of_ne_nil back hback
      obtain rfl := hall c (List.mem_append_left _ hc)
      obtain rfl := hall d (List.mem_append_right _ hd)
      rcases h with h | h
      · exact absurd (hs.subset hc) h
      · exact absurd (ht.subset hd) h
  · exact Or.imp_right .inl

theorem holdsDashes_between (hs : Avoids '-' s) (hu : Avoids '-' u) :
    HoldsDashes (s ++ t ++ u) ↔ HoldsDashes t := by
  rw [holdsDashes_append (.inr hu), holdsDashes_append (.inl hs), or_iff_left (not_holdsDashes hu),
    or_iff_right (not_holdsDashes hs)]

end Text

namespace Haskell

open Text

variable {names : TypeNames}

/-! ## Inside brackets -/

theorem typeExpression_plain (t : FieldType) :
    typeExpression names false t = plainType names t := by
  cases t with
  | text sample => cases sample <;> rfl
  | number | bool | null | record | sequence | unknown => rfl

/-- Below a bracket nothing is annotated. -/
theorem typeExpression_sequence (annotate : Bool) (element : FieldType) :
    typeExpression names annotate (.sequence element) =
      if element = .unknown then "[" ++ names.unknown ++ "]"
      else "[ " ++ typeExpression names false element ++ " ]" := by
  rw [typeExpression_plain]
  cases element <;> rfl

theorem typeExpression_plain_unsampled (t : FieldType) :
    typeExpression names false t.unsampled = typeExpression names false t := by
  rw [typeExpression_plain, typeExpression_plain, plainType_unsampled]

theorem unsampled_eq_unknown {t : FieldType} : t.unsampled = .unknown ↔ t = .unknown := by
  cases t <;> simp [FieldType.unsampled]

/-- Samples do not show below a bracket. -/
theorem typeExpression_sequence_unsampled (annotate : Bool) (element : FieldType) :
    typeExpression names annotate (.sequence element.unsampled) =
      typeExpression names annotate (.sequence element) := by
  simp only [typeExpression_sequence, unsampled_eq_unknown, typeExpression_plain_unsampled]

theorem typeExpression_plain_uncommented (t : FieldType) :
    typeExpression { names with sampleComments := false } false t =
      typeExpression names false t := by
  induction t with
  | text sample => cases sample <;> rfl
  | number | bool | null | record | unknown => rfl
  | sequence element ih => rw [typeExpression_sequence, typeExpression_sequence, ih]

/-- What starts a comment comes from a name. -/
theorem holdsDashes_typeExpression_plain {t : FieldType}
    (h : HoldsDashes (typeExpression names false t)) :
    (∃ slot, HoldsDashes (Settings.nameOf names slot)) ∨ ∃ name ∈ t.references, HoldsDashes name := by
  induction t with
  | text sample =>
    rw [typeExpression_plain] at h
    exact .inl ⟨.text, h⟩
  | number => exact .inl ⟨.number, h⟩
  | bool => exact .inl ⟨.boolean, h⟩
  | null => exact .inl ⟨.null, h⟩
  | unknown => exact .inl ⟨.unknown, h⟩
  | record name => exact .inr ⟨name, List.mem_singleton_self name, h⟩
  | sequence element ih =>
    rw [typeExpression_sequence] at h
    split at h
    · rw [holdsDashes_between (by decide) (by decide)] at h
      exact .inl ⟨.unknown, h⟩
    · rw [holdsDashes_between (by decide) (by decide)] at h
      exact ih h

/-! ## At the end of a line -/

/-- **Samples stay harmless.** The text of a sequence is the same for all samples in it and as if
none were shown, and nothing in it starts a comment unless a name does. The type of strings is named
alone where no sample is shown; else two dashes and the escaped sample follow the name, without the
white space at the end. And a text without breaks in its names has none at all. -/
theorem samples_harmless (names : TypeNames) :
    (∀ annotate t u, t.unsampled = u.unsampled →
      typeExpression names annotate (.sequence t) = typeExpression names annotate (.sequence u)) ∧
    (∀ annotate t,
      typeExpression { names with sampleComments := false } annotate (.sequence t) =
        typeExpression names annotate (.sequence t) ∧
      (HoldsDashes (typeExpression names annotate (.sequence t)) →
        (∃ slot, HoldsDashes (Settings.nameOf names slot)) ∨
          ∃ name ∈ t.references, HoldsDashes name)) ∧
    (∀ annotate sample, annotate = false ∨ names.sampleComments = false ∨ sample = none →
      typeExpression names annotate (.text sample) = names.text) ∧
    (∀ sample, names.sampleComments = true →
      typeExpression names true (.text (some sample)) =
        trimEnd (names.text ++ " -- " ++ commentText sample)) ∧
    (∀ annotate t,
      (∀ slot, Avoids '\r' (Settings.nameOf names slot) ∧ Avoids '\n' (Settings.nameOf names slot)) →
      (∀ name ∈ t.references, Avoids '\r' name ∧ Avoids '\n' name) →
        Avoids '\r' (typeExpression names annotate t) ∧
        Avoids '\n' (typeExpression names annotate t)) := by
  refine ⟨fun annotate t u h => ?_, fun annotate t => ⟨?_, fun h => ?_⟩, ?_, ?_, ?_⟩
  · rw [← typeExpression_sequence_unsampled, h, typeExpression_sequence_unsampled]
  · rw [typeExpression_sequence, typeExpression_sequence, typeExpression_plain_uncommented]
  · exact holdsDashes_typeExpression_plain (t := .sequence t) h
  · rintro annotate (_ | sample) hoff
    · rfl
    · rcases hoff with rfl | hoff | hnone
      · rfl
      · simp [typeExpression, hoff]
      · cases hnone
  · intro sample hon
    simp [typeExpression, hon]
  · intro annotate t hnames hreferences
    exact ⟨(avoids_typeExpression (.inl rfl) (fun slot => (hnames slot).1) annotate).2
        fun name hn => (hreferences name hn).1,
      (avoids_typeExpression (.inr rfl) (fun slot => (hnames slot).2) annotate).2
        fun name hn => (hreferences name hn).2⟩

end Haskell

end SampleTypes
