/-
Which settings of the log level are read. A text that, blanks at its ends apart, is made of digits is
read as a number, and the digits are those in the wide sense; but only decimal digits write a number,
and not too many of them. So some texts of digits are no level and are not passed over as unknown names
are: reading them fails (`level?_eq`).
-/
import Mathlib.Data.List.TakeWhile
import SampleTypes.Log
import SampleTypes.Proofs.Text.Digit

namespace SampleTypes.Log

open Text

/-- The text is some digits, blanks at its ends apart. -/
def IsDigits (text : String) : Prop :=
  trim text ≠ "" ∧ ∀ c ∈ (trim text).toList, isDigit c = true

/-- The text is some digits that are not read as a number: one of them is not decimal, or there are
too many. -/
def IsUnreadable (text : String) : Prop :=
  IsDigits text ∧
    ((∃ c ∈ (trim text).toList, decimalValue? c = none) ∨ maxDigits < (trim text).length)

instance (text : String) : Decidable (IsDigits text) :=
  decidable_of_iff (trim text ≠ "" ∧ (trim text).toList.all isDigit) (by simp [IsDigits])

instance (text : String) : Decidable (IsUnreadable text) :=
  decidable_of_iff
    (IsDigits text ∧
      ((trim text).toList.any (fun c => decimalValue? c = none) ∨ maxDigits < (trim text).length))
    (by simp [IsUnreadable])

/-- The level that a text stands for: the number that its digits write, else the level that has its
capital form as a name. -/
def levelOf? (text : String) : Option Nat :=
  if IsDigits text then decimalNumber? (trim text)
  else (levelNames.find? (fun p => p.1 == upper (trim text))).map Prod.snd

theorem isDigits_iff {text : String} :
    IsDigits text ↔
      (upper (trim text) != "" && (upper (trim text)).toList.all isDigit) = true := by
  rw [IsDigits, Bool.and_eq_true, bne_iff_ne, ne_eq, ne_eq, upper_eq_empty_iff, List.all_eq_true,
    all_isDigit_upper]

theorem level?_of_digits {text : String} (h : IsDigits text) :
    level? text =
      if maxDigits < decimalLead (trim text) then .error (.tooLong (decimalLead (trim text)))
      else
        match decimalNumber? (trim text) with
        | some n => .ok (some n)
        | none => .error (.notDecimal (trim text)) := by
  have hword : upper (trim text) = trim text := upper_of_digits h.2
  have hif := isDigits_iff.1 h
  rw [hword] at hif
  cases hnumber : decimalNumber? (trim text) <;> simp only [level?, hword, hif, hnumber, if_true]

theorem level?_of_not_digits {text : String} (h : ¬ IsDigits text) :
    level? text = .ok ((levelNames.find? (fun p => p.1 == upper (trim text))).map Prod.snd) := by
  rw [isDigits_iff] at h
  simp only [level?, h]
  rfl

theorem decimalLead_eq_length {word : String} (h : ∀ c ∈ word.toList, (decimalValue? c).isSome) :
    decimalLead word = word.length := by
  rw [decimalLead, List.takeWhile_eq_self_iff.2 h, String.length_toList]

/-- **Reading a level fails exactly for digits that write no number**, and else gives the level that the
text stands for, if there is one. -/
theorem level?_eq (text : String) :
    (IsUnreadable text → ∃ reason, level? text = .error reason) ∧
    (¬ IsUnreadable text → level? text = .ok (levelOf? text)) := by
  by_cases hdigits : IsDigits text
  · rw [level?_of_digits hdigits, levelOf?, if_pos hdigits]
    by_cases hdecimal : ∀ c ∈ (trim text).toList, (decimalValue? c).isSome
    · obtain ⟨n, hn⟩ := Option.isSome_iff_exists.1 (decimalNumber?_isSome_iff.2 hdecimal)
      rw [decimalLead_eq_length hdecimal, hn]
      by_cases hlong : maxDigits < (trim text).length
      · rw [if_pos hlong]
        exact ⟨fun _ => ⟨_, rfl⟩, fun h => absurd ⟨hdigits, .inr hlong⟩ h⟩
      · rw [if_neg hlong]
        refine ⟨fun ⟨_, h⟩ => ?_, fun _ => rfl⟩
        rcases h with ⟨c, hc, hnone⟩ | h
        · have hsome := hdecimal c hc
          rw [hnone] at hsome
          cases hsome
        · exact absurd h hlong
    · have hnone : decimalNumber? (trim text) = none := by
        rw [← Option.not_isSome_iff_eq_none, decimalNumber?_isSome_iff]
        exact hdecimal
      have hunreadable : IsUnreadable text := by
        simp only [not_forall, Option.not_isSome_iff_eq_none] at hdecimal
        obtain ⟨c, hc, hvalue⟩ := hdecimal
        exact ⟨hdigits, .inl ⟨c, hc, hvalue⟩⟩
      refine ⟨fun _ => ?_, fun h => absurd hunreadable h⟩
      rw [hnone]
      split <;> exact ⟨_, rfl⟩
  · rw [level?_of_not_digits hdigits, levelOf?, if_neg hdigits]
    exact ⟨fun h => absurd h.1 hdigits, fun _ => rfl⟩

end SampleTypes.Log
