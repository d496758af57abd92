/-
The `data` declarations of a document's records, with the usual type names. A record has one line
for each field exactly if no word of it holds a line feed (`lines_of_records`). Samples are escaped
and do not matter. Names are not: a key with a line feed breaks the line of its field
(`lines_of_records_broken_key`), and so does the name of a record that is made from such a key.
-/
import SampleTypes.Proofs.Haskell.Breaks
import SampleTypes.Settings.Default

namespace SampleTypes.Haskell

open Text

variable {r : Record FieldType}

theorem avoids_usual (slot : Settings.TypeSlot) : Avoids '\n' (Settings.nameOf {} slot) := by
  cases slot <;> decide

theorem count_recordType_iff :
    (recordType {} r).toList.count '\n' = r.fields.length + 2 ↔
      ∀ word ∈ (Declaration.record r).words, Avoids '\n' word := by
  rw [recordType_eq, ← length_typeLines {} r, count_unlines_eq_length_iff,
    avoids_typeLines (.inr rfl) avoids_usual]

theorem split_recordType_iff :
    split '\n' (recordType {} r) = typeLines {} r ++ [""] ↔
      ∀ word ∈ (Declaration.record r).words, Avoids '\n' word := by
  rw [recordType_eq, split_unlines_iff, avoids_typeLines (.inr rfl) avoids_usual]

/-- **The records of a document have one line for each field unless a name breaks it.** There are as
many lines as fields and two more, and they are those of the fields in order between the one that
opens the record and the one that closes it, exactly if no word that stands in them as it is holds a
line feed. Such words come from the root's name and from keys alone: no sample breaks a line. -/
theorem lines_of_records (s : Settings) (document : Value) :
    ∃ schema, Schema.ofDocument s document = .ok schema ∧
      (∀ r, .record r ∈ schema.declarations →
        let text := (render {} (.record r)).typeText
        (text.toList.count '\n' = r.fields.length + 2 ↔
          ∀ word ∈ (Declaration.record r).words, Avoids '\n' word) ∧
        (split '\n' text =
            ("data " ++ r.name ++ " = " ++ r.name ++ " \x7b") ::
              r.fields.mapIdx (fieldLine {} (1 + longest r.fieldNames)) ++
              ["\x7d deriving (Show, Data, Typeable)", ""] ↔
          ∀ word ∈ (Declaration.record r).words, Avoids '\n' word)) ∧
      (Avoids '\n' s.rootName → (∀ key, document.HasKey key → Avoids '\n' key) →
        ∀ r, .record r ∈ schema.declarations →
          ∀ word ∈ (Declaration.record r).words, Avoids '\n' word) := by
  have hschema := Schema.ofDocument_eq s document
  refine ⟨_, hschema, fun r _ => ⟨count_recordType_iff, ?_⟩, fun hroot hkeys r hr => ?_⟩
  · rw [← split_recordType_iff, typeLines, fieldLines_eq, List.append_assoc]
    rfl
  · exact Schema.words_ofDocument (carriesOver_avoids (by decide)) hroot hkeys hschema hr

/-- A key with a line feed: the record has one field, and its text has four lines and not three. -/
theorem lines_of_records_broken_key :
    let r : Record FieldType := ⟨"Root", [("a\nb", .number)]⟩
    (Schema.ofDocument .default (.object [("a\nb", .int 1)])).toOption.map Schema.declarations =
      some [.record r] ∧
    (render {} (.record r)).typeText.toList.count '\n' = 4 ∧ r.fields.length + 2 = 3 := by
  decide +kernel

end SampleTypes.Haskell
