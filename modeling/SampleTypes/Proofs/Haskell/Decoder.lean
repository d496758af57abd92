/-
The decoder of a record tells its fields. The decoder has a line for each field, with a fixed
look-up and the field's name as a string literal behind it, and a literal is read as the name that
it was made of; so decoders with the same text read the same fields in the same order
(`recordDecoder_tells_fields`).
-/
import SampleTypes.Proofs.Haskell.Breaks

namespace SampleTypes.Haskell

open Text

variable {r r' : Record FieldType}

/-! ## Lines of the decoder -/

theorem split_recordDecoder (hname : Avoids '\n' r.name) :
    split '\n' (recordDecoder r) = instanceLines r ++ [""] := by
  rw [recordDecoder_eq, split_unlines_iff.2 (avoids_instanceLines_of_break (.inr rfl) hname)]

theorem count_recordDecoder (hname : Avoids '\n' r.name) :
    (recordDecoder r).toList.count '\n' = r.fields.length + 3 := by
  rw [recordDecoder_eq, count_unlines_eq_length_iff.2 (avoids_instanceLines_of_break (.inr rfl) hname),
    length_instanceLines]

/-- The line of a field: its look-up, and an application unless it is the last. -/
theorem getElem?_split_recordDecoder (hname : Avoids '\n' r.name) {i : Nat} {field : String}
    (h : r.fieldNames[i]? = some field) :
    (split '\n' (recordDecoder r))[i + 2]? =
      some (lookup field ++ if i + 1 < r.fields.length then " <*>" else "") := by
  have hline := getElem?_decoderLines h
  obtain ⟨hi, -⟩ := List.getElem?_eq_some_iff.1 hline
  rw [split_recordDecoder hname, instanceLines, List.cons_append, List.cons_append,
    List.getElem?_cons_succ, List.append_assoc, List.getElem?_append_left hi, hline]

/-! ## Fields from the text -/

theorem lookup_append_injective {suffix : String} {field field' : String}
    (h : lookup field ++ suffix = lookup field' ++ suffix) : field = field' := by
  rw [lookup, lookup, String.append_left_inj] at h
  exact literal_injective (String.append_right_inj _ |>.1 h)

theorem fieldNames_of_recordDecoder (hname : Avoids '\n' r.name) (hname' : Avoids '\n' r'.name)
    (h : recordDecoder r' = recordDecoder r) : r'.fieldNames = r.fieldNames := by
  have hlength : r'.fields.length = r.fields.length := by
    have hcount := count_recordDecoder hname'
    rw [h, count_recordDecoder hname] at hcount
    omega
  apply List.ext_getElem (by rw [length_fieldNames, length_fieldNames, hlength])
  intro i hi' hi
  have hline := getElem?_split_recordDecoder hname (List.getElem?_eq_getElem hi)
  rw [← h, getElem?_split_recordDecoder hname' (List.getElem?_eq_getElem hi'), hlength] at hline
  exact lookup_append_injective (Option.some.inj hline)

/-- **The decoder of a record tells its fields.** Its lines are one for each field and three more; the
line of a field is a look-up of 25 columns, a space and a literal that is read as the field's name,
and goes on to the next field unless it is the last one. This rests on literals: each is read as the
text that it was made of, and holds neither control characters nor quotes that are not escaped. -/
theorem recordDecoder_tells_fields (names : TypeNames) (hname : Avoids '\n' r.name) :
    ∃ text, (render names (.record r)).decoderText = some text ∧
      text.toList.count '\n' = r.fields.length + 3 ∧
      text.toList.getLast? = some '\n' ∧
      (∀ i field, r.fieldNames[i]? = some field → ∃ written,
        (split '\n' text)[i + 2]? =
          some (padStart 25 "v .:" ++ " " ++ written ++
            if i + 1 < r.fields.length then " <*>" else "") ∧
        readLiteral? written = some field) ∧
      (∀ names' r', Avoids '\n' r'.name → (render names' (.record r')).decoderText = some text →
        r'.fieldNames = r.fieldNames) ∧
      Function.Injective literal ∧
      ∀ s, readLiteral? (literal s) = some s ∧
        (∀ c ∈ (literal s).toList, 0x20 ≤ c.toNat) ∧
        ∃ inside, (literal s).toList = '"' :: inside ++ ['"'] ∧ quotesEscaped inside = true := by
  refine ⟨_, rfl, count_recordDecoder hname, ?_, fun i field h => ?_, fun names' r' hname' h => ?_,
    literal_injective, fun s => ?_⟩
  · rw [recordDecoder_eq]
    exact getLast?_unlines (List.cons_ne_nil _ _)
  · exact ⟨literal field, getElem?_split_recordDecoder hname h, readLiteral?_literal field⟩
  · exact fieldNames_of_recordDecoder hname hname' (Option.some.inj h)
  · exact ⟨readLiteral?_literal s, fun c => le_toNat_of_mem_literal, _, String.toList_ofList,
      quotesEscaped_flatMap_literalChar s.toList⟩

/-- A tab in front of a digit, and quotes in front of an application. -/
theorem recordDecoder_tells_fields_awkward :
    let r : Record FieldType := ⟨"Root", [("say \"hi\" <*>", .number), ("\t9\\", .bool)]⟩
    Avoids '\n' r.name ∧
    ∃ text, (render {} (.record r)).decoderText = some text ∧
      text.toList.count '\n' = 5 ∧
      (∃ first, (split '\n' text)[2]? = some (padStart 25 "v .:" ++ " " ++ first ++ " <*>") ∧
        readLiteral? first = some "say \"hi\" <*>") ∧
      ∃ second, (split '\n' text)[3]? = some (padStart 25 "v .:" ++ " " ++ second ++ "") ∧
        readLiteral? second = some "\t9\\" := by
  intro r
  have hname : Avoids '\n' r.name := by decide
  obtain ⟨text, htext, hcount, -, hlines, -⟩ := recordDecoder_tells_fields {} hname
  exact ⟨hname, text, htext, hcount, hlines 0 _ rfl, hlines 1 _ rfl⟩

end SampleTypes.Haskell
