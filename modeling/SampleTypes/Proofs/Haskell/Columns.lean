/-
The columns of a `data` declaration. Labels are filled up to the length of the longest one, so the type
signs stand one below the other, as far to the left as the labels allow (`type_signs_aligned`).
-/
import Mathlib.Order.Bounds.Basic
import SampleTypes.Proofs.Haskell.Breaks

namespace SampleTypes.Haskell

open Text

/-! ## The longest text -/

theorem longest_eq_max? (texts : List String) :
    longest texts = (texts.map String.length).max?.getD 0 := by
  rw [longest, List.foldl_max, Nat.zero_max]

/-- Some text has this length, and none is longer. -/
theorem isGreatest_longest {texts : List String} (h : texts ≠ []) :
    IsGreatest {n | ∃ text ∈ texts, text.length = n} (longest texts) := by
  have hsome : (texts.map String.length).max? ≠ none := by
    rw [Ne, List.max?_eq_none_iff, List.map_eq_nil_iff]
    exact h
  obtain ⟨n, hn⟩ := Option.ne_none_iff_exists'.1 hsome
  obtain ⟨hmem, hle⟩ := List.max?_eq_some_iff.1 hn
  rw [longest_eq_max?, hn, Option.getD_some]
  refine ⟨List.mem_map.1 hmem, ?_⟩
  rintro _ ⟨text, htext, rfl⟩
  exact hle _ (List.mem_map_of_mem htext)

theorem length_le_longest {texts : List String} {text : String} (h : text ∈ texts) :
    text.length ≤ longest texts :=
  (isGreatest_longest (List.ne_nil_of_mem h)).2 ⟨text, h, rfl⟩

/-! ## Labels -/

theorem length_underscored (field : String) : ("_" ++ field).length = 1 + field.length :=
  String.length_append "_" field

theorem length_label {fields : List String} {field : String} (h : field ∈ fields) :
    (label (1 + longest fields) field).length = 1 + longest fields := by
  have hle := length_le_longest h
  rw [label, length_padEnd, length_underscored]
  omega

/-- Behind a lead of four characters the labels fit into `5 + longest fields` columns, and into no
fewer: the longest one takes them all. -/
theorem isLeast_column {fields : List String} (h : fields ≠ []) :
    IsLeast {column | ∀ field ∈ fields, 4 + ("_" ++ field).length ≤ column}
      (5 + longest fields) := by
  constructor
  · intro field hfield
    have hle := length_le_longest hfield
    rw [length_underscored]
    omega
  · intro column hcolumn
    obtain ⟨field, hfield, hlongest⟩ := (isGreatest_longest h).1
    have hfit := hcolumn field hfield
    rw [length_underscored, hlongest] at hfit
    omega

/-! ## Declarations -/

theorem split_recordType {names : TypeNames} {r : Record FieldType} (hname : Avoids '\n' r.name)
    (hfields : ∀ f ∈ r.fields, Avoids '\n' f.1 ∧ Avoids '\n' (typeExpression names true f.2)) :
    split '\n' (recordType names r) = typeLines names r ++ [""] := by
  rw [recordType_eq, split_unlines_iff, avoids_typeLines_iff (by decide)]
  exact ⟨hname, hfields⟩

/-- **The type signs of a record stand one below the other.** Without line feeds in its words a record
has a line for each field in order: a lead of four characters, the field's name behind an underscore,
filled up to one more than the length of the longest name, then the type sign and the type. The sign
stands in the first column that all labels leave free. -/
theorem type_signs_aligned {names : TypeNames} {r : Record FieldType} (hname : Avoids '\n' r.name)
    (hfields : ∀ f ∈ r.fields, Avoids '\n' f.1 ∧ Avoids '\n' (typeExpression names true f.2)) :
    ∃ lines,
      split '\n' (render names (.record r)).typeText =
        ("data " ++ r.name ++ " = " ++ r.name ++ " \x7b") :: lines ++
          ["\x7d deriving (Show, Data, Typeable)", ""] ∧
      lines.length = r.fields.length ∧
      (∀ i f, r.fields[i]? = some f → ∃ lead filled,
        lines[i]? = some (lead ++ filled ++ " :: " ++ typeExpression names true f.2) ∧
        lead = (if i = 0 then "    " else "  , ") ∧ lead.length = 4 ∧
        (∃ blanks, filled = "_" ++ f.1 ++ String.ofList (List.replicate blanks ' ')) ∧
        filled.length = 1 + longest r.fieldNames ∧
        (lead ++ filled).length = 5 + longest r.fieldNames) ∧
      (r.fields ≠ [] →
        IsGreatest {n | ∃ field ∈ r.fieldNames, field.length = n} (longest r.fieldNames) ∧
        IsLeast {column | ∀ field ∈ r.fieldNames, 4 + ("_" ++ field).length ≤ column}
          (5 + longest r.fieldNames)) := by
  refine ⟨fieldLines names r, ?_, length_fieldLines names r, fun i f hf => ?_, fun hne => ?_⟩
  · show split '\n' (recordType names r) = _
    rw [split_recordType hname hfields, typeLines, List.append_assoc]
    rfl
  · have hfield : f.1 ∈ r.fieldNames := List.mem_map_of_mem (List.mem_of_getElem? hf)
    have hlead : (if i = 0 then "    " else "  , ").length = 4 := by split <;> rfl
    have hfilled := length_label hfield
    refine ⟨_, label (1 + longest r.fieldNames) f.1, ?_, rfl, hlead, ⟨_, rfl⟩, hfilled, ?_⟩
    · rw [getElem?_fieldLines, hf]
      rfl
    · rw [String.length_append, hlead, hfilled]
      omega
  · have hnames : r.fieldNames ≠ [] := fun h => hne (List.map_eq_nil_iff.1 h)
    exact ⟨isGreatest_longest hnames, isLeast_column hnames⟩

/-- An empty name, and one of five characters in seven bytes. -/
theorem type_signs_aligned_umlaut :
    let r : Record FieldType :=
      ⟨"Root", [("id", .number), ("", .text (some "a\nb")), ("größe", .sequence .unknown)]⟩
    Avoids '\n' r.name ∧
    (∀ f ∈ r.fields, Avoids '\n' f.1 ∧ Avoids '\n' (typeExpression {} true f.2)) ∧
    ∃ lines,
      split '\n' (render {} (.record r)).typeText =
        "data Root = Root \x7b" :: lines ++ ["\x7d deriving (Show, Data, Typeable)", ""] ∧
      (∃ lead filled, lines[1]? = some (lead ++ filled ++ " :: " ++ "BS.ByteString -- a\\nb") ∧
        (lead ++ filled).length = 10) ∧
      ∃ lead filled, lines[2]? = some (lead ++ filled ++ " :: " ++ "[UNKNOWN]") ∧
        (lead ++ filled).length = 10 := by
  intro r
  have hname : Avoids '\n' r.name := by decide
  have hfields : ∀ f ∈ r.fields, Avoids '\n' f.1 ∧ Avoids '\n' (typeExpression {} true f.2) := by
    decide +kernel
  obtain ⟨lines, hsplit, -, hlines, -⟩ := type_signs_aligned hname hfields
  obtain ⟨lead₁, filled₁, hline₁, -, -, -, -, hcolumn₁⟩ := hlines 1 _ rfl
  obtain ⟨lead₂, filled₂, hline₂, -, -, -, -, hcolumn₂⟩ := hlines 2 _ rfl
  exact ⟨hname, hfields, lines, hsplit, ⟨lead₁, filled₁, hline₁, hcolumn₁⟩,
    lead₂, filled₂, hline₂, hcolumn₂⟩

example :
    fieldLines {} ⟨"Root", [("id", .number), ("tags", .sequence .unknown), ("owner", .record "Owner")]⟩ =
      ["    _id    :: Double", "  , _tags  :: [UNKNOWN]", "  , _owner :: Owner"] := by
  decide

end SampleTypes.Haskell
