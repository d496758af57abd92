/-
When the names of a schema are type names. A key that reads like an identifier is made into one, as the
first character that is kept is a letter and becomes a capital (`isTypeName_ofKey`). From there on, naming
one of many and putting capitals keeps a type name one, however often that is done: the capital in
front is never dropped (`isTypeName_singular`, `isTypeName_pascalCase`).
-/
import SampleTypes.Proofs.Survey.Names
import SampleTypes.Proofs.TypeName

namespace SampleTypes

open Text

/-- A key that reads like an identifier: letters, digits, underscores and apostrophes, and the first of
them that is no underscore is a letter. -/
structure IsIdentifierLike (key : String) : Prop where
  chars : ∀ c ∈ key.toList, Grammar.Continues c
  first : ∃ c, key.toList.find? (· ≠ '_') = some c ∧ (('A' ≤ c ∧ c ≤ 'Z') ∨ ('a' ≤ c ∧ c ≤ 'z'))

/-! ## Names from keys -/

theorem toNat_lt_of_isNameChar {c : Char} (h : isNameChar c = true) : c.toNat < 128 := by
  rw [← Grammar.continues_iff] at h
  rcases h with ⟨-, h⟩ | ⟨-, h⟩ | ⟨-, h⟩ | rfl | rfl
  iterate 3 exact Nat.lt_of_le_of_lt (Char.le_def.1 h) (by decide)
  all_goals decide

theorem becomesSegment_of_identifier {cs : List Char} (hchars : ∀ c ∈ cs, isNameChar c = true) {c : Char}
    (hfirst : cs.find? (· ≠ '_') = some c) (hletter : Url.isLetter c = true) :
    becomesSegment true cs = true := by
  induction cs with
  | nil => cases hfirst
  | cons d rest ih =>
    rw [List.forall_mem_cons] at hchars
    by_cases hd : d = '_'
    · rw [List.find?_cons_of_neg (by simp [hd])] at hfirst
      rw [becomesSegment, if_pos hd]
      exact ih hchars.2 hfirst
    · rw [List.find?_cons_of_pos (by simp [hd])] at hfirst
      obtain rfl := Option.some.inj hfirst
      rw [becomesSegment, if_neg hd, if_pos rfl, hletter, Bool.true_and]
      exact List.all_eq_true.2 hchars.2

theorem isTypeName_ofKey {key : String} (h : IsIdentifierLike key) :
    isTypeName (pascalCase key) = true := by
  have hchars : ∀ c ∈ key.toList, isNameChar c = true :=
    fun c hc => Grammar.continues_iff.1 (h.chars c hc)
  obtain ⟨c, hfind, hletter⟩ := h.first
  have hsegment : isSegment (pascalChars true key.toList) = true := by
    rw [isSegment_pascalChars fun c hc => toNat_lt_of_isNameChar (hchars c hc)]
    exact becomesSegment_of_identifier hchars hfind (by simpa [Url.isLetter, or_comm] using hletter)
  rw [isTypeName, toList_pascalCase, isTypeNameChars_iff]
  exact ⟨_, hsegment, .inl rfl⟩

/-! ## Names from names -/

/-- What stands behind a name before the letters stays there. -/
theorem pascalChars_append_singleton {x : Char} (hx : x.toNat < 65) (opens : Bool) (cs : List Char) :
    pascalChars opens (cs ++ [x]) = pascalChars opens cs ++ [x] := by
  have hne : x ≠ '_' := by
    rintro rfl
    exact absurd hx (by decide)
  have hown : upperChar x = [x] := upperChar_of_toNat_le (by omega)
  induction cs generalizing opens with
  | nil => cases opens <;> simp [pascalChars, hne, hown]
  | cons c rest ih =>
    by_cases hc : c = '_'
    · simp [pascalChars, hc, ih]
    · simp [pascalChars, hc, ih]

theorem isSegment_pascalChars_self {cs : List Char} (h : isSegment cs = true) :
    isSegment (pascalChars true cs) = true := by
  cases cs with
  | nil => cases h
  | cons c rest =>
    rw [isSegment, Bool.and_eq_true, List.all_eq_true] at h
    have hchars : ∀ x ∈ c :: rest, isNameChar x = true :=
      List.forall_mem_cons.2 ⟨by simp [isNameChar, h.1], h.2⟩
    have hne : c ≠ '_' := by
      rintro rfl
      exact absurd h.1 (by decide)
    have hletter : Url.isLetter c = true := by
      have hstart := h.1
      rw [isNameStart] at hstart
      simp [Url.isLetter, hstart]
    rw [isSegment_pascalChars fun x hx => toNat_lt_of_isNameChar (hchars x hx)]
    exact becomesSegment_of_identifier hchars (List.find?_cons_of_pos (by simp [hne])) hletter

theorem isTypeName_pascalCase {name : String} (h : isTypeName name = true) :
    isTypeName (pascalCase name) = true := by
  rw [isTypeName, isTypeNameChars_iff] at h ⊢
  obtain ⟨word, hword, hname⟩ := h
  refine ⟨pascalChars true word, isSegment_pascalChars_self hword, ?_⟩
  rw [toList_pascalCase]
  rcases hname with hname | hname
  · exact .inl (by rw [hname])
  · exact .inr (by rw [hname, pascalChars_append_singleton (by decide)])

/-- The last letter of a type name is not its capital, so the name is not lost with it. -/
theorem isTypeName_singular {name : String} (h : isTypeName name = true) :
    isTypeName (singular name) = true := by
  rw [singular]
  split
  · next hlast =>
    obtain ⟨front, hfront⟩ := List.getLast?_eq_some_iff.1 hlast
    rw [isTypeName, isTypeNameChars_iff] at h
    rw [isTypeName, isTypeNameChars_iff, String.toList_ofList, hfront, List.dropLast_concat]
    obtain ⟨word, hword, hname | hname⟩ := h
    · refine ⟨front, ?_, .inl rfl⟩
      rw [← hname, hfront] at hword
      cases front with
      | nil => exact absurd hword (by decide)
      | cons c rest =>
        rw [isSegment_append (List.cons_ne_nil c rest), Bool.and_eq_true] at hword
        exact hword.1
    · -- behind a line feed there is no letter
      rw [hname, List.getLast?_concat] at hlast
      exact absurd (Option.some.inj hlast) (by decide)
  · exact h

/-! ## Names of a schema -/

/-- What is made from identifiers are type names. -/
theorem carriesOver_isTypeName : CarriesOver IsIdentifierLike (fun name => isTypeName name = true) where
  ofKey _ hkey := isTypeName_ofKey hkey
  ofArray _ hname := isTypeName_pascalCase (isTypeName_singular hname)

/-- **Keys that read like identifiers give type names.** If the name of the root is accepted and every key
of the document, at any depth, reads like an identifier, the document has a schema and every declaration
of it has a name that is accepted. -/
theorem Schema.isTypeName_of_identifiers {s : Settings} (hroot : isTypeName s.rootName = true)
    {document : Value} (hkeys : ∀ key, document.HasKey key → IsIdentifierLike key) :
    ∃ schema, ofDocument s document = .ok schema ∧
      ∀ d ∈ schema.declarations, isTypeName d.name = true := by
  have hschema := ofDocument_eq s document
  exact ⟨_, hschema, fun d hd => (names_ofDocument carriesOver_isTypeName hroot hkeys hschema hd).1⟩

/-- Arrays in arrays under a key with underscores, and a root whose name ends in what is dropped. -/
theorem Schema.isTypeName_of_identifiers_nested :
    let s : Settings := { Settings.default with rootName := "Boss's_s" }
    let document : Value := .array [.object [("__user_tags", .array [.array [.object [("x's", .null)]]])]]
    isTypeName s.rootName = true ∧ (∀ key, document.HasKey key → IsIdentifierLike key) ∧
    ∃ schema, ofDocument s document = .ok schema ∧
      ∀ d ∈ schema.declarations, isTypeName d.name = true := by
  intro s document
  have hroot : isTypeName s.rootName = true := by decide
  have hkeys : ∀ key, document.HasKey key → IsIdentifierLike key := by
    intro key h
    have hnull : ¬ Value.HasKey key .null := nofun
    have hkey : key = "__user_tags" ∨ key = "x's" := by
      simpa [document, Value.hasKey_object, Value.hasKey_array, hnull] using h
    have hchars {key : String} (hkey : key.toList.all isNameChar = true) :
        ∀ c ∈ key.toList, Grammar.Continues c :=
      fun c hc => Grammar.continues_iff.2 (List.all_eq_true.1 hkey c hc)
    rcases hkey with rfl | rfl
    · exact ⟨hchars (by decide), 'u', by decide, by decide⟩
    · exact ⟨hchars (by decide), 'x', by decide, by decide⟩
  exact ⟨hroot, hkeys, isTypeName_of_identifiers hroot hkeys⟩

end SampleTypes
