/-
Which characters stand in generated source. Its fixed parts are printed ASCII, so any other character
comes from a word that stands in the source as it is (`avoids_typeLines_iff`), or from a sample or a
key in a literal. Samples and literals are escaped, so a carriage return or a line feed comes from a
word: the name of a type, or a word of a declaration (`avoids_typeLines`). For carriage returns this
tells the text of a whole module (`avoids_text_ofDeclarations`).
-/
import SampleTypes.Haskell.Module
import SampleTypes.Proofs.Haskell.Lines
import SampleTypes.Proofs.Haskell.Literal
import SampleTypes.Proofs.Survey.Names
import SampleTypes.Proofs.Text.Avoids

namespace SampleTypes.Haskell

open Text

/-! ## Fixed parts -/

section Outside

variable {x : Char} (hx : isPrintedAscii x = false)

include hx

/-- Fixed parts of the source are printed ASCII; `decide` tells. -/
theorem avoids_fixed {s : String} (h : s.toList.all isPrintedAscii = true) : Avoids x s := by
  intro hmem
  exact Bool.false_ne_true (hx.symm.trans (List.all_eq_true.1 h x hmem))

theorem ne_space : x ≠ ' ' := by
  rintro rfl
  exact absurd hx (by decide)

theorem avoids_lookup {field : String} : Avoids x (lookup field) ↔ Avoids x (literal field) := by
  simp (disch := decide) [lookup, padStart, avoids_fixed hx]

theorem avoids_lookupLines {fields : List String} :
    (∀ line ∈ lookupLines fields, Avoids x line) ↔ ∀ field ∈ fields, Avoids x (literal field) := by
  fun_induction lookupLines fields with
  | case1 => simp
  | case2 field => simp [avoids_lookup hx]
  | case3 field next rest ih =>
    rw [List.forall_mem_cons, ih]
    simp (disch := decide) [avoids_lookup hx, avoids_fixed hx]

theorem avoids_instanceLines {r : Record FieldType} :
    (∀ line ∈ instanceLines r, Avoids x line) ↔
      Avoids x r.name ∧ ∀ field ∈ r.fieldNames, Avoids x (literal field) := by
  have hdecoder : (∀ line ∈ decoderLines r, Avoids x line) ↔
      Avoids x r.name ∧ ∀ field ∈ r.fieldNames, Avoids x (literal field) := by
    rw [← avoids_lookupLines hx]
    unfold decoderLines
    split
    · next hnil =>
      simp (disch := decide) [hnil, lookupLines, avoids_fixed hx]
    · simp (disch := decide) [decoderLead, avoids_fixed hx]
  rw [instanceLines, List.cons_append, List.forall_mem_cons, List.forall_mem_append,
    List.forall_mem_singleton, hdecoder]
  simp (disch := decide) [avoids_fixed hx]

/-! ## Fields -/

theorem avoids_fieldLine {names : TypeNames} {width i : Nat} {f : String × FieldType} :
    Avoids x (fieldLine names width i f) ↔
      Avoids x f.1 ∧ Avoids x (typeExpression names true f.2) := by
  have hlead : Avoids x (if i = 0 then "    " else "  , ") := by
    split <;> exact avoids_fixed hx (by decide)
  rw [fieldLine, avoids_append, avoids_append, avoids_append, label]
  simp (disch := decide) [avoids_padEnd (ne_space hx), hlead, avoids_fixed hx]

theorem avoids_fieldLines {names : TypeNames} {r : Record FieldType} :
    (∀ line ∈ fieldLines names r, Avoids x line) ↔
      ∀ f ∈ r.fields, Avoids x f.1 ∧ Avoids x (typeExpression names true f.2) := by
  constructor
  · intro h f hf
    obtain ⟨i, hi⟩ := List.mem_iff_getElem?.1 hf
    exact (avoids_fieldLine hx).1 (h _ (fieldLine_mem hi))
  · intro h line hline
    obtain ⟨i, hi⟩ := List.mem_iff_getElem?.1 hline
    rw [getElem?_fieldLines, Option.map_eq_some_iff] at hi
    obtain ⟨f, hf, rfl⟩ := hi
    exact (avoids_fieldLine hx).2 (h f (List.mem_of_getElem? hf))

/-- A line of a record holds the character exactly if its name, the name of a field or a type does. -/
theorem avoids_typeLines_iff {names : TypeNames} {r : Record FieldType} :
    (∀ line ∈ typeLines names r, Avoids x line) ↔
      Avoids x r.name ∧ ∀ f ∈ r.fields, Avoids x f.1 ∧ Avoids x (typeExpression names true f.2) := by
  rw [typeLines, List.cons_append, List.forall_mem_cons, List.forall_mem_append,
    List.forall_mem_singleton, avoids_fieldLines hx]
  simp (disch := decide) [avoids_fixed hx]

/-! ## Types -/

theorem avoids_plainType {names : TypeNames}
    (hnames : ∀ slot, Avoids x (Settings.nameOf names slot)) {t : FieldType} :
    Avoids x (plainType names t) ↔ ∀ name ∈ t.references, Avoids x name := by
  induction t with
  | text sample => exact iff_of_true (hnames .text) nofun
  | number => exact iff_of_true (hnames .number) nofun
  | bool => exact iff_of_true (hnames .boolean) nofun
  | null => exact iff_of_true (hnames .null) nofun
  | unknown => exact iff_of_true (hnames .unknown) nofun
  | record name => exact List.forall_mem_singleton.symm
  | sequence element ih =>
    by_cases h : element = .unknown
    · subst h
      have hunknown : Avoids x names.unknown := hnames .unknown
      refine iff_of_true ?_ nofun
      simp (disch := decide) [plainType, hunknown, avoids_fixed hx]
    · rw [FieldType.references, ← ih, plainType]
      · simp (disch := decide) [avoids_fixed hx]
      · exact h

/-! ## Heads -/

theorem avoids_headLines {name : String} {exports : List String} :
    (∀ line ∈ Module.headLines name exports, Avoids x line) ↔
      Avoids x name ∧ ∀ word ∈ exports, Avoids x word := by
  have hall {lines : List String} (h : lines.all (·.toList.all isPrintedAscii) = true) :
      ∀ line ∈ lines, Avoids x line :=
    fun line hline => avoids_fixed hx (List.all_eq_true.1 h line hline)
  have hpragmas : ∀ line ∈ Module.pragmaLines, Avoids x line := hall (by decide +kernel)
  have himports : ∀ line ∈ Module.importLines, Avoids x line := hall (by decide +kernel)
  have hexports : (∀ line ∈ Module.exportLines exports, Avoids x line) ↔
      ∀ word ∈ exports, Avoids x word := by
    cases exports with
    | nil => simp [Module.exportLines]
    | cons first rest =>
      rw [Module.exportLines, List.cons_append, List.forall_mem_cons, List.forall_mem_append,
        List.forall_mem_singleton, List.forall_mem_map]
      simp (disch := decide) [avoids_fixed hx]
  have hend : Avoids x (if exports.isEmpty then "  where" else "    where") := by
    split <;> exact avoids_fixed hx (by decide)
  have hmodule : Avoids x ("module " ++ name) ↔ Avoids x name := by
    simp (disch := decide) [avoids_fixed hx]
  simp only [Module.headLines, List.forall_mem_append, List.forall_mem_cons, hmodule, hexports]
  have hempty : Avoids x "" := avoids_fixed hx (by decide)
  constructor
  · rintro ⟨⟨⟨⟨-, -, hname, -⟩, hwords⟩, -⟩, -⟩
    exact ⟨hname, hwords⟩
  · rintro ⟨hname, hwords⟩
    exact ⟨⟨⟨⟨hpragmas, hempty, hname, nofun⟩, hwords⟩, hend, hempty, nofun⟩, himports⟩

/-! ## Modules -/

variable (hfeed : x ≠ '\n') {names : TypeNames}

include hfeed

theorem avoids_aliasType {a : Alias FieldType} :
    Avoids x (aliasType names a) ↔
      Avoids x a.name ∧ Avoids x (typeExpression names true a.element) := by
  have hend : Avoids x "\n" := by simpa [Avoids] using hfeed
  simp (disch := decide) [aliasType, hend, avoids_fixed hx]

theorem avoids_recordType {r : Record FieldType} :
    Avoids x (recordType names r) ↔
      Avoids x r.name ∧ ∀ f ∈ r.fields, Avoids x f.1 ∧ Avoids x (typeExpression names true f.2) := by
  rw [recordType_eq, avoids_unlines hfeed, avoids_typeLines_iff hx]

theorem avoids_recordDecoder {r : Record FieldType} :
    Avoids x (recordDecoder r) ↔
      Avoids x r.name ∧ ∀ field ∈ r.fieldNames, Avoids x (literal field) := by
  rw [recordDecoder_eq, avoids_unlines hfeed, avoids_instanceLines hx]

/-- The source of a module is told by its name and the source of its declarations. -/
theorem avoids_text_iff {name : String} {ds : List (Declaration FieldType)} :
    Avoids x (Module.ofDeclarations names name ds).text ↔
      Avoids x name ∧ ∀ d ∈ ds, Avoids x (render names d).typeText ∧
        ∀ text ∈ (render names d).decoderText, Avoids x text := by
  have hend : Avoids x "\n" := by simpa [Avoids] using hfeed
  rw [Module.text, avoids_join hend, List.cons_append, List.forall_mem_cons, List.forall_mem_append,
    avoids_unlines hfeed, avoids_headLines hx]
  simp only [Module.ofDeclarations, Module.ofRendered, List.forall_mem_map, List.mem_filterMap]
  constructor
  · rintro ⟨⟨hname, -⟩, htypes, hdecoders⟩
    exact ⟨hname, fun d hd => ⟨htypes d hd, fun text htext =>
      hdecoders text ⟨_, List.mem_map_of_mem hd, htext⟩⟩⟩
  · rintro ⟨hname, hds⟩
    refine ⟨⟨hname, fun r hr => ?_⟩, fun d hd => (hds d hd).1, ?_⟩
    · obtain ⟨d, hd, rfl⟩ := List.mem_map.1 (List.mem_filter.1 hr).1
      cases d with
      | record r => exact ((avoids_recordType hx hfeed).1 (hds _ hd).1).1
      | «alias» a => exact ((avoids_aliasType hx hfeed).1 (hds _ hd).1).1
    · rintro text ⟨r, hr, htext⟩
      obtain ⟨d, hd, rfl⟩ := List.mem_map.1 hr
      exact (hds d hd).2 text htext

end Outside

/-! ## Line breaks -/

section Breaks

variable {x : Char} (hx : x = '\r' ∨ x = '\n')

include hx

theorem isPrintedAscii_break : isPrintedAscii x = false := by
  rcases hx with rfl | rfl <;> decide

theorem avoids_literal (s : String) : Avoids x (literal s) := by
  intro hmem
  have hcontrol := le_toNat_of_mem_literal hmem
  rcases hx with rfl | rfl <;> exact absurd hcontrol (by decide)

theorem avoids_commentText (s : String) : Avoids x (commentText s) := by
  rw [commentText, avoids_replaceEach]
  intro c _
  split
  · rcases hx with rfl | rfl <;> decide
  split
  · rcases hx with rfl | rfl <;> decide
  · next hreturn hfeed =>
    rw [List.mem_singleton]
    rintro rfl
    exact hx.elim hreturn hfeed

theorem avoids_instanceLines_of_break {r : Record FieldType} (hname : Avoids x r.name) :
    ∀ line ∈ instanceLines r, Avoids x line :=
  (avoids_instanceLines (isPrintedAscii_break hx)).2 ⟨hname, fun field _ => avoids_literal hx field⟩

variable {names : TypeNames} (hnames : ∀ slot, Avoids x (Settings.nameOf names slot))

include hnames

theorem avoids_typeExpression (annotate : Bool) {t : FieldType} :
    Avoids x (typeExpression names annotate t) ↔ ∀ name ∈ t.references, Avoids x name := by
  have hascii := isPrintedAscii_break hx
  unfold typeExpression
  split
  · next sample =>
    have htext : Avoids x names.text := hnames .text
    refine iff_of_true ?_ nofun
    split
    · apply Avoids.trimEnd
      simp (disch := decide) [htext, avoids_commentText hx sample, avoids_fixed hascii]
    · exact htext
  · exact avoids_plainType hascii hnames

/-- A line of a record holds a break exactly if a word of the record does. -/
theorem avoids_typeLines {r : Record FieldType} :
    (∀ line ∈ typeLines names r, Avoids x line) ↔
      ∀ word ∈ (Declaration.record r).words, Avoids x word := by
  simp only [avoids_typeLines_iff (isPrintedAscii_break hx), avoids_typeExpression hx hnames,
    Declaration.forall_mem_words_record]

end Breaks

/-! ## Carriage returns -/

variable {names : TypeNames} (hreturns : ∀ slot, Avoids '\r' (Settings.nameOf names slot))

include hreturns

/-- **A carriage return in the source of a module stands in a word**: in its name, in the name of a
type, or in a word of one of its declarations. -/
theorem avoids_text_ofDeclarations {name : String} (hname : Avoids '\r' name)
    {ds : List (Declaration FieldType)} (hds : ∀ d ∈ ds, ∀ word ∈ d.words, Avoids '\r' word) :
    Avoids '\r' (Module.ofDeclarations names name ds).text := by
  refine (avoids_text_iff (by decide) (by decide)).2 ⟨hname, fun d hd => ?_⟩
  have hwords := hds d hd
  cases d with
  | record r =>
    have hname : Avoids '\r' r.name := hwords _ (by simp [Declaration.words])
    refine ⟨?_, fun text htext => ?_⟩
    · show Avoids '\r' (recordType names r)
      rw [recordType_eq, avoids_unlines (by decide)]
      exact (avoids_typeLines (.inl rfl) hreturns).2 hwords
    · obtain rfl : recordDecoder r = text := Option.some.inj htext
      exact (avoids_recordDecoder (by decide) (by decide)).2
        ⟨hname, fun field _ => avoids_literal (.inl rfl) field⟩
  | «alias» a =>
    refine ⟨?_, by simp [render]⟩
    rw [Declaration.words, List.forall_mem_cons] at hwords
    exact (avoids_aliasType (by decide) (by decide)).2
      ⟨hwords.1, (avoids_typeExpression (.inl rfl) hreturns true).2 hwords.2⟩

omit hreturns in
/-- The name of a field stands in the source as it is. -/
theorem avoids_fieldName {name : String} {ds : List (Declaration FieldType)} {r : Record FieldType}
    (hr : .record r ∈ ds) (h : Avoids '\r' (Module.ofDeclarations names name ds).text)
    {field : String} (hfield : field ∈ r.fieldNames) : Avoids '\r' field := by
  have hblock : Avoids '\r' (recordType names r) :=
    (((avoids_text_iff (by decide) (by decide)).1 h).2 _ hr).1
  obtain ⟨f, hf, rfl⟩ := List.mem_map.1 hfield
  exact (((avoids_recordType (by decide) (by decide)).1 hblock).2 f hf).1

end SampleTypes.Haskell
