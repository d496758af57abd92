/-
When the source of a module has bytes: exactly if no half of a surrogate pair stands in its name, in
a word of a declaration, or in a sample that is shown (`hasBytes_text_iff`). Escaping and trimming
take no such half out of a text.
-/
import Mathlib.Data.List.TakeWhile
import SampleTypes.Proofs.Haskell.Breaks
import SampleTypes.Text.Half

namespace SampleTypes

open Haskell Text

/-! ## Samples -/

/-- The sample that stands in a comment behind a type. -/
def FieldType.shownSample? (names : TypeNames) : FieldType → Option String
  | .text (some sample) => if names.sampleComments then some sample else none
  | _ => none

/-- The samples in the source of a declaration. -/
def Declaration.shownSamples (names : TypeNames) (d : Declaration FieldType) : List String :=
  d.payloads.filterMap (·.shownSample? names)

namespace Haskell

/-! ## Characters for private use -/

section Private

variable {x : Char} (hx : 0xF0000 ≤ x.toNat)

include hx

theorem isPrintedAscii_private : isPrintedAscii x = false := by
  have hnot : ¬ x.toNat ≤ 0x7E := by omega
  simp [isPrintedAscii, hnot]

theorem ne_of_private {c : Char} (hc : c.toNat < 0xF0000) : x ≠ c := by
  rintro rfl
  omega

theorem isBlank_private : isBlank x = false := by
  have hruns : ∀ run ∈ blankRuns, run.2 < 0xF0000 := by decide
  rw [isBlank, List.any_eq_false]
  intro run hrun
  have hlast := hruns run hrun
  simp only [Bool.and_eq_true, decide_eq_true_eq]
  omega

theorem avoids_trimEnd {s : String} : Avoids x (trimEnd s) ↔ Avoids x s := by
  refine ⟨fun h hmem => h ?_, Avoids.trimEnd⟩
  rw [Text.trimEnd, String.toList_ofList, dropEndWhile, List.mem_reverse]
  have hparts : x ∈ s.toList.reverse.takeWhile isBlank ++ s.toList.reverse.dropWhile isBlank := by
    rwa [List.takeWhile_append_dropWhile, List.mem_reverse]
  refine (List.mem_append.1 hparts).resolve_left fun htaken => ?_
  exact Bool.false_ne_true ((isBlank_private hx).symm.trans (List.mem_takeWhile_imp htaken))

theorem avoids_commentText_iff {s : String} : Avoids x (commentText s) ↔ Avoids x s := by
  have hmem (c : Char) :
      x ∈ (if c = '\r' then ['\\', 'r'] else if c = '\n' then ['\\', 'n'] else [c]) ↔ x = c := by
    by_cases hreturn : c = '\r'
    · subst hreturn
      simp (disch := decide) [ne_of_private hx]
    by_cases hfeed : c = '\n'
    · subst hfeed
      simp (disch := decide) [ne_of_private hx]
    · simp [hreturn, hfeed]
  rw [commentText, avoids_replaceEach, Avoids]
  simp only [hmem]
  exact ⟨fun h hxs => h x hxs rfl, fun h c hc hxc => h (hxc ▸ hc)⟩

theorem avoids_literal_of_avoids {s : String} (h : Avoids x s) : Avoids x (literal s) := by
  intro hmem
  rcases mem_literal hmem with hprinted | ⟨hxs, -⟩
  · exact Bool.false_ne_true ((isPrintedAscii_private hx).symm.trans hprinted)
  · exact h hxs

/-! ## Types and declarations -/

variable {names : TypeNames} (hnames : ∀ slot, Avoids x (Settings.nameOf names slot))

include hnames

theorem avoids_typeExpression_iff {t : FieldType} :
    Avoids x (typeExpression names true t) ↔
      (∀ name ∈ t.references, Avoids x name) ∧ ∀ sample ∈ t.shownSample? names, Avoids x sample := by
  have hascii := isPrintedAscii_private hx
  cases t with
  | text sample =>
    have htext : Avoids x names.text := hnames .text
    cases sample with
    | none => exact iff_of_true htext (by simp [FieldType.references, FieldType.shownSample?])
    | some sample =>
      rw [typeExpression, FieldType.shownSample?, Bool.true_and]
      split
      · rw [avoids_trimEnd hx]
        simp (disch := decide) [htext, avoids_commentText_iff hx, avoids_fixed hascii,
          FieldType.references]
      · exact iff_of_true htext (by simp [FieldType.references])
  | number | bool | null | record | sequence | unknown =>
    have hsample {s : Option String} (h : s = none) : ∀ sample ∈ s, Avoids x sample := by simp [h]
    exact (avoids_plainType hascii hnames).trans (and_iff_left (hsample rfl)).symm

theorem avoids_render_iff {d : Declaration FieldType} :
    (Avoids x (render names d).typeText ∧ ∀ text ∈ (render names d).decoderText, Avoids x text) ↔
      (∀ word ∈ d.words, Avoids x word) ∧ ∀ sample ∈ d.shownSamples names, Avoids x sample := by
  have hascii := isPrintedAscii_private hx
  have hfeed : x ≠ '\n' := ne_of_private hx (by decide)
  cases d with
  | record r =>
    have hsamples : (∀ sample ∈ (Declaration.record r).shownSamples names, Avoids x sample) ↔
        ∀ f ∈ r.fields, ∀ sample ∈ f.2.shownSample? names, Avoids x sample := by
      simp only [Declaration.shownSamples, Declaration.payloads, List.filterMap_map,
        List.mem_filterMap]
      constructor
      · intro h f hf sample hsample
        exact h sample ⟨f, hf, hsample⟩
      · rintro h sample ⟨f, hf, hsample⟩
        exact h f hf sample hsample
    rw [Declaration.forall_mem_words_record, hsamples]
    constructor
    · rintro ⟨htype, -⟩
      obtain ⟨hname, hfields⟩ := (avoids_recordType hascii hfeed).1 htype
      have htypes (f) (hf : f ∈ r.fields) := (avoids_typeExpression_iff hx hnames).1 (hfields f hf).2
      exact ⟨⟨hname, fun f hf => ⟨(hfields f hf).1, (htypes f hf).1⟩⟩, fun f hf => (htypes f hf).2⟩
    · rintro ⟨⟨hname, hfields⟩, hsamples⟩
      refine ⟨(avoids_recordType hascii hfeed).2 ⟨hname, fun f hf => ⟨(hfields f hf).1, ?_⟩⟩, ?_⟩
      · exact (avoids_typeExpression_iff hx hnames).2 ⟨(hfields f hf).2, hsamples f hf⟩
      · intro text htext
        obtain rfl : recordDecoder r = text := Option.some.inj htext
        refine (avoids_recordDecoder hascii hfeed).2 ⟨hname, fun field hfield => ?_⟩
        obtain ⟨f, hf, rfl⟩ := List.mem_map.1 hfield
        exact avoids_literal_of_avoids hx (hfields f hf).1
  | «alias» a =>
    have hsamples : (∀ sample ∈ (Declaration.alias a).shownSamples names, Avoids x sample) ↔
        ∀ sample ∈ a.element.shownSample? names, Avoids x sample := by
      simp [Declaration.shownSamples, Declaration.payloads]
    rw [hsamples, Declaration.words, List.forall_mem_cons, and_assoc,
      ← avoids_typeExpression_iff hx hnames]
    have hdecoder : ∀ text ∈ (render names (.alias a)).decoderText, Avoids x text := by simp [render]
    exact (and_iff_left hdecoder).trans (avoids_aliasType hascii hfeed)

end Private

end Haskell

/-! ## Bytes -/

namespace Text.Halves

variable {h : Halves}

theorem hasBytes_iff_avoids {s : String} : h.HasBytes s ↔ ∀ x, h.code? x ≠ none → Avoids x s := by
  constructor
  · intro hs x hx hmem
    exact hx (hs x hmem)
  · intro hs c hc
    by_contra hne
    exact hs c hne hc

theorem le_toNat_of_code? {x : Char} (hx : h.code? x ≠ none) : 0xF0000 ≤ x.toNat := by
  rw [code?, ne_eq, ite_eq_right_iff, not_forall] at hx
  exact Nat.le_trans h.isPrivate.1 hx.1.1

/-- **The source of a module has bytes exactly if its words and samples have**: its name, the words
of its declarations, and the samples that are shown. -/
theorem hasBytes_text_iff {names : TypeNames}
    (hnames : ∀ slot, h.HasBytes (Settings.nameOf names slot)) {name : String}
    {ds : List (Declaration FieldType)} :
    h.HasBytes (Module.ofDeclarations names name ds).text ↔
      h.HasBytes name ∧ ∀ d ∈ ds, (∀ word ∈ d.words, h.HasBytes word) ∧
        ∀ sample ∈ d.shownSamples names, h.HasBytes sample := by
  have hchar (x : Char) (hx : h.code? x ≠ none) :
      Avoids x (Module.ofDeclarations names name ds).text ↔
        Avoids x name ∧ ∀ d ∈ ds, (∀ word ∈ d.words, Avoids x word) ∧
          ∀ sample ∈ d.shownSamples names, Avoids x sample := by
    have hprivate := le_toNat_of_code? hx
    rw [avoids_text_iff (isPrintedAscii_private hprivate) (ne_of_private hprivate (by decide))]
    simp only [avoids_render_iff hprivate fun slot => hasBytes_iff_avoids.1 (hnames slot) x hx]
  simp only [hasBytes_iff_avoids]
  constructor
  · intro htext
    have hparts (x : Char) (hx : h.code? x ≠ none) := (hchar x hx).1 (htext x hx)
    exact ⟨fun x hx => (hparts x hx).1, fun d hd =>
      ⟨fun word hword x hx => ((hparts x hx).2 d hd).1 word hword,
        fun sample hsample x hx => ((hparts x hx).2 d hd).2 sample hsample⟩⟩
  · rintro ⟨hname, hds⟩ x hx
    exact (hchar x hx).2 ⟨hname x hx, fun d hd =>
      ⟨fun word hword => (hds d hd).1 word hword x hx,
        fun sample hsample => (hds d hd).2 sample hsample x hx⟩⟩

end Text.Halves

end SampleTypes
