/-
A printed string is read back. Each character is written in one of four ways (itself, a short
escape, the escape of its code, or a pair of escapes), and the reader takes exactly these characters
off the text before it reads on (`reads_charText`). So a string in a longer text is told by it, and
where it ends is too (`stringText_append_inj`).
-/
import SampleTypes.Json.Parser
import SampleTypes.Json.Printer

namespace SampleTypes

namespace Text

/-! ## Hexadecimal digits -/

/-- One digit more holds the last digit. -/
theorem hexDigits_succ {width : Nat} (h : 0 < width) (n : Nat) :
    hexDigits (width + 1) n = hexDigits width (n / 16) ++ [Nat.digitChar (n % 16)] := by
  by_cases hn : n < 16
  · have hzeros : List.replicate width '0' = List.replicate (width - 1) '0' ++ ['0'] := by
      rw [← List.replicate_succ', Nat.sub_add_cancel h]
    rw [hexDigits, hexDigits, Nat.toDigits_of_lt_base hn, Nat.div_eq_of_lt hn, Nat.mod_eq_of_lt hn,
      List.length_singleton, Nat.add_sub_cancel, hzeros]
    rfl
  · rw [hexDigits, hexDigits, Nat.toDigits_of_base_le (by decide) (Nat.not_lt.1 hn)]
    simp

theorem hexDigits_four {n : Nat} (h : n < 0x10000) :
    hexDigits 4 n = [Nat.digitChar (n / 0x1000), Nat.digitChar (n / 0x100 % 16),
      Nat.digitChar (n / 0x10 % 16), Nat.digitChar (n % 16)] := by
  have hone : hexDigits 1 (n / 16 / 16 / 16) = [Nat.digitChar (n / 16 / 16 / 16)] := by
    rw [hexDigits, Nat.toDigits_of_lt_base (by omega)]
    rfl
  rw [hexDigits_succ (by decide), hexDigits_succ (by decide), hexDigits_succ (by decide), hone]
  simp [Nat.div_div_eq_div_mul]

theorem hexValue?_digitChar {n : Nat} (h : n < 16) : hexValue? (Nat.digitChar n) = some n :=
  (by decide : ∀ n < 16, hexValue? (Nat.digitChar n) = some n) n h

end Text

namespace Json

open Text (Halves hexDigits isHalf isHighHalf isHighHalf_iff isLowHalf isLowHalf_iff toNat_valid)

theorem fourHex?_hexDigits {n : Nat} (h : n < 0x10000) : fourHex? (hexDigits 4 n) = some n := by
  have h0 := Text.hexValue?_digitChar (n := n / 0x1000) (by omega)
  have h1 := Text.hexValue?_digitChar (n := n / 0x100 % 16) (by omega)
  have h2 := Text.hexValue?_digitChar (n := n / 0x10 % 16) (by omega)
  have h3 := Text.hexValue?_digitChar (n := n % 16) (by omega)
  rw [Text.hexDigits_four h, fourHex?, h0, h1, h2, h3]
  simp only [Option.bind_eq_bind, Option.bind_some, Option.pure_def, Option.some.injEq]
  omega

theorem length_hexDigits_four {n : Nat} (h : n < 0x10000) : (hexDigits 4 n).length = 4 := by
  rw [Text.hexDigits_four h]
  rfl

/-! ## Steps of the reader -/

variable {halves : Halves} {start s rest cs : List Char}

/-- The reader of strings takes the characters `cs` and the closing quote off the text. -/
def Reads (halves : Halves) (start s cs rest : List Char) : Prop :=
  ∃ t, stringBody halves start s = .ok t ∧ t.value = cs ∧ t.rest = rest

theorem Reads.closing (halves : Halves) (start rest : List Char) :
    Reads halves start ('"' :: rest) [] rest :=
  ⟨.closing '"' [] rest, by rw [stringBody], rfl, rfl⟩

/-- There is something to read. -/
theorem Reads.ne_nil (h : Reads halves start s cs rest) : s ≠ [] := by
  rintro rfl
  obtain ⟨t, ht, -⟩ := h
  rw [stringBody] at ht
  cases ht

theorem Reads.self {c : Char} (h : Reads halves start s cs rest) (hquote : c ≠ '"') (hslash : c ≠ '\\')
    (hprints : ¬ c.toNat < 0x20) : Reads halves start (c :: s) (c :: cs) rest := by
  obtain ⟨t, ht, rfl, rfl⟩ := h
  refine ⟨(t.map (c :: ·)).behind c, ?_, rfl, rfl⟩
  rw [stringBody, if_neg hprints, ht]
  · rfl
  · exact hquote
  · exact fun h _ => hslash h
  · exact fun _ h _ => hslash h
  · exact fun _ _ h _ => hslash h

theorem Reads.escape {c d : Char} (h : Reads halves start s cs rest) (hc : escapeChar? c = some d) :
    Reads halves start ('\\' :: c :: s) (d :: cs) rest := by
  obtain ⟨t, ht, rfl, rfl⟩ := h
  refine ⟨((t.map (d :: ·)).behind c).behind '\\', ?_, rfl, rfl⟩
  rw [stringBody, hc, ht]
  · rfl
  · rintro rfl
    cases hc

theorem Reads.code {t : Text.Taken Char ('u' :: s)} (ht : codeEscape halves s = .ok t)
    (h : Reads halves start t.rest cs rest) :
    Reads halves start ('\\' :: 'u' :: s) (t.value :: cs) rest := by
  obtain ⟨u, hu, rfl, rfl⟩ := h
  refine ⟨(t.through (u.map (t.value :: ·))).behind '\\', ?_, rfl, rfl⟩
  rw [stringBody, ht]
  simp only [hu]
  rfl

/-! ## Escapes of codes -/

theorem take_hexDigits_append {n : Nat} (hn : n < 0x10000) (s : List Char) :
    (hexDigits 4 n ++ s).take 4 = hexDigits 4 n :=
  List.take_left' (length_hexDigits_four hn)

theorem drop_hexDigits_append {n : Nat} (hn : n < 0x10000) (s : List Char) :
    (hexDigits 4 n ++ s).drop 4 = s :=
  List.drop_left' (length_hexDigits_four hn)

theorem codeEscape_single {n : Nat} (hn : n < 0x10000) (hhigh : isHighHalf n = false)
    (hs : s ≠ []) :
    ∃ t, codeEscape halves (hexDigits 4 n ++ s) = .ok t ∧ t.value = halves.charOfCode n ∧
      t.rest = s := by
  refine ⟨(Text.Taken.closing 'u' (halves.charOfCode n) _).dropping 4, ?_, rfl,
    drop_hexDigits_append hn s⟩
  rw [codeEscape, take_hexDigits_append hn, fourHex?_hexDigits hn]
  simp [drop_hexDigits_append hn, hs, hhigh]

/-- Two escapes that complete a pair are read together. -/
theorem codeEscape_pair {high low code : Nat} (hhigh : isHighHalf high = true)
    (hlow : isLowHalf low = true)
    (hcode : 0x10000 + (high - 0xD800) * 0x400 + (low - 0xDC00) = code) (hs : s ≠ []) :
    ∃ t, codeEscape halves (hexDigits 4 high ++ '\\' :: 'u' :: (hexDigits 4 low ++ s)) = .ok t ∧
      t.value = Char.ofNat code ∧ t.rest = s := by
  have hhigh' : high < 0x10000 := by
    have := isHighHalf_iff.1 hhigh
    omega
  have hlow' : low < 0x10000 := by
    have := isLowHalf_iff.1 hlow
    omega
  have hlen : 6 < ('\\' :: 'u' :: (hexDigits 4 low ++ s)).length := by
    have := List.length_pos_iff.2 hs
    simp only [List.length_cons, List.length_append, length_hexDigits_four hlow']
    omega
  refine ⟨(((Text.Taken.closing 'u' (halves.charOfCode high) _).dropping 4).dropping 6).map
    (fun _ => Char.ofNat code), ?_, rfl, ?_⟩
  · rw [codeEscape, take_hexDigits_append hhigh', fourHex?_hexDigits hhigh']
    simp only [drop_hexDigits_append hhigh', List.isEmpty_cons, Bool.false_eq_true, if_false,
      hhigh, hlen, List.take_succ_cons, List.take_zero, List.drop_succ_cons, List.drop_zero,
      take_hexDigits_append hlow', fourHex?_hexDigits hlow', hlow, hcode, decide_true,
      Bool.and_self, if_true]
  · have hdrop := drop_hexDigits_append hhigh' ('\\' :: 'u' :: (hexDigits 4 low ++ s))
    simp only [Text.Taken.map, Text.Taken.dropping, Text.Taken.closing, hdrop,
      List.drop_succ_cons]
    exact drop_hexDigits_append hlow' s

/-! ## Characters -/

theorem Reads.codeEscapeText {c : Char} (h : Reads halves start s cs rest) (hc : c.toNat < 0x10000) :
    Reads halves start (codeEscapeText c.toNat ++ s) (c :: cs) rest := by
  have hvalid := toNat_valid c
  have hhigh : isHighHalf c.toNat = false := by
    rw [Bool.eq_false_iff, Ne, isHighHalf_iff]
    omega
  have hlow : isLowHalf c.toNat = false := by
    rw [Bool.eq_false_iff, Ne, isLowHalf_iff]
    omega
  obtain ⟨t, ht, hvalue, hrest⟩ := codeEscape_single hc hhigh h.ne_nil
  rw [Halves.charOfCode, isHalf, hhigh, hlow, Bool.or_self, if_neg Bool.false_ne_true,
    Char.ofNat_toNat] at hvalue
  have hread := Reads.code ht (hrest.symm ▸ h)
  rwa [hvalue] at hread

theorem Reads.pairText {c : Char} {high low : Nat} (h : Reads halves start s cs rest)
    (hhigh : isHighHalf high = true) (hlow : isLowHalf low = true)
    (hcode : 0x10000 + (high - 0xD800) * 0x400 + (low - 0xDC00) = c.toNat) :
    Reads halves start (Json.codeEscapeText high ++ Json.codeEscapeText low ++ s) (c :: cs) rest := by
  obtain ⟨t, ht, hvalue, hrest⟩ := codeEscape_pair hhigh hlow hcode h.ne_nil
  rw [Char.ofNat_toNat] at hvalue
  have hread := Reads.code ht (hrest.symm ▸ h)
  rw [hvalue] at hread
  simpa [Json.codeEscapeText] using hread

/-- **The characters of a printed string are read one by one.** -/
theorem reads_charText (c : Char) (h : Reads halves start s cs rest) :
    Reads halves start (charText c ++ s) (c :: cs) rest := by
  rw [charText]
  by_cases hquote : c = '"'
  · rw [if_pos hquote, hquote]
    exact h.escape rfl
  rw [if_neg hquote]
  by_cases hslash : c = '\\'
  · rw [if_pos hslash, hslash]
    exact h.escape rfl
  rw [if_neg hslash]
  by_cases hfeed : c = '\n'
  · rw [if_pos hfeed, hfeed]
    exact h.escape rfl
  rw [if_neg hfeed]
  by_cases hreturn : c = '\r'
  · rw [if_pos hreturn, hreturn]
    exact h.escape rfl
  rw [if_neg hreturn]
  by_cases htab : c = '\t'
  · rw [if_pos htab, htab]
    exact h.escape rfl
  rw [if_neg htab]
  by_cases hpage : c = '\x0c'
  · rw [if_pos hpage, hpage]
    exact h.escape rfl
  rw [if_neg hpage]
  by_cases hback : c = '\x08'
  · rw [if_pos hback, hback]
    exact h.escape rfl
  rw [if_neg hback]
  by_cases hprints : 0x20 ≤ c.toNat ∧ c.toNat ≤ 0x7E
  · rw [if_pos hprints]
    exact h.self hquote hslash (by omega)
  rw [if_neg hprints]
  by_cases hcode : c.toNat < 0x10000
  · rw [if_pos hcode]
    exact h.codeEscapeText hcode
  · rw [if_neg hcode]
    have hvalid := toNat_valid c
    exact h.pairText (isHighHalf_iff.2 (by omega)) (isLowHalf_iff.2 (by omega)) (by omega)

/-! ## Strings -/

theorem reads_flatMap_charText (halves : Halves) (start cs rest : List Char) :
    Reads halves start (cs.flatMap charText ++ '"' :: rest) cs rest := by
  induction cs with
  | nil => exact .closing halves start rest
  | cons c cs ih =>
    rw [List.flatMap_cons, List.append_assoc]
    exact reads_charText c ih

/-- What is read is one string with one rest. -/
theorem Reads.unique {ds rest' : List Char} (h : Reads halves start s cs rest)
    (h' : Reads halves start s ds rest') : cs = ds ∧ rest = rest' := by
  obtain ⟨t, ht, rfl, rfl⟩ := h
  obtain ⟨u, hu, rfl, rfl⟩ := h'
  cases ht.symm.trans hu
  exact ⟨rfl, rfl⟩

/-- **A printed string and what follows it are told by their text.** -/
theorem stringText_append_inj {s t : String} {r r' : List Char}
    (h : stringText s ++ r = stringText t ++ r') : s = t ∧ r = r' := by
  have hbody : s.toList.flatMap charText ++ '"' :: r = t.toList.flatMap charText ++ '"' :: r' := by
    simpa [stringText] using h
  obtain ⟨hchars, hrest⟩ := Reads.unique (reads_flatMap_charText {} [] s.toList r)
    (hbody ▸ reads_flatMap_charText {} [] t.toList r')
  exact ⟨String.toList_inj.1 hchars, hrest⟩

end Json

end SampleTypes
