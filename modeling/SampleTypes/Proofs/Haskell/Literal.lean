/-
String literals read by Haskell's rules. Each character of a text is written in one of four ways
(itself, behind a backslash, `\n`, or a decimal code closed by `\&`), and the reader takes exactly
these characters off the literal before it reads on (`writes_literalChar`). So a literal is read as
the text that it was made of (`readLiteral?_literal`), whatever stands in it: the `\&` behind a code
keeps a digit that follows from being read as part of it.
-/
import SampleTypes.Haskell.Literal
import SampleTypes.Proofs.Binary64.Text
import SampleTypes.Text.Reading

namespace SampleTypes.Haskell

open Text (Taken isDecimal natOf takeDecimals)

/-! ## Reading -/

/--
What an escape writes, given the text behind its backslash: a quote, a backslash, a line feed,
nothing, or the character of a decimal code, to which all digits belong that stand there.
-/
def escape? : (s : List Char) → Option (Taken (List Char) s)
  | [] => none
  | c :: rest =>
    if c = '"' ∨ c = '\\' then some (.closing c [c] rest)
    else if c = 'n' then some (.closing c ['\n'] rest)
    else if c = '&' then some (.closing c [] rest)
    else if isDecimal c then
      let code := natOf (c :: rest.takeWhile isDecimal)
      if code.isValidChar then
        some ⟨[Char.ofNat code], rest.dropWhile isDecimal,
          Nat.lt_succ_of_le (Text.length_dropWhile_le _ _)⟩
      else none
    else none

/-- What the inside of a literal writes, read up to and with the quote that ends it. -/
def inside? (s : List Char) : Option (Taken (List Char) s) :=
  match s with
  | [] => none
  | '"' :: rest => some (.closing '"' [] rest)
  | '\\' :: rest =>
    match escape? rest with
    | none => none
    | some t =>
      have := t.shorter
      (inside? t.rest).map fun u => (t.through (u.map (t.value ++ ·))).behind '\\'
  | c :: rest => (inside? rest).map fun t => (t.map (c :: ·)).behind c
  termination_by s.length

/-- The text that a literal writes; none if a quote inside it ends it early. -/
def readLiteral? (s : String) : Option String :=
  match s.toList with
  | '"' :: rest =>
    (inside? rest).bind fun t => if t.rest = [] then some (String.ofList t.value) else none
  | _ => none

/-! ## Steps of the reader -/

variable {s rest cs : List Char}

/-- The reader takes the characters `cs` and the closing quote off the text. -/
def Writes (s cs rest : List Char) : Prop :=
  ∃ t, inside? s = some t ∧ t.value = cs ∧ t.rest = rest

theorem Writes.closing (rest : List Char) : Writes ('"' :: rest) [] rest :=
  ⟨.closing '"' [] rest, by rw [inside?], rfl, rfl⟩

theorem Writes.self {c : Char} (h : Writes s cs rest) (hquote : c ≠ '"') (hslash : c ≠ '\\') :
    Writes (c :: s) (c :: cs) rest := by
  obtain ⟨t, ht, rfl, rfl⟩ := h
  refine ⟨(t.map (c :: ·)).behind c, ?_, rfl, rfl⟩
  rw [inside?, ht]
  · rfl
  · exact hquote
  · exact hslash

theorem Writes.escape {t : Taken (List Char) s} (ht : escape? s = some t)
    (h : Writes t.rest cs rest) : Writes ('\\' :: s) (t.value ++ cs) rest := by
  obtain ⟨u, hu, rfl, rfl⟩ := h
  refine ⟨(t.through (u.map (t.value ++ ·))).behind '\\', ?_, rfl, rfl⟩
  rw [inside?, ht]
  simp only [hu]
  rfl

/-- A code is written by digits, and by one at least. -/
theorem exists_toDigits_eq_cons (n : Nat) :
    ∃ d ds, Nat.toDigits 10 n = d :: ds ∧ isDecimal d = true ∧ ∀ c ∈ ds, isDecimal c = true := by
  have hdecimal : ∀ d ∈ Nat.toDigits 10 n, isDecimal d = true :=
    fun _ h => Text.isDecimal_of_mem_toDigits h
  cases hdigits : Nat.toDigits 10 n with
  | nil => exact absurd hdigits (Binary64.toDigits_ne_nil n)
  | cons d ds =>
    rw [hdigits] at hdecimal
    exact ⟨d, ds, rfl, List.forall_mem_cons.1 hdecimal⟩

theorem ne_of_isDecimal {d c : Char} (hd : isDecimal d = true) (hc : isDecimal c = false) :
    d ≠ c := by
  rintro rfl
  exact Bool.false_ne_true (hc.symm.trans hd)

/-- The code of a character is read to its last digit. -/
theorem escape?_code (c : Char) (s : List Char) :
    ∃ t, escape? (Nat.toDigits 10 c.toNat ++ '\\' :: s) = some t ∧ t.value = [c] ∧
      t.rest = '\\' :: s := by
  have hcode : natOf (Nat.toDigits 10 c.toNat) = c.toNat := Text.natOf_toDigits _
  have hvalid : c.toNat.isValidChar := c.valid
  obtain ⟨d, ds, hdigits, hd, hds⟩ := exists_toDigits_eq_cons c.toNat
  rw [hdigits] at hcode
  have hmark : ¬ (d = '"' ∨ d = '\\') :=
    not_or.2 ⟨ne_of_isDecimal hd rfl, ne_of_isDecimal hd rfl⟩
  have htake : (ds ++ '\\' :: s).takeWhile isDecimal = ds := by
    rw [List.takeWhile_append_of_pos hds, List.takeWhile_cons_of_neg (by decide), List.append_nil]
  have hdrop : (ds ++ '\\' :: s).dropWhile isDecimal = '\\' :: s := by
    rw [List.dropWhile_append_of_pos hds, List.dropWhile_cons_of_neg (by decide)]
  rw [hdigits]
  simp only [List.cons_append, escape?, if_neg hmark, if_neg (ne_of_isDecimal hd (c := 'n') rfl),
    if_neg (ne_of_isDecimal hd (c := '&') rfl), if_pos hd, htake, hcode, if_pos hvalid, hdrop,
    Char.ofNat_toNat]
  exact ⟨_, rfl, rfl, rfl⟩

theorem writes_literalChar (h : Writes s cs rest) (c : Char) :
    Writes (literalChar c ++ s) (c :: cs) rest := by
  unfold literalChar
  split
  · next hc => exact Writes.escape (t := .closing c [c] s) (by rw [escape?, if_pos hc]) h
  split
  · next hc =>
    subst hc
    exact Writes.escape (t := .closing 'n' ['\n'] s) rfl h
  split
  · obtain ⟨t, ht, hvalue, hrest⟩ := escape?_code c ('&' :: s)
    have hclosed : Writes t.rest cs rest := by
      rw [hrest]
      exact Writes.escape (t := .closing '&' [] s) rfl h
    have hcode := Writes.escape ht hclosed
    rw [hvalue] at hcode
    simpa using hcode
  · next hc _ _ =>
    rw [not_or] at hc
    exact h.self hc.1 hc.2

theorem writes_flatMap_literalChar (cs rest : List Char) :
    Writes (cs.flatMap literalChar ++ '"' :: rest) cs rest := by
  induction cs with
  | nil => exact Writes.closing rest
  | cons c cs ih =>
    rw [List.flatMap_cons, List.append_assoc]
    exact writes_literalChar ih c

/-! ## Literals -/

/-- **A literal is read as the text that it was made of.** -/
theorem readLiteral?_literal (s : String) : readLiteral? (literal s) = some s := by
  obtain ⟨t, ht, hvalue, hrest⟩ := writes_flatMap_literalChar s.toList []
  rw [readLiteral?, literal, String.toList_ofList]
  simp only [List.cons_append, ht, Option.bind_some, hrest, if_true, hvalue, String.ofList_toList]

theorem literal_injective : Function.Injective literal := by
  intro s t h
  have hread := readLiteral?_literal s
  rw [h, readLiteral?_literal] at hread
  exact (Option.some.inj hread).symm

/-! ## Characters of literals -/

/-- What the fixed parts of generated source are made of. -/
def isPrintedAscii (c : Char) : Bool :=
  0x20 ≤ c.toNat && c.toNat ≤ 0x7E

theorem isPrintedAscii_of_isDecimal {c : Char} (h : isDecimal c = true) :
    isPrintedAscii c = true := by
  rw [isDecimal, Bool.and_eq_true, decide_eq_true_eq, decide_eq_true_eq] at h
  have hzero : '0'.toNat ≤ c.toNat := UInt32.le_iff_toNat_le.1 (Char.le_def.1 h.1)
  have hnine : c.toNat ≤ '9'.toNat := UInt32.le_iff_toNat_le.1 (Char.le_def.1 h.2)
  rw [isPrintedAscii, Bool.and_eq_true, decide_eq_true_eq, decide_eq_true_eq]
  exact ⟨Nat.le_trans (by decide) hzero, Nat.le_trans hnine (by decide)⟩

/-- A character is written as itself, unless it is a control character, and else in printed ASCII. -/
theorem mem_literalChar {c x : Char} (h : x ∈ literalChar c) :
    isPrintedAscii x = true ∨ x = c ∧ 0x20 ≤ x.toNat := by
  have hfixed {cs : List Char} (hcs : cs.all isPrintedAscii = true) (hx : x ∈ cs) :
      isPrintedAscii x = true :=
    List.all_eq_true.1 hcs x hx
  unfold literalChar at h
  split at h
  · next hc => rcases hc with rfl | rfl <;> exact .inl (hfixed (by decide) h)
  split at h
  · exact .inl (hfixed (by decide) h)
  split at h
  · rw [List.cons_append, List.mem_cons, List.mem_append] at h
    rcases h with rfl | h | h
    · exact .inl (by decide)
    · exact .inl (isPrintedAscii_of_isDecimal (Text.isDecimal_of_mem_toDigits h))
    · exact .inl (hfixed (by decide) h)
  · next hc =>
    rw [List.mem_singleton] at h
    exact .inr ⟨h, h ▸ Nat.le_of_not_lt hc⟩

theorem mem_literal {s : String} {x : Char} (h : x ∈ (literal s).toList) :
    isPrintedAscii x = true ∨ x ∈ s.toList ∧ 0x20 ≤ x.toNat := by
  rw [literal, String.toList_ofList, List.cons_append, List.mem_cons, List.mem_append,
    List.mem_flatMap, List.mem_singleton] at h
  rcases h with rfl | ⟨c, hc, h⟩ | rfl
  · exact .inl (by decide)
  · rcases mem_literalChar h with hprinted | ⟨rfl, hcontrol⟩
    · exact .inl hprinted
    · exact .inr ⟨hc, hcontrol⟩
  · exact .inl (by decide)

/-- A literal has no control characters. -/
theorem le_toNat_of_mem_literal {s : String} {x : Char} (h : x ∈ (literal s).toList) :
    0x20 ≤ x.toNat := by
  rcases mem_literal h with hprinted | ⟨-, hcontrol⟩
  · rw [isPrintedAscii, Bool.and_eq_true, decide_eq_true_eq] at hprinted
    exact hprinted.1
  · exact hcontrol

/-- Every quote is escaped: it stands behind a backslash that is not escaped itself. -/
def quotesEscaped : List Char → Bool
  | [] => true
  | '\\' :: _ :: rest => quotesEscaped rest
  | c :: rest => c != '"' && quotesEscaped rest

theorem quotesEscaped_cons {c : Char} (hquote : c ≠ '"') (hslash : c ≠ '\\') (s : List Char) :
    quotesEscaped (c :: s) = quotesEscaped s := by
  rw [quotesEscaped]
  · simp [hquote]
  · rintro _ _ rfl
    exact absurd rfl hslash

theorem quotesEscaped_decimals_append {ds : List Char} (hds : ∀ d ∈ ds, isDecimal d = true)
    (s : List Char) : quotesEscaped (ds ++ s) = quotesEscaped s := by
  induction ds with
  | nil => rfl
  | cons d ds ih =>
    obtain ⟨hd, hds⟩ := List.forall_mem_cons.1 hds
    rw [List.cons_append,
      quotesEscaped_cons (ne_of_isDecimal hd rfl) (ne_of_isDecimal hd rfl), ih hds]

theorem quotesEscaped_literalChar_append (c : Char) (s : List Char) :
    quotesEscaped (literalChar c ++ s) = quotesEscaped s := by
  unfold literalChar
  split
  · rfl
  split
  · rfl
  split
  · obtain ⟨d, ds, hdigits, -, hds⟩ := exists_toDigits_eq_cons c.toNat
    rw [hdigits]
    show quotesEscaped (ds ++ ['\\', '&'] ++ s) = _
    rw [List.append_assoc, quotesEscaped_decimals_append hds]
    rfl
  · next hc _ _ =>
    rw [not_or] at hc
    exact quotesEscaped_cons hc.1 hc.2 s

/-- No quote inside a literal ends it. -/
theorem quotesEscaped_flatMap_literalChar (cs : List Char) :
    quotesEscaped (cs.flatMap literalChar) = true := by
  induction cs with
  | nil => rfl
  | cons c cs ih => rw [List.flatMap_cons, quotesEscaped_literalChar_append, ih]

end SampleTypes.Haskell
