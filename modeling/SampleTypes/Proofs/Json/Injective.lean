/-
The text of a value tells the value. What a text starts with tells the kind of value
(`kindOfText_text_append`), and for each kind the text ends where it must: a word or a number before
the first character that can be in neither, a string, an array and an object at their closing
characters. So a value in a longer text is told by it, with what follows (`text_append_inj`).
-/
import SampleTypes.Proofs.Binary64.Text
import SampleTypes.Proofs.Json.StringText
import SampleTypes.Value.Display

namespace SampleTypes.Json

open Text (isDecimal)

/-! ## Words and numbers -/

/-- A character of words and numbers. -/
def isBare (c : Char) : Bool :=
  Binary64.isNumberChar c || c.isAlpha

/-- A text at whose front no word or number goes on. -/
def IsClosed (r : List Char) : Prop :=
  ∀ c ∈ r.head?, isBare c = false

theorem IsClosed.cons {c : Char} (h : isBare c = false) (r : List Char) : IsClosed (c :: r) := by
  rintro _ ⟨⟩
  exact h

variable {w w' r r' : List Char}

theorem takeWhile_isBare_append (hw : ∀ c ∈ w, isBare c = true) (hr : IsClosed r) :
    (w ++ r).takeWhile isBare = w := by
  rw [List.takeWhile_append_of_pos hw]
  cases r with
  | nil => simp
  | cons c r => simp [hr c rfl]

theorem bare_append_inj (hw : ∀ c ∈ w, isBare c = true) (hw' : ∀ c ∈ w', isBare c = true)
    (hr : IsClosed r) (hr' : IsClosed r') (h : w ++ r = w' ++ r') : w = w' ∧ r = r' := by
  have hword : w = w' := by
    rw [← takeWhile_isBare_append hw hr, h, takeWhile_isBare_append hw' hr']
  exact ⟨hword, List.append_cancel_left (hword ▸ h)⟩

/-- A character of a whole number. -/
def isWholeChar (c : Char) : Bool :=
  isDecimal c || c == '-'

theorem isNumberChar_of_isWholeChar {c : Char} (h : isWholeChar c = true) :
    Binary64.isNumberChar c = true := by
  simp only [isWholeChar, Bool.or_eq_true] at h
  simp only [Binary64.isNumberChar, Bool.or_eq_true]
  tauto

/-- The characters of a whole number. -/
def intChars (n : Int) : List Char :=
  (toString n).toList

theorem intChars_eq (n : Int) :
    intChars n = (if 0 ≤ n then [] else ['-']) ++ Nat.toDigits 10 n.natAbs := by
  rw [intChars, Int.toString_eq_repr, Int.repr_eq_if]
  by_cases hn : 0 ≤ n
  · have habs : n.toNat = n.natAbs := by omega
    rw [if_pos hn, if_pos hn, Nat.repr_eq_ofList_toDigits, String.toList_ofList, habs]
    rfl
  · have habs : (-n).toNat = n.natAbs := by omega
    rw [if_neg hn, if_neg hn, Nat.repr_eq_ofList_toDigits, habs]
    simp

theorem intChars_ne_nil (n : Int) : intChars n ≠ [] := by
  rw [intChars_eq]
  exact List.append_ne_nil_of_right_ne_nil _ (Binary64.toDigits_ne_nil _)

theorem isWholeChar_of_mem_intChars {n : Int} {c : Char} (h : c ∈ intChars n) :
    isWholeChar c = true := by
  rw [intChars_eq, List.mem_append] at h
  rcases h with h | h
  · split at h
    · cases h
    · exact List.mem_singleton.1 h ▸ by decide
  · simp [isWholeChar, Text.isDecimal_of_mem_toDigits h]

theorem toDigits_ne_minus_cons (n : Nat) (s : List Char) : Nat.toDigits 10 n ≠ '-' :: s := by
  intro h
  have hmem : '-' ∈ Nat.toDigits 10 n := by simp [h]
  exact absurd (Text.isDecimal_of_mem_toDigits hmem) (by decide)

theorem intChars_injective {m n : Int} (h : intChars m = intChars n) : m = n := by
  rw [intChars_eq, intChars_eq] at h
  have habs : ∀ a b : Nat, Nat.toDigits 10 a = Nat.toDigits 10 b → a = b := fun a b hab => by
    rw [← Text.natOf_toDigits a, hab, Text.natOf_toDigits]
  split at h <;> split at h
  · have := habs _ _ h
    omega
  · exact absurd h (toDigits_ne_minus_cons _ _)
  · exact absurd h.symm (toDigits_ne_minus_cons _ _)
  · have := habs _ _ (List.cons.inj h).2
    omega

/-! ## Kinds -/

/-- The kind of value that a character starts, if no number starts with it. -/
def kindOfChar? : Char → Option String
  | '"' => some "str"
  | '[' => some "list"
  | '\x7b' => some "dict"
  | 'n' => some "NoneType"
  | 't' => some "bool"
  | 'f' => some "bool"
  | _ => none

/-- The kind of value that a text starts with; a text that starts with none has no kind. -/
def kindOfText (s : List Char) : String :=
  match s.head?.bind kindOfChar? with
  | some kind => kind
  | none =>
    if s.takeWhile isBare = [] then ""
    else if (s.takeWhile isBare).all isWholeChar then "int" else "float"

theorem kindOfChar?_of_isNumberChar {c : Char} (h : Binary64.isNumberChar c = true) :
    kindOfChar? c = none := by
  unfold kindOfChar?
  split <;> first | rfl | exact absurd h (by decide)

/-- A word that starts like a number is one. -/
theorem kindOfText_append (hw : ∀ c ∈ w, isBare c = true)
    (hhead : ∃ c ∈ w.head?, kindOfChar? c = none) (hr : IsClosed r) :
    kindOfText (w ++ r) = if w.all isWholeChar then "int" else "float" := by
  obtain ⟨c, hc, hkind⟩ := hhead
  obtain ⟨rest, rfl⟩ : ∃ rest, w = c :: rest := List.head?_eq_some_iff.1 hc
  have hnone : ((c :: rest) ++ r).head?.bind kindOfChar? = none := hkind
  rw [kindOfText, hnone]
  simp only [takeWhile_isBare_append hw hr]
  rfl

theorem kindOfText_intChars (n : Int) (hr : IsClosed r) :
    kindOfText (intChars n ++ r) = "int" := by
  have hchars : ∀ c ∈ intChars n, Binary64.isNumberChar c = true :=
    fun c hc => isNumberChar_of_isWholeChar (isWholeChar_of_mem_intChars hc)
  obtain ⟨c, rest, hcons⟩ := List.exists_cons_of_ne_nil (intChars_ne_nil n)
  have hhead : ∃ c ∈ (intChars n).head?, kindOfChar? c = none :=
    ⟨c, by rw [hcons]; rfl, kindOfChar?_of_isNumberChar (hchars c (by simp [hcons]))⟩
  rw [kindOfText_append (fun c hc => by simp [isBare, hchars c hc]) hhead hr, if_pos]
  exact List.all_eq_true.2 fun c hc => isWholeChar_of_mem_intChars hc

/-- A number is of characters of words and numbers, starts with none that starts another value, and
is no whole number. -/
theorem chars_bare (x : Binary64) : (∀ c ∈ x.chars, isBare c = true) ∧
    (∃ c ∈ x.chars.head?, kindOfChar? c = none) ∧ ∃ c ∈ x.chars, isWholeChar c = false := by
  cases x with
  | nan => exact ⟨List.all_eq_true.1 rfl, ⟨'N', rfl, rfl⟩, ⟨'N', by decide, rfl⟩⟩
  | infinity negative =>
    cases negative with
    | false => exact ⟨List.all_eq_true.1 rfl, ⟨'I', rfl, rfl⟩, ⟨'I', by decide, rfl⟩⟩
    | true => exact ⟨List.all_eq_true.1 rfl, ⟨'-', rfl, rfl⟩, ⟨'I', by decide, rfl⟩⟩
  | finite negative x =>
    have hchars : ∀ c ∈ (Binary64.finite negative x).chars, Binary64.isNumberChar c = true :=
      fun c hc => Binary64.isNumberChar_of_mem_chars_finite hc
    obtain ⟨-, hhead, hmark⟩ := x.isNumberText_text
    refine ⟨fun c hc => by simp [isBare, hchars c hc], ?_, ?_⟩
    · obtain ⟨c, hc, -⟩ := hhead
      have hhead : ∃ c, c ∈ (Binary64.finite negative x).chars.head? := by
        rw [Binary64.chars_finite]
        cases negative with
        | false => exact ⟨c, hc⟩
        | true => exact ⟨'-', rfl⟩
      obtain ⟨c, hc⟩ := hhead
      exact ⟨c, hc, kindOfChar?_of_isNumberChar (hchars c (List.mem_of_mem_head? hc))⟩
    · rw [Binary64.chars_finite]
      rcases hmark with h | h
      · exact ⟨'.', List.mem_append_right _ h, by decide⟩
      · exact ⟨'e', List.mem_append_right _ h, by decide⟩

theorem kindOfText_chars (x : Binary64) (hr : IsClosed r) :
    kindOfText (x.chars ++ r) = "float" := by
  obtain ⟨hbare, hhead, c, hc, hwhole⟩ := chars_bare x
  rw [kindOfText_append hbare hhead hr, if_neg]
  intro hall
  exact absurd (List.all_eq_true.1 hall c hc) (by simp [hwhole])

/-- **The text of a value tells its kind.** -/
theorem kindOfText_text_append (v : Value) (hr : IsClosed r) :
    kindOfText (text v ++ r) = v.kindName := by
  cases v with
  | null | string | array | object => rfl
  | bool b => cases b <;> rfl
  | int n => exact kindOfText_intChars n hr
  | float x => exact kindOfText_chars x hr

/-! ## Values -/

theorem kindName_ne_empty (v : Value) : v.kindName ≠ "" := by
  cases v <;> simp [Value.kindName]

/-- No value starts with a character that ends one. -/
theorem text_append_ne (v : Value) {c : Char} (hc : kindOfText (c :: r') = "") (hr : IsClosed r) :
    text v ++ r ≠ c :: r' := by
  intro h
  apply kindName_ne_empty v
  rw [← kindOfText_text_append v hr, h, hc]

/-- What follows the first of some elements. -/
def elementsTail : List Value → List Char
  | [] => []
  | v :: rest => ',' :: ' ' :: elementsText (v :: rest)

theorem elementsText_cons (v : Value) (rest : List Value) :
    elementsText (v :: rest) = text v ++ elementsTail rest := by
  cases rest with
  | nil => rw [elementsText, elementsTail, List.append_nil]
  | cons w rest => rw [elementsText, elementsTail]

theorem isClosed_elementsTail (es : List Value) (r : List Char) :
    IsClosed (elementsTail es ++ ']' :: r) := by
  cases es with
  | nil => exact .cons (by decide) r
  | cons v rest => exact .cons (by decide) _

/-- What follows the first of some members. -/
def membersTail : List (String × Value) → List Char
  | [] => []
  | m :: rest => ',' :: ' ' :: membersText (m :: rest)

theorem membersText_cons (key : String) (v : Value) (rest : List (String × Value)) :
    membersText ((key, v) :: rest) = stringText key ++ ':' :: ' ' :: (text v ++ membersTail rest) := by
  cases rest with
  | nil => rw [membersText, membersTail, List.append_nil]
  | cons m rest => simp [membersText, membersTail]

theorem isClosed_membersTail (ms : List (String × Value)) (r : List Char) :
    IsClosed (membersTail ms ++ '\x7d' :: r) := by
  cases ms with
  | nil => exact .cons (by decide) r
  | cons m rest => exact .cons (by decide) _

theorem bool_append_inj {a b : Bool} (h : text (.bool a) ++ r = text (.bool b) ++ r') :
    a = b ∧ r = r' := by
  cases a <;> cases b
  · exact ⟨rfl, List.append_cancel_left h⟩
  · exact absurd (congrArg List.head? h) (by simp [text, scalarText])
  · exact absurd (congrArg List.head? h) (by simp [text, scalarText])
  · exact ⟨rfl, List.append_cancel_left h⟩

theorem intChars_append_inj {m n : Int} (hr : IsClosed r) (hr' : IsClosed r')
    (h : intChars m ++ r = intChars n ++ r') : m = n ∧ r = r' := by
  have hbare : ∀ k : Int, ∀ c ∈ intChars k, isBare c = true := fun k c hc => by
    simp [isBare, isNumberChar_of_isWholeChar (isWholeChar_of_mem_intChars hc)]
  obtain ⟨hchars, hrest⟩ := bare_append_inj (hbare m) (hbare n) hr hr' h
  exact ⟨intChars_injective hchars, hrest⟩

theorem chars_append_inj {x y : Binary64} (hr : IsClosed r) (hr' : IsClosed r')
    (h : x.chars ++ r = y.chars ++ r') : x = y ∧ r = r' := by
  obtain ⟨hchars, hrest⟩ := bare_append_inj (chars_bare x).1 (chars_bare y).1 hr hr' h
  exact ⟨Binary64.chars_injective hchars, hrest⟩

mutual

/-- **A value and what follows it are told by their text.** -/
theorem text_append_inj (v w : Value) {r r' : List Char} (hr : IsClosed r) (hr' : IsClosed r')
    (h : text v ++ r = text w ++ r') : v = w ∧ r = r' := by
  have hkind : v.kindName = w.kindName := by
    rw [← kindOfText_text_append v hr, h, kindOfText_text_append w hr']
  -- Of one kind, the two texts end in the same way.
  match v with
  | .null =>
    cases w with
    | null => exact ⟨rfl, List.append_cancel_left h⟩
    | bool | int | float | string | array | object => simp [Value.kindName] at hkind
  | .bool a =>
    cases w with
    | bool b =>
      obtain ⟨rfl, hrest⟩ := bool_append_inj h
      exact ⟨rfl, hrest⟩
    | null | int | float | string | array | object => simp [Value.kindName] at hkind
  | .int m =>
    cases w with
    | int n =>
      obtain ⟨rfl, hrest⟩ := intChars_append_inj hr hr' h
      exact ⟨rfl, hrest⟩
    | null | bool | float | string | array | object => simp [Value.kindName] at hkind
  | .float x =>
    cases w with
    | float y =>
      obtain ⟨rfl, hrest⟩ := chars_append_inj hr hr' h
      exact ⟨rfl, hrest⟩
    | null | bool | int | string | array | object => simp [Value.kindName] at hkind
  | .string s =>
    cases w with
    | string t =>
      obtain ⟨rfl, hrest⟩ := stringText_append_inj h
      exact ⟨rfl, hrest⟩
    | null | bool | int | float | array | object => simp [Value.kindName] at hkind
  | .array es =>
    cases w with
    | array fs =>
      have hinside : elementsText es ++ ']' :: r = elementsText fs ++ ']' :: r' := by
        simpa [text] using h
      obtain ⟨rfl, hrest⟩ := elementsText_append_inj es fs hinside
      exact ⟨rfl, hrest⟩
    | null | bool | int | float | string | object => simp [Value.kindName] at hkind
  | .object ms =>
    cases w with
    | object ns =>
      have hinside : membersText ms ++ '\x7d' :: r = membersText ns ++ '\x7d' :: r' := by
        simpa [text] using h
      obtain ⟨rfl, hrest⟩ := membersText_append_inj ms ns hinside
      exact ⟨rfl, hrest⟩
    | null | bool | int | float | string | array => simp [Value.kindName] at hkind

/-- Elements up to the closing bracket are told by their text. -/
theorem elementsText_append_inj (es fs : List Value) {r r' : List Char}
    (h : elementsText es ++ ']' :: r = elementsText fs ++ ']' :: r') : es = fs ∧ r = r' := by
  match es, fs with
  | [], [] => exact ⟨rfl, (List.cons.inj h).2⟩
  | [], w :: fs =>
    rw [elementsText_cons, List.append_assoc] at h
    exact absurd h.symm (text_append_ne w rfl (isClosed_elementsTail fs r'))
  | v :: es, [] =>
    rw [elementsText_cons, List.append_assoc] at h
    exact absurd h (text_append_ne v rfl (isClosed_elementsTail es r))
  | v :: es, w :: fs =>
    rw [elementsText_cons, elementsText_cons, List.append_assoc, List.append_assoc] at h
    -- A comma or the closing bracket follows, so the text of the first element ends there.
    obtain ⟨rfl, htail⟩ :=
      text_append_inj v w (isClosed_elementsTail es r) (isClosed_elementsTail fs r') h
    match es, fs with
    | [], [] => exact ⟨rfl, (List.cons.inj htail).2⟩
    | [], _ :: _ => exact absurd (List.cons.inj htail).1 (by decide)
    | _ :: _, [] => exact absurd (List.cons.inj htail).1 (by decide)
    | e :: es, f :: fs =>
      have hmore := (List.cons.inj (List.cons.inj htail).2).2
      obtain ⟨hes, hrest⟩ := elementsText_append_inj (e :: es) (f :: fs) hmore
      exact ⟨by rw [hes], hrest⟩

/-- Members up to the closing brace are told by their text. -/
theorem membersText_append_inj (ms ns : List (String × Value)) {r r' : List Char}
    (h : membersText ms ++ '\x7d' :: r = membersText ns ++ '\x7d' :: r') : ms = ns ∧ r = r' := by
  match ms, ns with
  | [], [] => exact ⟨rfl, (List.cons.inj h).2⟩
  | [], (key, w) :: ns =>
    rw [membersText_cons] at h
    exact absurd (List.cons.inj h).1 (by decide)
  | (key, v) :: ms, [] =>
    rw [membersText_cons] at h
    exact absurd (List.cons.inj h).1 (by decide)
  | (key, v) :: ms, (key', w) :: ns =>
    simp only [membersText_cons, List.append_assoc, List.cons_append] at h
    obtain ⟨rfl, hvalue⟩ := stringText_append_inj h
    have hvalue := (List.cons.inj (List.cons.inj hvalue).2).2
    obtain ⟨rfl, htail⟩ :=
      text_append_inj v w (isClosed_membersTail ms r) (isClosed_membersTail ns r') hvalue
    match ms, ns with
    | [], [] => exact ⟨rfl, (List.cons.inj htail).2⟩
    | [], _ :: _ => exact absurd (List.cons.inj htail).1 (by decide)
    | _ :: _, [] => exact absurd (List.cons.inj htail).1 (by decide)
    | m :: ms, n :: ns =>
      have hmore := (List.cons.inj (List.cons.inj htail).2).2
      obtain ⟨hms, hrest⟩ := membersText_append_inj (m :: ms) (n :: ns) hmore
      exact ⟨by rw [hms], hrest⟩

end

/-- **Values of one text are equal.** -/
theorem print_injective {v w : Value} (h : print v = print w) : v = w := by
  have htext : text v ++ [] = text w ++ [] := by
    rw [List.append_nil, List.append_nil]
    exact String.ofList_injective h
  exact (text_append_inj v w (by rintro _ ⟨⟩) (by rintro _ ⟨⟩) htext).1

end SampleTypes.Json
