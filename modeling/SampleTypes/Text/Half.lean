/-
Halves of surrogate pairs. A text is made of characters, and half of a pair is none, but formats can
write one by its code. A character of a block that is set aside for them stands for it in texts: it
tells the half from all others, and the text has no bytes (`HasBytes`, `encode_eq_ok_iff`).
-/
import SampleTypes.Text.Reading
import SampleTypes.Text.Utf8

namespace SampleTypes.Text

/-! ## Codes -/

/-- The first half of a pair that writes a code point above the 16-bit range. -/
def isHighHalf (n : Nat) : Bool :=
  0xD800 ≤ n && n ≤ 0xDBFF

/-- The second half of such a pair. -/
def isLowHalf (n : Nat) : Bool :=
  0xDC00 ≤ n && n ≤ 0xDFFF

/-- Half of a pair. -/
def isHalf (n : Nat) : Bool :=
  isHighHalf n || isLowHalf n

theorem isHighHalf_iff {n : Nat} : isHighHalf n = true ↔ 0xD800 ≤ n ∧ n ≤ 0xDBFF := by
  rw [isHighHalf, Bool.and_eq_true, decide_eq_true_eq, decide_eq_true_eq]

theorem isLowHalf_iff {n : Nat} : isLowHalf n = true ↔ 0xDC00 ≤ n ∧ n ≤ 0xDFFF := by
  rw [isLowHalf, Bool.and_eq_true, decide_eq_true_eq, decide_eq_true_eq]

theorem isHalf_iff {n : Nat} : isHalf n = true ↔ 0xD800 ≤ n ∧ n ≤ 0xDFFF := by
  rw [isHalf, Bool.or_eq_true, isHighHalf_iff, isLowHalf_iff]
  omega

/-- No character is half of a pair. -/
theorem toNat_valid (c : Char) : c.toNat < 0xD800 ∨ 0xDFFF < c.toNat ∧ c.toNat < 0x110000 :=
  c.valid

theorem toNat_ofNat_of_valid {n : Nat} (h : n.isValidChar) : (Char.ofNat n).toNat = n := by
  rw [Char.ofNat, dif_pos h]
  rfl

/-! ## Characters that stand for halves -/

/-- A block of characters for private use that stand for the halves, in order. -/
structure Halves where
  /-- The code of the first character. -/
  first : Nat := 0xF4800
  isPrivate : 0xF0000 ≤ first ∧ first + 0x800 ≤ 0x110000 := by decide
  deriving DecidableEq, Repr

namespace Halves

/-- The block in use unless a text holds a character of it. -/
def standard : Halves := {}

/-- The character for the half with a code. -/
def char (h : Halves) (n : Nat) : Char :=
  Char.ofNat (h.first + (n - 0xD800))

/-- The code of the half that a character stands for. -/
def code? (h : Halves) (c : Char) : Option Nat :=
  if h.first ≤ c.toNat ∧ c.toNat < h.first + 0x800 then some (0xD800 + (c.toNat - h.first)) else none

/-- The character of a code, which can be that of a half. -/
def charOfCode (h : Halves) (n : Nat) : Char :=
  if isHalf n then h.char n else Char.ofNat n

theorem toNat_char (h : Halves) {n : Nat} (hn : isHalf n = true) :
    (h.char n).toNat = h.first + (n - 0xD800) := by
  have hprivate := h.isPrivate
  have hhalf := isHalf_iff.1 hn
  have hvalid : Nat.isValidChar (h.first + (n - 0xD800)) := by
    unfold Nat.isValidChar
    omega
  exact toNat_ofNat_of_valid hvalid

/-- Halves are told from each other. -/
theorem code?_char (h : Halves) {n : Nat} (hn : isHalf n = true) : h.code? (h.char n) = some n := by
  have hhalf := isHalf_iff.1 hn
  rw [code?, h.toNat_char hn, if_pos (by omega)]
  congr 1
  omega

/-! ## Bytes -/

/-- No character of the text stands for a half. -/
def HasBytes (h : Halves) (s : String) : Prop :=
  ∀ c ∈ s.toList, h.code? c = none

instance (h : Halves) (s : String) : Decidable (h.HasBytes s) :=
  List.decidableBAll (h.code? · = none) s.toList

@[simp] theorem hasBytes_append {h : Halves} {s t : String} :
    h.HasBytes (s ++ t) ↔ h.HasBytes s ∧ h.HasBytes t := by
  simp only [HasBytes, String.toList_append, List.forall_mem_append]

theorem hasBytes_of_lt {h : Halves} {s : String} (hs : ∀ c ∈ s.toList, c.toNat < 0xF0000) :
    h.HasBytes s := by
  intro c hc
  have hprivate := h.isPrivate
  have hlt := hs c hc
  rw [code?, if_neg (by omega)]

end Halves

/-- The first halves in a text, next to each other, and the number of characters before them. -/
structure EncodeError where
  position : Nat
  codes : List Nat
  deriving DecidableEq, Repr

/-- Names the half, or the range of halves. -/
def EncodeError.message (e : EncodeError) : String :=
  "'utf-8' codec can't encode " ++
    (match e.codes with
    | [n] =>
      "character '\\u" ++ String.ofList (hexDigits 4 n) ++ "' in position " ++ toString e.position
    | codes =>
      "characters in position " ++ toString e.position ++ "-" ++
        toString (e.position + codes.length - 1)) ++
    ": surrogates not allowed"

namespace Halves

/-- The bytes of a text, or the halves that have none. -/
def encode (h : Halves) (s : String) : Except EncodeError (List UInt8) :=
  let isPlain (c : Char) : Bool := (h.code? c).isNone
  if h.HasBytes s then .ok (Utf8.encode s)
  else
    .error {
      position := (s.toList.takeWhile isPlain).length
      codes := ((s.toList.dropWhile isPlain).takeWhile (fun c => !isPlain c)).filterMap h.code? }

theorem encode_eq_ok_iff {h : Halves} {s : String} {bytes : List UInt8} :
    h.encode s = .ok bytes ↔ h.HasBytes s ∧ bytes = Utf8.encode s := by
  rw [encode]
  split
  · next hbytes => simp [hbytes, eq_comm]
  · next hbytes => simp [hbytes]

theorem not_hasBytes_iff {h : Halves} {s : String} :
    ¬ h.HasBytes s ↔ ∃ e, h.encode s = .error e := by
  cases hencode : h.encode s with
  | ok bytes => simp [(encode_eq_ok_iff.1 hencode).1]
  | error e =>
    refine iff_of_true (fun hbytes => ?_) ⟨e, rfl⟩
    rw [encode_eq_ok_iff.2 ⟨hbytes, rfl⟩] at hencode
    cases hencode

/-! ## Choosing a block -/

/-- One of the blocks next to each other. -/
def block (i : Fin 64) : Halves where
  first := 0xF0000 + 0x800 * i
  isPrivate := by omega

/-- The first block without some characters, if any block is. -/
def avoiding (cs : List Char) : Halves :=
  (((List.finRange 64).map block).find? (fun h => cs.all (fun c => (h.code? c).isNone))).getD standard

theorem hasBytes_avoiding {cs : List Char} (h : ∃ i, (block i).HasBytes (String.ofList cs)) :
    (avoiding cs).HasBytes (String.ofList cs) := by
  have hall (h : Halves) :
      cs.all (fun c => (h.code? c).isNone) = true ↔ h.HasBytes (String.ofList cs) := by
    simp [HasBytes]
  rw [avoiding]
  cases hfind : ((List.finRange 64).map block).find?
      (fun h => cs.all (fun c => (h.code? c).isNone)) with
  | some found =>
    have hfound := List.find?_some hfind
    exact (hall found).1 hfound
  | none =>
    obtain ⟨i, hi⟩ := h
    have hmem : block i ∈ (List.finRange 64).map block := by simp
    exact absurd ((hall _).2 hi) (List.find?_eq_none.1 hfind _ hmem)

/-- The number that hexadecimal digits write. -/
def hexNumber? (digits : List Char) : Option Nat :=
  digits.foldlM (fun n c => (hexValue? c).map (n * 16 + ·)) 0

/-- The character that an escape at the front of a text writes above the 16-bit range. -/
def escaped? : List Char → Option Char
  | '\\' :: 'u' :: a :: b :: c :: d :: '\\' :: 'u' :: rest => do
    let high ← hexNumber? [a, b, c, d]
    let low ← hexNumber? (rest.take 4)
    return Char.ofNat (0x10000 + (high - 0xD800) * 0x400 + (low - 0xDC00))
  | '\\' :: 'U' :: rest => (hexNumber? (rest.take 8)).map Char.ofNat
  | _ => none

/-- The characters that a text holds, and those that it can write as escapes. -/
def charsIn : List Char → List Char
  | [] => []
  | c :: rest => c :: (escaped? (c :: rest)).toList ++ charsIn rest

end Halves

end SampleTypes.Text
