/-
What readers of formats share. A reader takes the characters still to be read and returns what is
left of them: `Taken.shorter` carries the proof that something was read, so that recursion can go
by the length of the text. The place of a fault is found from what is left at it.
-/
namespace SampleTypes.Text

/-- What was read from the front of `s`, and the rest, which is shorter. -/
structure Taken (α : Type) (s : List Char) where
  value : α
  rest : List Char
  shorter : rest.length < s.length

namespace Taken

variable {α β : Type} {s t : List Char}

/-- The same with another value. -/
def map (f : α → β) (x : Taken α s) : Taken β s :=
  ⟨f x.value, x.rest, x.shorter⟩

/-- A value read up to and with the character in front of `rest`. -/
def closing (c : Char) (a : α) (rest : List Char) : Taken α (c :: rest) :=
  ⟨a, rest, Nat.lt_succ_self _⟩

/-- The same behind one more character. -/
def behind (c : Char) (x : Taken α s) : Taken α (c :: s) :=
  ⟨x.value, x.rest, Nat.lt_succ_of_lt x.shorter⟩

/-- What was read after `x`, as read from where `x` was. -/
def through (x : Taken β s) (y : Taken α x.rest) : Taken α s :=
  ⟨y.value, y.rest, Nat.lt_trans y.shorter x.shorter⟩

/-- The same as read from a text that is no shorter. -/
def widen (h : s.length ≤ t.length) (x : Taken α s) : Taken α t :=
  ⟨x.value, x.rest, Nat.lt_of_lt_of_le x.shorter h⟩

/-- The same with so many more characters passed over. -/
def dropping (count : Nat) (x : Taken α s) : Taken α s :=
  ⟨x.value, x.rest.drop count, Nat.lt_of_le_of_lt (x.rest.length_drop ▸ Nat.sub_le _ _) x.shorter⟩

/-- The character in front of the rest, and the same with that character read too. -/
def next? (x : Taken α s) : Option (Char × Taken α s) :=
  match h : x.rest with
  | [] => none
  | c :: rest =>
    some (c, ⟨x.value, rest, by
      have := x.shorter
      rw [h, List.length_cons] at this
      omega⟩)

end Taken

/-- A place in a text; lines and columns count from one. -/
structure Position where
  line : Nat
  column : Nat
  deriving DecidableEq, Repr

/-- The place after the given characters. -/
def Position.after (before : List Char) : Position where
  line := before.count '\n' + 1
  column := (before.reverse.takeWhile (· != '\n')).length + 1

/-- The place in `text` at which `rest` is left. -/
def Position.before (text rest : List Char) : Position :=
  .after (text.take (text.length - rest.length))

theorem length_dropWhile_le {α : Type} (p : α → Bool) (l : List α) :
    (l.dropWhile p).length ≤ l.length := by
  induction l with
  | nil => simp
  | cons x rest ih =>
    rw [List.dropWhile_cons]
    split
    · simp; omega
    · simp

/-! ## Words and digits -/

/-- What follows a word at the front of the text. -/
def afterWord? (word : List Char) (s : List Char) : Option (List Char) :=
  if s.take word.length = word then some (s.drop word.length) else none

/-- An ASCII digit. -/
def isDecimal (c : Char) : Bool :=
  '0' ≤ c && c ≤ '9'

/-- The number that ASCII digits write. -/
def natOf (digits : List Char) : Nat :=
  digits.foldl (fun n c => n * 10 + (c.toNat - '0'.toNat)) 0

/-- Splits ASCII digits off the front. -/
def takeDecimals (s : List Char) : List Char × List Char :=
  (s.takeWhile isDecimal, s.dropWhile isDecimal)

/-- The value of a hexadecimal digit. -/
def hexValue? (c : Char) : Option Nat :=
  if '0' ≤ c ∧ c ≤ '9' then some (c.toNat - '0'.toNat)
  else if 'a' ≤ c ∧ c ≤ 'f' then some (c.toNat - 'a'.toNat + 10)
  else if 'A' ≤ c ∧ c ≤ 'F' then some (c.toNat - 'A'.toNat + 10)
  else none

end SampleTypes.Text
