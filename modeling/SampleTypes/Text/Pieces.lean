/-
Cutting characters into pieces at the occurrences of a word, which are found from the left and do
not overlap. `join_pieces` says that nothing is lost: the pieces with the word between neighbours
are the text.
-/
import SampleTypes.Text.Lines

namespace SampleTypes.Text

/-- Some part of `s` is the word. -/
def hasWord (word : List Char) : List Char → Bool
  | [] => word.isEmpty
  | c :: rest => word.isPrefixOf (c :: rest) || hasWord word rest

/-- The pieces of a text, of which `skip` characters are passed over first. -/
def piecesFrom (word : List Char) : Nat → List Char → List (List Char)
  | _, [] => [[]]
  | skip + 1, _ :: rest => piecesFrom word skip rest
  | 0, c :: rest =>
    if word.isPrefixOf (c :: rest) then [] :: piecesFrom word (word.length - 1) rest
    else consLine c (piecesFrom word 0 rest)

/-- The pieces between the occurrences of a word: one more than there are occurrences. -/
def pieces (word s : List Char) : List (List Char) :=
  piecesFrom word 0 s

/-- Pieces with a word between neighbours. -/
def joinPieces (word : List Char) : List (List Char) → List Char
  | [] => []
  | [piece] => piece
  | piece :: next :: rest => piece ++ word ++ joinPieces word (next :: rest)

/-- The pieces when the text is cut at the first `count` occurrences of a word only. -/
def piecesUpTo (count : Nat) (word s : List Char) : List (List Char) :=
  let all := pieces word s
  if all.length ≤ count + 1 then all
  else all.take count ++ [joinPieces word (all.drop count)]

/-- The number of occurrences of a word. -/
def countWord (word s : List Char) : Nat :=
  (pieces word s).length - 1

theorem piecesFrom_ne_nil (word : List Char) (skip : Nat) (s : List Char) :
    piecesFrom word skip s ≠ [] := by
  induction s generalizing skip with
  | nil => simp [piecesFrom]
  | cons c rest ih =>
    cases skip with
    | zero =>
      rw [piecesFrom]
      split
      · simp
      · cases h : piecesFrom word 0 rest with
        | nil => exact absurd h (ih 0)
        | cons => simp [consLine]
    | succ skip => exact ih skip

theorem joinPieces_cons {word piece : List Char} {rest : List (List Char)} (h : rest ≠ []) :
    joinPieces word (piece :: rest) = piece ++ word ++ joinPieces word rest := by
  cases rest with
  | nil => exact absurd rfl h
  | cons => rfl

theorem joinPieces_consLine {word : List Char} {c : Char} {ps : List (List Char)} (h : ps ≠ []) :
    joinPieces word (consLine c ps) = c :: joinPieces word ps := by
  match ps with
  | [] => exact absurd rfl h
  | [piece] => rfl
  | piece :: next :: rest => rfl

/-- The pieces of what is left after the skipped characters join to it. -/
theorem join_piecesFrom (word : List Char) (h : word ≠ []) (skip : Nat) (s : List Char) :
    joinPieces word (piecesFrom word skip s) = s.drop skip := by
  induction s generalizing skip with
  | nil => simp [piecesFrom, joinPieces]
  | cons c rest ih =>
    cases skip with
    | succ skip => simpa [piecesFrom] using ih skip
    | zero =>
      rw [piecesFrom]
      split
      · rename_i hp
        obtain ⟨after, hafter⟩ := List.isPrefixOf_iff_prefix.1 hp
        rw [joinPieces_cons (piecesFrom_ne_nil _ _ _), ih]
        cases word with
        | nil => exact absurd rfl h
        | cons w ws =>
          rw [List.cons_append, List.cons.injEq] at hafter
          obtain ⟨rfl, rfl⟩ := hafter
          simp
      · rw [joinPieces_consLine (piecesFrom_ne_nil _ _ _), ih]
        simp

/-- Cutting loses nothing. -/
theorem join_pieces {word : List Char} (h : word ≠ []) (s : List Char) :
    joinPieces word (pieces word s) = s :=
  join_piecesFrom word h 0 s

end SampleTypes.Text
