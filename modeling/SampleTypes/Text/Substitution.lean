/-
Replacing parts of a text, from left to right and without overlaps. A rule looks at the text from a
place on: it gives the number of characters to replace there and what to write for them, or nothing.
-/
namespace SampleTypes.Text

/-- Passes over `skip` characters, then replaces what the rule says. -/
def substituteFrom (rule : List Char → Option (Nat × List Char)) : Nat → List Char → List Char
  | _, [] => []
  | skip + 1, _ :: rest => substituteFrom rule skip rest
  | 0, c :: rest =>
    match rule (c :: rest) with
    | some (length, written) => written ++ substituteFrom rule (length - 1) rest
    | none => c :: substituteFrom rule 0 rest

/-- Replaces every part that the rule finds. -/
def substitute (rule : List Char → Option (Nat × List Char)) (s : List Char) : List Char :=
  substituteFrom rule 0 s

/-- The rule that writes `written` for every occurrence of `word`. -/
def wordRule (word written : List Char) (s : List Char) : Option (Nat × List Char) :=
  if word.isPrefixOf s then some (word.length, written) else none

/-- Where the rule finds nothing, the text stays as it is. -/
theorem substitute_eq_self {rule : List Char → Option (Nat × List Char)} {s : List Char}
    (h : ∀ t, t ≠ [] → t <:+ s → rule t = none) : substitute rule s = s := by
  unfold substitute
  induction s with
  | nil => rfl
  | cons c rest ih =>
    rw [substituteFrom, h _ (by simp) (List.suffix_refl _)]
    simp only [List.cons.injEq, true_and]
    exact ih (fun t ht hs => h t ht (hs.trans (List.suffix_cons c rest)))

end SampleTypes.Text
