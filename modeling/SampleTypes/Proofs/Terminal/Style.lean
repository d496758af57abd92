/-
Coloured text on a line of its own. Painting brings no line feed into a text (`avoids_paint`), and texts
that are painted in two looks differ, whatever they say (`eq_of_paint_eq`).
-/
import SampleTypes.Proofs.Text.Avoids
import SampleTypes.Terminal.Style

namespace SampleTypes

open Text

/-- A character that a rule never brings in is not brought in by replacing. -/
theorem Text.not_mem_substitute {x : Char} {rule : List Char → Option (Nat × List Char)}
    (hrule : ∀ s length written, rule s = some (length, written) → x ∉ s → x ∉ written)
    {s : List Char} (hs : x ∉ s) : x ∉ substitute rule s := by
  have hfrom (skip : Nat) : x ∉ substituteFrom rule skip s := by
    induction s generalizing skip with
    | nil => cases skip <;> exact List.not_mem_nil
    | cons c rest ih =>
      have hrest : x ∉ rest := fun h => hs (List.mem_cons_of_mem c h)
      cases skip with
      | succ skip => exact ih hrest skip
      | zero =>
        rw [substituteFrom]
        split
        · next length written hwritten =>
          rw [List.mem_append, not_or]
          exact ⟨hrule _ length written hwritten hs, ih hrest _⟩
        · rw [List.mem_cons, not_or]
          exact ⟨fun h => hs (h ▸ List.mem_cons_self), ih hrest _⟩
  exact hfrom 0

namespace Terminal

/-! ## Plain text -/

/-- Only the escape character starts a control sequence. -/
theorem controlRule_of_ne {c : Char} (hc : c ≠ '\x1b') (rest : List Char) :
    controlRule (c :: rest) = none := by
  unfold controlRule
  split
  · next h => exact absurd (List.cons.inj h).1 hc
  · rfl

/-- A text without the escape character is plain. -/
theorem plain_of_avoids {s : String} (h : Avoids '\x1b' s) : plain s = s := by
  have hrule : ∀ t, t ≠ [] → t <:+ s.toList → controlRule t = none := by
    intro t ht hsuffix
    obtain ⟨c, rest, rfl⟩ := List.exists_cons_of_ne_nil ht
    refine controlRule_of_ne (fun hc => h ?_) rest
    rw [← hc]
    exact hsuffix.mem List.mem_cons_self
  rw [plain, substitute_eq_self hrule, String.ofList_toList]

/-! ## Line feeds -/

theorem feed_not_mem_sequence (look : Look) :
    '\n' ∉ sequence look.on ∧ '\n' ∉ sequence look.off := by
  cases look <;> decide

theorem feed_not_mem_ons (looks : List Look) : '\n' ∉ ons looks := by
  intro h
  obtain ⟨look, -, hlook⟩ := List.mem_flatMap.1 h
  exact (feed_not_mem_sequence look).1 hlook

theorem feed_not_mem_offs (looks : List Look) : '\n' ∉ offs looks := by
  intro h
  obtain ⟨look, -, hlook⟩ := List.mem_flatMap.1 h
  exact (feed_not_mem_sequence look).2 hlook

theorem feed_not_mem_resume (look : Look) {s : List Char} (hs : '\n' ∉ s) : '\n' ∉ resume look s := by
  refine not_mem_substitute (fun s length written hrule _ => ?_) hs
  unfold wordRule at hrule
  split at hrule
  · obtain ⟨-, rfl⟩ := Prod.mk.inj (Option.some.inj hrule)
    rw [List.mem_append, not_or]
    exact ⟨(feed_not_mem_sequence look).2, (feed_not_mem_sequence look).1⟩
  · cases hrule

theorem feed_not_mem_foldl_resume (looks : List Look) {s : List Char} (hs : '\n' ∉ s) :
    '\n' ∉ looks.foldl (fun s look => resume look s) s := by
  induction looks generalizing s with
  | nil => exact hs
  | cons look looks ih => exact ih (feed_not_mem_resume look hs)

theorem feed_not_mem_resetRule {looks : List Look} {s : List Char} {length : Nat} {written : List Char}
    (hrule : resetRule looks s = some (length, written)) (hs : '\n' ∉ s) : '\n' ∉ written := by
  unfold resetRule at hrule
  split at hrule
  · obtain ⟨n, -, hn⟩ := Option.map_eq_some_iff.1 hrule
    obtain ⟨-, rfl⟩ := Prod.mk.inj hn
    rw [List.mem_append, List.mem_append, not_or, not_or]
    exact ⟨⟨feed_not_mem_offs looks, fun h => hs (List.mem_of_mem_take h)⟩, feed_not_mem_ons looks⟩
  · cases hrule

theorem feed_not_mem_breakRule {looks : List Look} {s : List Char} {length : Nat} {written : List Char}
    (hrule : breakRule looks s = some (length, written)) (hs : '\n' ∉ s) : '\n' ∉ written := by
  unfold breakRule at hrule
  split at hrule
  · exact absurd (List.mem_cons_of_mem _ List.mem_cons_self) hs
  · exact absurd List.mem_cons_self hs
  · cases hrule

/-- A painted text stays on its line. -/
theorem avoids_paint (looks : List Look) {s : String} (hs : Avoids '\n' s) :
    Avoids '\n' (paint looks s) := by
  rw [paint, avoids_ofList, paintChars, List.mem_append, List.mem_append, not_or, not_or]
  exact ⟨⟨feed_not_mem_ons looks,
    not_mem_substitute (fun _ _ _ => feed_not_mem_breakRule)
      (not_mem_substitute (fun _ _ _ => feed_not_mem_resetRule)
        (feed_not_mem_foldl_resume looks hs))⟩, feed_not_mem_offs looks⟩

/-! ## Looks -/

theorem takeWhile_paintChars (look : Look) (s : List Char) :
    (paintChars [look] s).takeWhile (· ≠ 'm') = (sequence look.on).dropLast := by
  cases look <;> rfl

/-- The look of a painted text is seen from its first characters. -/
theorem eq_of_paint_eq {look look' : Look} {s t : String} (h : paint [look] s = paint [look'] t) :
    look = look' := by
  have hchars : paintChars [look] s.toList = paintChars [look'] t.toList := String.ofList_injective h
  have hstart := congrArg (List.takeWhile (· ≠ 'm')) hchars
  rw [takeWhile_paintChars, takeWhile_paintChars] at hstart
  revert hstart
  cases look <;> cases look' <;> first | exact fun _ => rfl | exact fun h => absurd h (by decide)

end Terminal

end SampleTypes
