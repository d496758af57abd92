/-
What the hunks of a change hold. All changes are in them, in order (`flatMap_hunks`), and the lines in
which they are written end with a break up to the last one exactly if nothing in the script runs together
(`allButLast_lines_hunks_iff`).
-/
import SampleTypes.Proofs.Patch.Script

namespace SampleTypes.Patch

open Text

/-- The part of a script that is shown, if it is. -/
def Piece.segments : Piece → List Segment
  | .shown segment => [segment]
  | .hidden _ => []

/-- The part itself, if something changes in it. -/
def Segment.changes : Segment → List Segment
  | .same _ => []
  | .change removed added => [.change removed added]

/-! ## Nothing that changes is hidden -/

/-- A part is put in front of the hunk behind it, or makes a hunk of its own. -/
theorem hunksFrom_shown (oldStart newStart : Nat) (segment : Segment) (rest : List Piece) :
    let later := hunksFrom (oldStart + segment.old.length) (newStart + segment.new.length) rest
    (∃ hunk hunks, later = hunk :: hunks ∧
      hunksFrom oldStart newStart (.shown segment :: rest) =
        ⟨oldStart, newStart, segment :: hunk.segments⟩ :: hunks) ∨
    hunksFrom oldStart newStart (.shown segment :: rest) =
      ⟨oldStart, newStart, [segment]⟩ :: later := by
  intro later
  unfold hunksFrom
  dsimp only
  split
  · next hunk hunks hlater => exact .inl ⟨hunk, hunks, hlater, rfl⟩
  · exact .inr rfl

theorem segments_hunksFrom (oldStart newStart : Nat) (pieces : List Piece) :
    (hunksFrom oldStart newStart pieces).flatMap Hunk.segments = pieces.flatMap Piece.segments := by
  induction pieces generalizing oldStart newStart with
  | nil => rfl
  | cons piece rest ih =>
    cases piece with
    | hidden count => exact ih _ _
    | shown segment =>
      have hlater := ih (oldStart + segment.old.length) (newStart + segment.new.length)
      rcases hunksFrom_shown oldStart newStart segment rest with ⟨hunk, hunks, hcons, heq⟩ | heq
      · rw [hcons, List.flatMap_cons] at hlater
        rw [heq, List.flatMap_cons, List.cons_append, hlater, List.flatMap_cons]
        rfl
      · rw [heq, List.flatMap_cons, hlater, List.flatMap_cons]
        rfl

variable {α : Type} {f : Segment → List α}

theorem flatMap_pieces (hf : ∀ lines, f (.same lines) = []) (isFirst : Bool)
    (segments : List Segment) :
    ((pieces isFirst segments).flatMap Piece.segments).flatMap f = segments.flatMap f := by
  fun_induction pieces isFirst segments <;> simp_all [Piece.segments]

/-- Lines that stay may be hidden; what changes is all in the hunks. -/
theorem flatMap_hunks (hf : ∀ lines, f (.same lines) = []) (segments : List Segment) :
    ((hunks segments).flatMap Hunk.segments).flatMap f = segments.flatMap f := by
  rw [hunks, segments_hunksFrom, flatMap_pieces hf]

theorem exists_mem_hunks {segments : List Segment} {removed added : List String}
    (h : .change removed added ∈ segments) :
    ∃ hunk ∈ hunks segments, .change removed added ∈ hunk.segments := by
  have hmem : Segment.change removed added ∈ segments.flatMap Segment.changes :=
    List.mem_flatMap.2 ⟨_, h, List.mem_singleton_self _⟩
  rw [← flatMap_hunks (f := Segment.changes) fun _ => rfl] at hmem
  obtain ⟨s, hs, hchange⟩ := List.mem_flatMap.1 hmem
  cases s with
  | same lines => cases hchange
  | change removed' added' =>
    rw [List.mem_singleton.1 hchange]
    exact List.mem_flatMap.1 hs

/-! ## Lines of hunks -/

/-- What lines have goes over to what is written of them. -/
theorem Segment.All.lines {p q : String → Prop} {s : Segment} (h : s.All p)
    (hsame : ∀ line, p line → q (" " ++ line)) (hremoved : ∀ line, p line → q ("-" ++ line))
    (hadded : ∀ line, p line → q ("+" ++ line)) : ∀ line ∈ s.lines, q line := by
  cases s with
  | same lines =>
    rw [Segment.lines, List.forall_mem_map]
    exact fun line hline => hsame line (h.1 line hline)
  | change removed added =>
    rw [Segment.lines, List.forall_mem_append, List.forall_mem_map, List.forall_mem_map]
    exact ⟨fun line hline => hremoved line (h.1 line hline),
      fun line hline => hadded line (h.2 line hline)⟩

theorem Segment.All.fewer {p : String → Prop} {lines fewer : List String} (h : (same lines).All p)
    (hsub : fewer ⊆ lines) : (same fewer).All p :=
  ⟨fun line hline => h.1 line (hsub hline), fun line hline => h.2 line (hsub hline)⟩

theorem lastLines_subset (lines : List String) : lastLines lines ⊆ lines :=
  List.drop_subset _ _

theorem all_pieces {p : String → Prop} (isFirst : Bool) {segments : List Segment}
    (h : ∀ s ∈ segments, s.All p) :
    ∀ s ∈ (pieces isFirst segments).flatMap Piece.segments, s.All p := by
  fun_induction pieces isFirst segments with
  | case1 => exact List.forall_mem_nil _
  | case2 isFirst removed added rest ih =>
    rw [List.forall_mem_cons] at h
    exact List.forall_mem_cons.2 ⟨h.1, ih h.2⟩
  | case3 lines => exact List.forall_mem_nil _
  | case4 isFirst lines _ =>
    exact List.forall_mem_singleton.2 ((h _ List.mem_cons_self).fewer (List.take_subset _ _))
  | case5 lines rest _ _ ih =>
    rw [List.forall_mem_cons] at h
    exact List.forall_mem_cons.2 ⟨h.1.fewer (lastLines_subset lines), ih h.2⟩
  | case6 isFirst lines rest _ _ _ _ ih =>
    rw [List.forall_mem_cons] at h
    exact List.forall_mem_cons.2 ⟨h.1.fewer (List.take_subset _ _),
      List.forall_mem_cons.2 ⟨h.1.fewer (lastLines_subset lines), ih h.2⟩⟩
  | case7 isFirst lines rest _ _ _ _ ih =>
    rw [List.forall_mem_cons] at h
    exact List.forall_mem_cons.2 ⟨h.1, ih h.2⟩

/-- What all lines of a change have, those of its hunks have. -/
theorem all_hunks {p : String → Prop} {segments : List Segment} (h : ∀ s ∈ segments, s.All p) :
    ∀ hunk ∈ hunks segments, ∀ s ∈ hunk.segments, s.All p := by
  have hpieces := all_pieces true h
  rw [← segments_hunksFrom 0 0, List.forall_mem_flatMap] at hpieces
  exact hpieces

/-! ## Where lines end -/

/-- Where pieces of a settled script are shown, lines without a break stand at the end only. -/
structure SettledPieces (pieces : List Piece) : Prop where
  ended : AllButLast (fun p => ∀ s ∈ p.segments, s.Ended) pieces
  lines : ∀ p ∈ pieces, ∀ s ∈ p.segments, AllButLast Ends s.lines

theorem ends_lines {s : Segment} (h : s.Ended) : ∀ line ∈ s.lines, Ends line :=
  h.lines (fun _ => (ends_append (c := ' ') rfl (by decide)).2)
    (fun _ => (ends_append (c := '-') rfl (by decide)).2)
    (fun _ => (ends_append (c := '+') rfl (by decide)).2)

theorem SettledPieces.nil : SettledPieces [] :=
  ⟨.nil, List.forall_mem_nil _⟩

theorem SettledPieces.cons {p : Piece} {rest : List Piece} (hp : ∀ s ∈ p.segments, s.Ended)
    (h : SettledPieces rest) : SettledPieces (p :: rest) where
  ended := .append_of_forall (List.forall_mem_singleton.2 hp) h.ended
  lines := List.forall_mem_cons.2 ⟨fun s hs => .of_forall (ends_lines (hp s hs)), h.lines⟩

theorem SettledPieces.single {s : Segment} (h : AllButLast Ends s.lines) :
    SettledPieces [.shown s] where
  ended := .singleton _
  lines := by simpa [Piece.segments] using h

theorem Settled.tail {s : Segment} {rest : List Segment} (h : Settled (s :: rest)) : Settled rest where
  ended := AllButLast.tail h.ended
  lines := fun t ht => h.lines t (List.mem_cons_of_mem s ht)

theorem Settled.head {s : Segment} {rest : List Segment} (h : Settled (s :: rest)) (hrest : rest ≠ []) :
    s.Ended :=
  ((allButLast_cons hrest).1 h.ended).1

theorem settled_pieces (isFirst : Bool) {segments : List Segment} (h : Settled segments) :
    SettledPieces (pieces isFirst segments) := by
  fun_induction pieces isFirst segments with
  | case1 => exact .nil
  | case2 isFirst removed added rest ih =>
    by_cases hrest : rest = []
    · subst hrest
      exact .single (h.lines _ List.mem_cons_self)
    · exact .cons (List.forall_mem_singleton.2 (h.head hrest)) (ih h.tail)
  | case3 lines => exact .nil
  | case4 isFirst lines _ =>
    have hlines : AllButLast Ends (lines.map (" " ++ ·)) := h.lines _ List.mem_cons_self
    refine .single ?_
    rw [Segment.lines, List.map_take]
    exact hlines.take _
  | case5 lines rest hrest hidden ih =>
    have hlast := (h.head hrest).fewer (lastLines_subset lines)
    exact .cons (List.forall_mem_nil _) (.cons (List.forall_mem_singleton.2 hlast) (ih h.tail))
  | case6 isFirst lines rest hrest hidden _ _ ih =>
    have hfirst := (h.head hrest).fewer (List.take_subset contextLength lines)
    have hlast := (h.head hrest).fewer (lastLines_subset lines)
    exact .cons (List.forall_mem_singleton.2 hfirst)
      (.cons (List.forall_mem_nil _) (.cons (List.forall_mem_singleton.2 hlast) (ih h.tail)))
  | case7 isFirst lines rest hrest hidden _ _ ih =>
    exact .cons (List.forall_mem_singleton.2 (h.head hrest)) (ih h.tail)

/-- A hunk opens with a line of its own. -/
theorem ends_opening (hunk : Hunk) : Ends hunk.opening := by
  have hfeed : " @@\n".toList = [' ', '@', '@'] ++ ['\n'] := rfl
  rw [Ends, Hunk.opening, String.toList_append, hfeed, ← List.append_assoc,
    endsLine_append_singleton]
  decide

theorem allButLast_hunksFrom (oldStart newStart : Nat) {pieces : List Piece}
    (h : SettledPieces pieces) :
    AllButLast Ends ((hunksFrom oldStart newStart pieces).flatMap Hunk.lines) := by
  induction pieces generalizing oldStart newStart with
  | nil => exact .nil
  | cons piece rest ih =>
    have hrest : SettledPieces rest :=
      ⟨AllButLast.tail h.ended, fun p hp => h.lines p (List.mem_cons_of_mem piece hp)⟩
    cases piece with
    | hidden count => exact ih _ _ hrest
    | shown segment =>
      have hlater := ih (oldStart + segment.old.length) (newStart + segment.new.length) hrest
      have hopening (hunk : Hunk) : ∀ line ∈ [hunk.opening], Ends line :=
        List.forall_mem_singleton.2 (ends_opening hunk)
      by_cases hnil : rest = []
      · subst hnil
        have hlines := h.lines _ List.mem_cons_self segment (List.mem_singleton_self _)
        have heq : hunksFrom oldStart newStart [.shown segment] = [⟨oldStart, newStart, [segment]⟩] := rfl
        rw [heq, List.flatMap_singleton, Hunk.lines, List.flatMap_singleton]
        exact .append_of_forall (hopening _) hlines
      · have hsegment : segment.Ended :=
          ((allButLast_cons hnil).1 h.ended).1 segment (List.mem_singleton_self _)
        rcases hunksFrom_shown oldStart newStart segment rest with ⟨hunk, hunks, hcons, heq⟩ | heq
        · -- the opening of the hunk behind gives way to one in front of the part
          rw [hcons, List.flatMap_cons, Hunk.lines, List.cons_append] at hlater
          rw [heq, List.flatMap_cons, Hunk.lines, List.flatMap_cons, List.cons_append,
            List.append_assoc]
          exact .append_of_forall (hopening _) (.append_of_forall (ends_lines hsegment)
            (AllButLast.tail hlater))
        · rw [heq, List.flatMap_cons, Hunk.lines, List.flatMap_singleton, List.cons_append]
          exact .append_of_forall (hopening _) (.append_of_forall (ends_lines hsegment) hlater)

/-- The lines of the hunks end with a break up to the last one, exactly if nothing runs together. -/
theorem allButLast_lines_hunks_iff {old new : List String} (hold : AllButLast Ends old)
    (hnew : AllButLast Ends new) :
    AllButLast Ends ((hunks (script old new)).flatMap Hunk.lines) ↔
      ∀ s ∈ script old new, ¬ s.RunsTogether := by
  refine ⟨fun h s hs htogether => ?_, fun h => ?_⟩
  · cases s with
    | same lines => exact htogether
    | change removed added =>
      obtain ⟨hunk, hhunk, hmem⟩ := exists_mem_hunks hs
      have hlines : AllButLast Ends (hunk.opening :: hunk.segments.flatMap Segment.lines) :=
        h.of_mem_flatMap hhunk
      have hsegment := (AllButLast.tail hlines).of_mem_flatMap hmem
      exact (allButLast_lines_iff hold hnew hs).1 hsegment htogether
  · exact allButLast_hunksFrom 0 0 (settled_pieces true (settled_script hold hnew h))

end SampleTypes.Patch
