/-
Paths as texts. A path that is read from a text is normal: no segment is empty, the place itself or
has a slash in it. Normal paths stay normal where they are joined, and the text of one is read as the
same path again (`ofText_text`).
-/
import Mathlib.Data.List.Induction
import SampleTypes.Proofs.Files.Growth
import SampleTypes.Proofs.Text.Avoids

namespace SampleTypes.Path

open Text

/-- A segment that a text of a path can have. -/
def IsSegment (s : String) : Prop :=
  keepsSegment s = true ∧ Avoids '/' s

instance (s : String) : Decidable (IsSegment s) :=
  inferInstanceAs (Decidable (_ ∧ _))

/-- A path as it is read from a text. -/
def IsNormal (p : Path) : Prop :=
  ∀ s ∈ p.segments, IsSegment s

theorem IsSegment.head?_ne {s : String} (h : IsSegment s) :
    ∃ c rest, s.toList = c :: rest ∧ c ≠ '/' := by
  obtain ⟨hkeep, hslash⟩ := h
  cases hs : s.toList with
  | nil =>
    obtain rfl : s = "" := String.toList_injective hs
    cases hkeep
  | cons c rest =>
    refine ⟨c, rest, rfl, fun hc => hslash ?_⟩
    rw [hs, hc]
    exact List.mem_cons_self

theorem isNormal_ofText (s : String) : (ofText s).IsNormal := by
  intro segment h
  obtain ⟨hsplit, hkeep⟩ := List.mem_filter.1 h
  exact ⟨hkeep, avoids_of_mem_split hsplit⟩

theorem isNormal_here : here.IsNormal := nofun

theorem append_eq (p q : Path) : p ++ q = join p q := rfl

theorem IsNormal.append {p q : Path} (hp : p.IsNormal) (hq : q.IsNormal) : (p ++ q).IsNormal := by
  rw [append_eq, join]
  split
  · intro s hs
    exact (List.mem_append.1 hs).elim (hp s) (hq s)
  · exact hq

theorem IsNormal.parent {p : Path} (hp : p.IsNormal) : p.parent.IsNormal :=
  fun s hs => hp s (List.dropLast_subset _ hs)

/-! ## Roots -/

theorem rootOf_eq_relative {cs : List Char} : rootOf cs = .relative ↔ cs.head? ≠ some '/' := by
  cases cs with
  | nil => simp [rootOf]
  | cons c rest =>
    unfold rootOf
    split <;> simp_all

/-- A root in front of a text without a slash in front. -/
theorem rootOf_append (root : Root) {cs : List Char} (h : cs.head? ≠ some '/') :
    rootOf (root.text.toList ++ cs) = root := by
  cases root with
  | relative => exact rootOf_eq_relative.2 h
  | slash =>
    show rootOf ('/' :: cs) = .slash
    cases cs <;> simp_all [rootOf]
  | doubleSlash =>
    show rootOf ('/' :: '/' :: cs) = .doubleSlash
    cases cs <;> simp_all [rootOf]

/-! ## Texts -/

/-- The segments of a text behind a root. -/
theorem filter_split_append (root : Root) (s : String) :
    (split '/' (root.text ++ s)).filter keepsSegment = (split '/' s).filter keepsSegment := by
  have hslash (cs : List Char) : splitChars '/' ('/' :: cs) = [] :: splitChars '/' cs := by
    rw [splitChars, if_pos rfl]
  have hempty : keepsSegment (String.ofList []) = false := rfl
  cases root with
  | relative => rw [Root.text, String.empty_append]
  | slash =>
    rw [split, String.toList_append]
    show List.filter _ (List.map _ (splitChars '/' ('/' :: s.toList))) = _
    rw [hslash, List.map_cons, List.filter_cons, hempty]
    rfl
  | doubleSlash =>
    rw [split, String.toList_append]
    show List.filter _ (List.map _ (splitChars '/' ('/' :: '/' :: s.toList))) = _
    rw [hslash, hslash, List.map_cons, List.map_cons, List.filter_cons, hempty]
    rfl

theorem head?_join {segments : List String} (h : ∀ s ∈ segments, IsSegment s) :
    (Text.join "/" segments).toList.head? ≠ some '/' := by
  fun_cases Text.join "/" segments with
  | case1 => simp
  | case2 s =>
    obtain ⟨c, rest, hs, hc⟩ := (h s (List.mem_singleton_self s)).head?_ne
    simpa [hs] using hc
  | case3 s t rest =>
    obtain ⟨c, rest, hs, hc⟩ := (h s List.mem_cons_self).head?_ne
    simpa [hs] using hc

/-- **The text of a path is read as the path again.** -/
theorem ofText_text {p : Path} (h : p.IsNormal) : ofText p.text = p := by
  obtain ⟨root, segments⟩ := p
  have hkeep : segments.filter keepsSegment = segments :=
    List.filter_eq_self.2 fun s hs => (h s hs).1
  rw [text.eq_def]
  split
  · next hroot hsegments =>
    obtain ⟨rfl, rfl⟩ : root = .relative ∧ segments = [] := ⟨hroot, hsegments⟩
    decide
  · show ofText (root.text ++ Text.join "/" segments) = ⟨root, segments⟩
    have hroot : rootOf (root.text ++ Text.join "/" segments).toList = root := by
      rw [String.toList_append, rootOf_append root (head?_join h)]
    have hsegments : (split '/' (Text.join "/" segments)).filter keepsSegment = segments := by
      by_cases hnil : segments = []
      · subst hnil
        rfl
      · rw [split_join rfl hnil fun s hs => (h s hs).2, hkeep]
    rw [ofText, hroot, filter_split_append, hsegments]

/-! ## Joined paths -/

theorem root_append_eq_relative {p q : Path} :
    (p ++ q).root = .relative ↔ p.root = .relative ∧ q.root = .relative := by
  rw [append_eq, join]
  split
  · next hq => simp [hq]
  · next hq => exact ⟨fun h => absurd h hq, fun h => absurd h.2 hq⟩

theorem parts_append (p : Path) {q : Path} (hq : q.root = .relative) :
    (p ++ q).parts = p.parts ++ q.parts := by
  obtain ⟨root, segments⟩ := p
  obtain ⟨_, segments'⟩ := q
  subst hq
  cases root <;> rfl

theorem ofTexts_append_singleton (texts : List String) (s : String) :
    ofTexts (texts ++ [s]) = ofTexts texts ++ ofText s := by
  rw [ofTexts, List.foldl_append]
  rfl

theorem root_ofTexts {texts : List String} :
    (ofTexts texts).root = .relative ↔ ∀ s ∈ texts, s.toList.head? ≠ some '/' := by
  induction texts using List.reverseRecOn with
  | nil => exact ⟨fun _ => nofun, fun _ => rfl⟩
  | append_singleton texts s ih =>
    rw [ofTexts_append_singleton, root_append_eq_relative, ih, List.forall_mem_append,
      List.forall_mem_singleton]
    exact and_congr_right fun _ => rootOf_eq_relative

/-- Texts without roots are joined segment by segment. -/
theorem parts_ofTexts {texts : List String} (h : ∀ s ∈ texts, s.toList.head? ≠ some '/') :
    (ofTexts texts).parts = texts.flatMap fun s => (ofText s).segments := by
  induction texts using List.reverseRecOn with
  | nil => rfl
  | append_singleton texts s ih =>
    rw [List.forall_mem_append, List.forall_mem_singleton] at h
    have hroot : (ofText s).root = .relative := rootOf_eq_relative.2 h.2
    rw [ofTexts_append_singleton, parts_append _ hroot, ih h.1, List.flatMap_append,
      List.flatMap_singleton, parts, hroot]

/-! ## Complete paths -/

open Files in
/-- Where a path leads has a normal path, if the place it is used from has. -/
theorem isNormal_complete {d : Disk} (hd : (Disk.pathOf d.workingDirectory).IsNormal) {p : Path}
    (hp : p.IsNormal) {location : Location} (h : d.complete p = .ok location) :
    (Disk.pathOf location).IsNormal :=
  Disk.forall_mem_complete hd hp h

end SampleTypes.Path
