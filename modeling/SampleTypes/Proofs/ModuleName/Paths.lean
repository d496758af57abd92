/-
Module names of absolute paths. A name is put together component by component, so the name of a path
is that of its end below the name of its front (`ofPath_append_and_congr`). Components from which no
segment is made do not count: empty ones, `.`, and those with nothing but underscores.
-/
import SampleTypes.Proofs.ModuleName

namespace SampleTypes

open Text

namespace Text

/-- What is put together first can be put together with the rest. -/
theorem join_append {sep : String} {front : List String} (h : front ≠ []) (rest : List String) :
    join sep (front ++ rest) = join sep (join sep front :: rest) := by
  induction front with
  | nil => exact absurd rfl h
  | cons s front ih =>
    by_cases hfront : front = []
    · subst hfront
      rfl
    · rw [List.cons_append, join_cons, if_neg (by simp [hfront]), ih hfront, join_cons sep s front,
        if_neg hfront, join_cons, join_cons]
      simp only [String.append_assoc]

theorem join_eq_empty_iff {sep : String} {ss : List String} (h : ∀ s ∈ ss, s ≠ "") :
    join sep ss = "" ↔ ss = [] := by
  cases ss with
  | nil => simp [join]
  | cons s rest =>
    rw [List.forall_mem_cons] at h
    simp [join_cons, h.1]

end Text

namespace ModuleName

/-! ## Segments in two goes -/

theorem ofSegments_ofSegments (front rest : List String) :
    ofSegments (ofSegments front :: rest) = ofSegments (front ++ rest) := by
  have hkept : ∀ s ∈ front.filter (· != ""), s ≠ "" := by simp
  have hempty : ofSegments front = "" ↔ front.filter (· != "") = [] := join_eq_empty_iff hkept
  by_cases hfront : front.filter (· != "") = []
  · have hcut : (ofSegments front :: rest).filter (· != "") = rest.filter (· != "") :=
      List.filter_cons_of_neg (by simp [hempty.2 hfront])
    rw [ofSegments, hcut, ofSegments, List.filter_append, hfront, List.nil_append]
  · have hcut : (ofSegments front :: rest).filter (· != "") =
        ofSegments front :: rest.filter (· != "") :=
      List.filter_cons_of_pos (by simpa [hempty] using hfront)
    rw [ofSegments, hcut, ofSegments, ofSegments, List.filter_append, join_append hfront]

/-! ## Components -/

/-- No segment is made of the component. -/
def IsSilent (component : String) : Prop :=
  component = "" ∨ component = "." ∨ ∀ c ∈ component.toList, c = '_'

instance (component : String) : Decidable (IsSilent component) :=
  decidable_of_iff (component = "" ∨ component = "." ∨ component.toList.all (· = '_'))
    (by simp [IsSilent])

/-- The root is the first part of an absolute path, whatever the number of slashes. -/
theorem components_of_absolute {path : String} (h : path.toList.head? = some '/') :
    components path = (split '/' path).filter Path.keepsSegment := by
  have hroot : (Path.ofText path).root ≠ .relative := fun hroot => Path.rootOf_eq_relative.1 hroot h
  rw [components, Path.parts.eq_def]
  split
  · next hrelative => exact absurd hrelative hroot
  · rfl

theorem components_append (a b : String) :
    components ("/" ++ a ++ "/" ++ b) = components ("/" ++ a) ++ components ("/" ++ b) := by
  have hchars : ("/" ++ a ++ "/" ++ b).toList = ("/" ++ a).toList ++ '/' :: b.toList := by simp
  have hfront (s : String) : ("/" ++ s).toList.head? = some '/' := by simp
  have hslash : (split '/' ("/" ++ b)).filter Path.keepsSegment =
      (split '/' b).filter Path.keepsSegment := Path.filter_split_append .slash b
  rw [components_of_absolute (by simp), components_of_absolute (hfront a),
    components_of_absolute (hfront b), hslash, split, hchars, splitChars_append_cons,
    List.map_append, List.filter_append]
  rfl

theorem filter_segments_of_absolute {path : String} (h : path.toList.head? = some '/') :
    ((components path).map pascalCase).filter (· != "") =
      ((split '/' path).filter (¬ IsSilent ·)).map pascalCase := by
  rw [components_of_absolute h, List.filter_map, List.filter_filter]
  congr 1
  refine List.filter_congr fun c _ => ?_
  rw [Bool.eq_iff_iff, decide_eq_true_iff]
  simp only [Function.comp, Path.keepsSegment, Bool.and_eq_true, bne_iff_ne, ne_eq,
    pascalCase_eq_empty_iff, IsSilent, not_or]
  tauto

theorem ofSegments_cons_congr (lead : String) {segments segments' : List String}
    (h : segments.filter (· != "") = segments'.filter (· != "")) :
    ofSegments (lead :: segments) = ofSegments (lead :: segments') := by
  rw [ofSegments, ofSegments, List.filter_cons, List.filter_cons, h]

/-! ## Names of absolute paths -/

/-- **The name of a path is that of its end below that of its front.** The name made from an absolute
path of two parts is what is made from the second one with the name of the first as prefix, whatever the
prefix and the parts. The name depends on the components with a segment to them only: empty components
between slashes or behind the last one, components `.` and those made of underscores do not change it,
and neither does the number of slashes in front. -/
theorem ofPath_append_and_congr (lead : String) :
    (∀ a b, ofPath lead ("/" ++ a ++ "/" ++ b) = ofPath (ofPath lead ("/" ++ a)) ("/" ++ b)) ∧
    ∀ p q : String, p.toList.head? = some '/' → q.toList.head? = some '/' →
      (split '/' p).filter (¬ IsSilent ·) = (split '/' q).filter (¬ IsSilent ·) →
        ofPath lead p = ofPath lead q := by
  have hpath (lead path : String) :
      ofPath lead path = ofSegments (lead :: (components path).map pascalCase) := rfl
  refine ⟨fun a b => ?_, fun p q hp hq hsame => ?_⟩
  · calc ofPath lead ("/" ++ a ++ "/" ++ b)
        = ofSegments ((lead :: (components ("/" ++ a)).map pascalCase) ++
            (components ("/" ++ b)).map pascalCase) := by
          rw [hpath, components_append, List.map_append, List.cons_append]
      _ = ofSegments (ofPath lead ("/" ++ a) :: (components ("/" ++ b)).map pascalCase) := by
          rw [hpath, ofSegments_ofSegments]
      _ = ofPath (ofPath lead ("/" ++ a)) ("/" ++ b) := rfl
  · rw [hpath, hpath]
    refine ofSegments_cons_congr lead ?_
    rw [filter_segments_of_absolute hp, filter_segments_of_absolute hq, hsame]

/-- Two slashes in front, repeated ones, a dot, underscores and a slash at the end; and no prefix. -/
theorem ofPath_append_and_congr_slashes :
    let p := "//docs/.//bank_accounts/__/"
    let q := "/docs/bank_accounts"
    (p.toList.head? = some '/' ∧ q.toList.head? = some '/') ∧
      (split '/' p).filter (¬ IsSilent ·) = (split '/' q).filter (¬ IsSilent ·) ∧
        ofPath "" p = ofPath "" q := by
  intro p q
  have hp : p.toList.head? = some '/' := by decide +kernel
  have hq : q.toList.head? = some '/' := by decide +kernel
  have hsame : (split '/' p).filter (¬ IsSilent ·) = (split '/' q).filter (¬ IsSilent ·) := by
    decide +kernel
  exact ⟨⟨hp, hq⟩, hsame, (ofPath_append_and_congr "").2 p q hp hq hsame⟩

end ModuleName

end SampleTypes
